import ConformanceGate.Proofs.Machine.Files
import ConformanceGate.Proofs.Spec.Text
import ConformanceGate.Storage.Settings
import Mathlib

/-!
# Specs survive the disk

A spec that was saved is loaded back, and saving what was loaded writes the same bytes
(`Spec.Survives`). That holds of every spec that can be loaded at all, if the numbers in its options
are whole, and of the usual specs.
-/

namespace ConformanceGate

variable {σ Place : Type} {host : Program.Host σ} {valid : σ → Prop}
  {files : σ → FileSystem Place}

namespace Spec

/-- Loading takes the spec from the text of the file. -/
theorem run_load_of_read {s : σ} (mode : Mode) {path text : String}
    (read : (host s (.readFile path)).1 = Except.ok text) :
    (load mode path).toProgram.run host s =
      (some ((ofText mode path text).mapError .config), (host s (.readFile path)).2) := by
  have asked := Program.run_request host (.readFile path) s
  rw [read] at asked
  exact (Action.run_bind_ok (Action.run_attempt asked)).trans (Action.run_ofExcept _ _)

/-- A spec is loaded from the text that its path leads to, and no file changes. -/
theorem run_load_of_text (keeps : KeepsFiles host valid files) {s : σ} (hs : valid s) (mode : Mode)
    {path text : String} (found : (files s).text? path = some text) :
    ∃ s', valid s' ∧ files s' = files s ∧ (load mode path).toProgram.run host s =
      (some ((ofText mode path text).mapError .config), s') :=
  ⟨_, keeps.valid_read hs, keeps.files_read hs, run_load_of_read mode ((keeps.read hs).mpr found)⟩

/-- Writing the text of a spec, if it succeeds, leaves the text in the file. -/
theorem run_write_eq_ok (keeps : KeepsFiles host valid files) {spec : Spec} {s s' : σ}
    {path context : String} (hs : valid s)
    (written : (Action.attempt context (.writeFile path spec.text)).toProgram.run host s =
      (some (.ok ()), s')) :
    valid s' ∧ ∃ place before, FileSystem.Wrote path spec.text place before (files s') := by
  have asked := Program.run_request host (.writeFile path spec.text) s
  obtain ⟨accepted, rfl⟩ := Prod.mk.inj ((Action.run_attempt asked).symm.trans written)
  obtain ⟨place, wrote⟩ := keeps.write hs (Except.mapError_eq_ok.mp (Option.some.inj accepted))
  exact ⟨keeps.valid_write hs, place, files s, wrote⟩

/-- Saving a spec may make directories first, and then leaves its text in the file. -/
theorem run_save_eq_ok (keeps : KeepsFiles host valid files)
    (makes : ∀ s path, valid s → valid (host s (.createDirs path)).2) {spec : Spec} {s s' : σ}
    {path : String} (hs : valid s)
    (saved : (spec.save path).toProgram.run host s = (some (.ok ()), s')) :
    valid s' ∧ ∃ place before, FileSystem.Wrote path spec.text place before (files s') := by
  unfold save at saved
  split at saved
  · rename_i parent _
    obtain ⟨_, s₁, made, written⟩ := Action.run_bind_eq_ok saved
    have asked := Program.run_request host (.createDirs parent) s
    obtain ⟨-, rfl⟩ := Prod.mk.inj ((Action.run_attempt asked).symm.trans made)
    exact run_write_eq_ok keeps (makes s parent hs) written
  · exact run_write_eq_ok keeps hs saved

/-- Whenever the spec was saved, the file is loaded as the same spec, and saving that one leaves the
same bytes in its file. -/
def Survives (host : Program.Host σ) (valid : σ → Prop) (files : σ → FileSystem Place)
    (spec : Spec) : Prop :=
  ∀ s path s₁, valid s → (spec.save path).toProgram.run host s = (some (.ok ()), s₁) →
    ∃ loaded s₂, (load spec.mode path).toProgram.run host s₁ = (some (.ok loaded), s₂) ∧
      loaded = spec ∧ files s₂ = files s₁ ∧
      ∀ path' s₃, (loaded.save path').toProgram.run host s₂ = (some (.ok ()), s₃) →
        ∃ place place', (files s₁).place? path = some place ∧
          (files s₃).place? path' = some place' ∧
          (files s₃).bytes place' = (files s₁).bytes place

/-- A spec whose text is accepted wherever it lies survives being saved and loaded. -/
theorem survives_of_ofText (keeps : KeepsFiles host valid files)
    (makes : ∀ s path, valid s → valid (host s (.createDirs path)).2) {spec : Spec}
    (read : ∀ path, ofText spec.mode path spec.text = .ok spec) :
    spec.Survives host valid files := by
  intro s path s₁ hs saved
  obtain ⟨hs₁, place, before, wrote⟩ := run_save_eq_ok keeps makes hs saved
  obtain ⟨s₂, hs₂, same, loaded⟩ := run_load_of_text keeps hs₁ spec.mode wrote.text?_eq
  rw [read path] at loaded
  refine ⟨spec, s₂, loaded, rfl, same, fun path' s₃ again => ?_⟩
  obtain ⟨-, place', before', wrote'⟩ := run_save_eq_ok keeps makes hs₂ again
  exact ⟨place, place', wrote.leads, wrote'.leads, wrote'.content.trans wrote.content.symm⟩

/-- Every spec that is read from a text can be used: it has a report directory and names an address.
It survives the disk if the numbers in its options are whole. The usual specs survive the disk too,
whatever the server under test is called and whichever port is taken. What a file is loaded as is
what its text is read as. -/
theorem survives_disk (keeps : KeepsFiles host valid files)
    (makes : ∀ s path, valid s → valid (host s (.createDirs path)).2) :
    (∀ mode source text spec, ofText mode source text = .ok spec →
      Text.blank spec.outdir = false ∧ (∃ address, spec.listenAddress = .ok address) ∧
      spec.mode = mode ∧ (spec.Whole → spec.Survives host valid files)) ∧
    (∀ agent port outdir, Text.blank outdir = false →
      (usualClient agent port outdir).Survives host valid files ∧
      (usualServer port outdir).Survives host valid files) ∧
    ∀ s mode path text, valid s → (files s).text? path = some text →
      ((load mode path).toProgram.run host s).1 =
        some ((ofText mode path text).mapError .config) := by
  refine ⟨fun mode source text spec read => ?_, fun agent port outdir named => ⟨?_, ?_⟩,
    fun s mode path text hs found => ?_⟩
  · obtain ⟨same, -, -, valid⟩ := fits_of_ofText read
    have usable := validate_eq_ok_iff.mp valid
    refine ⟨usable.1, listenAddress_of_validate valid, same, fun whole => ?_⟩
    exact survives_of_ofText keeps makes fun path => ofText_text_of_ofText read whole path
  · exact survives_of_ofText keeps makes (ofText_usualClient agent port named)
  · exact survives_of_ofText keeps makes (ofText_usualServer port named)
  · obtain ⟨s', -, -, loaded⟩ := run_load_of_text keeps hs mode found
    rw [loaded]

def blank : Machine := { Machine.fresh [] [] 0 with files := ⟨[]⟩ }

theorem blank_quiet : blank.Quiet := by
  have entry (place : List String) : blank.files.at? place =
      if place = [] then some .directory else none := by
    by_cases root : place = [] <;> simp [Machine.Files.at?, root, blank]
  refine ⟨rfl, ⟨fun place full => ?_, fun place target => ?_, fun target => ?_⟩⟩
  all_goals
    simp only [entry]
    split_ifs <;> simp

def optionsText : String := "\x7b\"outdir\":\"reports\",\"extra\":[1],\"exclude-agent-cases\":" ++
  "\x7b\"b\":[],\"a\":[\"2.*\"]\x7d,\"options\":null,\"servers\":[[\"Agent\"," ++
  "\"ws://127.0.0.1:9001\",\x7b\"version\":18,\"auth\":null\x7d]]\x7d"

def optionsSpec : Spec := .client {
  outdir := "reports"
  servers := [⟨"Agent", "ws://127.0.0.1:9001",
    some (.object [("auth", .null), ("version", .int 18)])⟩]
  selection := ⟨["*"], [], [("a", ["2.*"]), ("b", [])]⟩
  options := none }

theorem ofText_options (path : String) : ofText .client path optionsText = .ok optionsSpec := by
  have address : Spec.socketAddress "ws://127.0.0.1:9001" = .ok "127.0.0.1:9001" := by cbv
  have scanned : Json.scan optionsText = (.object [(.ok "outdir", .string "reports"),
      (.ok "extra", .array [.number (.integer 1)] none),
      (.ok "exclude-agent-cases", .object [(.ok "b", .array [] none),
        (.ok "a", .array [.string "2.*"] none)] none),
      (.ok "options", .null),
      (.ok "servers", .array [.array [.string "Agent", .string "ws://127.0.0.1:9001",
        .object [(.ok "version", .number (.integer 18)), (.ok "auth", .null)] none] none] none)]
      none, .ok []) := by cbv
  have valid : optionsSpec.validate = .ok () := by
    refine validate_eq_ok_iff.mpr ⟨by decide, by simp [optionsSpec, urls], fun url hurl => ?_⟩
    obtain rfl : url = "ws://127.0.0.1:9001" := by simpa [optionsSpec, urls] using hurl
    exact ⟨_, address⟩
  refine ofText_eq_ok_iff.mpr ⟨?_, valid⟩
  simp only [Decoder.ofText, scanned]
  rfl

theorem optionsSpec_whole : optionsSpec.Whole := by
  have number : (Number.integer 18).Whole := .integer (by decide) (by decide)
  simp [Whole, options, optionsSpec, Json.Whole, Json.WholeMembers, Json.int, number]

/-- On the machine without files the spec can be saved in a new directory. -/
theorem run_save_options :
    ((optionsSpec.save "specs/client.json").toProgram.run Machine.host blank).1 =
      some (.ok ()) := by
  obtain ⟨time, first⟩ := Machine.host_of_quiet blank_quiet (.createDirs "specs")
  have made : Machine.host blank (.createDirs "specs") =
      (.ok (), { blank with clock := time, files := ⟨[(["specs"], .directory)]⟩ }) := by
    rw [first]
    rfl
  have quiet := blank_quiet.createDirs "specs"
  obtain ⟨time', second⟩ :=
    Machine.host_of_quiet quiet (.writeFile "specs/client.json" optionsSpec.text)
  have wrote : (Machine.host (Machine.host blank (.createDirs "specs")).2
      (.writeFile "specs/client.json" optionsSpec.text)).1 = Except.ok () := by
    rw [second, made]
    rfl
  have accepted : (Machine.host blank (.createDirs "specs")).1 = Except.ok () := by rw [made]
  have created := Program.run_request Machine.host (.createDirs "specs") blank
  have asked := Program.run_request Machine.host
    (.writeFile "specs/client.json" optionsSpec.text) (Machine.host blank (.createDirs "specs")).2
  rw [accepted] at created
  rw [wrote] at asked
  have parent : (Path.parent? "specs/client.json").filter (fun parent => !parent.isEmpty) =
      some "specs" := by cbv
  unfold save
  rw [parent]
  refine (congrArg Prod.fst (Action.run_bind_ok (Action.run_attempt created))).trans ?_
  exact congrArg Prod.fst (Action.run_attempt asked)

/-- A spec with options is accepted, saved and loaded again. -/
theorem survives_disk_options :
    KeepsFiles Machine.host Machine.Quiet Machine.fileSystem ∧
      (∀ m path, m.Quiet → (Machine.host m (.createDirs path)).2.Quiet) ∧
      ofText .client "given.json" optionsText = .ok optionsSpec ∧ optionsSpec.Whole ∧
      ∃ saved loaded, (optionsSpec.save "specs/client.json").toProgram.run Machine.host blank =
          (some (.ok ()), saved) ∧
        (load .client "specs/client.json").toProgram.run Machine.host saved =
          (some (.ok optionsSpec), loaded) := by
  have makes : ∀ (m : Machine) (path : String), m.Quiet →
      (Machine.host m (.createDirs path)).2.Quiet := fun m path quiet => quiet.createDirs path
  refine ⟨Machine.keepsFiles, makes, ofText_options _, optionsSpec_whole, ?_⟩
  have saved : (optionsSpec.save "specs/client.json").toProgram.run Machine.host blank =
      (some (.ok ()), _) := Prod.ext run_save_options rfl
  obtain ⟨-, -, -, survives⟩ := (survives_disk Machine.keepsFiles makes).1 .client "given.json"
    optionsText optionsSpec (ofText_options _)
  obtain ⟨loaded, s, again, rfl, -⟩ := survives optionsSpec_whole _ _ _ blank_quiet saved
  exact ⟨_, s, saved, again⟩

end Spec
end ConformanceGate
