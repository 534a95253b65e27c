import ConformanceGate.CommandLine.Commands
import ConformanceGate.Proofs.Config.Overlay
import ConformanceGate.Proofs.Machine.Tree
import ConformanceGate.Proofs.Storage.Specs
import ConformanceGate.Proofs.System.Clock

/-!
# Writing the usual specs

`init` goes through the two specs one after the other (`CommandLine.run_initSpec_settles`): a spec
that is there is skipped unless it is forced, and any other is saved, which may make a directory
first. So no file comes to harm, except where that directory makes a path lead to a file that led to
none when it was looked for. What was written can be used, and a second run skips everything
(`CommandLine.init_spares`).
-/

namespace ConformanceGate

open Program

variable {σ Place : Type} {host : Host σ} {valid : σ → Prop} {files : σ → FileSystem Place}
  {s s' s₁ s₂ : σ} {path text : String} {outcome : Except Failure Unit}

/-! ## Saving a spec -/

def directory? (path : String) : Option String :=
  (Path.parent? path).filter fun parent => !parent.isEmpty

/-- What the saving of a file leads to: it changes one file at most, which is a new one if the path
led to none and no directory had to be made, and if it succeeds its text is there. -/
structure Saves (host : Host σ) (valid : σ → Prop) (files : σ → FileSystem Place)
    (path text : String) (s : σ) (outcome : Except Failure Unit) (s' : σ) : Prop where
  onward : Onward host valid files s s'
  others : ∀ place, (files s').place? path ≠ some place →
    (files s').bytes place = (files s).bytes place
  new : (files s).place? path = none →
    (∀ parent, directory? path = some parent → host.there s parent = true) →
      ∀ path' place, (files s).place? path' = some place →
        (files s').bytes place = (files s).bytes place
  text : outcome = .ok () → (files s').text? path = some text

/-- What changes no files may come before. -/
theorem Saves.after (h : Saves host valid files path text s₁ outcome s')
    (onward : Onward host valid files s s₁) (same : files s₁ = files s) :
    Saves host valid files path text s outcome s' where
  onward := onward.trans h.onward
  others := by
    rw [← same]
    exact h.others
  new missing made := by
    rw [← same] at missing ⊢
    exact h.new missing fun parent named => onward.there parent (made parent named)
  text := h.text

/-- What changes no files may come later. -/
theorem Saves.before (h : Saves host valid files path text s outcome s₁)
    (onward : Onward host valid files s₁ s') (same : files s' = files s₁) :
    Saves host valid files path text s outcome s' where
  onward := h.onward.trans onward
  others := by
    rw [same]
    exact h.others
  new := by
    rw [same]
    exact h.new
  text := by
    rw [same]
    exact h.text

/-- Writing a file succeeds and saves it, or fails and changes nothing. -/
theorem run_writeFile_saves (keeps : KeepsTree host valid files) (hs : valid s)
    (context path text : String) :
    ∃ outcome s', (Action.attempt context (.writeFile path text)).toProgram.run host s =
      (some outcome, s') ∧ Saves host valid files path text s outcome s' := by
  refine ⟨_, _, Action.run_attempt (run_request host (.writeFile path text) s),
    keeps.onward hs trivial, fun place elsewhere => keeps.bytes_writeFile hs elsewhere,
    fun missing _ path' place led => keeps.bytes_writeFile_new hs missing led, ?_⟩
  intro accepted
  obtain ⟨place, wrote⟩ := keeps.write hs (Except.mapError_eq_ok.mp accepted)
  exact wrote.text?_eq

/-- A spec is saved as its text is written, once its directory is made. -/
theorem Spec.run_save_saves (keeps : KeepsTree host valid files) (hs : valid s) (spec : Spec)
    (path : String) : ∃ outcome s', (spec.save path).toProgram.run host s = (some outcome, s') ∧
      Saves host valid files path spec.text s outcome s' := by
  unfold save
  split
  · rename_i parent named
    have named : directory? path = some parent := named
    have asked : (Action.attempt ("creating " ++ parent) (.createDirs parent)).toProgram.run host s =
        _ := Action.run_attempt (run_request host (.createDirs parent) s)
    have onward := keeps.onward (r := .createDirs parent) hs trivial
    have same : (files (host s (.createDirs parent)).2).bytes = (files s).bytes :=
      keeps.bytes_createDirs hs
    cases reply : (host s (.createDirs parent)).1 with
    | error e =>
      rw [reply] at asked
      exact ⟨_, _, Action.run_bind_error asked, onward, fun place _ => by rw [same],
        fun _ _ _ place _ => by rw [same], nofun⟩
    | ok made =>
      rw [reply] at asked
      obtain ⟨outcome, s', ran, saves⟩ := run_writeFile_saves keeps onward.valid
        ("writing harness spec " ++ path) path spec.text
      refine ⟨outcome, s', (Action.run_bind_ok asked).trans ran, onward.trans saves.onward,
        fun place elsewhere => by rw [saves.others place elsewhere, same],
        fun missing made path' place led => ?_, saves.text⟩
      -- The directory was there already, so making it changed nothing.
      have unchanged := keeps.files_createDirs hs (made parent named)
      rw [← unchanged] at missing
      refine (saves.new missing (fun parent named => ?_) path' place
        (onward.kept path' place led)).trans (by rw [same])
      exact onward.there parent (made parent named)
  · exact run_writeFile_saves keeps hs _ path spec.text

namespace CommandLine

/-! ## One spec -/

/-- How `init` deals with the spec at a path. -/
inductive Settles (host : Host σ) (valid : σ → Prop) (files : σ → FileSystem Place) (force : Bool)
    (path text : String) (s : σ) : Except Failure Unit → σ → Prop
  /-- It is there, and stays as it is. -/
  | skips {s' : σ} : host.there s path = true → force = false → Onward host valid files s s' →
      files s' = files s → Settles host valid files force path text s (.ok ()) s'
  /-- It is not there, or it is written anew in any case. -/
  | saves {outcome : Except Failure Unit} {s' : σ} : force = true ∨ host.there s path = false →
      Saves host valid files path text s outcome s' →
        Settles host valid files force path text s outcome s'

section Settles

variable {force : Bool}

/-- However the spec is dealt with, nothing went away. -/
theorem Settles.onward (h : Settles host valid files force path text s outcome s') :
    Onward host valid files s s' := by
  cases h with
  | skips _ _ onward _ => exact onward
  | saves _ saves => exact saves.onward

theorem Settles.others (h : Settles host valid files force path text s outcome s') {place : Place}
    (elsewhere : (files s').place? path ≠ some place) :
    (files s').bytes place = (files s).bytes place := by
  cases h with
  | skips _ _ _ same => rw [same]
  | saves _ saves => exact saves.others place elsewhere

/-- If all went well, something is there. -/
theorem Settles.there (keeps : KeepsTree host valid files)
    (h : Settles host valid files force path text s (.ok ()) s') : host.there s' path = true := by
  cases h with
  | skips there _ onward _ => exact onward.there path there
  | saves _ saves =>
    obtain ⟨place, led, -⟩ := Option.bind_eq_some_iff.mp (saves.text rfl)
    exact keeps.there saves.onward.valid led

/-- If all went well and the spec was to be written, its text is there. -/
theorem Settles.written (h : Settles host valid files force path text s (.ok ()) s')
    (wanted : force = true ∨ host.there s path = false) :
    (files s').text? path = some text := by
  cases h with
  | skips there unforced _ _ => simp [there, unforced] at wanted
  | saves _ saves => exact saves.text rfl

/-- The path led to no file, and not even its directory was there, and now it leads to this file. -/
structure Strays (host : Host σ) (files : σ → FileSystem Place) (path : String) (s s' : σ)
    (place : Place) : Prop where
  missing : (files s).place? path = none
  unmade : ∃ parent, directory? path = some parent ∧ host.there s parent = false
  leads : (files s').place? path = some place

theorem Strays.of_later {place : Place} (h : Strays host files path s₁ s' place)
    (onward : Onward host valid files s s₁) : Strays host files path s s' place := by
  obtain ⟨parent, named, absent⟩ := h.unmade
  refine ⟨?_, ⟨parent, named, ?_⟩, h.leads⟩
  · cases led : (files s).place? path with
    | none => rfl
    | some place => exact absurd (onward.kept path place led) (by simp [h.missing])
  · cases there : host.there s parent with
    | false => rfl
    | true => exact absurd (onward.there parent there) (by simp [absent])

theorem Strays.onward {place : Place} (h : Strays host files path s s₁ place)
    (onward : Onward host valid files s₁ s') : Strays host files path s s' place :=
  ⟨h.missing, h.unmade, onward.kept path place h.leads⟩

/-- Without `force` a spec does no harm to any file, unless its path strays to it. -/
theorem Settles.spares (keeps : KeepsTree host valid files) (hs : valid s)
    (h : Settles host valid files false path text s outcome s') :
    (files s).Spares (Strays host files path s s') (files s') := by
  refine ⟨h.onward.kept, fun path' place led => ?_⟩
  cases h with
  | skips _ _ _ same => exact .inl (by rw [same])
  | saves wanted saves =>
    have missing : (files s).place? path = none := by
      cases there : (files s).place? path with
      | none => rfl
      | some place => simp [keeps.there hs there] at wanted
    by_cases made : ∀ parent, directory? path = some parent → host.there s parent = true
    · exact .inl (saves.new missing made path' place led)
    · by_cases leads : (files s').place? path = some place
      · obtain ⟨parent, unmade⟩ := not_forall.mp made
        exact .inr ⟨missing, ⟨parent, by simpa using unmade⟩, leads⟩
      · exact .inl (saves.others place leads)

end Settles

def skipping (path : String) : List Event :=
  [⟨.isThere path, true⟩,
    ⟨.print (path ++ " exists; skipping (use --force to overwrite)" ++ "\n"), ()⟩]

/-- Looking for the path of a spec changes no files. -/
theorem plays_look (host : Host σ) (s : σ) (path : String) :
    Plays host (Action.lift (.isThere path)).toProgram s [⟨.isThere path, host.there s path⟩]
      (.ok (host.there s path)) (host s (.isThere path)).2 := ⟨rfl, rfl⟩

/-- A spec that is there is skipped unless it is forced. -/
theorem plays_initSpec (keeps : KeepsTree host valid files) (hs : valid s) (spec : Spec)
    (there : host.there s path = true) :
    ∃ s', Plays host (initSpec false spec path).toProgram s (skipping path) (.ok ()) s' ∧
      Onward host valid files s s' ∧ files s' = files s := by
  have look := plays_look host s path
  rw [there] at look
  have looked := keeps.onward (r := .isThere path) hs trivial
  refine ⟨_, Action.plays_bind look ⟨rfl, rfl⟩,
    looked.trans (keeps.onward looked.valid trivial), ?_⟩
  exact (keeps.files_print looked.valid).trans (keeps.files_isThere hs)

/-- Creating a spec comes to an end, and settles its path. -/
theorem run_initSpec_settles (keeps : KeepsTree host valid files) (hs : valid s) (force : Bool)
    (spec : Spec) (path : String) :
    ∃ outcome s', (initSpec force spec path).toProgram.run host s = (some outcome, s') ∧
      Settles host valid files force path spec.text s outcome s' := by
  by_cases skipped : host.there s path = true ∧ force = false
  · obtain ⟨there, rfl⟩ := skipped
    obtain ⟨s', played, onward, same⟩ := plays_initSpec keeps hs spec there
    exact ⟨.ok (), s', played.run, .skips there rfl onward same⟩
  · have wanted : force = true ∨ host.there s path = false := by
      cases force <;> simp_all
    have looked := keeps.onward (r := .isThere path) hs trivial
    obtain ⟨outcome, s₁, ran, saves⟩ := spec.run_save_saves keeps looked.valid path
    have saves := saves.after looked (keeps.files_isThere hs)
    let line := "Wrote " ++ spec.mode.name ++ " spec " ++ path
    have unfolded : (initSpec force spec path).toProgram.run host s =
        (spec.save path >>= fun _ => Action.lift (.printLine line)).toProgram.run host
          (host s (.isThere path)).2 := by
      refine (Action.run_bind_ok (plays_look host s path).run).trans ?_
      have unskipped : (host.there s path && !force) = false := by
        rcases wanted with rfl | missing <;> simp_all
      rw [unskipped]
      rfl
    cases outcome with
    | error failure =>
      exact ⟨_, _, unfolded.trans (Action.run_bind_error ran), .saves wanted saves⟩
    | ok saved =>
      have printed := Action.run_lift (run_request host (.print (line ++ "\n")) s₁)
      refine ⟨_, _, unfolded.trans ((Action.run_bind_ok ran).trans printed), .saves wanted ?_⟩
      exact saves.before (keeps.onward saves.onward.valid trivial)
        (keeps.files_print saves.onward.valid)

/-! ## Both specs -/

/-- The spec that `init` writes for a role. -/
def initSpecOf (agent : String) (subjectPort harnessPort : UInt16) : Role → Spec
  | .server => .usualClient agent subjectPort "autobahn/server"
  | .client => .usualServer harnessPort "autobahn/client"

theorem init_eq (c : Config) (agent : String) (subjectPort harnessPort : UInt16) (force : Bool) :
    init c agent subjectPort harnessPort force =
      initSpec force (initSpecOf agent subjectPort harnessPort .server) (c.specPath .server) >>=
        fun _ => initSpec force (initSpecOf agent subjectPort harnessPort .client)
          (c.specPath .client) := rfl

/-- The text of a new spec is accepted, and read as this spec. -/
theorem ofText_initSpecOf (agent : String) (subjectPort harnessPort : UInt16) (role : Role)
    (path : String) :
    Spec.ofText role.mode path (initSpecOf agent subjectPort harnessPort role).text =
      .ok (initSpecOf agent subjectPort harnessPort role) := by
  cases role with
  | server => exact Spec.ofText_usualClient agent subjectPort (by decide) path
  | client => exact Spec.ofText_usualServer harnessPort (by decide) path

/-- The state in which `init` looks for the spec of a role. -/
def initTurn (host : Host σ) (c : Config) (agent : String) (subjectPort harnessPort : UInt16)
    (force : Bool) (s : σ) : Role → σ
  | .server => s
  | .client => ((initSpec force (initSpecOf agent subjectPort harnessPort .server)
      (c.specPath .server)).toProgram.run host s).2

/-- The spec file of a role is loaded as this spec, and its results are expected where the spec has
them. -/
structure LoadsAs (host : Host σ) (c : Config) (s : σ) (role : Role) (spec : Spec) : Prop where
  loads : ∃ s', (Spec.load role.mode (c.specPath role)).toProgram.run host s =
    (some (.ok spec), s')
  results : ∃ s', (c.freshPath role).toProgram.run host s =
    (some (.ok (spec.resultsIndex c.workingDir)), s')

/-- Where a path leads to the text of a spec, that spec is loaded. -/
theorem loadsAs_of_text (keeps : KeepsTree host valid files) (hs : valid s) {c : Config}
    {role : Role} {spec : Spec}
    (read : Spec.ofText role.mode (c.specPath role) spec.text = .ok spec)
    (found : (files s).text? (c.specPath role) = some spec.text) : LoadsAs host c s role spec := by
  obtain ⟨s', -, -, loaded⟩ := Spec.run_load_of_text keeps.toKeepsFiles hs role.mode found
  rw [read] at loaded
  exact ⟨⟨s', loaded⟩, s', Action.run_bind_ok loaded⟩

/-- The two specs do not stand in one file. -/
def Apart (fs : FileSystem Place) (c : Config) : Prop :=
  ∀ place, fs.place? (c.specPath .server) = some place → fs.place? (c.specPath .client) ≠ some place

/-- What both specs come to if `init` succeeds: those that were not there when they were looked for
can be used as they were meant, and all of them when they are forced. -/
theorem loadsAs_of_settles (keeps : KeepsTree host valid files) {c : Config} {agent : String}
    {subjectPort harnessPort : UInt16} {force : Bool}
    (first : Settles host valid files force (c.specPath .server)
      (initSpecOf agent subjectPort harnessPort .server).text s (.ok ()) s₁)
    (second : Settles host valid files force (c.specPath .client)
      (initSpecOf agent subjectPort harnessPort .client).text s₁ (.ok ()) s')
    (apart : Apart (files s') c) :
    (force = true ∨ host.there s (c.specPath .server) = false →
      LoadsAs host c s' .server (initSpecOf agent subjectPort harnessPort .server)) ∧
    (force = true ∨ host.there s₁ (c.specPath .client) = false →
      LoadsAs host c s' .client (initSpecOf agent subjectPort harnessPort .client)) := by
  refine ⟨fun wanted => ?_, fun wanted => ?_⟩
  · refine loadsAs_of_text keeps second.onward.valid (ofText_initSpecOf ..) ?_
    refine FileSystem.text?_of_bytes (first.written wanted) fun place led => ?_
    have leads := second.onward.kept _ place led
    exact ⟨leads, second.others (apart place leads)⟩
  · exact loadsAs_of_text keeps second.onward.valid (ofText_initSpecOf ..) (second.written wanted)

/-- Where both specs are there, `init` skips them and changes no file. -/
theorem plays_init (keeps : KeepsTree host valid files) (hs : valid s) {c : Config}
    (there : ∀ role, host.there s (c.specPath role) = true) (agent : String)
    (subjectPort harnessPort : UInt16) :
    ∃ s', Plays host (init c agent subjectPort harnessPort false).toProgram s
      (skipping (c.specPath .server) ++ skipping (c.specPath .client)) (.ok ()) s' ∧
        files s' = files s := by
  obtain ⟨s₁, first, onward, same⟩ := plays_initSpec keeps hs
    (initSpecOf agent subjectPort harnessPort .server) (there .server)
  obtain ⟨s', second, -, same'⟩ := plays_initSpec keeps onward.valid
    (initSpecOf agent subjectPort harnessPort .client) (onward.there _ (there .client))
  rw [init_eq]
  exact ⟨s', Action.plays_bind first second, same'.trans same⟩

/-- On a host that keeps its tree `init` comes to an end, and whether it succeeds or fails, without
`force` no file comes to harm, except that a spec path that led to no file before may have been led
to one by the directories that were made. If it succeeds and the specs stand in two files, each spec
that was not there when it was looked for, and each one if they are forced, is loaded as the usual
spec for the agent and the ports. From then on `init` without `force` skips both specs and changes
nothing, whatever the agent and the ports. -/
theorem init_spares (keeps : KeepsTree host valid files) (c : Config) (agent : String)
    (subjectPort harnessPort : UInt16) (force : Bool) (hs : valid s) :
    ∃ outcome s', (init c agent subjectPort harnessPort force).toProgram.run host s =
        (some outcome, s') ∧
      (force = false → (files s).Spares
        (fun place => ∃ role, Strays host files (c.specPath role) s s' place) (files s')) ∧
      (outcome = .ok () →
        (Apart (files s') c → ∀ role,
          force = true ∨ host.there (initTurn host c agent subjectPort harnessPort force s role)
            (c.specPath role) = false →
          LoadsAs host c s' role (initSpecOf agent subjectPort harnessPort role)) ∧
        ∀ agent' subjectPort' harnessPort', ∃ s'',
          Plays host (init c agent' subjectPort' harnessPort' false).toProgram s'
            (skipping (c.specPath .server) ++ skipping (c.specPath .client)) (.ok ()) s'' ∧
          files s'' = files s') := by
  obtain ⟨outcome₁, s₁, ran₁, first⟩ := run_initSpec_settles keeps hs force
    (initSpecOf agent subjectPort harnessPort .server) (c.specPath .server)
  rw [init_eq]
  cases outcome₁ with
  | error failure =>
    refine ⟨_, _, Action.run_bind_error ran₁, ?_, nofun⟩
    rintro rfl
    exact (first.spares keeps hs).mono fun _ strays => ⟨.server, strays⟩
  | ok done =>
    have hs₁ := first.onward.valid
    obtain ⟨outcome, s', ran₂, second⟩ := run_initSpec_settles keeps hs₁ force
      (initSpecOf agent subjectPort harnessPort .client) (c.specPath .client)
    refine ⟨outcome, s', (Action.run_bind_ok ran₁).trans ran₂, ?_, ?_⟩
    · rintro rfl
      refine ((first.spares keeps hs).mono fun _ strays => ?_).trans
        ((second.spares keeps hs₁).mono fun _ strays => ?_)
      · exact ⟨.server, strays.onward second.onward⟩
      · exact ⟨.client, strays.of_later first.onward⟩
    rintro rfl
    refine ⟨fun apart role wanted => ?_, plays_init keeps second.onward.valid fun role => ?_⟩
    · obtain ⟨server, client⟩ := loadsAs_of_settles keeps first second apart
      cases role with
      | server => exact server wanted
      | client =>
        rw [initTurn, ran₁] at wanted
        exact client wanted
    · cases role with
      | server => exact second.onward.there _ (first.there keeps)
      | client => exact second.there keeps

def lonely : Machine :=
  { Machine.fresh [] [] 0 with files := ⟨[(["a.json"], .file "keep\n".toUTF8 false)]⟩ }

theorem lonely_quiet : lonely.Quiet := by
  have entry (place : List String) : lonely.files.at? place =
      if place = [] then some .directory
      else if place = ["a.json"] then some (.file "keep\n".toUTF8 false) else none := by
    by_cases root : place = [] <;> by_cases file : place = ["a.json"] <;>
      simp [Machine.Files.at?, root, file, lonely, List.lookup_cons, beq_eq_false_iff_ne.mpr]
  refine ⟨rfl, ⟨fun place full => ?_, fun place target => ?_, fun target => ?_⟩⟩
  all_goals
    simp only [entry]
    split_ifs <;> simp

/-- A file that is there already stays as it was, both specs can be loaded, and a second time
nothing changes. -/
theorem init_spares_lonely :
    KeepsTree Machine.host Machine.Quiet Machine.fileSystem ∧ lonely.Quiet ∧
      ∃ m, (init .usual "agent" 9002 9001 false).toProgram.run Machine.host lonely =
          (some (.ok ()), m) ∧
        lonely.fileSystem.place? "a.json" = some ["a.json"] ∧
        m.fileSystem.bytes ["a.json"] = lonely.fileSystem.bytes ["a.json"] ∧
        (∀ role, LoadsAs Machine.host .usual m role (initSpecOf "agent" 9002 9001 role)) ∧
        ∃ m', (init .usual "other" 1 2 false).toProgram.run Machine.host m = (some (.ok ()), m') ∧
          m'.fileSystem = m.fileSystem := by
  obtain ⟨outcome, m, ran, spared, success⟩ :=
    init_spares Machine.keepsTree .usual "agent" 9002 9001 false lonely_quiet
  have ended : ((init .usual "agent" 9002 9001 false).toProgram.run Machine.host lonely).1.map
      Except.isOk = some true := by decide +kernel
  have places : ∀ role, ((init .usual "agent" 9002 9001 false).toProgram.run Machine.host
      lonely).2.fileSystem.place? (Config.usual.specPath role) =
        some ["autobahn", role.mode.name ++ ".json"] := by
    intro role
    cases role <;> decide +kernel
  rw [ran] at ended places
  have ended : outcome = .ok () := by
    cases outcome with
    | error failure => cases ended
    | ok done => rfl
  subst ended
  obtain ⟨usable, again⟩ := success rfl
  obtain ⟨m', played, same⟩ := again "other" 1 2
  have there : lonely.fileSystem.place? "a.json" = some ["a.json"] := by decide +kernel
  refine ⟨Machine.keepsTree, lonely_quiet, m, ran, there, ?_, fun role => ?_, m', played.run, same⟩
  · refine ((spared rfl).bytes "a.json" _ there).resolve_right ?_
    rintro ⟨role, strays⟩
    have leads := strays.leads
    rw [places role] at leads
    simp at leads
  · refine usable (fun place server client => ?_) role (.inr ?_)
    · rw [places .server] at server
      rw [places .client, ← server] at client
      revert client
      decide
    · cases role <;> decide +kernel

/-- Settings with a spec path that goes through a directory and out of it again. -/
def detourText : String :=
  "[server]\nspec = \"x/../a.json\"\nbaseline = \"b.json\"\nsubject = [\"s\"]\n"

def detour : Config := { Config.usual with server := ⟨"x/../a.json", "b.json", ["s"]⟩ }

theorem ofText_detour : Config.ofText detourText = .ok detour := by
  have read : Toml.read detourText = .ok (.table [("server", .table [("baseline", .string "b.json"),
      ("spec", .string "x/../a.json"), ("subject", .array [.string "s"] none)])]) := by cbv
  exact Config.ofText_eq_ok_iff.mpr ⟨_, read, rfl⟩

/-- Without `force` a file that was there is overwritten: the directory that is made for the spec
makes its path lead to the file. -/
theorem init_overwrites : Config.ofText detourText = .ok detour ∧ lonely.Quiet ∧
    ∃ m, (init detour "rust-websocket" 9002 9001 false).toProgram.run Machine.host lonely =
        (some (.ok ()), m) ∧
      m.fileSystem.place? (detour.specPath .server) = some ["a.json"] ∧
      m.fileSystem.place? (detour.specPath .client) = some ["autobahn", "fuzzingserver.json"] ∧
      lonely.fileSystem.place? "a.json" = some ["a.json"] ∧
      m.fileSystem.bytes ["a.json"] ≠ lonely.fileSystem.bytes ["a.json"] := by
  refine ⟨ofText_detour, lonely_quiet, _, Prod.ext ?_ rfl, ?_⟩
  · rfl
  · decide +kernel

end CommandLine
end ConformanceGate
