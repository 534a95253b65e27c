import ConformanceGate.Proofs.Comparison.Canonical
import ConformanceGate.Proofs.Machine.Files
import ConformanceGate.Proofs.System.FileSystem
import ConformanceGate.Storage.Documents

/-!
# A new baseline agrees with what it was made of

Blessing reads the fresh results, and either fails without changing a file or writes their normal
form in the place of the baseline (`run_bless_cases`). The text that is written is read as that
normal form, which agrees with the fresh results under every policy and is its own normal form.
-/

namespace ConformanceGate

variable {σ Place : Type} {host : Program.Host σ} {valid : σ → Prop}
  {files : σ → FileSystem Place}

/-! ## Loading and comparing -/

/-- The path leads to a text of the value. -/
def FileSystem.Holds (fs : FileSystem Place) (path : String) (v : Json) : Prop :=
  ∃ text, fs.text? path = some text ∧ Json.parse text = .ok v

theorem FileSystem.Holds.unique {fs : FileSystem Place} {path : String} {v w : Json}
    (h : fs.Holds path v) (h' : fs.Holds path w) : v = w := by
  obtain ⟨text, found, parsed⟩ := h
  obtain ⟨_, found', parsed'⟩ := h'
  cases found.symm.trans found'
  exact Except.ok.inj (parsed.symm.trans parsed')

theorem run_load_of_read {s : σ} {path text : String}
    (read : (host s (.readFile path)).1 = Except.ok text) :
    (Json.load path).toProgram.run host s =
      (some ((Json.parse text).mapError (.unreadable path)), (host s (.readFile path)).2) := by
  have asked := Program.run_request host (.readFile path) s
  rw [read] at asked
  exact (Action.run_bind_ok (Action.run_attempt asked)).trans (Action.run_ofExcept _ _)

/-- Loading gives the value of a path, or fails if there is none; no file changes. -/
theorem run_load_cases (keeps : KeepsFiles host valid files) {s : σ} (hs : valid s)
    (path : String) :
    ∃ s', valid s' ∧ files s' = files s ∧
      ((∃ v, (files s).Holds path v ∧
          (Json.load path).toProgram.run host s = (some (.ok v), s')) ∨
        ((¬ ∃ v, (files s).Holds path v) ∧ ∃ failure,
          (Json.load path).toProgram.run host s = (some (.error failure), s'))) := by
  refine ⟨(host s (.readFile path)).2, keeps.valid_read hs, keeps.files_read hs, ?_⟩
  cases read : (host s (.readFile path)).1 with
  | error e =>
    have asked := Program.run_request host (.readFile path) s
    rw [read] at asked
    refine .inr ⟨?_, _, Action.run_bind_error (Action.run_attempt asked)⟩
    rintro ⟨v, text, found, -⟩
    cases read.symm.trans ((keeps.read hs).mpr found)
  | ok text =>
    have loaded := run_load_of_read read
    have found := (keeps.read hs).mp read
    cases parsed : Json.parse text with
    | ok v => exact .inl ⟨v, ⟨text, found, parsed⟩, by rw [loaded, parsed]; rfl⟩
    | error fault =>
      refine .inr ⟨?_, .unreadable path fault, by rw [loaded, parsed]; rfl⟩
      rintro ⟨v, text', found', parsed'⟩
      cases found.symm.trans found'
      cases parsed.symm.trans parsed'

/-- Two paths that lead to values are compared, and no file changes. -/
theorem run_verifyFiles (keeps : KeepsFiles host valid files) {s : σ} (hs : valid s) (p : Policy)
    {left right : String} {a b : Json} (ha : (files s).Holds left a)
    (hb : (files s).Holds right b) :
    ∃ s', (p.verifyFiles left right).toProgram.run host s =
      (some (p.verify left a right b), s') ∧ files s' = files s := by
  obtain ⟨s₁, hs₁, same, ⟨v, hv, first⟩ | ⟨none, -⟩⟩ := run_load_cases keeps hs left
  · obtain rfl := ha.unique hv
    rw [← same] at hb
    obtain ⟨s₂, -, same', ⟨w, hw, second⟩ | ⟨none, -⟩⟩ := run_load_cases keeps hs₁ right
    · obtain rfl := hb.unique hw
      refine ⟨s₂, ?_, same'.trans same⟩
      rw [Policy.verifyFiles, Action.run_bind_ok first, Action.run_bind_ok second,
        Action.run_ofExcept]
    · exact absurd ⟨b, hb⟩ none
  · exact absurd ⟨a, ha⟩ none

/-! ## Blessing -/

def baselineText (v : Json) : String := Policy.strict.canonicalText v ++ "\n"

/-- The run ends with writing the text to the path, after steps that changed no file. -/
def Writes (host : Program.Host σ) (valid : σ → Prop) (files : σ → FileSystem Place)
    (t : Action Unit) (s : σ) (path text : String) : Prop :=
  ∃ s', valid s' ∧ files s' = files s ∧ t.toProgram.run host s =
    (some ((show Except SystemError Unit from (host s' (.writeFile path text)).1).mapError
      (.system ("writing " ++ path))), (host s' (.writeFile path text)).2)

/-- After results were loaded, blessing writes the text of the baseline. -/
theorem run_bless_of_load {s s' : σ} {fresh baseline : String} {v : Json}
    (loaded : (Json.load fresh).toProgram.run host s = (some (.ok v), s'))
    (results : v.IsResults) :
    (bless fresh baseline).toProgram.run host s =
      (some ((show Except SystemError Unit from
        (host s' (.writeFile baseline (baselineText v))).1).mapError
          (.system ("writing " ++ baseline))),
        (host s' (.writeFile baseline (baselineText v))).2) := by
  have checked : (Action.ofExcept (Policy.checkForm fresh v)).toProgram.run host s' =
      (some (.ok ()), s') := by
    simp [Policy.checkForm, Policy.irregularity?_eq_none_iff.mpr results]
  have asked := Program.run_request host (.writeFile baseline (baselineText v)) s'
  rw [bless, Action.run_bind_ok loaded, Action.run_bind_ok checked]
  exact Action.run_attempt asked

/-- Blessing writes the text of the baseline if the fresh results can be read and have the form of
results. Otherwise it fails, and no file changes. -/
theorem run_bless_cases (keeps : KeepsFiles host valid files) {s : σ} (hs : valid s)
    (fresh baseline : String) :
    (∃ v, (files s).Holds fresh v ∧ v.IsResults ∧
      Writes host valid files (bless fresh baseline) s baseline (baselineText v)) ∨
    ((¬ ∃ v, (files s).Holds fresh v ∧ v.IsResults) ∧ ∃ failure s',
      (bless fresh baseline).toProgram.run host s = (some (.error failure), s') ∧
        files s' = files s) := by
  obtain ⟨s₁, hs₁, same, ⟨v, hv, loaded⟩ | ⟨none, failure, failed⟩⟩ :=
    run_load_cases keeps hs fresh
  · cases form : Results.irregularity? v with
    | none =>
      have results := Policy.irregularity?_eq_none_iff.mp form
      exact .inl ⟨v, hv, results, s₁, hs₁, same, run_bless_of_load loaded results⟩
    | some cause =>
      have checked : (Action.ofExcept (Policy.checkForm fresh v)).toProgram.run host s₁ =
          (some (.error (.irregular fresh cause)), s₁) := by simp [Policy.checkForm, form]
      refine .inr ⟨?_, .irregular fresh cause, s₁, ?_, same⟩
      · rintro ⟨w, hw, results⟩
        obtain rfl := hv.unique hw
        simp [Policy.irregularity?_eq_none_iff.mpr results] at form
      · rw [bless, Action.run_bind_ok loaded, Action.run_bind_error checked]
  · refine .inr ⟨?_, failure, s₁, Action.run_bind_error failed, same⟩
    rintro ⟨v, hv, -⟩
    exact none ⟨v, hv⟩

/-- The text of a baseline is parsed as the normal form that it was made of. -/
theorem parse_baselineText {text : String} {v : Json} (h : Json.parse text = .ok v)
    (whole : v.Whole) : Json.parse (baselineText v) = .ok (Policy.strict.normalize v) :=
  Policy.strict.parse_canonicalText (Json.parse_ordered h) whole (Json.parse_within h)
    Json.blanks_lineBreak

/-- Results that were blessed agree with their new baseline under every policy, whichever is taken
for the baseline, and also if they are the same file. The baseline shows no volatile field, it is
its own new baseline, and no other file has changed. Without fresh results that can be read and
have their form, blessing fails and no file changes at all. -/
theorem bless_agrees (keeps : KeepsFiles host valid files) {s : σ} (hs : valid s)
    (fresh baseline : String) :
    let result := (bless fresh baseline).toProgram.run host s
    (∀ v, (files s).Holds fresh v → v.IsResults → v.Whole → result.1 = some (.ok ()) →
      (∀ p : Policy,
        ((p.verifyFiles baseline fresh).toProgram.run host result.2).1 = some (.ok .agrees) ∧
        ((p.verifyFiles fresh baseline).toProgram.run host result.2).1 = some (.ok .agrees)) ∧
      ∃ place text, FileSystem.Wrote baseline text place (files s) (files result.2) ∧
        (∃ b, Json.parse text = .ok b ∧ ∀ agent case record,
          b.follow? [agent, case] = some record → record.get? "duration" = none) ∧
        ∀ target, Writes host valid files (bless baseline target) result.2 target text) ∧
    ((¬ ∃ v, (files s).Holds fresh v ∧ v.IsResults) →
      (∃ failure, result.1 = some (.error failure)) ∧ files result.2 = files s) := by
  obtain ⟨v, hv, results, s₁, hs₁, same, ran⟩ | ⟨none, failure, s', ran, same⟩ :=
    run_bless_cases keeps hs fresh baseline
  · simp only [ran]
    refine ⟨fun w hw _ whole ok => ?_, fun none => absurd ⟨v, hv, results⟩ none⟩
    obtain rfl := hv.unique hw
    have written := keeps.write hs₁ (Except.mapError_eq_ok.mp (Option.some.inj ok))
    have hs₂ : valid (host s₁ (.writeFile baseline (baselineText v))).2 := keeps.valid_write hs₁
    generalize (host s₁ (.writeFile baseline (baselineText v))).2 = s₂ at written hs₂ ⊢
    obtain ⟨place, wrote⟩ := written
    rw [same] at wrote
    obtain ⟨text, found, parsed⟩ := hv
    have normal := parse_baselineText parsed whole
    -- The fresh path still leads to the results, or to their normal form if it is the same file.
    have atBaseline : (files s₂).Holds baseline (Policy.strict.normalize v) :=
      ⟨_, wrote.text?_eq, normal⟩
    have atFresh : ∃ w, (files s₂).Holds fresh w ∧ w.IsResults ∧
        ∀ p : Policy, p.normalize w = p.normalize v := by
      rcases wrote.text?_cases found with found | found
      · exact ⟨v, ⟨text, found, parsed⟩, results, fun p => rfl⟩
      · exact ⟨_, ⟨_, found, normal⟩, Policy.strict.isResults_normalize results,
          fun p => Policy.normalize_normalize (by simp [Policy.strict]) v⟩
    have normalResults := Policy.strict.isResults_normalize results
    refine ⟨fun p => ?_, place, baselineText v, wrote, ⟨_, normal, fun _ _ _ =>
      Policy.strict.get?_duration_normalize⟩, fun target => ?_⟩
    · obtain ⟨w, hw, form, eq⟩ := atFresh
      have eq : p.normalize (Policy.strict.normalize v) = p.normalize w :=
        (Policy.normalize_normalize (by simp [Policy.strict]) v).trans (eq p).symm
      obtain ⟨_, one, -⟩ := run_verifyFiles keeps hs₂ p atBaseline hw
      obtain ⟨_, other, -⟩ := run_verifyFiles keeps hs₂ p hw atBaseline
      rw [one, other, p.verify_eq_agrees _ _ normalResults form eq,
        p.verify_eq_agrees _ _ form normalResults eq.symm]
      exact ⟨rfl, rfl⟩
    · obtain ⟨b, hb, -, writes⟩ | ⟨none, -⟩ := run_bless_cases keeps hs₂ baseline target
      · obtain rfl := atBaseline.unique hb
        rwa [baselineText, Policy.canonicalText, Policy.normalize_normalize id] at writes
      · exact absurd ⟨_, atBaseline, normalResults⟩ none
  · simp only [ran]
    exact ⟨fun v hv results _ _ => absurd ⟨v, hv, results⟩ none, fun _ => ⟨⟨failure, rfl⟩, same⟩⟩

def oneFile : Machine :=
  { Machine.fresh [] [] 0 with
    files := ⟨[(["fresh"], .file Policy.strictSampleText.toUTF8 false)]⟩ }

theorem oneFile_quiet : oneFile.Quiet := by
  have entry (place : List String) : oneFile.files.at? place =
      if place = [] then some .directory
      else if place = ["fresh"] then some (.file Policy.strictSampleText.toUTF8 false)
      else none := by
    by_cases root : place = []
    · simp [Machine.Files.at?, root]
    · by_cases here : place = ["fresh"] <;>
        simp [Machine.Files.at?, root, here, oneFile, List.lookup_cons, beq_eq_false_iff_ne.mpr]
  refine ⟨rfl, ⟨fun place full => ?_, fun place target => ?_, fun target => ?_⟩⟩
  all_goals
    simp only [entry]
    split_ifs <;> simp

/-- A single file is blessed, and agrees with its baseline. -/
theorem bless_agrees_oneFile :
    oneFile.Quiet ∧
      let result := (bless "fresh" "baseline").toProgram.run Machine.host oneFile
      result.1 = some (.ok ()) ∧ ∀ p : Policy,
        ((p.verifyFiles "baseline" "fresh").toProgram.run Machine.host result.2).1 =
          some (.ok .agrees) := by
  have results : Policy.strictSample.IsResults := Policy.irregularity?_eq_none_iff.mp rfl
  have leads : oneFile.fileSystem.place? "fresh" = some ["fresh"] := rfl
  have text : oneFile.fileSystem.text? "fresh" = some Policy.strictSampleText := by
    rw [FileSystem.text?, leads]
    exact fromUTF8?_toUTF8 _
  have read := (Machine.keepsFiles.read oneFile_quiet).mpr text
  have loaded := run_load_of_read read
  rw [Policy.parse_strictSampleText] at loaded
  have blessed : ((bless "fresh" "baseline").toProgram.run Machine.host oneFile).1 =
      some (.ok ()) := by
    have wrote : (Machine.host (Machine.host oneFile (.readFile "fresh")).2
        (.writeFile "baseline" (baselineText Policy.strictSample))).1 = Except.ok () := by
      obtain ⟨time, first⟩ := Machine.host_of_quiet oneFile_quiet (.readFile "fresh")
      obtain ⟨time', second⟩ := Machine.host_of_quiet (m := { oneFile with clock := time })
        ⟨oneFile_quiet.alone, oneFile_quiet.plain⟩
        (.writeFile "baseline" (baselineText Policy.strictSample))
      rw [first]
      refine (congrArg Prod.fst second).trans ?_
      rfl
    rw [run_bless_of_load loaded results]
    exact congrArg (fun reply => some (Except.mapError _ reply)) wrote
  exact ⟨oneFile_quiet, blessed, fun p => ((bless_agrees Machine.keepsFiles oneFile_quiet "fresh"
    "baseline").1 _ ⟨_, text, Policy.parse_strictSampleText⟩ results Policy.strictSample_whole
    blessed).1 p |>.1⟩

end ConformanceGate
