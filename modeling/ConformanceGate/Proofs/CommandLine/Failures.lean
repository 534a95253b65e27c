import ConformanceGate.Proofs.CommandLine.Steps
import ConformanceGate.Proofs.Run.Gate
import Mathlib.Tactic.SplitIfs

/-!
# Failures of commands

Loading settings and documents, summarizing, blessing and writing specs fail with the exit code that
most failures share (`CommandLine.fails_execute`), and come to an end on all replies of the system
(`CommandLine.halts_execute`).
-/

namespace ConformanceGate

open Program

/-- The failure has the exit code that most failures share. -/
def Failure.Usual (failure : Failure) : Prop := failure.exitCode = 1

/-- Apart from regressions, the end of the clock alone has an exit code of its own. -/
theorem Failure.usual_of_not_isRegression {failure : Failure}
    (h : failure.isRegression = false) : failure.Usual ∨ failure = .beyondClock := by
  cases failure <;> first | exact .inl rfl | exact .inr rfl | cases h

/-- A signal that cannot be taken over is a usual failure. -/
theorem Interrupts.fails_install : Interrupts.install.Fails Failure.Usual := by
  suffices all : ∀ signals, (handleAll signals).Fails Failure.Usual from all signals
  intro signals
  induction signals with
  | nil => exact Action.fails_pure ()
  | cons signal rest ih => exact Action.fails_bind (Action.fails_attempt fun _ => rfl) fun _ => ih

namespace Config

theorem fails_loadFile (path : String) : (loadFile path).Fails Failure.Usual :=
  Action.fails_bind (Action.fails_attempt fun _ => rfl) fun _ => Action.fails_ofFlaw fun _ => rfl

theorem fails_load (path : Option String) : (load path).Fails Failure.Usual := by
  cases path with
  | some path => exact fails_loadFile path
  | none =>
    refine Action.fails_bind (Action.fails_lift _) fun there => ?_
    split_ifs
    · exact fails_loadFile usualFile
    · exact Action.fails_pure _

theorem fails_freshPath (c : Config) (role : Role) : (c.freshPath role).Fails Failure.Usual :=
  Action.fails_bind (Action.fails_bind (Action.fails_attempt fun _ => rfl) fun _ =>
    Action.fails_ofFlaw fun _ => rfl) fun _ => Action.fails_pure _

end Config

theorem Json.fails_load (path : String) : (Json.load path).Fails Failure.Usual :=
  Action.fails_bind (Action.fails_attempt fun _ => rfl) fun _ => Action.fails_mapError fun _ => rfl

theorem Results.fails_load (path : String) : (Results.load path).Fails Failure.Usual :=
  Action.fails_bind (Json.fails_load path) fun _ => Action.fails_mapError fun _ => rfl

theorem Spec.fails_save (spec : Spec) (path : String) : (spec.save path).Fails Failure.Usual := by
  unfold save
  split
  · exact Action.fails_bind (Action.fails_attempt fun _ => rfl) fun _ =>
      Action.fails_attempt fun _ => rfl
  · exact Action.fails_attempt fun _ => rfl

theorem fails_bless (fresh baseline : String) : (bless fresh baseline).Fails Failure.Usual := by
  refine Action.fails_bind (Json.fails_load fresh) fun v => ?_
  refine Action.fails_bind ?_ fun _ => Action.fails_attempt fun _ => rfl
  refine Action.fails_ofExcept fun failure h => ?_
  unfold Policy.checkForm at h
  split at h <;> cases h
  rfl

namespace CommandLine

variable {rounds : Nat} {i : Invocation}

/-- A command that judges results. -/
def Command.Judges : Command → Prop
  | .gate _ _ _ | .verify _ _ _ => True
  | .render _ _ _ _ | .bless _ | .init _ _ _ _ => False

/-- A command that starts processes. -/
def Command.IsGate : Command → Prop
  | .gate _ _ _ => True
  | .verify _ _ _ | .render _ _ _ _ | .bless _ | .init _ _ _ _ => False

theorem fails_settings (path : Option String) : (settings path).Fails Failure.Usual := by
  refine Action.fails_bind (Config.fails_load path) fun c => ?_
  split_ifs
  · exact Action.fails_bind (Action.fails_lift _) fun _ => Action.fails_pure c
  · exact Action.fails_pure c

theorem fails_initSpec (force : Bool) (spec : Spec) (path : String) :
    (initSpec force spec path).Fails Failure.Usual := by
  refine Action.fails_bind (Action.fails_lift _) fun there => ?_
  split_ifs
  · exact Action.fails_lift _
  · exact Action.fails_bind (spec.fails_save path) fun _ => Action.fails_lift _

theorem fails_render (c : Config) (json : Bool) (role : Option Role) (input html : Option String)
    (title : String) : (render c json role input html title).Fails Failure.Usual := by
  rw [render_eq]
  refine Action.fails_bind ?_ fun input => Action.fails_bind (Results.fails_load _) fun found =>
    Action.fails_bind (Action.fails_lift _) fun _ => ?_
  · cases input with
    | none => exact c.fails_freshPath _
    | some path => exact Action.fails_pure path
  · cases html with
    | none => exact Action.fails_pure ()
    | some path =>
      exact Action.fails_bind (Action.fails_lift _) fun cwd =>
        Action.fails_bind (Action.fails_lift _) fun today => Action.fails_attempt fun _ => rfl

/-- A command that does not judge fails without any verdict on results. -/
theorem fails_execute (h : ¬ i.command.Judges) : (execute rounds i).Fails Failure.Usual := by
  refine Action.fails_bind (fails_settings _) fun c => ?_
  rcases command : i.command with ⟨role, relaxed, skips⟩ | ⟨role, files, relaxed⟩ |
    ⟨role, input, html, title⟩ | ⟨role⟩ | ⟨agent, subjectPort, harnessPort, force⟩
  case gate | verify => simp [command, Command.Judges] at h
  case render => exact fails_render c i.json role input html title
  case bless =>
    exact Action.fails_bind (c.fails_freshPath role) fun fresh =>
      Action.fails_bind (fails_bless _ _) fun _ => Action.fails_lift _
  case init =>
    exact Action.fails_bind (fails_initSpec _ _ _) fun _ => fails_initSpec _ _ _

end CommandLine

/-! ## Commands come to an end -/

namespace Config

theorem halts_loadFile (path : String) : (loadFile path).toProgram.Halts :=
  Action.halts_bind (fun _ => trivial) fun _ => trivial

theorem halts_load (path : Option String) : (load path).toProgram.Halts := by
  cases path with
  | some path => exact halts_loadFile path
  | none =>
    refine Action.halts_bind (fun _ => trivial) fun there => ?_
    split_ifs
    · exact halts_loadFile usualFile
    · trivial

theorem halts_freshPath (c : Config) (role : Role) : (c.freshPath role).toProgram.Halts :=
  Action.halts_bind (Action.halts_bind (fun _ => trivial) fun _ => trivial) fun _ => trivial

end Config

theorem Spec.halts_save (spec : Spec) (path : String) : (spec.save path).toProgram.Halts := by
  unfold save
  split
  · exact Action.halts_bind (fun _ => trivial) fun _ _ => trivial
  · exact fun _ => trivial

namespace CommandLine

variable {rounds : Nat} {i : Invocation}

theorem halts_settings (path : Option String) : (settings path).toProgram.Halts := by
  refine Action.halts_bind (Config.halts_load path) fun c => ?_
  split_ifs
  · exact Action.halts_bind (fun _ => trivial) fun _ => trivial
  · trivial

theorem halts_initSpec (force : Bool) (spec : Spec) (path : String) :
    (initSpec force spec path).toProgram.Halts := by
  refine Action.halts_bind (fun _ => trivial) fun there => ?_
  split_ifs
  · exact fun _ => trivial
  · exact Action.halts_bind (spec.halts_save path) fun _ _ => trivial

theorem halts_judging (p : Policy) (baseline fresh : String) (tell : Verdict → String) :
    (judging p baseline fresh tell).toProgram.Halts := by
  rw [← verifyFiles_bind]
  exact Action.halts_bind (p.halts_verifyFiles baseline fresh) fun verdict =>
    Action.halts_bind (fun _ => trivial) fun _ => trivial

/-- A comparison comes to an end under every host. -/
theorem halts_verify (c : Config) (json : Bool) (role : Option Role)
    (files : Option (String × String)) (relaxed : Bool) :
    (verify c json role files relaxed).toProgram.Halts := by
  rcases files with _ | ⟨baseline, fresh⟩
  · obtain ⟨tell, same⟩ := verify_role_eq c json role relaxed
    rw [same]
    exact Action.halts_bind (c.halts_freshPath _) fun fresh => halts_judging _ _ _ _
  · obtain ⟨tell, same⟩ := verify_files_eq c json role relaxed baseline fresh
    rw [same]
    exact halts_judging _ _ _ _

theorem halts_render (c : Config) (json : Bool) (role : Option Role) (input html : Option String)
    (title : String) : (render c json role input html title).toProgram.Halts := by
  rw [render_eq]
  refine Action.halts_bind ?_ fun input =>
    Action.halts_bind (Action.halts_bind (Json.halts_load input) fun _ => trivial) fun found =>
      Action.halts_bind (fun _ => trivial) fun _ => ?_
  · cases input with
    | none => exact c.halts_freshPath _
    | some path => trivial
  · cases html with
    | none => trivial
    | some path =>
      exact Action.halts_bind (fun _ => trivial) fun cwd =>
        Action.halts_bind (fun _ => trivial) fun today _ => trivial

/-- Only a gate command may go on for ever. -/
theorem halts_execute (h : ¬ i.command.IsGate) :
    (execute rounds i).toProgram.Halts := by
  refine Action.halts_bind (halts_settings _) fun c => ?_
  rcases command : i.command with ⟨role, relaxed, skips⟩ | ⟨role, files, relaxed⟩ |
    ⟨role, input, html, title⟩ | ⟨role⟩ | ⟨agent, subjectPort, harnessPort, force⟩
  case gate => simp [command, Command.IsGate] at h
  case verify => exact halts_verify c i.json role files relaxed
  case render => exact halts_render c i.json role input html title
  case bless =>
    refine Action.halts_bind (c.halts_freshPath role) fun fresh =>
      Action.halts_bind ?_ fun _ _ => trivial
    exact Action.halts_bind (Json.halts_load fresh) fun _ =>
      Action.halts_bind trivial fun _ _ => trivial
  case init =>
    exact Action.halts_bind (halts_initSpec _ _ _) fun _ => halts_initSpec _ _ _

end CommandLine
end ConformanceGate
