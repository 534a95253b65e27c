import ConformanceGate.Proofs.CommandLine.Failures
import ConformanceGate.Proofs.Comparison.Verdict
import ConformanceGate.Proofs.Results.Loading
import ConformanceGate.Proofs.Run.Failures
import ConformanceGate.Proofs.Run.Gate
import Mathlib.Tactic.SplitIfs

/-!
# Exit codes

The exit code of a command that judges results tells what its events show: zero and 64 are the two
verdicts on documents that were read and can be compared, and whatever comes in the way of a verdict
has another code. Commands that do not judge end with zero or one, and no command ends otherwise
because it is told to print values (`CommandLine.retells_execute`).
-/

namespace ConformanceGate

open Program

namespace CommandLine

variable {rounds : Nat} {i : Invocation} {p : Policy} {baseline fresh : String}
  {before rest events : List Event}

/-- What has happened before a command that judges turns to the documents: it has loaded its
settings and knows the documents. A gate command has taken the signals over and has seen that the
baseline is there, its run has ended well, and the results were read for the log. -/
inductive Locates (rounds : Nat) (i : Invocation) : List Event → Policy → String → String → Prop
  | gate {role : Role} {relaxed skips : Bool} {c : Config} {report : RunReport}
      {loading installing running : List Event} {logged : Except SystemError String}
      (command : i.command = .gate role relaxed skips)
      (loaded : Runs (settings i.config).toProgram loading (.ok c))
      (installed : Runs Interrupts.install.toProgram installing (.ok ()))
      (ran : Runs ((Orchestrator.ofConfig { c with relaxed := relaxed || c.relaxed } (!skips)).run
        rounds role (c.role role)).toProgram running (.ok report)) :
      Locates rounds i (loading ++ (installing ++ .fileFound (c.baselinePath role) true ::
          (running ++ [⟨.readFile report.results, logged⟩])))
        ⟨relaxed || c.relaxed⟩ (c.baselinePath role) report.results
  | files {role : Option Role} {relaxed : Bool} {c : Config} {baseline fresh : String}
      {loading : List Event} (command : i.command = .verify role (some (baseline, fresh)) relaxed)
      (loaded : Runs (settings i.config).toProgram loading (.ok c)) :
      Locates rounds i loading ⟨relaxed || c.relaxed⟩ baseline fresh
  | role {role : Option Role} {relaxed : Bool} {c : Config} {fresh : String}
      {loading locating : List Event} (command : i.command = .verify role none relaxed)
      (loaded : Runs (settings i.config).toProgram loading (.ok c))
      (located : Runs (c.freshPath (role.getD .server)).toProgram locating (.ok fresh)) :
      Locates rounds i (loading ++ locating) ⟨relaxed || c.relaxed⟩
        (c.baselinePath (role.getD .server)) fresh

/-- The documents were read one after the other, are JSON, and can be compared. -/
inductive Compares (rounds : Nat) (i : Invocation) : List Event → Policy → Json → Json → Prop
  | intro {before after : List Event} {p : Policy} {baseline fresh textL textR : String}
      {left right : Json} (located : Locates rounds i before p baseline fresh)
      (baseline_parsed : Json.parse textL = .ok left) (fresh_parsed : Json.parse textR = .ok right)
      (comparable : Json.Comparable left right) :
      Compares rounds i
        (before ++ .fileRead baseline textL :: .fileRead fresh textR :: after) p left right

/-- Once the documents are known, they are judged, whatever comes after. -/
theorem Locates.resume {α : Type} {g : Except Failure Unit → Program α} {a : α}
    (h : Locates rounds i before p baseline fresh)
    (ran : Runs ((execute rounds i).toProgram.bind g) (before ++ rest) a) :
    ∃ tell, Runs ((judging p baseline fresh tell).toProgram.bind g) rest a := by
  unfold execute at ran
  cases h with
  | @gate role relaxed skips c report loading installing running logged command loaded installed
      gone =>
    obtain ⟨tell, same⟩ := gate_eq rounds c i.json role relaxed skips
    rw [command] at ran
    have asked := Action.resume ran loaded (List.append_assoc _ _ _)
    dsimp only at asked
    rw [same] at asked
    have looked : Runs (Action.lift (.isFile (c.baselinePath role))).toProgram
        [.fileFound (c.baselinePath role) true] (.ok true) :=
      Action.runs_lift_iff.mpr ⟨true, .ask (.done true), rfl⟩
    have read : Runs (Config.logSummary report).toProgram [⟨.readFile report.results, logged⟩]
        (.ok ()) := by
      rw [Config.logSummary_eq]
      exact .ask (.done _)
    have begun := Action.resume asked installed (List.append_assoc _ _ _)
    have started := Action.resume begun looked rfl
    have ended := Action.resume started gone (List.append_assoc _ _ _)
    have told := Action.resume ended read rfl
    exact ⟨tell report, told⟩
  | @files role relaxed c baseline fresh loading command loaded =>
    obtain ⟨tell, same⟩ := verify_files_eq c i.json role relaxed baseline fresh
    rw [command] at ran
    have found := Action.resume ran loaded rfl
    dsimp only at found
    rw [same] at found
    exact ⟨tell, found⟩
  | @role role relaxed c fresh loading locating command loaded located =>
    obtain ⟨tell, same⟩ := verify_role_eq c i.json role relaxed
    rw [command] at ran
    have found := Action.resume ran loaded (List.append_assoc _ _ _)
    dsimp only at found
    rw [same] at found
    have ended := Action.resume found located rfl
    exact ⟨tell fresh, ended⟩

variable {outcome : Except Failure Unit}

/-- A failure that keeps a command from a verdict: a usual one, or for a gate command the end of the
clock. -/
def Hinders (i : Invocation) (failure : Failure) : Prop :=
  failure.Usual ∨ failure = .beyondClock ∧ i.command.IsGate

/-- A command that judges is kept from it, or comes to know its documents. -/
theorem execute_cases (judges : i.command.Judges)
    (ran : Runs (execute rounds i).toProgram events outcome) :
    (∃ failure, outcome = .error failure ∧ Hinders i failure) ∨
    ∃ before rest p baseline fresh, events = before ++ rest ∧
      Locates rounds i before p baseline fresh := by
  obtain ⟨failure, hload, rfl⟩ | ⟨c, loading, rest, loaded, hrest, rfl⟩ :=
    Action.runs_bind_iff.mp ran
  · exact .inl ⟨failure, rfl, .inl ((fails_settings _).runs hload)⟩
  rcases command : i.command with ⟨role, relaxed, skips⟩ | ⟨role, _ | ⟨baseline, fresh⟩, relaxed⟩ |
    _ | _ | _
  case gate =>
    obtain ⟨tell, same⟩ := gate_eq rounds c i.json role relaxed skips
    simp only [command] at hrest
    rw [same] at hrest
    obtain ⟨failure, hinstall, rfl⟩ | ⟨⟨⟩, installing, rest, installed, hready, rfl⟩ :=
      Action.runs_bind_iff.mp hrest
    · exact .inl ⟨failure, rfl, .inl (Interrupts.fails_install.runs hinstall)⟩
    obtain ⟨failure, hlook, -⟩ | ⟨there, front, back, hlook, hgo, rfl⟩ :=
      Action.runs_bind_iff.mp hready
    · obtain ⟨_, -, failed⟩ := Action.runs_lift_iff.mp hlook
      cases failed
    obtain ⟨_, asked, found⟩ := Action.runs_lift_iff.mp hlook
    obtain ⟨reply, none, rfl, hdone⟩ := runs_ask_iff.mp asked
    obtain ⟨rfl, rfl⟩ := runs_done_iff.mp hdone
    obtain rfl := Except.ok.inj found
    cases there with
    | false =>
      obtain ⟨-, rfl⟩ := Action.runs_ofExcept_iff.mp hgo
      exact .inl ⟨_, rfl, .inl rfl⟩
    | true =>
      obtain ⟨failure, hrun, rfl⟩ | ⟨report, running, rest, gone, hlog, rfl⟩ :=
        Action.runs_bind_iff.mp hgo
      · have apart := (Orchestrator.fails_run _ _ _ _).runs hrun
        refine .inl ⟨failure, rfl, (Failure.usual_of_not_isRegression apart).imp_right ?_⟩
        exact fun late => ⟨late, by simp [command, Command.IsGate]⟩
      · rw [Action.toProgram_bind, Config.logSummary_eq] at hlog
        obtain ⟨logged, rest, rfl, -⟩ := runs_ask_iff.mp hlog
        have located : Locates rounds i (loading ++ (installing ++ .fileFound (c.baselinePath role)
            true :: (running ++ [⟨.readFile report.results, logged⟩]))) _ _ _ :=
          .gate command loaded installed gone
        exact .inr ⟨_, rest, _, _, _, by simp [Event.fileFound], located⟩
  case verify.none =>
    obtain ⟨tell, same⟩ := verify_role_eq c i.json role relaxed
    simp only [command] at hrest
    rw [same] at hrest
    obtain ⟨failure, hfind, rfl⟩ | ⟨fresh, locating, rest, located, -, rfl⟩ :=
      Action.runs_bind_iff.mp hrest
    · exact .inl ⟨failure, rfl, .inl ((c.fails_freshPath _).runs hfind)⟩
    · exact .inr ⟨_, rest, _, _, _, (List.append_assoc _ _ _).symm, .role command loaded located⟩
  case verify.some => exact .inr ⟨loading, rest, _, _, _, rfl, .files command loaded⟩
  all_goals
    rw [command] at judges
    exact judges.elim

/-- Judging ends as the documents make it end, if they are read, are JSON and can be compared. -/
theorem judging_resume {α : Type} {g : Except Failure Unit → Program α} {a : α}
    {tell : Verdict → String} {textL textR : String} {left right : Json} {after : List Event}
    (ran : Runs ((judging p baseline fresh tell).toProgram.bind g)
      (.fileRead baseline textL :: .fileRead fresh textR :: after) a)
    (hl : Json.parse textL = .ok left) (hr : Json.parse textR = .ok right)
    (comparable : Json.Comparable left right) :
    ∃ last, Runs (g (p.judge left right).accept) last a := by
  unfold judging at ran
  have second := Action.resume ran (Json.runs_load_iff.mpr ⟨textL, rfl, hl⟩) rfl
  have compared := Action.resume second (Json.runs_load_iff.mpr ⟨textR, rfl, hr⟩) rfl
  obtain ⟨-, verdict⟩ | ⟨h, -⟩ := p.verify_cases baseline fresh left right
  · have told := Action.resume compared (Action.runs_ofExcept_iff.mpr ⟨rfl, verdict.symm⟩) rfl
    obtain ⟨_, last, -, ended⟩ := runs_ask_iff.mp told
    exact ⟨last, ended⟩
  · exact absurd comparable h

/-- Two files that can be compared are read, the verdict is told, and it decides the outcome. -/
theorem runs_judging {textL textR : String} {left right : Json} {verdict : Verdict}
    (tell : Verdict → String) (hl : Json.parse textL = .ok left) (hr : Json.parse textR = .ok right)
    (compared : p.verify baseline left fresh right = .ok verdict) :
    Runs (judging p baseline fresh tell).toProgram [.fileRead baseline textL,
      .fileRead fresh textR, ⟨.print (tell verdict ++ "\n"), ()⟩] verdict.accept := by
  have first : Runs (Json.load baseline).toProgram [.fileRead baseline textL] (.ok left) :=
    Json.runs_load_iff.mpr ⟨textL, rfl, hl⟩
  have second : Runs (Json.load fresh).toProgram [.fileRead fresh textR] (.ok right) :=
    Json.runs_load_iff.mpr ⟨textR, rfl, hr⟩
  refine Action.runs_bind_iff.mpr (.inr ⟨left, _, _, first, ?_, rfl⟩)
  refine Action.runs_bind_iff.mpr (.inr ⟨right, _, _, second, ?_, rfl⟩)
  refine Action.runs_bind_iff.mpr (.inr ⟨verdict, [], _,
    Action.runs_ofExcept_iff.mpr ⟨rfl, compared.symm⟩, ?_, rfl⟩)
  exact .ask (.done _)

/-- Judging fails in a usual way, or both documents are read, are JSON, and can be compared. -/
theorem judging_cases {tell : Verdict → String}
    (ran : Runs (judging p baseline fresh tell).toProgram events outcome) :
    (∃ failure, outcome = .error failure ∧ failure.Usual) ∨
    ∃ textL textR left right after,
      events = .fileRead baseline textL :: .fileRead fresh textR :: after ∧
      Json.parse textL = .ok left ∧ Json.parse textR = .ok right ∧ Json.Comparable left right := by
  unfold judging at ran
  obtain ⟨failure, hload, rfl⟩ | ⟨left, front, rest, hl, hnext, rfl⟩ := Action.runs_bind_iff.mp ran
  · exact .inl ⟨failure, rfl, (Json.fails_load _).runs hload⟩
  obtain ⟨textL, rfl, parsedL⟩ := Json.runs_load_iff.mp hl
  obtain ⟨failure, hload, rfl⟩ | ⟨right, front, rest, hr, hverify, rfl⟩ :=
    Action.runs_bind_iff.mp hnext
  · exact .inl ⟨failure, rfl, (Json.fails_load _).runs hload⟩
  obtain ⟨textR, rfl, parsedR⟩ := Json.runs_load_iff.mp hr
  obtain ⟨comparable, -⟩ | ⟨-, path, cause, refused⟩ := p.verify_cases baseline fresh left right
  · exact .inr ⟨textL, textR, left, right, rest, rfl, parsedL, parsedR, comparable⟩
  · rw [refused] at hverify
    obtain ⟨failure, hfail, rfl⟩ | ⟨verdict, front, back, hfound, -⟩ :=
      Action.runs_bind_iff.mp hverify
    · obtain ⟨-, same⟩ := Action.runs_ofExcept_iff.mp hfail
      obtain rfl := Except.error.inj same
      exact .inl ⟨_, rfl, rfl⟩
    · obtain ⟨-, same⟩ := Action.runs_ofExcept_iff.mp hfound
      cases same

/-! ## Telling it in other words -/

theorem retells_judging (p : Policy) (baseline fresh : String) (tell tell' : Verdict → String) :
    (judging p baseline fresh tell).toProgram.Retells (judging p baseline fresh tell').toProgram :=
  Action.retells_bind (.refl _) fun _ => Action.retells_bind (.refl _) fun _ =>
    Action.retells_bind (.refl _) fun _ => Action.retells_bind (.print (.done _)) fun _ => .refl _

/-- The option for JSON changes only what a run of a role prints. -/
theorem retells_gate (rounds : Nat) (c : Config) (json json' : Bool) (role : Role)
    (relaxed skips : Bool) :
    (gate rounds c json role relaxed skips).toProgram.Retells
      (gate rounds c json' role relaxed skips).toProgram := by
  obtain ⟨tell, same⟩ := gate_eq rounds c json role relaxed skips
  obtain ⟨tell', same'⟩ := gate_eq rounds c json' role relaxed skips
  rw [same, same']
  refine Action.retells_bind (.refl _) fun _ => Action.retells_bind (.refl _) fun there => ?_
  split_ifs
  · exact Action.retells_bind (.refl _) fun report => Action.retells_bind (.refl _) fun _ =>
      retells_judging _ _ _ _ _
  · exact .refl _

/-- The option for JSON changes only what a comparison prints. -/
theorem retells_verify (c : Config) (json json' : Bool) (role : Option Role)
    (files : Option (String × String)) (relaxed : Bool) :
    (verify c json role files relaxed).toProgram.Retells
      (verify c json' role files relaxed).toProgram := by
  rcases files with _ | ⟨baseline, fresh⟩
  · obtain ⟨tell, same⟩ := verify_role_eq c json role relaxed
    obtain ⟨tell', same'⟩ := verify_role_eq c json' role relaxed
    rw [same, same']
    exact Action.retells_bind (.refl _) fun fresh => retells_judging _ _ _ _ _
  · obtain ⟨tell, same⟩ := verify_files_eq c json role relaxed baseline fresh
    obtain ⟨tell', same'⟩ := verify_files_eq c json' role relaxed baseline fresh
    rw [same, same']
    exact retells_judging _ _ _ _ _

/-- The option for JSON changes only what rendering prints. -/
theorem retells_render (c : Config) (json json' : Bool) (role : Option Role)
    (input html : Option String) (title : String) :
    (render c json role input html title).toProgram.Retells
      (render c json' role input html title).toProgram := by
  rw [render_eq, render_eq]
  exact Action.retells_bind (.refl _) fun input => Action.retells_bind (.refl _) fun found =>
    Action.retells_bind (.print (.done _)) fun _ => .refl _

/-- Whether values or texts are to be printed, a command does the same. -/
theorem retells_execute (rounds : Nat) (i : Invocation) (json : Bool) :
    (execute rounds i).toProgram.Retells (execute rounds { i with json := json }).toProgram := by
  refine Action.retells_bind (.refl _) fun c => ?_
  cases command : i.command with
  | gate role relaxed skips => exact retells_gate rounds c i.json json role relaxed skips
  | verify role files relaxed => exact retells_verify c i.json json role files relaxed
  | render role input html title => exact retells_render c i.json json role input html title
  | bless => exact .refl _
  | init => exact .refl _

/-! ## The exit code -/

def conclude : Except Failure Unit → Program Nat
  | .ok () => .done 0
  | .error failure =>
    (Program.warnLine ("\n".intercalate (failureLines failure))).bind fun _ =>
      .done failure.exitCode

/-- A command line that is understood runs its command, and then concludes. -/
theorem invoke_eq {args : List String} (understood : parse args = .run i) :
    invoke rounds args = (execute rounds i).toProgram.bind conclude := by
  unfold invoke
  rw [understood]
  refine congrArg (Program.bind (execute rounds i).toProgram) (funext fun outcome => ?_)
  rcases outcome with failure | ⟨⟩ <;> rfl

theorem runs_conclude {code : Nat} (ran : Runs (conclude outcome) events code) :
    code = exitCode outcome := by
  rcases outcome with failure | ⟨⟩
  · obtain ⟨_, rest, -, hdone⟩ := runs_ask_iff.mp ran
    exact (runs_done_iff.mp hdone).2
  · exact (runs_done_iff.mp ran).2

theorem exists_runs_conclude (outcome : Except Failure Unit) :
    ∃ events, Runs (conclude outcome) events (exitCode outcome) := by
  rcases outcome with failure | ⟨⟩
  · exact ⟨[⟨.warn _, ()⟩], .ask (.done _)⟩
  · exact ⟨[], .done _⟩

/-- On documents that can be compared, the exit code is that of their verdict. -/
theorem Compares.exitCode {code : Nat} {left right : Json}
    (h : Compares rounds i events p left right)
    (ran : Runs ((execute rounds i).toProgram.bind conclude) events code) :
    code = 0 ∧ p.Agree left right ∨ code = 64 ∧ ¬ p.Agree left right := by
  cases h with
  | intro located hl hr comparable =>
    obtain ⟨tell, judged⟩ := located.resume ran
    obtain ⟨last, ended⟩ := judging_resume judged hl hr comparable
    have agrees := p.judge_eq_agrees_iff (Json.parse_ordered hl) (Json.parse_ordered hr) comparable
    have code := runs_conclude ended
    cases verdict : p.judge left right <;> rw [verdict] at code agrees
    · exact .inl ⟨code, agrees.mp rfl⟩
    · exact .inr ⟨code, fun h => by cases agrees.mpr h⟩

/-- The run of a gate command was to compute a point in time that the clock does not reach. -/
def Panics (rounds : Nat) (i : Invocation) (events : List Event) : Prop :=
  i.command.IsGate ∧ ∃ front, front <+: events ∧
    Runs (execute rounds i).toProgram front (.error .beyondClock)

/-- Without a comparison, a command that judges ends with one, or because of the clock. -/
theorem exitCode_cases {code : Nat} (judges : i.command.Judges)
    (ran : Runs ((execute rounds i).toProgram.bind conclude) events code) :
    (∃ p left right, Compares rounds i events p left right) ∨
      code = 1 ∨ (code = 101 ∧ Panics rounds i events) := by
  obtain ⟨outcome, front, back, executed, concluded, rfl⟩ := Program.runs_bind_iff.mp ran
  have ended := runs_conclude concluded
  have hindered (h : ∃ failure, outcome = .error failure ∧ Hinders i failure) :
      code = 1 ∨ (code = 101 ∧ Panics rounds i (front ++ back)) := by
    obtain ⟨failure, rfl, usual | ⟨rfl, gate⟩⟩ := h
    · exact .inl (ended.trans usual)
    · exact .inr ⟨ended, gate, front, List.prefix_append front back, executed⟩
  obtain failed | ⟨before, rest, p, baseline, fresh, rfl, located⟩ := execute_cases judges executed
  · exact .inr (hindered failed)
  have whole := executed
  rw [← Program.bind_done (execute rounds i).toProgram] at whole
  obtain ⟨tell, judged⟩ := located.resume whole
  rw [Program.bind_done] at judged
  obtain ⟨failure, rfl, usual⟩ | ⟨textL, textR, left, right, after, rfl, hl, hr, comparable⟩ :=
    judging_cases judged
  · exact .inr (hindered ⟨failure, rfl, .inl usual⟩)
  · refine .inl ⟨p, left, right, ?_⟩
    have compares : Compares rounds i (before ++ .fileRead baseline textL ::
        .fileRead fresh textR :: (after ++ back)) p left right := .intro located hl hr comparable
    simpa using compares

/-- A command that judges ends with zero exactly if its documents were read, are JSON, can be
compared and agree, with 64 exactly if all this holds but that they agree, and with one in all other
cases, the end of the clock apart. Other commands end with zero or one. Only a gate command may go
on for ever, and whether values or texts are to be printed does not matter. -/
theorem invoke_exitCode {args : List String} (understood : parse args = .run i) :
    (¬ i.command.IsGate → (invoke rounds args).Halts) ∧
    ∀ events code, Runs (invoke rounds args) events code →
      (i.command.Judges →
        (code = 0 ↔ ∃ p left right, Compares rounds i events p left right ∧ p.Agree left right) ∧
        (code = 64 ↔ ∃ p left right, Compares rounds i events p left right ∧
          ¬ p.Agree left right) ∧
        (code = 0 ∨ code = 64 ∨ code = 1 ∨ (code = 101 ∧ Panics rounds i events))) ∧
      (¬ i.command.Judges → code = 0 ∨ code = 1) ∧
      ∀ args' json, parse args' = .run { i with json := json } →
        ∃ events', Runs (invoke rounds args') events' code ∧
          List.Forall₂ Event.Retells events events' := by
  rw [invoke_eq understood]
  constructor
  · intro single
    refine (halts_execute single).bind fun outcome => ?_
    rcases outcome with failure | ⟨⟩
    · exact fun _ => trivial
    · trivial
  intro events code ran
  refine ⟨fun judges => ?_, fun silent => ?_, fun args' json understood' => ?_⟩
  · have found : ∀ p left right, Compares rounds i events p left right →
        code = 0 ∧ p.Agree left right ∨ code = 64 ∧ ¬ p.Agree left right :=
      fun p left right h => h.exitCode ran
    have cases := exitCode_cases judges ran
    refine ⟨⟨?_, ?_⟩, ⟨?_, ?_⟩, ?_⟩
    · rintro rfl
      obtain ⟨p, left, right, h⟩ | other := cases
      · exact ⟨p, left, right, h, by simpa using found p left right h⟩
      · simp at other
    · rintro ⟨p, left, right, h, agrees⟩
      simpa [agrees] using found p left right h
    · rintro rfl
      obtain ⟨p, left, right, h⟩ | other := cases
      · exact ⟨p, left, right, h, by simpa using found p left right h⟩
      · simp at other
    · rintro ⟨p, left, right, h, differs⟩
      simpa [differs] using found p left right h
    · obtain ⟨p, left, right, h⟩ | other := cases
      · exact (found p left right h).elim (fun h => .inl h.1) fun h => .inr (.inl h.1)
      · exact .inr (.inr other)
  · obtain ⟨outcome, front, back, executed, concluded, rfl⟩ := Program.runs_bind_iff.mp ran
    rw [runs_conclude concluded]
    rcases outcome with failure | ⟨⟩
    · exact .inr ((fails_execute silent).runs executed)
    · exact .inl rfl
  · rw [invoke_eq understood']
    exact ((retells_execute rounds i json).bind fun outcome => .refl _).runs ran

def oneCase (status : String) : Json :=
  .object [("a", .object [("1.1.1", .object [("behavior", .string status)])])]

def passedText : String := "\x7b\"a\":\x7b\"1.1.1\":\x7b\"behavior\":\"OK\"\x7d\x7d\x7d"

def failedText : String := "\x7b\"a\":\x7b\"1.1.1\":\x7b\"behavior\":\"FAILED\"\x7d\x7d\x7d"

def fileArguments : List String := ["verify", "--baseline", "old.json", "--fresh", "new.json"]

def fileCommand : Invocation := ⟨none, false, .verify none (some ("old.json", "new.json")) false⟩

theorem parse_fileArguments : parse fileArguments = .run fileCommand := by cbv

/-- The files are there, and no settings. -/
theorem runs_fileArguments : ∃ events, Runs (invoke 1 fileArguments) events 64 := by
  have baseline : Json.parse passedText = .ok (oneCase "OK") := by cbv
  have fresh : Json.parse failedText = .ok (oneCase "FAILED") := by cbv
  obtain ⟨diff, differs⟩ : ∃ diff, Policy.verify ⟨false⟩ "old.json" (oneCase "OK") "new.json"
      (oneCase "FAILED") = .ok (.differs diff) := ⟨_, rfl⟩
  have loaded : Runs (settings none).toProgram
      [.fileFound Config.usualFile false, .fileFound Config.usualFile false] (.ok .usual) :=
    .ask (.ask (.done _))
  obtain ⟨tell, same⟩ := verify_files_eq .usual false none false "old.json" "new.json"
  have judged := runs_judging (p := ⟨false⟩) tell baseline fresh differs
  have executed : Runs (execute 1 fileCommand).toProgram _ (.error (.regression diff.text)) :=
    Action.runs_bind_iff.mpr (.inr ⟨.usual, _, _, loaded, same ▸ judged, rfl⟩)
  obtain ⟨last, concluded⟩ := exists_runs_conclude (.error (.regression diff.text))
  rw [invoke_eq parse_fileArguments]
  exact ⟨_, executed.bind concluded⟩

/-- Two files with a regression, given as operands: the exit code is 64, with the option for JSON
and without it. -/
theorem invoke_exitCode_regression :
    parse fileArguments = .run fileCommand ∧ fileCommand.command.Judges ∧
    parse ("--json" :: fileArguments) = .run { fileCommand with json := true } ∧
    ∃ events, Runs (invoke 1 fileArguments) events 64 ∧
      (∃ p left right, Compares 1 fileCommand events p left right ∧ ¬ p.Agree left right) ∧
      ∃ events', Runs (invoke 1 ("--json" :: fileArguments)) events' 64 := by
  have values : parse ("--json" :: fileArguments) = .run { fileCommand with json := true } := by cbv
  obtain ⟨events, ran⟩ := runs_fileArguments
  obtain ⟨judged, -, told⟩ := (invoke_exitCode parse_fileArguments).2 events 64 ran
  obtain ⟨events', ran', -⟩ := told _ true values
  have compared := (judged trivial).2.1.mp rfl
  exact ⟨parse_fileArguments, trivial, values, events, ran, compared, events', ran'⟩

end CommandLine
end ConformanceGate
