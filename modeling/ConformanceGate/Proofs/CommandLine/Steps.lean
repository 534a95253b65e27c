import ConformanceGate.CommandLine.Commands
import ConformanceGate.Proofs.System.Outcomes

/-!
# Commands step by step

A command that judges gets to know its documents in one way or another, and then judges them
(`CommandLine.judging`). A command that summarizes finds its file, tells the summary, and writes a
page. What is told is one step of each, apart from all others.
-/

namespace ConformanceGate.CommandLine

open Program

/-- Compares two files, tells the verdict, and fails on a difference. -/
def judging (p : Policy) (baseline fresh : String) (tell : Verdict → String) : Action Unit := do
  let left ← Json.load baseline
  let right ← Json.load fresh
  let verdict ← Action.ofExcept (p.verify baseline left fresh right)
  Action.lift (.printLine (tell verdict))
  Action.ofExcept verdict.accept

theorem verifyFiles_bind (p : Policy) (baseline fresh : String) (tell : Verdict → String) :
    (p.verifyFiles baseline fresh >>= fun verdict =>
      Action.lift (.printLine (tell verdict)) >>= fun _ => Action.ofExcept verdict.accept) =
    judging p baseline fresh tell := by
  unfold Policy.verifyFiles judging
  simp only [LawfulMonad.bind_assoc]

/-- A gate command that knows its settings takes the signals over, looks for the baseline, runs, and
judges. -/
theorem gate_eq (rounds : Nat) (c : Config) (json : Bool) (role : Role) (relaxed skips : Bool) :
    ∃ tell : RunReport → Verdict → String, gate rounds c json role relaxed skips =
      Interrupts.install >>= fun _ => Action.lift (.isFile (c.baselinePath role)) >>= fun there =>
        if there then
          (Orchestrator.ofConfig { c with relaxed := relaxed || c.relaxed } (!skips)).run rounds
            role (c.role role) >>= fun report => Config.logSummary report >>= fun _ =>
              judging ⟨relaxed || c.relaxed⟩ (c.baselinePath role) report.results (tell report)
        else Action.ofExcept (.error (.infrastructure (.noBaseline (c.baselinePath role)))) := by
  let outcome (report : RunReport) (verdict : Verdict) : GateOutcome :=
    ⟨report, c.baselinePath role, relaxed || c.relaxed, verdict⟩
  refine ⟨fun report verdict => if json then (outcomeJson (outcome report verdict)).pretty
    else "\n".intercalate (outcomeLines (outcome report verdict)), ?_⟩
  unfold gate Config.runGate
  dsimp only
  refine congrArg _ (funext fun _ => ?_)
  rw [LawfulMonad.bind_assoc]
  refine congrArg _ (funext fun there => ?_)
  cases there with
  | false => rfl
  | true =>
    refine (LawfulMonad.bind_assoc _ _ _).trans (congrArg _ (funext fun report => ?_))
    refine (LawfulMonad.bind_assoc _ _ _).trans (congrArg _ (funext fun _ => ?_))
    refine Eq.trans ?_ (verifyFiles_bind _ _ _ _)
    refine (LawfulMonad.bind_assoc _ _ _).trans (congrArg _ (funext fun verdict => ?_))
    refine (LawfulMonad.pure_bind _ _).trans (congrArg _ (funext fun _ => ?_))
    cases verdict <;> rfl

/-- A comparison of two files that are given judges them. -/
theorem verify_files_eq (c : Config) (json : Bool) (role : Option Role) (relaxed : Bool)
    (baseline fresh : String) :
    ∃ tell : Verdict → String, verify c json role (some (baseline, fresh)) relaxed =
      judging ⟨relaxed || c.relaxed⟩ baseline fresh tell :=
  ⟨fun verdict => if json then verdict.toJson.pretty
    else fresh ++ (if verdict.isMatch then " matches " else " differs from ") ++ baseline,
    verifyFiles_bind _ _ _ _⟩

/-- A comparison by role judges the results that the spec of the role names against its baseline. -/
theorem verify_role_eq (c : Config) (json : Bool) (role : Option Role) (relaxed : Bool) :
    ∃ tell : String → Verdict → String, verify c json role none relaxed =
      c.freshPath (role.getD .server) >>= fun fresh =>
        judging ⟨relaxed || c.relaxed⟩ (c.baselinePath (role.getD .server)) fresh
          (tell fresh) := by
  refine ⟨fun fresh verdict => if json then verdict.toJson.pretty
    else fresh ++ (if verdict.isMatch then " matches " else " differs from ") ++
      c.baselinePath (role.getD .server), ?_⟩
  simp only [← verifyFiles_bind]
  rfl

def inputPath (c : Config) (role : Option Role) (input : Option String) : Action String :=
  match input with
  | some path => pure path
  | none => c.freshPath (role.getD .server)

def writePage (summary : Summary) (input : String) (html : Option String) (title : String) :
    Action Unit :=
  match html with
  | none => pure ()
  | some path => do
    let cwd ← Action.lift (.request .currentDir)
    let today ← Action.lift (.request .today)
    let options : PageOptions := ⟨title, reportBase cwd input path, some today⟩
    Action.attempt ("writing " ++ path) (.writeFile path (summary.pageText options))

/-- Summarizing results finds the file, loads it, prints once, and writes the page. -/
theorem render_eq (c : Config) (json : Bool) (role : Option Role) (input html : Option String)
    (title : String) :
    render c json role input html title =
      inputPath c role input >>= fun input => Results.load input >>= fun found =>
        Action.lift (.request (.print (if json then (Summary.ofResults found).toJson.pretty ++ "\n"
          else (Summary.ofResults found).terminalText))) >>= fun _ =>
            writePage (Summary.ofResults found) input html title := by
  unfold render inputPath
  cases input <;> cases json <;> rfl

end ConformanceGate.CommandLine
