import ConformanceGate.Run.Orchestrator
import ConformanceGate.Storage.Documents

/-!
# The gate

A run followed by a comparison of its results with the role's baseline.
-/

namespace ConformanceGate

/-- The outcome of a run and its comparison. -/
structure GateOutcome where
  run : RunReport
  baseline : String
  relaxed : Bool
  verdict : Verdict

namespace GateOutcome

def accept (o : GateOutcome) : Except Failure RunReport := o.verdict.accept.map fun () => o.run

end GateOutcome

namespace Config

/-- How strictly the settings say that results are compared. -/
def policy (c : Config) : Policy := ⟨c.relaxed⟩

def specPath (c : Config) (role : Role) : String := c.resolve (c.role role).spec

def baselinePath (c : Config) (role : Role) : String := c.resolve (c.role role).baseline

/-- The results file that the harness writes for a role, as its spec says. -/
def freshPath (c : Config) (role : Role) : Action String := do
  let spec ← Spec.load role.mode (c.specPath role)
  return spec.resultsIndex c.workingDir

def verifyRole (c : Config) (role : Role) : Action Verdict := do
  let fresh ← c.freshPath role
  c.policy.verifyFiles (c.baselinePath role) fresh

/-- Reads the results for the log. Whether that works out does not matter to the run. -/
def logSummary (report : RunReport) : Action Unit :=
  Action.lift do
    let _ ← (Results.load report.results).toProgram
    return ()

/-- Runs a role and compares its results with its baseline, which has to be there before the run. -/
def runGate (c : Config) (o : Orchestrator) (rounds : Nat) (role : Role) : Action GateOutcome := do
  let baseline := c.baselinePath role
  if !(← Action.lift (.isFile baseline)) then throw (.infrastructure (.noBaseline baseline))
  let report ← o.run rounds role (c.role role)
  logSummary report
  let verdict ← c.policy.verifyFiles baseline report.results
  return ⟨report, baseline, c.relaxed, verdict⟩

end Config
end ConformanceGate
