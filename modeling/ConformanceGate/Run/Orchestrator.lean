import ConformanceGate.Run.Readiness
import ConformanceGate.Run.Supervision
import ConformanceGate.Storage.Settings

/-!
# Runs

A run pairs the subject with the harness. In the server role the subject listens and the harness
connects, in the client role it is the other way round. The listening side is started first; once
it is ready the connecting side is started and runs to its end. Both are stopped on every way out,
and nothing is tried twice.
-/

namespace ConformanceGate

/-- What a run needs to know. Times are in microseconds. -/
structure Orchestrator where
  harness : HarnessConfig
  workingDir : String
  timeout : Nat
  interval : Nat
  fixedDelay : Option Nat
  grace : Nat
  limit : Option Nat
  /-- Whether it is checked first that nothing listens at the address yet. -/
  precheck : Bool
deriving DecidableEq

/-- What a successful run reports. -/
structure RunReport where
  role : Role
  /-- The results file. -/
  results : String
  /-- How long it took until the listening side was ready. -/
  readyAfter : Nat
  /-- How long the run took. -/
  elapsed : Nat
deriving DecidableEq

namespace Orchestrator

def millis (n : Nat) : Nat := n * 1000

def seconds (n : Nat) : Nat := n * 1000000

def ofConfig (c : Config) (precheck : Bool) : Orchestrator where
  harness := c.harness
  workingDir := c.workingDir
  timeout := millis c.readiness.timeout
  interval := millis c.readiness.interval
  fixedDelay := c.readiness.fixedDelay.map millis
  grace := millis c.teardown.grace
  limit := c.runTimeout.map seconds
  precheck := precheck

def readiness (o : Orchestrator) (address : String) : Readiness :=
  match o.fixedDelay with
  | some delay => .fixed delay
  | none => .accepting address o.timeout o.interval

def harnessLaunch (o : Orchestrator) (mode : Mode) (spec : String) : Launch :=
  ⟨o.harness.program, o.harness.args ++ ["-m", mode.name, "-s", spec], some o.workingDir⟩

def subjectLaunch (o : Orchestrator) (rc : RoleConfig) : Except Failure Launch :=
  (Launch.ofCommand rc.subject (some o.workingDir)).mapError .config

def harnessLabel (mode : Mode) : String := "harness (" ++ mode.name ++ ")"

def subjectLabel (role : Role) : String := "subject " ++ role.name

/-- The listening side: what it is called, and its command. -/
def listening (o : Orchestrator) (role : Role) (rc : RoleConfig) (spec : String) :
    Except Failure (String × Launch) :=
  match role with
  | .server => (o.subjectLaunch rc).map fun launch => (subjectLabel role, launch)
  | .client => .ok (harnessLabel role.mode, o.harnessLaunch role.mode spec)

/-- The connecting side: what it is called, and its command. -/
def connecting (o : Orchestrator) (role : Role) (rc : RoleConfig) (spec : String) :
    Except Failure (String × Launch) :=
  match role with
  | .server => .ok (harnessLabel role.mode, o.harnessLaunch role.mode spec)
  | .client => (o.subjectLaunch rc).map fun launch => (subjectLabel role, launch)

/-- How the connecting side is called when it ends without success. -/
def connectingName : Role → String
  | .server => "harness"
  | .client => subjectLabel .client

def specPath (o : Orchestrator) (rc : RoleConfig) : String := Path.join o.workingDir rc.spec

/-- Ends a run: the harness must have written its results. -/
def finish (o : Orchestrator) (role : Role) (spec : Spec) (started readyAfter : Nat) :
    Program (Except Failure RunReport) := do
  let results := spec.resultsIndex o.workingDir
  if ← .isFile results then
    return .ok ⟨role, results, readyAfter, (← .now) - started⟩
  else return .error (.infrastructure (.noResults results))

/-- The part of a run during which both sides are up. -/
def runBoth (o : Orchestrator) (rounds : Nat) (role : Role) (spec : Spec) (started readyAfter : Nat)
    (listener connector : Child) : Program ((Except Failure RunReport × Child) × Child) := do
  let (ended, connector, listener) ←
    Supervision.supervise o.limit rounds connector listener
  match ended with
  | .error f => return ((.error f, listener), connector)
  | .ok status =>
    if status.success then
      let listener ← listener.terminate rounds
      return ((← o.finish role spec started readyAfter, listener), connector)
    else
      let cause := .unsuccessful (connectingName role) status
      return ((.error (.infrastructure cause), listener), connector)

/-- The part of a run during which the listening side is up. -/
def runListener (o : Orchestrator) (rounds : Nat) (role : Role) (rc : RoleConfig) (spec : Spec)
    (address : String) (started : Nat) (listener : Child) :
    Program (Except Failure RunReport × Child) := do
  match ← (o.readiness address).wait rounds listener with
  | (.error f, listener) => return (.error f, listener)
  | (.ok readyAfter, listener) =>
    match o.connecting role rc (o.specPath rc) with
    | .error f => return (.error f, listener)
    | .ok (label, launch) =>
      match ← Child.spawn label launch o.grace with
      | .error f => return (.error f, listener)
      | .ok connector =>
        let (outcome, connector) ← o.runBoth rounds role spec started readyAfter listener connector
        let _ ← connector.terminate rounds
        return outcome

def run (o : Orchestrator) (rounds : Nat) (role : Role) (rc : RoleConfig) : Action RunReport := do
  let started ← Action.lift .now
  let spec ← Spec.load role.mode (o.specPath rc)
  let address ← Action.ofFlaw spec.listenAddress
  if o.precheck then Endpoint.ensureFree address
  let (label, launch) ← Action.ofExcept (o.listening role rc (o.specPath rc))
  Action.ofProgram
    (Child.during rounds label launch o.grace (o.runListener rounds role rc spec address started))

end Orchestrator
end ConformanceGate
