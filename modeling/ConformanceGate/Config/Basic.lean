import ConformanceGate.Failure
import ConformanceGate.Path.Basic
import ConformanceGate.Text.Blank

/-!
# Configuration

Every setting has a usual value, so a configuration names only what differs. Times are in
milliseconds unless said otherwise.
-/

namespace ConformanceGate

/-- How the harness is started. -/
structure HarnessConfig where
  program : String
  /-- Arguments before those that every run gives. -/
  args : List String
deriving DecidableEq

/-- How it is found out that the listening side accepts connections. -/
structure ReadinessConfig where
  timeout : Nat
  interval : Nat
  /-- A fixed time to wait instead of probing. -/
  fixedDelay : Option Nat
deriving DecidableEq

structure TeardownConfig where
  /-- The time between asking a process to end and killing it. -/
  grace : Nat
deriving DecidableEq

/-- The files and the subject of one role. -/
structure RoleConfig where
  spec : String
  baseline : String
  /-- The program under test, followed by its arguments. -/
  subject : List String
deriving DecidableEq

structure Config where
  /-- Relative paths are seen from here, and processes are started here. -/
  workingDir : String
  /-- Whether `NON-STRICT` counts as `OK`. -/
  relaxed : Bool
  /-- How many seconds a run may take. -/
  runTimeout : Option Nat
  harness : HarnessConfig
  readiness : ReadinessConfig
  teardown : TeardownConfig
  server : RoleConfig
  client : RoleConfig
deriving DecidableEq

def RoleConfig.usual : Role → RoleConfig
  | .server => ⟨"autobahn/fuzzingclient.json", "autobahn/server-results.json",
      ["target/debug/examples/autobahn-server"]⟩
  | .client => ⟨"autobahn/fuzzingserver.json", "autobahn/client-results.json",
      ["target/debug/examples/autobahn-client"]⟩

namespace Config

def usual : Config where
  workingDir := "."
  relaxed := false
  runTimeout := none
  harness := ⟨"wstest", []⟩
  readiness := ⟨10000, 100, none⟩
  teardown := ⟨2000⟩
  server := .usual .server
  client := .usual .client

def role (c : Config) : Role → RoleConfig
  | .server => c.server
  | .client => c.client

def resolve (c : Config) (path : String) : String := Path.join c.workingDir path

def hasProgram (subject : List String) : Bool :=
  subject.head?.any fun program => !Text.blank program

def validate (c : Config) : Except Flaw Unit := do
  if Text.blank c.harness.program then throw .blankProgram
  if c.readiness.interval = 0 then throw .zeroInterval
  if c.readiness.timeout < c.readiness.interval then throw .shortTimeout
  if !hasProgram c.server.subject then throw (.blankSubject .server)
  if !hasProgram c.client.subject then throw (.blankSubject .client)

end Config
end ConformanceGate
