import ConformanceGate.CaseId.Basic
import ConformanceGate.Document.Mismatch
import ConformanceGate.Json.Printer
import ConformanceGate.System.Error
import ConformanceGate.System.ExitStatus

/-!
# Failures

Everything that can keep a command from passing, by its cause. A regression, that is results which
differ from the baseline, has an exit code of its own; every other failure shares one.
-/

namespace ConformanceGate

/-- Which side of the connection the subject plays. -/
inductive Role
  | server
  | client
deriving DecidableEq

def Role.name : Role → String
  | .server => "server"
  | .client => "client"

/-- How the harness runs: as a client of servers under test, or as a server for clients under test.
-/
inductive Mode
  | client
  | server
deriving DecidableEq

def Mode.name : Mode → String
  | .client => "fuzzingclient"
  | .server => "fuzzingserver"

/-- The harness plays the side that the subject does not. -/
def Role.mode : Role → Mode
  | .server => .client
  | .client => .server

/-- What broke around the two processes of a run. -/
inductive Breakdown
  | notStarted (label program : String) (error : SystemError)
  | exitedBeforeReady (label : String) (status : ExitStatus)
  | exitedBeforeEnd (label : String) (status : ExitStatus) (running : String)
  | unfinished (label : String)
  | unsuccessful (label : String) (status : ExitStatus)
  | noResults (path : String)
  | noBaseline (path : String)
  | portTaken (address : String)
  | cannotBind (address : String) (error : SystemError)
  | other (text : String)

/-- What is wrong with a setting, a spec or an address. -/
inductive Flaw
  /-- The configuration text is malformed. -/
  | syntaxError
  /-- A dotted key of the configuration text has too many parts. -/
  | keyTooDeep
  /-- A value of the configuration does not fit. -/
  | setting (mismatch : Mismatch)
  | blankProgram
  | zeroInterval
  | shortTimeout
  | blankSubject (role : Role)
  /-- A flaw of the configuration in this file. -/
  | within (path : String) (flaw : Flaw)
  | spec (mode : Mode) (path : String) (refusal : Refusal)
  | blankOutdir
  | noServers
  | noWebsocket (url : String)
  | noHost (url : String)
  | badPort (url : String)
  | emptyCommand
  | unresolved (address reason : String)
  | noAddresses (address : String)
  | other (text : String)

/-- Where a results document departs from its form. -/
inductive Irregularity
  | document
  | agent (name : String)
  | case (agent key : String)
  | missingAgent (name : String)
  | caseId (agent key : String)
  | record (agent key : String) (mismatch : Mismatch)
  | other (text : String)

/-- Why a command does not pass. -/
inductive Failure
  | infrastructure (cause : Breakdown)
  | notReady (address : String) (waitedMicros : Nat)
  | regression (report : String)
  | unreadable (path : String) (fault : Fault)
  | irregular (path : String) (cause : Irregularity)
  | config (flaw : Flaw)
  | system (context : String) (error : SystemError)
  | interrupted
  /-- A point in time lies beyond the end of the clock. -/
  | beyondClock

def Fault.text : Fault → String
  | .ended => "unexpected end of text"
  | .malformed => "malformed text"

def positionalLayout : Double.Layout := ⟨-400, 400⟩

def Refusal.text (layout : Double.Layout) : Refusal → String
  | .fault f => f.text
  | .mismatch m => m.text layout

namespace Breakdown

/-- How a program is shown; a name that the system cannot take is not shown at all. -/
def shownProgram (program : String) : String :=
  Text.quoted (if '\x00' ∈ program.toList then "<string-with-nul>" else program)

def text : Breakdown → String
  | .notStarted label program error =>
    "failed to start " ++ label ++ " (" ++ shownProgram program ++ "): " ++ error.text
  | .exitedBeforeReady label status =>
    label ++ " exited with " ++ status.text ++ " before accepting connections"
  | .exitedBeforeEnd label status running =>
    label ++ " exited with " ++ status.text ++ " while " ++ running ++ " was running"
  | .unfinished label => label ++ " did not finish within the run timeout"
  | .unsuccessful label status => label ++ " exited with " ++ status.text
  | .noResults path => "harness produced no results at " ++ path
  | .noBaseline path => "baseline " ++ path ++ " not found"
  | .portTaken address => "port " ++ address ++ " already in use"
  | .cannotBind address error => "cannot bind " ++ address ++ ": " ++ error.text
  | .other text => text

end Breakdown

namespace Flaw

def text : Flaw → String
  | .syntaxError => "TOML parse error"
  | .keyTooDeep => "recursion limit\n"
  | .setting mismatch => "TOML parse error: " ++ mismatch.text positionalLayout
  | .blankProgram => "harness.program is empty"
  | .zeroInterval => "readiness.interval_ms must be positive"
  | .shortTimeout => "readiness.timeout_ms must be at least readiness.interval_ms"
  | .blankSubject role => role.name ++ ".subject has no program"
  | .within path flaw => path ++ ": " ++ flaw.text
  | .spec mode path refusal =>
    "invalid " ++ mode.name ++ " spec " ++ path ++ ": " ++ refusal.text Json.numberLayout
  | .blankOutdir => "harness spec has an empty outdir"
  | .noServers => "fuzzingclient spec lists no servers"
  | .noWebsocket url => "not a websocket url: " ++ Text.quoted url
  | .noHost url => "websocket url has no host: " ++ Text.quoted url
  | .badPort url => "invalid port in websocket url " ++ Text.quoted url
  | .emptyCommand => "empty command line"
  | .unresolved address reason => "cannot resolve " ++ address ++ ": " ++ reason
  | .noAddresses address => address ++ " resolves to no addresses"
  | .other text => text

end Flaw

namespace Irregularity

def text : Irregularity → String
  | .document => "top level must be an object of implementations"
  | .agent name => "implementation " ++ Text.quoted name ++ " must map case ids to cases"
  | .case name key => "case " ++ name ++ "/" ++ key ++ " must be an object"
  | .missingAgent name =>
    "implementation " ++ Text.quoted name ++ " from the baseline has no results"
  | .caseId name key => name ++ ": " ++ CaseId.refusal key
  | .record name key mismatch => name ++ "/" ++ key ++ ": " ++ mismatch.text Json.numberLayout
  | .other text => text

end Irregularity

namespace Failure

def message : Failure → String
  | .infrastructure cause => "infrastructure failure: " ++ cause.text
  | .notReady address waited =>
    address ++ " not accepting connections after " ++ (waited / 1000).repr ++ "ms"
  | .regression report => "results differ from baseline:\n" ++ report
  | .unreadable path fault => "failed to parse " ++ path ++ ": " ++ fault.text
  | .irregular path cause => "schema error in " ++ path ++ ": " ++ cause.text
  | .config flaw => "configuration error: " ++ flaw.text
  | .system context error => context ++ ": " ++ error.text
  | .interrupted => "interrupted by signal"
  | .beyondClock => "overflow when adding duration to instant"

/-- A regression is told apart from all else. -/
def isRegression : Failure → Bool
  | .regression _ => true
  | _ => false

def exitCode : Failure → Nat
  | .regression _ => 64
  | .beyondClock => 101
  | _ => 1

end Failure
end ConformanceGate
