import ConformanceGate.Path.Basic
import ConformanceGate.Spec.Address
import ConformanceGate.Text.Blank

/-!
# Harness specs

The file that tells the harness what to test, where to connect or listen, and where to write its
reports. There is one kind of spec for each mode.
-/

namespace ConformanceGate

/-- Which cases are run, by patterns. -/
structure Selection where
  cases : List String
  excluded : List String
  excludedByAgent : List (String × List String)
deriving DecidableEq

def Selection.all : Selection := ⟨["*"], [], []⟩

structure Target where
  agent : String
  url : String
  /-- Handed on to the harness as it is. -/
  options : Option Json

/-- The spec of a harness that connects to servers. -/
structure ClientSpec where
  outdir : String
  servers : List Target
  selection : Selection
  options : Option Json

/-- The spec of a harness that clients connect to. -/
structure ServerSpec where
  url : String
  outdir : String
  selection : Selection
  options : Option Json

/-- A harness spec of either kind. -/
inductive Spec
  | client (spec : ClientSpec)
  | server (spec : ServerSpec)

namespace Spec

def localUrl (port : UInt16) : String := "ws://127.0.0.1:" ++ port.toNat.repr

def usualClient (agent : String) (port : UInt16) (outdir : String) : Spec :=
  .client ⟨outdir, [⟨agent, localUrl port, none⟩], .all, none⟩

def usualServer (port : UInt16) (outdir : String) : Spec :=
  .server ⟨localUrl port, outdir, .all, none⟩

def mode : Spec → Mode
  | .client _ => .client
  | .server _ => .server

def outdir : Spec → String
  | .client spec => spec.outdir
  | .server spec => spec.outdir

/-- The results file, with a relative report directory seen from `base`. -/
def resultsIndex (spec : Spec) (base : String) : String :=
  Path.join (Path.join base spec.outdir) "index.json"

/-- The address of the listening side: the first server under test, or the harness. -/
def listenAddress : Spec → Except Flaw String
  | .client spec =>
    match spec.servers with
    | [] => .error .noServers
    | target :: _ => socketAddress target.url
  | .server spec => socketAddress spec.url

def urls : Spec → List String
  | .client spec => spec.servers.map (·.url)
  | .server spec => [spec.url]

/-- A spec can be used if it has a report directory and at least one url, and all urls can be read.
-/
def validate (spec : Spec) : Except Flaw Unit := do
  if Text.blank spec.outdir then throw .blankOutdir
  if spec.urls.isEmpty then throw .noServers
  for url in spec.urls do
    let _ ← socketAddress url

end Spec
end ConformanceGate
