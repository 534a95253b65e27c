import ConformanceGate.CommandLine.Arguments
import ConformanceGate.Report.Page
import ConformanceGate.Report.Terminal
import ConformanceGate.Run.Gate
import ConformanceGate.Run.Interrupts

/-!
# Commands

What each command does. The exit code is zero on success, else that of the failure; a command line
that cannot be understood has a code of its own.
-/

namespace ConformanceGate.CommandLine

def durationJson (micros : Nat) : Json :=
  .object [("secs", .nat (micros / 1000000)), ("nanos", .nat (micros % 1000000 * 1000))]

def outcomeJson (o : GateOutcome) : Json :=
  .object [
    ("run", .object [("role", .string o.run.role.name), ("results_path", .string o.run.results),
      ("ready_after", durationJson o.run.readyAfter), ("elapsed", durationJson o.run.elapsed)]),
    ("baseline", .string o.baseline), ("relaxed", .bool o.relaxed), ("result", o.verdict.toJson)]

def outcomeLines (o : GateOutcome) : List String :=
  [ "Role: " ++ o.run.role.name ++ (if o.verdict.isMatch then " [PASS]" else " [REGRESSION]"),
    "Results: " ++ o.run.results,
    "Baseline: " ++ o.baseline,
    "Ready after: " ++ (o.run.readyAfter / 1000).repr ++ "ms",
    "Elapsed: " ++ (o.run.elapsed / 1000000).repr ++ "s" ] ++
  (if o.relaxed then ["NON-STRICT relaxed to OK"] else []) ++
  match o.verdict with
  | .agrees => []
  | .differs diff => ["Affected cases: " ++ ", ".intercalate diff.affectedCases]

def gate (rounds : Nat) (config : Config) (json : Bool) (role : Role)
    (relaxed skipPortCheck : Bool) : Action Unit := do
  let config := { config with relaxed := relaxed || config.relaxed }
  Interrupts.install
  let outcome ← config.runGate (.ofConfig config (!skipPortCheck)) rounds role
  Action.lift (.printLine (if json then (outcomeJson outcome).pretty
    else "\n".intercalate (outcomeLines outcome)))
  let _ ← Action.ofExcept outcome.accept

def verify (config : Config) (json : Bool) (role : Option Role) (files : Option (String × String))
    (relaxed : Bool) : Action Unit := do
  let role := role.getD .server
  let policy : Policy := ⟨relaxed || config.relaxed⟩
  let (baseline, fresh) ← match files with
    | some files => pure files
    | none => do
      let fresh ← config.freshPath role
      pure (config.baselinePath role, fresh)
  let verdict ← policy.verifyFiles baseline fresh
  let relation := if verdict.isMatch then " matches " else " differs from "
  Action.lift (.printLine (if json then verdict.toJson.pretty else fresh ++ relation ++ baseline))
  Action.ofExcept verdict.accept

/-- What leads from a page to the reports beside a results file: nothing if they stand together, a
relative path if the reports stand further down, else a full one. -/
def reportBase (cwd : List String) (input html : String) : String :=
  if input.isEmpty || html.isEmpty then ""
  else
    let reports := (Path.absolute cwd input).parent
    match Path.below? (Path.absolute cwd html).parent.parts reports.parts with
    | some [] => ""
    | some parts => "/".intercalate parts ++ "/"
    | none => "file://" ++ reports.text ++ "/"

def render (config : Config) (json : Bool) (role : Option Role) (input html : Option String)
    (title : String) : Action Unit := do
  let input ← match input with
    | some path => pure path
    | none => config.freshPath (role.getD .server)
  let summary := Summary.ofResults (← Results.load input)
  if json then Action.lift (.printLine summary.toJson.pretty)
  else Action.lift (.request (.print summary.terminalText))
  match html with
  | none => return
  | some path =>
    let cwd ← Action.lift (.request .currentDir)
    let today ← Action.lift (.request .today)
    let options : PageOptions := ⟨title, reportBase cwd input path, some today⟩
    Action.attempt ("writing " ++ path) (.writeFile path (summary.pageText options))

def blessRole (config : Config) (role : Role) : Action Unit := do
  let fresh ← config.freshPath role
  let baseline := config.baselinePath role
  bless fresh baseline
  Action.lift (.printLine ("Baseline " ++ baseline ++ " updated from " ++ fresh))

/-- Writes a spec unless the file is there already; `force` writes it anyway. -/
def initSpec (force : Bool) (spec : Spec) (path : String) : Action Unit := do
  let there ← Action.lift (.isThere path)
  if there && !force then
    Action.lift (.printLine (path ++ " exists; skipping (use --force to overwrite)"))
  else
    spec.save path
    Action.lift (.printLine ("Wrote " ++ spec.mode.name ++ " spec " ++ path))

def init (config : Config) (agent : String) (subjectPort harnessPort : UInt16) (force : Bool) :
    Action Unit := do
  initSpec force (.usualClient agent subjectPort "autobahn/server") (config.specPath .server)
  initSpec force (.usualServer harnessPort "autobahn/client") (config.specPath .client)

/-- The settings that a command calls for. If they are the usual ones, their file is looked for once
more, to tell the log where they come from. -/
def settings (path : Option String) : Action Config := do
  let config ← Config.load path
  if path.isNone then
    let _ ← Action.lift (.isFile Config.usualFile)
  return config

def execute (rounds : Nat) (invocation : Invocation) : Action Unit := do
  let config ← settings invocation.config
  let json := invocation.json
  match invocation.command with
  | .gate role relaxed skipPortCheck => gate rounds config json role relaxed skipPortCheck
  | .verify role files relaxed => verify config json role files relaxed
  | .render role input html title => render config json role input html title
  | .bless role => blessRole config role
  | .init agent subjectPort harnessPort force => init config agent subjectPort harnessPort force

def failureLines : Failure → List String
  | .regression report => ["Regression: results differ from baseline", report]
  | f => ["Error: " ++ f.message]

def versionLine : String := "wsconform 0.1.0"

def usageLines : List String :=
  [ "WebSocket conformance gate", "",
    "Usage: wsconform [--config <FILE>] [--json] [-v] <COMMAND>", "",
    "Commands:",
    "  server  Run the subject as a server against the harness, then verify",
    "  client  Run the subject as a client against the harness, then verify",
    "  verify  Compare results on disk against a baseline",
    "  render  Summarize a results document",
    "  bless   Replace a role's baseline with its current results",
    "  init    Write default harness spec files" ]

def invoke (rounds : Nat) (args : List String) : Program Nat := do
  match parse args with
  | .misuse =>
    .warnLine ("\n".intercalate usageLines)
    return 2
  | .help =>
    .printLine ("\n".intercalate usageLines)
    return 0
  | .version =>
    .printLine versionLine
    return 0
  | .run invocation =>
    match ← (execute rounds invocation).toProgram with
    | .ok () => return 0
    | .error f =>
      .warnLine ("\n".intercalate (failureLines f))
      return f.exitCode

end ConformanceGate.CommandLine
