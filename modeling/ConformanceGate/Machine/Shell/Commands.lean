import ConformanceGate.Machine.Shell.Builtins

/-!
# Carrying out commands

Commands are taken apart until a simple one is left, which the script carries out itself or leaves
to a process of its own.
-/

namespace ConformanceGate.Machine.Shell

/-! ## Simple commands -/

/-- The process with variables that are set for one command, and what they were before. -/
def withAssignments (p : Process) (assignments : List (String × String)) :
    Process × List (String × Option Variable) :=
  assignments.foldl (fun (p, saved) (name, value) =>
    let saved := if saved.any (·.1 == name) then saved else (name, p.bindings.lookup name) :: saved
    (p.putVariable name ⟨some value, true, p.isFixed name⟩, saved)) (p, [])

def assigned (p : Process) (assignments : List (String × String)) : Process :=
  assignments.foldl (fun p (name, value) => p.assign name value) p

/-- Leaves a program to a process of its own, or becomes it if nothing else is left to do. -/
def runProgram (m : Machine) (p child : Process) (name : String) (args : List String) : Machine :=
  match m.commandOf child name args with
  | .error e =>
    -- a name that is searched for is not found unless it can be run
    proceed m p (if '/' ∈ name.toList then statusOf e else 127)
  | .ok (found, args) =>
    let child := { child with name := name }
    if p.todo.isEmpty && p.traps.isEmpty then
      m.put { child with todo := [.program found args], due := m.clock + startTime }
    else m.delegate p child [.program found args]

def call (m : Machine) (p : Process) (body : Command) (args : List String)
    (saved : List (String × Option Variable)) : Machine :=
  let after : List Step := if saved.isEmpty then [] else [.bindings saved]
  goOn m { p with args := args, frames := [] :: p.frames }
    ([.run body .none, .endFunction p.args] ++ after)

/-- The options and the name of a command that is run without regard for functions. -/
def readCommandOptions : List String → Option Bool × List String
  | "-v" :: rest => (some false, rest)
  | "-V" :: rest => (some true, rest)
  | "-p" :: rest => readCommandOptions rest
  | "--" :: rest => (none, rest)
  | rest => (none, rest)

/-- Carries out a command by its name and arguments. `streams` is what its streams lead to, and
functions count only if `asWritten` is set. -/
def runNamed (m : Machine) (p : Process) (streams : List (Nat × Nat))
    (assignments : List (String × String)) (asWritten : Bool) (name : String)
    (args : List String) : Machine :=
  let redirected (p : Process) (saved : List (String × Option Variable)) : Process :=
    let after : List Step := if saved.isEmpty then [] else [.bindings saved]
    if streams = p.streams then { p with todo := after ++ p.todo }
    else { p with streams := streams, todo := after ++ .streams p.streams :: p.todo }
  let fixed := assignments.any fun a => p.isFixed a.1
  if fixed then abandon m p 2
  else if name = "exec" then
    let args := if args.head? = some "--" then args.tail else args
    match args with
    | [] => proceed m { assigned p assignments with streams := streams } 0
    | name :: args =>
      become m { (withAssignments p assignments).1 with streams := streams } name args
  else if name ∈ special then
    match builtins.lookup name with
    | some run => run m (redirected (assigned p assignments) []) args
    | none => proceed m p 127
  else
    let (q, saved) := withAssignments p assignments
    match asWritten, p.functions.lookup name with
    | true, some body =>
      let q := if streams = p.streams then q
        else { q with streams := streams, todo := .streams p.streams :: q.todo }
      call m q body args saved
    | _, _ =>
      match builtins.lookup name with
      | some run => run m (redirected q saved) args
      | none => runProgram m p { q with streams := streams } name args

/-- Carries out a simple command whose words are expanded. `outputStatus` is the status of the last
command within its words. -/
def runPrepared (m : Machine) (p : Process) (c : Prepared) (outputStatus : Option Nat) : Machine :=
  let isSpecial := (c.fields.head?).any (· ∈ special)
  match m.redirect p p.streams c.redirections with
  | (m, none) => if isSpecial then abandon m p 2 else proceed m p 2
  | (m, some streams) =>
    let m := m.tidy (streams.map (·.2))
    match c.fields with
    | [] => proceed m p (outputStatus.getD 0)
    | "command" :: args =>
      match readCommandOptions args with
      | (some sentences, names) =>
        let q := if streams = p.streams then p
          else { p with streams := streams, todo := .streams p.streams :: p.todo }
        describe sentences m q names
      | (none, []) => proceed m p 0
      | (none, name :: args) => runNamed m p streams c.assignments false name args
    | name :: args => runNamed m p streams c.assignments true name args

/-! ## Compound commands -/

/-- Starts the commands of a pipeline one after the other, the next one reading what the one before
writes. `input` is where the first one reads. -/
def startPiped (base : Process) (m : Machine) (input : Option Nat) (started : List Nat) :
    List Command → Machine × List Nat
  | [] => (m, started)
  | c :: rest =>
    let others (streams : List (Nat × Nat)) (stream : Nat) (id : Option Nat) : List (Nat × Nat) :=
      match id with
      | some id => (stream, id) :: streams.filter (·.1 ≠ stream)
      | none => streams
    let (m, ends) : Machine × Option (Nat × Nat) :=
      if rest.isEmpty then (m, none)
      else
        let (m, _, reader, writer) := m.openPipe
        (m, some (reader, writer))
    let streams := others (others base.streams 0 input) 1 (ends.map (·.2))
    let child := { fork base [.run c .none] (m.clock + forkTime) with streams := streams }
    let (m, pid) := m.add child
    startPiped base m (ends.map (·.1)) (started ++ [pid]) rest

/-- A process as the start of a background command: it does not hear interrupts, and reads nothing.
-/
def inBackground (p : Process) : Process :=
  { p with
    ignored := 2 :: 3 :: p.ignored, deaf := 2 :: 3 :: p.deaf
    streams := (0, 0) :: p.streams.filter (·.1 ≠ 0) }

/-- Starts a command and goes on at once. -/
def runInBackground (m : Machine) (p : Process) (c : Command) : Machine :=
  let base := inBackground p
  match c with
  | .pipeline commands =>
    let (m, pids) := startPiped { base with tested := false, todo := [] } m none [] commands
    proceed m { p with jobs := pids.getLast?.toList ++ p.jobs } 0
  | c =>
    let child := { fork base [.run c .none] (m.clock + forkTime) with tested := false }
    let (m, pid) := m.add child
    proceed m { p with jobs := pid :: p.jobs } 0

def chooseArm (fs : Files) (subject : String) :
    List (List Word × Command) → Expanding (Option Command)
  | [] => return none
  | (patterns, body) :: rest => do
    let hit ← patterns.anyM fun w => do
      return isMatch (patternOf (← Expanding.whole w)) subject.toList
    if hit then return some body else chooseArm fs subject rest

def runCommand (m : Machine) (p : Process) (command : Command) (answers : Answers) : Machine :=
  match command with
  | .simple assignments words redirections =>
    expanding m p answers command (Expanding.simple m.files assignments words redirections)
      fun p c => runPrepared m p c answers.status
  | .sequence cs => goOn m p (cs.map (.run · .none))
  | .both first second => goOn m p [.run first .none, .join true second]
  | .either first second => goOn m p [.run first .none, .join false second]
  | .negate c => goOn m p [.run c .none, .flip]
  | .loop stop condition body =>
    goOn m p [.run condition .none, .test stop condition body 0]
  | .branch condition yes no => goOn m p [.run condition .none, .choose yes no]
  | .each name words body =>
    expanding m p answers command (Expanding.fields m.files words) fun p values =>
      if values.isEmpty then goOn m { p with status := 0 } []
      else goOn m p [.each name values body]
  | .choice subject arms =>
    let choose : Expanding (Option Command) := do
      chooseArm m.files (← Expanding.text subject) arms
    expanding m p answers command choose fun p arm =>
      match arm with
      | some (.sequence []) | none => goOn m { p with status := 0 } []
      | some body => goOn m p [.run body .none]
  | .group c =>
    if p.todo.isEmpty && p.traps.isEmpty then goOn m p [.run c .none]
    else m.delegate p p [.run c .none]
  | .pipeline cs =>
    let (m, pids) := startPiped p m none [] cs
    m.awaitAll p pids
  | .redirected c redirections =>
    expanding m p answers command (redirections.mapM Expanding.redirection) fun p rs =>
      match m.redirect p p.streams rs with
      | (m, none) => goOn m { p with status := 2 } []
      | (m, some streams) =>
        goOn (m.tidy (streams.map (·.2))) { p with streams := streams }
          [.run c .none, .streams p.streams]
  | .background c => runInBackground m p c
  | .define name body =>
    goOn m { p with
      status := 0, functions := (name, body) :: p.functions.filter (·.1 != name) } []

end ConformanceGate.Machine.Shell
