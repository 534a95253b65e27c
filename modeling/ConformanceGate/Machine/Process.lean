import ConformanceGate.Machine.Script.Reader
import ConformanceGate.System.ExitStatus

/-!
# Processes

A process of the machine goes through a list of steps, one at a time, or waits for other processes
or for input. A signal ends it, is ignored, or makes it run what it has set up for that signal.
-/

namespace ConformanceGate.Machine

/-- A variable of a script; it may be declared without a value. -/
structure Variable where
  value : Option String
  /-- Whether programs that are started get it. -/
  exported : Bool
  /-- Whether it can no longer change. -/
  fixed : Bool

abbrev Bindings := List (String × Variable)

/-- The outputs of the commands within the words of a command, as far as they are known, and the
status of the last of these commands. -/
structure Answers where
  outputs : List String
  status : Option Nat

def Answers.none : Answers := ⟨[], .none⟩

/-- What a process has to do next. -/
inductive Step
  | run (command : Command) (answers : Answers)
  /-- Takes up the output of a command within a word of another command. -/
  | collect (pipe child : Nat) (output : ByteArray) (command : Command) (answers : Answers)
  /-- Reads the next line of a script; `isWhole` tells that the end of the text is known. -/
  | read (text : List Char) (isWhole : Bool)
  /-- Runs a command if the one before succeeded, or if it failed. -/
  | join (onSuccess : Bool) (command : Command)
  | flip
  | choose (yes no : Command)
  /-- Decides after the condition of a loop; `last` is the status of the body so far. -/
  | test (stopOnSuccess : Bool) (condition body : Command) (last : Nat)
  /-- Goes back to the condition of a loop. -/
  | again (stopOnSuccess : Bool) (condition body : Command)
  /-- Runs a body for each of the values left. -/
  | each (name : String) (values : List String) (body : Command)
  /-- Brings back the status from before a signal was handled. -/
  | restore (status : Nat)
  /-- Brings back the streams from before a command. -/
  | streams (saved : List (Nat × Nat))
  /-- Brings back variables from before a command. -/
  | bindings (saved : List (String × Option Variable))
  /-- The end of a function, with the arguments from before. -/
  | endFunction (args : List String)
  /-- The end of a script that was read into this one. -/
  | endFile
  /-- The end of a text that was run as commands. -/
  | endText
  /-- Reads a line of the input into variables; `line` is what was read of it so far, the last octet
  first. -/
  | input (raw : Bool) (names : List String) (line : List Char)
  /-- Writes the output of a command, which then has the status. -/
  | emit (output : ByteArray) (status : Nat)
  /-- Writes the output of a program, which then ends. -/
  | print (output : ByteArray) (status : Nat)
  /-- Becomes a program. -/
  | program (name : String) (args : List String)
  /-- Reads all of the input for a program. -/
  | gather (name : String) (args : List String) (input : ByteArray)
  /-- Passes the input on to the output and to other streams. -/
  | pass (others : List Nat) (status : Nat)
  /-- Writes a text over and over. -/
  | flood (text : ByteArray)
  /-- Sends a signal to a process at a time, and later perhaps kills it; ends as it ended, or with a
  code of its own if it was late and `keeps` is not set. -/
  | guard (child signal : Nat) (deadline killAfter : Option Nat) (late keeps : Bool)
  /-- Runs programs one after the other; `failed` tells of those before. -/
  | batch (calls : List (String × List String)) (failed : Bool)
  | finish (code : Nat)

/-- What a process waits for. -/
inductive Waiting
  /-- The end of processes. A signal that is handled ends the waiting if it is `breakable`. The
  status is that of the `deciding` one; `settles` tells whether it becomes that of a command. -/
  | processes (pids : List Nat) (breakable : Bool) (deciding : Option Nat) (status : Nat)
      (settles : Bool)
  /-- Something to read. -/
  | input (pipe : Nat)
  /-- Room to write. -/
  | room (pipe : Nat)

structure Process where
  pid : Nat
  parent : Nat
  group : Nat
  todo : List Step
  /-- The time of the next step. -/
  due : Nat
  waiting : Option Waiting
  suspended : Bool
  ignored : List Nat
  /-- The signals that were ignored from the start and stay so. -/
  deaf : List Nat
  /-- What is run for a signal; number zero is the end of the process. -/
  traps : List (Nat × String)
  /-- Signals that came and were not handled yet. -/
  pending : List Nat
  /-- The process that `$$` means. -/
  shell : Nat
  name : String
  args : List String
  directory : List String
  bindings : Bindings
  /-- The variables that each function under way has made its own, the innermost first. -/
  frames : List (List (String × Option Variable))
  functions : List (String × Command)
  /-- The open streams and what they lead to. -/
  streams : List (Nat × Nat)
  /-- The background processes, the last one first. -/
  jobs : List Nat
  /-- How far the argument was used from which options are taken. -/
  optionPlace : Option Nat
  status : Nat
  /-- The options that are set, by their letters. -/
  flags : List Char
  /-- Whether the status of all that runs here is looked at by the process that made it. -/
  tested : Bool
  ended : Option ExitStatus

def codeOf : ExitStatus → Nat
  | .exited code => code
  | .signaled signal => 128 + signal

namespace Process

def isLive (p : Process) : Bool := p.ended.isNone

def close (p : Process) (status : ExitStatus) : Process := { p with ended := some status }

def held (p : Process) : List Nat :=
  p.streams.map (·.2) ++ p.todo.flatMap fun step =>
    match step with
    | .streams saved => saved.map (·.2)
    | _ => []

def isBorder : Step → Bool
  | .endFile | .restore _ => true
  | _ => false

def isTested (p : Process) : Bool :=
  let inner := p.todo.takeWhile fun step => !isBorder step
  (p.tested && inner.length == p.todo.length) || inner.any fun step =>
    match step with
    | .join .. | .flip | .choose .. | .test .. => true
    | _ => false

/-- Ends a script with a code, after what it has set up for its end. -/
def leave (p : Process) (code due : Nat) : Process :=
  match p.traps.lookup 0 with
  | none => { p with todo := [.finish code], due := due }
  | some action =>
    { p with
      todo := [.read action.toList true, .finish code], due := due, status := code
      traps := p.traps.filter (·.1 ≠ 0) }

def settle (p : Process) (status due : Nat) : Process :=
  if 'e' ∈ p.flags && status ≠ 0 && !p.isTested then p.leave status due
  else { p with status := status, due := due }

def isGuardOf (p : Process) (pid : Nat) : Bool :=
  match p.todo with
  | .guard child .. :: _ => child == pid
  | _ => false

def release (p : Process) (pid : Nat) (ended : ExitStatus) (due : Nat) : Process :=
  match p.waiting with
  | some (.processes pids breakable deciding status settles) =>
    if pid ∈ pids then
      let status := if deciding = some pid then codeOf ended else status
      match pids.filter (· ≠ pid) with
      | [] =>
        let p := { p with waiting := none }
        if settles then p.settle status due
        else { p with status := if deciding.isSome then status else p.status, due := due }
      | pids => { p with waiting := some (.processes pids breakable deciding status settles) }
    else p
  | _ => if p.isGuardOf pid then { p with due := due } else p

/-! ## Variables -/

def value? (p : Process) (name : String) : Option String :=
  (p.bindings.lookup name).bind (·.value)

def putVariable (p : Process) (name : String) (v : Variable) : Process :=
  { p with bindings := (name, v) :: p.bindings.filter (·.1 != name) }

def isFixed (p : Process) (name : String) : Bool := (p.bindings.lookup name).any (·.fixed)

def assign (p : Process) (name value : String) : Process :=
  let exported := (p.bindings.lookup name).any (·.exported) || 'a' ∈ p.flags
  p.putVariable name ⟨some value, exported, p.isFixed name⟩

def bringBack (p : Process) (saved : List (String × Option Variable)) : Process :=
  saved.foldl (fun p (name, old) =>
    let others := p.bindings.filter (·.1 != name)
    { p with bindings := (old.map fun v => (name, v)).toList ++ others }) p

def undo (p : Process) : Step → Process
  | .streams saved => { p with streams := saved }
  | .bindings saved => p.bringBack saved
  | .endFunction args => ({ p with args := args, frames := p.frames.tail }).bringBack
      (p.frames.headD [])
  | _ => p

/-! ## Signals -/

/-- What a signal does if nothing was set up for it. -/
inductive Reaction
  | nothing
  | suspend
  | fatal

def reaction (signal : Nat) : Reaction :=
  if signal ∈ [17, 18, 23, 28] then .nothing
  else if signal ∈ [19, 20, 21, 22] then .suspend
  else .fatal

def isGuard (p : Process) : Bool :=
  match p.todo with
  | .guard .. :: _ => true
  | _ => false

def passedOn : List Nat := [1, 2, 3, 10, 12, 14, 15]

def handles (p : Process) (signal : Nat) : Bool :=
  (p.traps.lookup signal).isSome || (p.isGuard && signal ∈ passedOn)

/-- Takes a signal that is neither blocked nor beyond control. -/
def take (p : Process) (signal now : Nat) : Process :=
  if signal ∈ p.ignored then p
  else if p.handles signal then
    let p := { p with pending := p.pending ++ [signal] }
    match p.waiting with
    | some (.processes _ true _ _ _) => { p with waiting := none }.settle (128 + signal) now
    | _ => if p.isGuard then { p with due := now } else p
  else
    match reaction signal with
    | .nothing => p
    | .suspend => { p with suspended := true }
    | .fatal => p.close (.signaled signal)

/-- Takes a signal. A suspended process keeps all but two signals for later. -/
def receive (p : Process) (signal now : Nat) : Process :=
  if !p.isLive then p
  else if signal = 9 then p.close (.signaled 9)
  else if signal = 18 then
    let waiting := p.pending.filter fun s => !p.handles s
    let p := { p with suspended := false, pending := p.pending.filter p.handles }
    waiting.foldl (fun p s => if p.isLive then p.take s now else p) p
  else if signal = 19 then { p with suspended := true }
  else if p.suspended then { p with pending := p.pending ++ [signal] }
  else p.take signal now

/-- The name of a signal, as scripts know it; a few signals have only their number. -/
def signalName (signal : Nat) : String :=
  if 34 ≤ signal && signal ≤ 49 then
    "RTMIN" ++ if signal = 34 then "" else "+" ++ (signal - 34).repr
  else if 50 ≤ signal && signal ≤ 64 then
    "RTMAX" ++ if signal = 64 then "" else "-" ++ (64 - signal).repr
  else if signal = 16 then "16"
  else match ExitStatus.signalNames.lookup signal with
    | some name => String.ofList (name.toList.drop 3)
    | none => signal.repr

def signals : List Nat := List.range 65

def signalOfName? (text : String) : Option Nat :=
  match text.toNat? with
  | some n => if n < 65 then some n else none
  | none => signals.find? fun n => signalName n == text.map Char.toUpper

end Process
end ConformanceGate.Machine
