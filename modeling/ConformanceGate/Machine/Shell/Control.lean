import ConformanceGate.Machine.Shell.Variables

/-!
# Commands on processes and on the order of work

The commands of scripts that leave loops, functions and scripts, send and handle signals, and wait
for processes.
-/

namespace ConformanceGate.Machine.Shell

/-! ## Leaving -/

/-- Skips steps up to one that is looked for, and undoes what the skipped ones were kept for. -/
def skipTo (p : Process) (isGoal : Step → Bool) : Option Process :=
  let skipped := p.todo.takeWhile fun step => !isGoal step
  let rest := p.todo.drop skipped.length
  if rest.isEmpty then none else some { skipped.foldl Process.undo p with todo := rest }

def exit : Builtin := fun m p args =>
  match numberOr p.status args with
  | some code => abandon m p code
  | none => abandon m p 2

/-- Whether a step ends a function or a script that was read into another one. -/
def endsCall : Step → Bool
  | .endFunction _ | .endFile => true
  | _ => false

/-- Leaves a function or a script that was read in; elsewhere, ends the script. -/
def «return» : Builtin := fun m p args =>
  match numberOr p.status args with
  | none => abandon m p 2
  | some code =>
    match skipTo p endsCall with
    | some p => m.put { p with status := code, due := m.clock + stepTime }
    | none => abandon m p code

def isLoopEnd : Step → Bool
  | .again .. | .each .. => true
  | _ => false

/-- Skips what is left of the innermost loop, if there is one in the current function. -/
def skipLoop (p : Process) : Option Process :=
  (skipTo p fun step => isLoopEnd step || endsCall step).filter fun q =>
    (q.todo.head?).any isLoopEnd

/-- Skips what is left of a number of loops, or of all if there are fewer, and leaves all of them
but the last one. -/
def skipLoops : Nat → Process → Option Process
  | 0, _ => none
  | count + 1, p =>
    (skipLoop p).map fun q => (skipLoops count { q with todo := q.todo.tail }).getD q

def leaveLoops (whole : Bool) : Builtin := fun m p args =>
  match (numberOr 1 args).filter (0 < ·) with
  | none => abandon m p 2
  | some count =>
    match skipLoops count p with
    | none => proceed m p 0
    | some q => proceed m (if whole then { q with todo := q.todo.tail } else q) 0

/-! ## Signals -/

def readKill : List String → Option (Nat × List String)
  | "-s" :: name :: targets => (Process.signalOfName? name).map (·, withoutDashes targets)
  | "--" :: targets => some (15, targets)
  | first :: targets =>
    match first.toList with
    | '-' :: 's' :: c :: name =>
      match Process.signalOfName? (String.ofList ('s' :: c :: name)) with
      | some signal => some (signal, withoutDashes targets)
      | none =>
        (Process.signalOfName? (String.ofList (c :: name))).map (·, withoutDashes targets)
    | '-' :: name => (Process.signalOfName? (String.ofList name)).map (·, withoutDashes targets)
    | _ => some (15, first :: targets)
  | [] => none
where
  /-- The targets after two dashes. -/
  withoutDashes (targets : List String) : List String :=
    if targets.head? = some "--" then targets.tail else targets

def jobOf? (p : Process) (text : String) : Option Nat :=
  let pids := p.jobs.reverse
  match text.toList with
  | ['%'] | ['%', '%'] | ['%', '+'] => pids.getLast?
  | '%' :: rest =>
    (String.ofList rest).toNat?.bind fun n => if n = 0 then none else pids[n - 1]?
  | _ => none

/-- What a signal is sent to. A background process is meant as the leader of a group, which it need
not be. -/
def targetOf? (p : Process) (text : String) : Option Int :=
  if text.startsWith "%" then (jobOf? p text).map fun pid => -(pid : Int) else text.toInt?

/-- Prints the names of all signals, or of the one that a status stands for. -/
def listSignals : Builtin := fun m p args =>
  match args with
  | [] => emitLine m p ("\n".intercalate (Process.signals.map Process.signalName))
  | text :: _ =>
    match text.toNat?.map fun n => if 128 < n then n - 128 else n with
    | some n => if 0 < n && n < 65 then emitLine m p (Process.signalName n) else proceed m p 2
    | none => proceed m p 2

/-- Sends signals to processes; the status tells whether all could be reached. -/
def kill : Builtin := fun m p args =>
  if args.head? = some "-l" then listSignals m p args.tail
  else match readKill args with
  | none => proceed m p 2
  | some (signal, targets) =>
    match targets.mapM (targetOf? p) with
    | none | some [] => proceed m p 2
    | some targets =>
      let reached (n : Int) : Bool := (m.signalTarget p.group n 0).2
      let m := proceed m p (if targets.all reached then 0 else 1)
      targets.foldl (fun m n => (m.signalTarget p.group n signal).1) m

/-- A text in quotes, as a script would spell it: single quotes stand between double ones. -/
def spelled (text : String) : String :=
  let runs := text.toList.splitBy fun a b => (a == '\'') == (b == '\'')
  let pieces := runs.map fun run =>
    let mark := if run.head? = some '\'' then "\"" else "'"
    mark ++ String.ofList run ++ mark
  if text.startsWith "'" || text.isEmpty then "''" ++ String.join pieces else String.join pieces

def trapLines (p : Process) : String :=
  String.join (Process.signals.filterMap fun n =>
    let name := if n = 0 then "EXIT" else Process.signalName n
    let line (action : String) : String := "trap -- " ++ spelled action ++ " " ++ name ++ "\n"
    match p.traps.lookup n with
    | some action => some (line action)
    | none => if n ∈ p.ignored && !(n ∈ p.deaf) then some (line "") else none)

/-- Sets up what is done for signals: an empty text ignores them, a dash takes the setting back. -/
def trap : Builtin := fun m p args =>
  let args := if args.head? = some "--" then args.tail else args
  if args.isEmpty then emit m p (trapLines p).toUTF8 0 else
  let numberOf (name : String) : Option Nat :=
    if name.map Char.toUpper = "EXIT" then some 0 else Process.signalOfName? name
  let (action, names) := match args with
    | action :: name :: names =>
      if action.toNat?.isSome then ("-", action :: name :: names) else (action, name :: names)
    | args => ("-", args)
  let clear (p : Process) (signal : Nat) : Process :=
    { p with
      traps := p.traps.filter (·.1 ≠ signal)
      ignored := p.ignored.filter fun s => s ≠ signal || s ∈ p.deaf }
  let (p, status) := names.foldl (fun (p, status) name =>
    match numberOf name with
    | none => (p, 1)
    | some signal =>
      let cleared := clear p signal
      if action = "-" then (cleared, status)
      else if action.isEmpty then ({ cleared with ignored := signal :: cleared.ignored }, status)
      else ({ cleared with traps := (signal, action) :: cleared.traps }, status)) (p, 0)
  proceed m p status

/-! ## Waiting -/

def forget (m : Machine) (pid : Nat) : Machine :=
  { m with processes := m.processes.filter (·.pid ≠ pid) }

/-- Waits for the children named, or for all of them. The status is that of the last one named. -/
def await : Builtin := fun m p args =>
  let isChild (q : Process) : Bool := q.parent == p.pid
  match args with
  | [] =>
    let pids := (m.processes.filter fun q => isChild q && q.isLive).map (·.pid)
    let m := { m with processes := m.processes.filter fun q => !(isChild q && !q.isLive) }
    if pids.isEmpty then proceed m p 0
    else m.put { p with waiting := some (.processes pids true none 0 true) }
  | args =>
    if args.any (·.startsWith "-") then proceed m p 2
    else
      let found := args.map fun text =>
        ((jobOf? p text <|> text.toNat?).bind m.process?).filter isChild
      let last : Option Process := (found.getLast?).bind id
      let live := (found.filterMap id).filter (·.isLive)
      let status := match last with
        | none => 127
        | some q => q.ended.elim 0 codeOf
      let m := (found.filterMap id).foldl (fun m q => if q.isLive then m else forget m q.pid) m
      if live.isEmpty then proceed m p status
      else
        let deciding := (last.filter (·.isLive)).map (·.pid)
        let waiting := Waiting.processes (live.map (·.pid)) true deciding status true
        m.put { p with waiting := some waiting }

end ConformanceGate.Machine.Shell
