import ConformanceGate.Machine.Shell.Basic

/-!
# Preparing commands

Before a command is carried out its words are expanded and its redirections are applied. A failed
redirection leaves alone what the ones before it did to files.
-/

namespace ConformanceGate.Machine

/-! ## Words -/

inductive Redirected
  | file (stream : Nat) (mode : OpenMode) (path : String)
  /-- The stream goes where another one goes, or is closed. -/
  | copy (stream : Nat) (source : Option Nat)
  | text (stream : Nat) (body : ByteArray)

/-- A simple command whose words are expanded. -/
structure Prepared where
  assignments : List (String × String)
  fields : List String
  redirections : List Redirected

/-- The commands whose arguments may be assignments, which do not fall apart. -/
def declaring : List String := ["export", "readonly", "local"]

def assignmentName? (w : Word) : Option String :=
  match w with
  | .literal text :: _ =>
    let name := String.ofList (text.toList.takeWhile (· ≠ '='))
    if isName name && name.length < text.length then some name else none
  | _ => none

namespace Expanding

def redirection (r : Redirection) : Expanding Redirected := do
  match r with
  | .file stream mode target => return .file stream mode (← text target)
  | .copy stream source =>
    match (← text source).toList with
    | ['-'] => return .copy stream none
    | [c] => if c.isDigit then return .copy stream (some (c.toNat - '0'.toNat)) else fail
    | _ => fail
  | .text stream body => return .text stream (← text body).toUTF8

/-- Expands words one after the other; assignments stay whole in the arguments of some commands. -/
def arguments (fs : Files) (words : List Word) : Expanding (List String) :=
  words.foldlM (fun done w => do
    let declares := match done with
      | "command" :: name :: _ => name ∈ declaring
      | name :: _ => name ∈ declaring
      | [] => false
    if declares && (assignmentName? w).isSome then return done ++ [← assignedText w]
    else return done ++ (← fields fs [w])) []

def simple (fs : Files) (assignments : List (String × Word)) (words : List Word)
    (redirections : List Redirection) : Expanding Prepared := do
  let found ← arguments fs words
  let redirected ← redirections.mapM redirection
  let assigned ← assignments.mapM fun (name, w) => do
    let value ← assignedText w
    if found.isEmpty then assign name value
    return (name, value)
  return ⟨assigned, found, redirected⟩

end Expanding

/-- Expands something for a process with what is known about outputs. If the output of a command is
needed, the command is started and `again` is done when its output is there. If the script cannot go
on, it ends. -/
def expanding (m : Machine) (p : Process) (answers : Answers) (again : Command) (work : Expanding α)
    (use : Process → α → Machine) : Machine :=
  match work.run ⟨p, answers.outputs⟩ with
  | .ok (a, e) => use e.process a
  | .error .failure => abandon m p 2
  | .error (.command c) =>
    let (m, pipe, _, writer) := m.openPipe
    let others := p.streams.filter (·.1 ≠ 1)
    let child := { fork p [.run c .none] (m.clock + forkTime) with
      streams := (1, writer) :: others, tested := false }
    let (m, pid) := m.add child
    m.put { p with todo := .collect pipe pid .empty again answers :: p.todo }

def collect (m : Machine) (p : Process) (pipe child : Nat) (output : ByteArray) (again : Command)
    (answers : Answers) : Machine :=
  let step (output : ByteArray) : Step := .collect pipe child output again answers
  match m.readPipe pipe pipeSize with
  | .blocked _ => m.put { p with todo := step output :: p.todo, waiting := some (.input pipe) }
  | .bytes m bytes =>
    if !bytes.isEmpty then goOn m p [step (output ++ bytes)]
    else
      let known (status : Nat) : Answers :=
        let text := textOfOctets (octets output)
        let trimmed := (text.toList.reverse.dropWhile (· == '\n')).reverse.filter (· ≠ '\x00')
        ⟨answers.outputs ++ [String.ofList trimmed], some status⟩
      match m.process? child with
      | some q =>
        match q.ended with
        | some status =>
          let m := { m with processes := m.processes.filter (·.pid ≠ child) }.dropPipe pipe
          goOn m p [.run again (known (codeOf status))]
        | none =>
          -- the output is closed, but the command goes on
          m.put { p with
            todo := step output :: p.todo
            waiting := some (.processes [child] false (some child) 0 false) }
      | none => goOn (m.dropPipe pipe) p [.run again (known p.status)]
  | .refused => goOn m p [.run again answers]

/-! ## Redirections -/

def streamOfPath? (path : String) : Option Nat :=
  match path with
  | "/dev/stdin" => some 0
  | "/dev/stdout" => some 1
  | "/dev/stderr" => some 2
  | path =>
    let digits := if path.startsWith "/dev/fd/" then path.toList.drop 8 else []
    if digits.isEmpty then none else (String.ofList digits).toNat?

/-- Applies redirections to streams one after the other; `none` if one of them fails. -/
def redirect (m : Machine) (p : Process) :
    List (Nat × Nat) → List Redirected → Machine × Option (List (Nat × Nat))
  | streams, [] => (m, some streams)
  | streams, r :: rest =>
    let put (m : Machine) (stream id : Nat) : Machine × Option (List (Nat × Nat)) :=
      redirect m p ((stream, id) :: streams.filter (·.1 ≠ stream)) rest
    match r with
    | .text stream body =>
      let (m, id) := m.openChannel (.text body) .read
      put m stream id
    | .copy stream source =>
      match source with
      | none => redirect m p (streams.filter (·.1 ≠ stream)) rest
      | some source =>
        match streams.lookup source with
        | some id => put m stream id
        | none => (m, none)
    | .file stream mode path =>
      match streamOfPath? path with
      | some source =>
        match streams.lookup source with
        | some id => put m stream id
        | none => (m, none)
      | none =>
        match m.openFile p.directory ('C' ∈ p.flags) mode path with
        | .ok (m, id) => put m stream id
        | .error _ => (m, none)
termination_by _ rs => rs.length

end ConformanceGate.Machine
