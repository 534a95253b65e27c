import ConformanceGate.Machine.Expansion
import ConformanceGate.Machine.Lookup
import ConformanceGate.Machine.Streams

/-!
# Going on with processes

What all commands need: a process goes on with a status, writes, makes children, waits for them, or
becomes a program.
-/

namespace ConformanceGate.Machine

/-! ## Going on -/

def proceed (m : Machine) (p : Process) (status : Nat) : Machine :=
  m.put (p.settle status (m.clock + stepTime))

/-- Goes on with a process; `steps` come first. -/
def goOn (m : Machine) (p : Process) (steps : List Step) : Machine :=
  m.put { p with todo := steps ++ p.todo, due := m.clock + stepTime }

def abandon (m : Machine) (p : Process) (status : Nat) : Machine :=
  m.put (p.leave status (m.clock + stepTime))

/-- What remains of a write. -/
inductive Written
  | done (m : Machine)
  /-- The process waits, and `again` is what it does then. -/
  | waiting (m : Machine)
  | failed (m : Machine) (p : Process)

/-- Writes to the output of a process; if there is no room, it waits and goes on with `again`. -/
def write (m : Machine) (p : Process) (output : ByteArray) (again : ByteArray → Step) : Written :=
  if output.isEmpty then .done m
  else match m.writeStream p 1 output with
    | .done m => .done m
    | .blocked m rest pipe =>
      .waiting (m.put { p with todo := again rest :: p.todo, waiting := some (.room pipe) })
    | .broken => .failed m (p.receive 13 m.clock)
    | .refused => .failed m p

def emit (m : Machine) (p : Process) (output : ByteArray) (status : Nat) : Machine :=
  match m.write p output fun rest => .emit rest status with
  | .done m => proceed m p status
  | .waiting m => m
  | .failed m p => if p.isLive then proceed m p 1 else m.put p

def emitLine (m : Machine) (p : Process) (line : String) : Machine :=
  emit m p (line ++ "\n").toUTF8 0

def print (m : Machine) (p : Process) (output : ByteArray) (status : Nat) : Machine :=
  match m.write p output fun rest => .print rest status with
  | .done m => goOn m { p with todo := [] } [.finish status]
  | .waiting m => m
  | .failed m p => if p.isLive then goOn m { p with todo := [] } [.finish 1] else m.put p

/-! ## Children -/

def fork (p : Process) (todo : List Step) (due : Nat) : Process :=
  { p with
    parent := p.pid, todo := todo, due := due, waiting := none, suspended := false, traps := [],
    pending := [], tested := p.isTested }

/-- Waits for children; the status is that of the last one. -/
def awaitAll (m : Machine) (p : Process) (pids : List Nat) : Machine :=
  m.put { p with waiting := some (.processes pids false pids.getLast? 0 true) }

def delegate (m : Machine) (p : Process) (child : Process) (todo : List Step) : Machine :=
  let (m, pid) := m.add (fork child todo (m.clock + forkTime))
  m.awaitAll p [pid]

/-! ## Programs -/

def statusOf (e : SystemError) : Nat :=
  if e ∈ [.notFound, .notDirectory, .tooManyLinks, .nameTooLong] then 127 else 126

def Process.searched (p : Process) : List String :=
  ((p.value? "PATH").getD (":".intercalate Machine.searched)).splitOn ":"

/-- What a process runs for a path. A file that can be executed and names no program is a script. -/
def runnable (m : Machine) (p : Process) (path : String) (args : List String) :
    Except SystemError (String × List String) :=
  match m.execute p.directory executeLimit path args with
  | .error e => if e = .number 8 then .ok ("sh", path :: args) else .error e
  | found => found

def searchFor (m : Machine) (p : Process) (name : String) (args : List String) :
    List String → Except SystemError (String × List String)
  | [] => .error .notFound
  | dir :: rest =>
    match m.runnable p (Path.join dir name) args with
    | .ok found => .ok found
    | .error e =>
      match searchFor m p name args rest with
      | .error later => .error (if statusOf e = 127 then later else e)
      | found => found

def commandOf (m : Machine) (p : Process) (name : String) (args : List String) :
    Except SystemError (String × List String) :=
  if name.isEmpty then .error .notFound
  else if '/' ∈ name.toList then m.runnable p name args
  else m.searchFor p name args p.searched

def isRunnable (m : Machine) (p : Process) (path : String) : Bool :=
  match m.files.find? p.directory path with
  | some (.program _) | some (.file _ true) => true
  | _ => false

def pathOf? (m : Machine) (p : Process) (name : String) : Option String :=
  if '/' ∈ name.toList then (m.files.find? p.directory name).map fun _ => name
  else (p.searched.map fun dir => Path.join dir name).find? (m.isRunnable p)

/-- Becomes a program, or ends with the status of one that cannot be run. -/
def become (m : Machine) (p : Process) (name : String) (args : List String) : Machine :=
  let p := { p with traps := [], name := name }
  match m.commandOf p name args with
  | .ok (found, args) => m.put { p with todo := [.program found args], due := m.clock + startTime }
  | .error e => m.put { p with todo := [.finish (statusOf e)] }

end ConformanceGate.Machine
