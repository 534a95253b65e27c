import ConformanceGate.Machine.Files
import ConformanceGate.Machine.Process

/-!
# The machine

A file tree, a clock, and processes with what they have open. One process stands for the program
that uses the machine: it is not among the processes, but they know it as their parent, and signals
to it raise its interrupt.
-/

namespace ConformanceGate

/-- What an open stream leads to. -/
inductive Machine.Channel
  | file (place : List String)
  /-- A text that is only read. -/
  | text (bytes : ByteArray)
  /-- One of the ends of a pipe. -/
  | pipe (id : Nat) (writes : Bool)
  /-- A device without content; it swallows what is written, or has no room for it. -/
  | device (full : Bool)

/-- Something that was opened. Several streams, also of different processes, may share it. -/
structure Machine.Opened where
  id : Nat
  channel : Machine.Channel
  mode : Machine.OpenMode
  /-- Where reading and writing go on. -/
  offset : Nat

/-- A machine. Times are in microseconds. -/
structure Machine where
  files : Machine.Files
  /-- The current directory of the program that uses the machine. -/
  directory : List String
  /-- The process number of that program. -/
  self : Nat
  interrupted : Bool
  clock : Nat
  /-- The seconds since 1970 when the clock was started. -/
  startDay : Int
  processes : List Machine.Process
  nextPid : Nat
  /-- The processes whose end the program has taken notice of. -/
  reaped : List Nat
  /-- What is open, the latest first. -/
  opened : List Machine.Opened
  /-- What is in the pipes. -/
  pipes : List (Nat × ByteArray)
  /-- The next number of something opened or of a pipe. -/
  nextId : Nat
  /-- The ports on which something listens. -/
  takenPorts : List Nat
  output : String
  warnings : String

namespace Machine

def stepTime : Nat := 50

def forkTime : Nat := 400

def startTime : Nat := 1500

/-! ## Processes -/

def process? (m : Machine) (pid : Nat) : Option Process := m.processes.find? (·.pid == pid)

/-- Puts a process in the place of the one with its number. If it has ended, those that wait for it
take notice, and then it is gone. -/
def put (m : Machine) (p : Process) : Machine :=
  let processes := m.processes.map fun q => if q.pid = p.pid then p else q
  match p.ended with
  | none => { m with processes := processes }
  | some status =>
    let awaited := processes.any fun q =>
      match q.waiting with
      | some (.processes pids _ _ _ _) => p.pid ∈ pids
      | _ => false
    let processes := if awaited then processes.filter (·.pid ≠ p.pid) else processes
    { m with processes := processes.map fun q =>
        if q.isLive then q.release p.pid status (m.clock + stepTime) else q }

def add (m : Machine) (p : Process) : Machine × Nat :=
  ({ m with processes := m.processes ++ [{ p with pid := m.nextPid }], nextPid := m.nextPid + 1 },
    m.nextPid)

/-! ## Signals -/

def interrupting : List Nat := [1, 2, 15]

/-- Sends a signal to a process; false if there is none. Number zero only asks. -/
def signalOne (m : Machine) (pid signal : Nat) : Machine × Bool :=
  if pid = m.self then ({ m with interrupted := m.interrupted || signal ∈ interrupting }, true)
  else match m.process? pid with
    | none => (m, false)
    | some p =>
      if !p.isLive then (m, false)
      else (if signal = 0 then m else m.put (p.receive signal m.clock), true)

/-- The members of a group: what lives, and its leader as long as nobody took notice of its end. -/
def members (m : Machine) (group : Nat) : List Process :=
  m.processes.filter fun p =>
    p.group == group && (p.isLive || (p.pid == group && !m.reaped.contains p.pid))

/-- Sends a signal to a group; false if nothing is left in it. -/
def signalGroup (m : Machine) (group signal : Nat) : Machine × Bool :=
  let pids := (m.members group).map (·.pid)
  (pids.foldl (fun m pid => (m.signalOne pid signal).1) m, !pids.isEmpty)

/-- Sends a signal as a script asks for: to a process, to the sender's group, or to another group.
-/
def signalTarget (m : Machine) (group : Nat) (target : Int) (signal : Nat) : Machine × Bool :=
  if 0 < target then m.signalOne target.toNat signal
  else if target = 0 then m.signalGroup group signal
  else m.signalGroup target.natAbs signal

end Machine
end ConformanceGate
