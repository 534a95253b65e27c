import ConformanceGate.System.Error
import ConformanceGate.System.ExitStatus

/-!
# What is asked of the system

All effects go through the requests below: files, the clock, the network, processes and output. Each
request has a type of replies. Times are in microseconds.
-/

namespace ConformanceGate

/-- A process to be started, in a group of its own. -/
structure Launch where
  program : String
  args : List String
  /-- The directory to start it in; `none` is the current one. -/
  directory : Option String
deriving DecidableEq

inductive Signal
  /-- Asks a process to end. -/
  | term
  /-- Ends a process. -/
  | kill
deriving DecidableEq

def Signal.number : Signal → Nat
  | .term => 15
  | .kill => 9

inductive Request
  /-- The text of a file. -/
  | readFile (path : String)
  /-- Puts a text in the place of a file, or makes the file. -/
  | writeFile (path text : String)
  /-- Makes a directory, and the ones above it as needed. -/
  | createDirs (path : String)
  /-- Whether a path leads to a file. -/
  | isFile (path : String)
  /-- Whether a path leads to anything. -/
  | isThere (path : String)
  /-- The parts of the current directory. -/
  | currentDir
  /-- The time on a clock that never goes back. -/
  | now
  /-- The seconds since 1970. -/
  | today
  /-- Waits for a time. -/
  | sleep (duration : Nat)
  /-- Has a signal raise the flag of this program instead of ending it. -/
  | handleSignal (number : Nat)
  /-- Whether a signal has asked this program to stop. -/
  | interrupted
  /-- The addresses of a host. -/
  | lookup (host : String)
  /-- Listens at an address for a moment. -/
  | bind (endpoint : String)
  /-- Whether something accepts a connection at an address within a time. -/
  | connect (endpoint : String) (limit : Nat)
  /-- Starts a process. -/
  | spawn (launch : Launch)
  /-- How a process that was started has ended, if it has. -/
  | poll (process : Nat)
  /-- Sends a signal to the group of a process; false if nothing is left in the group. -/
  | signal (process : Nat) (signal : Signal)
  /-- Whether anything is left in the group of a process. -/
  | groupAlive (process : Nat)
  /-- Kills a process itself. -/
  | kill (process : Nat)
  /-- Waits until a process has ended, and tells how if that can be found out. -/
  | wait (process : Nat)
  /-- Writes to the output. -/
  | print (text : String)
  /-- Writes to the error output. -/
  | warn (text : String)

def Request.Reply : Request → Type
  | .readFile _ => Except SystemError String
  | .writeFile _ _ => Except SystemError Unit
  | .createDirs _ => Except SystemError Unit
  | .isFile _ => Bool
  | .isThere _ => Bool
  | .currentDir => List String
  | .now => Nat
  | .today => Int
  | .sleep _ => Unit
  | .handleSignal _ => Except SystemError Unit
  | .interrupted => Bool
  | .lookup _ => Except String (List String)
  | .bind _ => Except SystemError Unit
  | .connect _ _ => Bool
  | .spawn _ => Except SystemError Nat
  | .poll _ => Except SystemError (Option ExitStatus)
  | .signal _ _ => Bool
  | .groupAlive _ => Bool
  | .kill _ => Unit
  | .wait _ => Option ExitStatus
  | .print _ => Unit
  | .warn _ => Unit

end ConformanceGate
