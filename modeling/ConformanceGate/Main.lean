import ConformanceGate.CommandLine.Commands
import ConformanceGate.Run.Endpoint
import Std.Time.DateTime.Timestamp

/-!
# The command line program

Commands on the files of this computer. Processes cannot be started from here: such a request is
answered with the error that the system has for what it does not do, so that commands which only
read and write files work, and the others fail when they come to start a side. Signals end the
program, as there is no side that would be left behind.
-/

namespace ConformanceGate.CommandLine

def systemErrorOf : IO.Error → SystemError
  | .alreadyExists _ code _ | .otherError code _ | .resourceBusy code _ | .resourceVanished code _
  | .unsupportedOperation code _ | .hardwareFault code _ | .unsatisfiedConstraints code _
  | .illegalOperation code _ | .protocolError code _ | .timeExpired code _ | .interrupted _ code _
  | .noFileOrDirectory _ code _ | .invalidArgument _ code _ | .permissionDenied _ code _
  | .resourceExhausted _ code _ | .inappropriateType _ code _ | .noSuchThing _ code _ =>
    .number code.toNat
  | .unexpectedEof | .userError _ => .number 5

def attempt (act : IO α) : IO (Except SystemError α) := do
  match ← act.toBaseIO with
  | .ok a => return .ok a
  | .error e => return .error (systemErrorOf e)

def unsupported : SystemError := .number 38

def readText (path : String) : IO (Except SystemError String) := do
  match ← attempt (IO.FS.readBinFile path) with
  | .error e => return .error e
  | .ok bytes =>
    match String.fromUTF8? bytes with
    | some text => return .ok text
    | none => return .error .notText

def isDirectory? (path : String) : IO (Option Bool) := do
  match ← attempt (IO.FS.realPath path) with
  | .error _ => return none
  | .ok found => if ← found.pathExists then return some (← found.isDir) else return none

def currentParts : IO (List String) := do
  return Path.parts (← IO.currentDir).toString

def answer : (r : Request) → IO r.Reply
  | .readFile path => readText path
  | .writeFile path text => attempt (IO.FS.writeFile path text)
  | .createDirs path => attempt (IO.FS.createDirAll path)
  | .isFile path => do return (← isDirectory? path) == some false
  | .isThere path => do return (← isDirectory? path).isSome
  | .currentDir => currentParts
  | .now => do return (← IO.monoNanosNow) / 1000
  | .today => do return (← Std.Time.Timestamp.now).toSecondsSinceUnixEpoch.val
  | .sleep duration => IO.sleep (duration / 1000).toUInt32
  | .handleSignal _ => return .ok ()
  | .interrupted => return false
  | .lookup _ => return .error "no addresses are known here"
  | .bind _ => return .ok ()
  | .connect _ _ => return false
  | .spawn _ => return .error unsupported
  | .poll _ => return .error unsupported
  | .signal _ _ => return false
  | .groupAlive _ => return false
  | .kill _ => return ()
  | .wait _ => return none
  | .print text => do (← IO.getStdout).putStr text
  | .warn text => do (← IO.getStderr).putStr text

def runHere : Program α → IO (Option α)
  | .done a => return some a
  | .ask r next => do runHere (next (← answer r))
  | .exhausted => return none

end ConformanceGate.CommandLine

def main (args : List String) : IO UInt32 := do
  let program := ConformanceGate.CommandLine.invoke 1000000000 args
  let code ← ConformanceGate.CommandLine.runHere program
  return (code.getD 1).toUInt32
