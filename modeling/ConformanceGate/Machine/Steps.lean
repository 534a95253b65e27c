import ConformanceGate.Machine.Running
import ConformanceGate.Machine.Shell.Commands

/-!
# Steps

One step of a process at its time: a signal that came is handled, or what comes first among the
things to do is done.
-/

namespace ConformanceGate.Machine

def isIdle : Command → Bool
  | .sequence [] => true
  | _ => false

def handle (m : Machine) (p : Process) (signal : Nat) (pending : List Nat) : Machine :=
  let steps : List Step := match p.traps.lookup signal with
    | some action => [.read action.toList true, .restore p.status]
    | none => []
  m.put { p with
    todo := steps ++ p.todo, pending := pending, waiting := none, due := m.clock + stepTime }

def readNext (m : Machine) (p : Process) (text : List Char) (isWhole : Bool) : Machine :=
  match readLine text with
  | .finished => goOn m p []
  | .malformed => abandon m p 2
  | .commands c rest isLast =>
    goOn m p (.run c .none :: if isWhole && isLast then [] else [.read rest isWhole])

def flood (m : Machine) (p : Process) (text : ByteArray) : Machine :=
  let p := { p with todo := [.flood text] }
  match m.write p text fun rest => .emit rest 0 with
  | .done m => m.put { p with due := m.clock + 20 * stepTime }
  | .waiting m => m
  | .failed m p => if p.isLive then goOn m { p with todo := [] } [.finish 1] else m.put p

def perform (m : Machine) (p : Process) (now : Step) : Machine :=
  match now with
  | .run command answers =>
    if 'n' ∈ p.flags then goOn m p [] else Shell.runCommand m p command answers
  | .collect pipe child output command answers => m.collect p pipe child output command answers
  | .read text isWhole => m.readNext p text isWhole
  | .join onSuccess c => goOn m p (if (p.status == 0) = onSuccess then [.run c .none] else [])
  | .flip => goOn m { p with status := if p.status = 0 then 1 else 0 } []
  | .choose yes no =>
    let chosen := if p.status = 0 then yes else no
    if isIdle chosen then goOn m { p with status := 0 } [] else goOn m p [.run chosen .none]
  | .test stop condition body last =>
    if (p.status == 0) = stop then goOn m { p with status := last } []
    else goOn m p [.run body .none, .again stop condition body]
  | .again stop condition body =>
    goOn m p [.run condition .none, .test stop condition body p.status]
  | .each _ [] _ => goOn m p []
  | .each name (value :: values) body =>
    if p.isFixed name then abandon m p 2
    else goOn m (p.assign name value) [.run body .none, .each name values body]
  | .restore status => goOn m { p with status := status } []
  | .streams _ | .bindings _ => goOn m (p.undo now) []
  | .endFunction _ => proceed m (p.undo now) p.status
  | .endFile | .endText => proceed m p p.status
  | .input raw names line => Shell.readOctets raw names pipeSize m p line
  | .emit output status => emit m p output status
  | .print output status => print m p output status
  | .program name args => m.runProgram p name args
  | .gather name args input => m.gather p name args input
  | .pass others status => m.pass p others status
  | .flood text => m.flood p text
  | .guard child signal deadline killAfter late keeps =>
    m.guard p child signal deadline killAfter late keeps
  | .batch calls failed => m.batch p calls failed
  | .finish code => m.put (p.close (.exited (code % 256)))

def step (m : Machine) (p : Process) : Machine :=
  let p := { p with waiting := none }
  match p.todo, p.pending with
  | .guard child signal deadline killAfter late keeps :: _, _ =>
    m.guard p child signal deadline killAfter late keeps
  | _, signal :: pending => m.handle p signal pending
  | [], [] => abandon m p p.status
  | now :: rest, [] => m.perform { p with todo := rest } now

end ConformanceGate.Machine
