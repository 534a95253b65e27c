import ConformanceGate.System.Program

/-!
# Interrupt flags

A flag is held by any number of handles. Raising it through one of them raises it for all; it is
never lowered. Flags made apart have nothing to do with each other. A gate command has one flag,
which signals raise.
-/

namespace ConformanceGate

/-- Handles on flags. -/
structure Interrupts where
  /-- The flag that each handle holds. -/
  handles : List Nat
  raised : List Nat
deriving DecidableEq

namespace Interrupts

def single : Interrupts := ⟨[0], []⟩

def flagOf (s : Interrupts) (handle : Nat) : Nat := s.handles.getD handle 0

def unused (s : Interrupts) : Nat := s.handles.foldl (fun n flag => max n (flag + 1)) 0

def fresh (s : Interrupts) : Interrupts := { s with handles := s.handles ++ [s.unused] }

def share (s : Interrupts) (handle : Nat) : Interrupts :=
  { s with handles := s.handles ++ [s.flagOf handle] }

def raiseFlag (s : Interrupts) (handle : Nat) : Interrupts :=
  { s with raised := s.flagOf handle :: s.raised }

def isRaised (s : Interrupts) (handle : Nat) : Bool := s.raised.contains (s.flagOf handle)

def check (s : Interrupts) (handle : Nat) : Except Failure Unit :=
  if s.isRaised handle then .error .interrupted else .ok ()

def states (s : Interrupts) : List Bool := s.handles.map s.raised.contains

/-- The signals that ask this program to stop: SIGINT, SIGTERM and SIGHUP. -/
def signals : List Nat := [2, 15, 1]

def handleAll : List Nat → Action Unit
  | [] => pure ()
  | signal :: rest => do
    Action.attempt ("registering handler for signal " ++ signal.repr) (.handleSignal signal)
    handleAll rest

/-- Has the flag of this program raised by signals. -/
def install : Action Unit := handleAll signals

/-- Raising concerns exactly the handles on the same flag. -/
@[simp] theorem isRaised_raiseFlag (s : Interrupts) (handle other : Nat) :
    (s.raiseFlag handle).isRaised other =
      (s.flagOf other == s.flagOf handle || s.isRaised other) := rfl

end Interrupts
end ConformanceGate
