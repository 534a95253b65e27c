import ConformanceGate.Run.Child
import ConformanceGate.Run.Endpoint

/-!
# Readiness

The connecting side is started once the listening side accepts connections. That is found out by
trying, again and again up to a time limit, or else taken for granted after a fixed time. Either way
the listening side has to stay alive, and a raised interrupt ends the waiting.
-/

namespace ConformanceGate

/-- How it is decided that the listening side is ready. -/
inductive Readiness
  /-- Tries to connect to an address, with pauses of an interval, until a timeout. -/
  | accepting (address : String) (timeout interval : Nat)
  /-- Waits for a fixed time. -/
  | fixed (delay : Nat)
deriving DecidableEq

namespace Readiness

/-- The longest time for a single attempt to connect. -/
def attemptLimit : Nat := 500000

/-- The shortest time for a single attempt to connect. -/
def attemptLeast : Nat := 1000

def ensureAlive (c : Child) : Program (Except Failure Unit × Child) := do
  match ← c.observe with
  | (.error f, c) => return (.error f, c)
  | (.ok (some status), c) =>
    return (.error (.infrastructure (.exitedBeforeReady c.label status)), c)
  | (.ok none, c) => return (.ok (), c)

/-- No interrupt was raised, and the child has not ended. The interrupt is reported first. -/
def check (c : Child) : Program (Except Failure Unit × Child) := do
  if ← .interrupted then return (.error .interrupted, c) else ensureAlive c

/-- One attempt to connect to an address within what is left of the time. -/
def attempt (address : String) (deadline : Nat) : Program (Except Failure Bool) := do
  let now ← .now
  let limit := max (min (deadline - now) attemptLimit) attemptLeast
  match ← Endpoint.resolve address with
  | .error f => return .error f
  | .ok endpoints => return .ok (← Endpoint.connectAny limit endpoints)

def elapsed (started : Nat) : Program Nat := do return (← .now) - started

def tryUntil (address : String) (interval started deadline : Nat) :
    Nat → Child → Program (Except Failure Nat × Child)
  | 0, _ => .exhausted
  | rounds + 1, c => do
    match ← check c with
    | (.error f, c) => return (.error f, c)
    | (.ok (), c) =>
      match ← attempt address deadline with
      | .error f => return (.error f, c)
      | .ok true => return (.ok (← elapsed started), c)
      | .ok false =>
        match Instant.after? (← .now) interval with
        | none => return (.error .beyondClock, c)
        | some next =>
          if deadline < next then
            return (.error (.notReady address (← elapsed started)), c)
          else
            .sleep interval
            tryUntil address interval started deadline rounds c

def waitUntil (started deadline : Nat) : Nat → Child → Program (Except Failure Nat × Child)
  | 0, _ => .exhausted
  | rounds + 1, c => do
    if (← .now) < deadline then
      match ← check c with
      | (.error f, c) => return (.error f, c)
      | (.ok (), c) =>
        let now ← .now
        .sleep (min (deadline - now) pollInterval)
        waitUntil started deadline rounds c
    else
      match ← ensureAlive c with
      | (.error f, c) => return (.error f, c)
      | (.ok (), c) => return (.ok (← elapsed started), c)

/-- Waits until the child is ready, and tells how long that took. -/
def wait (r : Readiness) (rounds : Nat) (c : Child) : Program (Except Failure Nat × Child) := do
  let started ← .now
  match r with
  | .accepting address timeout interval =>
    match Instant.after? started timeout with
    | none => return (.error .beyondClock, c)
    | some deadline => tryUntil address interval started deadline rounds c
  | .fixed delay =>
    match Instant.after? started delay with
    | none => return (.error .beyondClock, c)
    | some deadline => waitUntil started deadline rounds c

end Readiness
end ConformanceGate
