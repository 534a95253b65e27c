import ConformanceGate.System.Program

/-!
# Children

A child is a process that this program started and has to stop again. Its exit status is kept once
it is known. Stopping goes through the whole process group: every member is asked to end, and
whatever is left after the grace period is killed. A child is stopped once; later attempts do
nothing.
-/

namespace ConformanceGate

/-- Points in time, in microseconds, are counted in seconds of 63 bits. -/
def Instant.limit : Nat := (1 <<< 63) * 1000000

/-- The point in time a duration after another, if the clock reaches so far. -/
def Instant.after? (now duration : Nat) : Option Nat :=
  if now + duration < Instant.limit then some (now + duration) else none

theorem Instant.after?_eq_some_iff {now duration time : Nat} :
    after? now duration = some time ↔ now + duration < limit ∧ now + duration = time := by
  simp [after?]

theorem Instant.after?_eq_none_iff {now duration : Nat} :
    after? now duration = none ↔ limit ≤ now + duration := by
  simp [after?]

/-- The time between two looks at a process. -/
def pollInterval : Nat := 20000

/-- A process that was started. -/
structure Child where
  label : String
  process : Nat
  /-- The time between asking it to end and killing it. -/
  grace : Nat
  /-- How it ended, once that is known. -/
  exit : Option ExitStatus
  /-- Whether it was stopped already. -/
  stopped : Bool

def Launch.ofCommand (argv : List String) (directory : Option String) : Except Flaw Launch :=
  match argv with
  | [] => .error .emptyCommand
  | program :: args => .ok ⟨program, args, directory⟩

namespace Child

def spawn (label : String) (launch : Launch) (grace : Nat) : Program (Except Failure Child) :=
  .ask (.spawn launch) fun reply =>
    match reply with
    | .ok process => .done (.ok ⟨label, process, grace, none, false⟩)
    | .error e => .done (.error (.infrastructure (.notStarted label launch.program e)))

/-- The exit status if the child has ended; once known it is not asked for again. -/
def poll (c : Child) : Program (Except SystemError (Option ExitStatus) × Child) :=
  match c.exit with
  | some status => .done (.ok (some status), c)
  | none =>
    .ask (.poll c.process) fun reply =>
      match reply with
      | .ok (some status) => .done (.ok (some status), { c with exit := some status })
      | .ok none => .done (.ok none, c)
      | .error e => .done (.error e, c)

/-- The exit status as `poll` finds it, where a refused request is a failure. -/
def observe (c : Child) : Program (Except Failure (Option ExitStatus) × Child) := do
  let (found, c) ← c.poll
  return (found.mapError (.system ("polling " ++ c.label)), c)

/-- Waits for the group to become empty until the deadline, and kills what is left then. -/
def awaitGroup (deadline : Nat) : Nat → Child → Program Child
  | 0, _ => .exhausted
  | rounds + 1, c => do
    if deadline ≤ (← .now) then
      .ask (.signal c.process .kill) fun _ => .done c
    else
      let (_, c) ← c.poll
      if ← .groupAlive c.process then
        .sleep pollInterval
        awaitGroup deadline rounds c
      else return c

/-- Asks the group to end, and sees to it that it does. -/
def stopGroup (rounds : Nat) (c : Child) : Program Child :=
  .ask (.signal c.process .term) fun reached =>
    match reached with
    | false => .done c
    | true => do
      match Instant.after? (← .now) c.grace with
      -- Stopping is what failures lead to, so that there is none left to end with.
      | none => .exhausted
      | some deadline => awaitGroup deadline rounds c

/-- Finds out how the child ended, killing it if need be. -/
def reap (c : Child) : Program Child :=
  match c.exit with
  | some _ => .done c
  | none =>
    .ask (.kill c.process) fun _ =>
      .ask (.wait c.process) fun status => .done { c with exit := status }

/-- Stops a child; its exit status is known afterwards. -/
def terminate (rounds : Nat) (c : Child) : Program Child :=
  if c.stopped then .done c
  else do
    let (_, c) ← poll { c with stopped := true }
    let c ← c.stopGroup rounds
    c.reap

def await : Nat → Child → Program (Except Failure ExitStatus × Child)
  | 0, _ => .exhausted
  | rounds + 1, c => do
    match ← c.observe with
    | (.error f, c) => return (.error f, c)
    | (.ok (some status), c) => return (.ok status, c)
    | (.ok none, c) => do
      .sleep pollInterval
      await rounds c

/-- Starts a child, lets a program look after it, and stops it however that ends. -/
def during (rounds : Nat) (label : String) (launch : Launch) (grace : Nat)
    (body : Child → Program (Except Failure α × Child)) : Program (Except Failure α) := do
  match ← spawn label launch grace with
  | .error f => return .error f
  | .ok c =>
    let (outcome, c) ← body c
    let _ ← c.terminate rounds
    return outcome

end Child
end ConformanceGate
