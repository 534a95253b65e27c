import ConformanceGate.Run.Child

/-!
# Supervision

While one child runs to its end another one has to stay up. They are looked at in rounds: the end
of the first comes before the end of the second, that before an interrupt, and that before the time
limit of the run.
-/

namespace ConformanceGate.Supervision

def isOver (deadline : Option Nat) : Program Bool :=
  match deadline with
  | none => .done false
  | some deadline => do return deadline ≤ (← .now)

/-- Looks at both children until the first one has ended or the waiting has to stop. -/
def watch (deadline : Option Nat) :
    Nat → Child → Child → Program (Except Failure ExitStatus × Child × Child)
  | 0, _, _ => .exhausted
  | rounds + 1, primary, companion => do
    match ← primary.observe with
    | (.error f, primary) => return (.error f, primary, companion)
    | (.ok (some status), primary) => return (.ok status, primary, companion)
    | (.ok none, primary) =>
      match ← companion.observe with
      | (.error f, companion) => return (.error f, primary, companion)
      | (.ok (some status), companion) =>
        let cause := .exitedBeforeEnd companion.label status primary.label
        return (.error (.infrastructure cause), primary, companion)
      | (.ok none, companion) =>
        if ← .interrupted then return (.error .interrupted, primary, companion)
        else if ← isOver deadline then
          return (.error (.infrastructure (.unfinished primary.label)), primary, companion)
        else
          .sleep pollInterval
          watch deadline rounds primary companion

/-- Supervises both children for at most `limit`, if there is one. -/
def supervise (limit : Option Nat) (rounds : Nat) (primary companion : Child) :
    Program (Except Failure ExitStatus × Child × Child) :=
  match limit with
  | none => watch none rounds primary companion
  | some limit => do
    match Instant.after? (← .now) limit with
    | none => return (.error .beyondClock, primary, companion)
    | some deadline => watch (some deadline) rounds primary companion

end ConformanceGate.Supervision
