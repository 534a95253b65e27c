import ConformanceGate.Proofs.System.Clock
import ConformanceGate.Run.Interrupts
import Mathlib.Data.List.GetD

/-!
# Hosts with an interrupt flag

Handles on flags are made, shared and used by others while a program waits for a reply. None of
this lowers a flag, so that a host which answers from the flag of a handle holds its flag
(`Interrupts.holdsFlag_host`). Neither does it touch the clock (`Interrupts.timed_host`).
-/

namespace ConformanceGate.Interrupts

open Program

inductive Act
  | fresh
  | share (handle : Nat)
  | raise (handle : Nat)

def perform (s : Interrupts) : Act → Interrupts
  | .fresh => s.fresh
  | .share handle => s.share handle
  | .raise handle => s.raiseFlag handle

variable {s : Interrupts} {handle : Nat}

/-- New handles come after the ones that are there, which keep their flags. -/
theorem flagOf_append (there : handle < s.handles.length) (new : List Nat) :
    ({ s with handles := s.handles ++ new } : Interrupts).flagOf handle = s.flagOf handle :=
  List.getD_append _ _ _ _ there

theorem length_le_perform (s : Interrupts) (act : Act) :
    s.handles.length ≤ (s.perform act).handles.length := by
  cases act <;> simp [perform, fresh, share, raiseFlag]

/-- A flag is raised through the handles on it, and through no others. It is never lowered. -/
theorem isRaised_perform_iff (there : handle < s.handles.length) (act : Act) :
    (s.perform act).isRaised handle = true ↔ s.isRaised handle = true ∨
      ∃ other, act = .raise other ∧ s.flagOf other = s.flagOf handle := by
  cases act with
  | fresh => simp [perform, fresh, isRaised, flagOf_append there]
  | share other => simp [perform, share, isRaised, flagOf_append there]
  | raise other =>
    simp only [perform, isRaised_raiseFlag, Bool.or_eq_true, beq_iff_eq, Act.raise.injEq,
      exists_eq_left']
    rw [or_comm, eq_comm (a := s.flagOf handle)]

/-! ## Answering from a flag -/

/-- Flags on which the given handle is one. -/
def With (handle : Nat) : Type := { s : Interrupts // handle < s.handles.length }

def With.perform (flags : With handle) (act : Act) : With handle :=
  ⟨flags.1.perform act, Nat.lt_of_lt_of_le flags.2 (length_le_perform _ _)⟩

/-- A flag that is raised stays raised through any acts. -/
theorem With.isRaised_foldl {flags : With handle} (raised : flags.1.isRaised handle = true)
    (acts : List Act) : (acts.foldl With.perform flags).1.isRaised handle = true := by
  induction acts generalizing flags with
  | nil => exact raised
  | cons act acts ih => exact ih ((isRaised_perform_iff flags.2 act).mpr (.inl raised))

variable {σ : Type}

/-- A host whose interrupts are those of a flag. `acts` is what the holders of handles do while a
request is answered. -/
def host (handle : Nat) (inner : Host σ) (acts : σ → Request → List Act) : Host (With handle × σ) :=
  fun (flags, t) r =>
    (match r with
      | .interrupted => flags.1.isRaised handle
      | r => (inner t r).1,
    (acts t r).foldl With.perform flags, (inner t r).2)

/-- A host that answers from the flags holds its flag. -/
theorem holdsFlag_host (handle : Nat) (inner : Host σ) (acts : σ → Request → List Act) :
    (host handle inner acts).HoldsFlag :=
  fun (_, t) r raised => With.isRaised_foldl raised (acts t r)

/-- The flags do not touch the clock. -/
theorem timed_host {inner : Host σ} (timed : inner.Timed) (handle : Nat)
    (acts : σ → Request → List Act) : (host handle inner acts).Timed where
  onward := fun (_, t) r => timed.onward t r
  slept := fun (_, t) duration => timed.slept t duration

end ConformanceGate.Interrupts
