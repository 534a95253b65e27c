import ConformanceGate.Proofs.System.FileSystem
import ConformanceGate.Proofs.System.Visits

/-!
# Runs on a clock

A host shows a time in each of its states, and whether an interrupt is raised. It is timed if the
time never goes back and a sleep lasts as long as it was asked for (`Program.Host.Timed`). Under a
host a program plays one list of events (`Program.Plays`); what it plays is put together from what
its parts play.
-/

namespace ConformanceGate.Program

variable {σ α β : Type} {host : Host σ} {s s₁ s₂ s' : σ} {events front back : List Event}

/-! ## Time and interrupts -/

/-- The time that a host shows in a state. -/
def Host.time (host : Host σ) (s : σ) : Nat := (host s .now).1

/-- The clock never goes back, and a sleep lasts at least as long as it was asked for. -/
structure Host.Timed (host : Host σ) : Prop where
  onward : ∀ s r, host.time s ≤ host.time (host s r).2
  slept : ∀ s duration, host.time s + duration ≤ host.time (host s (.sleep duration)).2

def Host.raised (host : Host σ) (s : σ) : Bool := (host s .interrupted).1

/-- A raised interrupt stays raised, whatever is asked. -/
def Host.HoldsFlag (host : Host σ) : Prop :=
  ∀ s r, host.raised s = true → host.raised (host s r).2 = true

/-- No program turns the clock back. -/
theorem Host.Timed.run_le (timed : host.Timed) (p : Program α) (s : σ) :
    host.time s ≤ host.time (p.run host s).2 := by
  induction p generalizing s with
  | done a => exact Nat.le_refl _
  | ask r k ih => exact Nat.le_trans (timed.onward s r) (ih _ _)
  | exhausted => exact Nat.le_refl _

/-- The clock does not go back along the requests of a run. -/
theorem Host.Timed.le_visits (timed : host.Timed) (p : Program α) (s : σ) :
    ∀ v ∈ p.visits host s, host.time s ≤ host.time v.1 := by
  induction p generalizing s with
  | done a => nofun
  | ask r k ih =>
    intro v hv
    rcases List.mem_cons.mp hv with rfl | hv
    · exact Nat.le_refl _
    · exact Nat.le_trans (timed.onward s r) (ih _ _ v hv)
  | exhausted => nofun

/-- The clock is not further at any request of a run than at its end. -/
theorem Host.Timed.visits_le (timed : host.Timed) (p : Program α) (s : σ) :
    ∀ v ∈ p.visits host s, host.time v.1 ≤ host.time (p.run host s).2 := by
  induction p generalizing s with
  | done a => nofun
  | ask r k ih =>
    intro v hv
    rcases List.mem_cons.mp hv with rfl | hv
    · exact timed.run_le (.ask r k) s
    · exact ih _ _ v hv
  | exhausted => nofun

/-- Later requests come at later times. -/
theorem Host.Timed.visits_pairwise (timed : host.Timed) (p : Program α) (s : σ) :
    (p.visits host s).Pairwise fun u v => host.time u.1 ≤ host.time v.1 := by
  induction p generalizing s with
  | done a => exact .nil
  | ask r k ih =>
    exact .cons (fun v hv => Nat.le_trans (timed.onward s r) (timed.le_visits _ _ v hv)) (ih _ _)
  | exhausted => exact .nil

/-! ## Running what follows -/

theorem run_bind_some {p : Program α} {f : α → Program β} {a : α}
    (h : p.run host s = (some a, s')) : (p.bind f).run host s = (f a).run host s' := by
  rw [run_bind, h]

theorem run_now_bind (f : Nat → Program α) (s : σ) :
    (now.bind f).run host s = (f (host.time s)).run host (host s .now).2 := rfl

theorem run_interrupted_bind (f : Bool → Program α) (s : σ) :
    (interrupted.bind f).run host s = (f (host.raised s)).run host (host s .interrupted).2 := rfl

theorem run_groupAlive_bind (process : Nat) (f : Bool → Program α) (s : σ) :
    ((groupAlive process).bind f).run host s =
      (f (host s (.groupAlive process)).1).run host (host s (.groupAlive process)).2 := rfl

/-! ## What is played -/

/-- Under the host the program starts in `s`, goes through the events, and ends with `a` in `s'`. -/
structure Plays (host : Host σ) (p : Program α) (s : σ) (events : List Event) (a : α) (s' : σ) :
    Prop where
  run : p.run host s = (some a, s')
  trace : p.trace host s = events

theorem plays_done (a : α) (s : σ) : Plays host (done a) s [] a s := ⟨rfl, rfl⟩

/-- A request gets its reply, and the program goes on from there. -/
theorem plays_ask {r : Request} {k : r.Reply → Program α} {a : α}
    (h : Plays host (k (host s r).1) (host s r).2 events a s') :
    Plays host (ask r k) s (⟨r, (host s r).1⟩ :: events) a s' :=
  ⟨h.run, congrArg (_ :: ·) h.trace⟩

/-- What the continuation asks comes after what the program asks. -/
theorem visits_bind (p : Program α) (f : α → Program β) (s : σ) :
    (p.bind f).visits host s = p.visits host s ++ match p.run host s with
      | (some a, s') => (f a).visits host s'
      | (none, _) => [] := by
  induction p generalizing s with
  | done a => rfl
  | ask r k ih => exact congrArg (_ :: ·) (ih _ _)
  | exhausted => rfl

theorem visits_now_bind (f : Nat → Program α) (s : σ) :
    (now.bind f).visits host s = (s, .now) :: (f (host.time s)).visits host (host s .now).2 := rfl

theorem visits_bind_some {p : Program α} {f : α → Program β} {a : α}
    (h : p.run host s = (some a, s')) :
    (p.bind f).visits host s = p.visits host s ++ (f a).visits host s' := by
  rw [visits_bind, h]

theorem trace_bind_some {p : Program α} {f : α → Program β} {a : α}
    (h : p.run host s = (some a, s')) :
    (p.bind f).trace host s = p.trace host s ++ (f a).trace host s' := by
  unfold trace
  rw [visits_bind_some h, List.map_append]

/-- Where a program gives up, its continuation asks nothing. -/
theorem trace_bind_none {p : Program α} (f : α → Program β) (h : p.run host s = (none, s')) :
    (p.bind f).trace host s = p.trace host s := by
  unfold trace
  rw [visits_bind, h, List.append_nil]

/-- A run may be followed by one of the continuation. -/
theorem Plays.bind {p : Program α} {f : α → Program β} {a : α} {b : β}
    (h : Plays host p s front a s₁) (h' : Plays host (f a) s₁ back b s₂) :
    Plays host (p.bind f) s (front ++ back) b s₂ := by
  constructor
  · rw [run_bind, h.run]
    exact h'.run
  · refine (congrArg (List.map host.answer) (visits_bind_some h.run)).trans ?_
    exact List.map_append.trans (congrArg₂ (· ++ ·) h.trace h'.trace)

theorem Plays.runs {p : Program α} {a : α} (h : Plays host p s events a s') : Runs p events a :=
  h.trace ▸ runs_trace h.run

theorem plays_now_bind {f : Nat → Program α} {a : α}
    (h : Plays host (f (host.time s)) (host s .now).2 events a s') :
    Plays host (now.bind f) s (.clock (host.time s) :: events) a s' := plays_ask h

theorem plays_sleep_bind {duration : Nat} {f : Unit → Program α} {a : α}
    (h : Plays host (f ()) (host s (.sleep duration)).2 events a s') :
    Plays host ((sleep duration).bind f) s (.slept duration :: events) a s' := plays_ask h

/-- A program that comes to an end plays something under every host. -/
theorem Halts.plays {p : Program α} (h : p.Halts) (host : Host σ) (s : σ) :
    ∃ events a s', Plays host p s events a s' := by
  obtain ⟨a, s', ran⟩ := h.run host s
  exact ⟨_, a, s', ran, rfl⟩

/-- A run never goes back in time. -/
theorem Host.Timed.plays_le (timed : host.Timed) {p : Program α} {a : α}
    (h : Plays host p s events a s') : host.time s ≤ host.time s' := by
  have onward := timed.run_le p s
  rwa [h.run] at onward

/-- What the clock shows during a run lies between the beginning and the end of the run. -/
theorem Host.Timed.plays_clock (timed : host.Timed) {p : Program α} {a : α} {time : Nat}
    (h : Plays host p s events a s') (read : .clock time ∈ events) :
    host.time s ≤ time ∧ time ≤ host.time s' := by
  rw [← h.trace] at read
  obtain ⟨⟨t, r⟩, visited, same⟩ := List.mem_map.mp read
  obtain ⟨rfl, shown⟩ := Event.mk.inj same
  obtain rfl : host.time t = time := eq_of_heq shown
  have before := timed.visits_le p s _ visited
  rw [h.run] at before
  exact ⟨timed.le_visits p s _ visited, before⟩

end Program

namespace Action

open Program

variable {σ α β : Type} {host : Host σ} {s s₁ s₂ : σ} {front back : List Event}

theorem plays_bind {t : Action α} {f : α → Action β} {a : α} {outcome : Except Failure β}
    (h : Plays host t.toProgram s front (.ok a) s₁)
    (h' : Plays host (f a).toProgram s₁ back outcome s₂) :
    Plays host (t >>= f).toProgram s (front ++ back) outcome s₂ := by
  rw [toProgram_bind]
  exact h.bind h'

theorem mem_visits_bind {t : Action α} {f : α → Action β} {a : α} {v : σ × Request}
    (h : t.toProgram.run host s = (some (.ok a), s₁)) (later : v ∈ (f a).toProgram.visits host s₁) :
    v ∈ (t >>= f).toProgram.visits host s := by
  rw [toProgram_bind, visits_bind_some h]
  exact List.mem_append_right _ later

end Action

namespace Program

/-! ## Hosts that go by the time -/

/-- A host that has nothing but a clock. What it replies depends on the time alone, and the clock
stands still but for sleeps. -/
def Host.byTime (reply : Nat → (r : Request) → r.Reply) : Host Nat
  | time, .now => (time, time)
  | time, .sleep duration => ((), time + duration)
  | time, r => (reply time r, time)

/-- A host whose replies depend on the time alone has a clock that never goes back. -/
theorem Host.timed_byTime (reply : Nat → (r : Request) → r.Reply) : (byTime reply).Timed where
  onward := by
    intro time r
    cases r with
    | sleep duration => exact Nat.le_add_right time duration
    | _ => exact Nat.le_refl time
  slept := fun _ _ => Nat.le_refl _

end ConformanceGate.Program

namespace ConformanceGate

/-- The reply of a system that has nothing, where nothing happens. -/
def Request.idle : (r : Request) → r.Reply
  | .readFile _ => .error .notFound
  | .writeFile _ _ | .createDirs _ | .handleSignal _ | .bind _ => .ok ()
  | .isFile _ | .isThere _ | .interrupted | .connect _ _ | .signal _ _ | .groupAlive _ => false
  | .currentDir => []
  | .now => (0 : Nat)
  | .today => (0 : Int)
  | .lookup _ => .ok []
  | .spawn _ => .error .notFound
  | .poll _ => .ok none
  | .wait _ => none
  | .sleep _ | .kill _ | .print _ | .warn _ => ()

end ConformanceGate
