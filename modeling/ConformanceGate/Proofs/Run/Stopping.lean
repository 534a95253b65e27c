import ConformanceGate.Proofs.Run.Child
import ConformanceGate.Proofs.System.Clock

/-!
# The protocol of stopping

A child is stopped in three steps: its group is asked to end, it is waited for until the group is
empty or the grace period is over, in which case the group is killed, and its exit status is
collected. On a clock this comes to an end, and a second stop does nothing
(`Child.terminate_protocol`).
-/

namespace ConformanceGate

open Program

namespace Child

variable {c : Child}

/-! ## Stopping comes to an end -/

/-- The events end when the group was asked to end: a grace period from then on is more than the
clock has left. -/
def Overruns (process grace : Nat) (events : List Event) : Prop :=
  ∃ front asked, events = front ++ [.signaled process .term true, .clock asked] ∧
    Instant.limit ≤ asked + grace

variable {σ : Type} {host : Host σ} {s : σ}

/-- With enough rounds for the time that is left, a group is waited for until that is over. -/
theorem run_awaitGroup (timed : host.Timed) {deadline n : Nat}
    (enough : deadline ≤ host.time s + n * pollInterval) :
    ∃ c' s', (awaitGroup deadline (n + 1) c).run host s = (some c', s') := by
  induction n generalizing c s with
  | zero =>
    have past : deadline ≤ host.time s := by simpa using enough
    simp only [awaitGroup, bind_eq, run_now_bind, if_pos past]
    exact ⟨c, _, rfl⟩
  | succ n ih =>
    rw [awaitGroup]
    simp only [bind_eq, run_now_bind]
    split_ifs with past
    · exact ⟨c, _, rfl⟩
    · obtain ⟨⟨found, middle⟩, s₁, ran⟩ := c.halts_poll.run host (host s .now).2
      rw [run_bind_some ran]
      dsimp only
      have onward : host.time s ≤ host.time s₁ := by
        have looked := timed.run_le c.poll (host s .now).2
        rw [ran] at looked
        exact Nat.le_trans (timed.onward s .now) looked
      have asked := timed.onward s₁ (.groupAlive middle.process)
      rw [run_groupAlive_bind]
      split_ifs
      · have slept := timed.slept (host s₁ (.groupAlive middle.process)).2 pollInterval
        refine ih ?_
        rw [Nat.succ_mul] at enough
        omega
      · exact ⟨middle, _, rfl⟩

/-- With enough rounds for the grace period a group is stopped, unless the clock ends too early. -/
theorem run_stopGroup (c : Child) (s : σ) (timed : host.Timed) {rounds : Nat}
    (enough : c.grace / pollInterval + 1 < rounds) :
    (∃ c' s', (c.stopGroup rounds).run host s = (some c', s')) ∨
      ∃ s', (c.stopGroup rounds).run host s = (none, s') ∧
        Overruns c.process c.grace ((c.stopGroup rounds).trace host s) := by
  obtain ⟨n, rfl⟩ := Nat.exists_eq_succ_of_ne_zero (Nat.ne_zero_of_lt enough)
  unfold stopGroup trace
  simp only [run, visits]
  cases reached : (host s (.signal c.process .term)).1 with
  | false => exact .inl ⟨c, _, rfl⟩
  | true =>
    simp only [bind_eq, run_now_bind, visits_now_bind]
    cases within : Instant.after? (host.time (host s (.signal c.process .term)).2) c.grace with
    | none =>
      have late := Instant.after?_eq_none_iff.mp within
      have first : host.answer (s, .signal c.process .term) = .signaled c.process .term true :=
        congrArg (Event.mk (.signal c.process .term)) reached
      exact .inr ⟨_, rfl, [], _, List.cons_eq_cons.mpr ⟨first, rfl⟩, late⟩
    | some deadline =>
      obtain ⟨-, rfl⟩ := Instant.after?_eq_some_iff.mp within
      have onward := timed.onward (host s (.signal c.process .term)).2 .now
      refine .inl (run_awaitGroup timed ?_)
      have wide : c.grace ≤ n * pollInterval := by
        have := Nat.div_add_mod c.grace pollInterval
        simp only [pollInterval] at *
        omega
      omega

/-- So is a child. -/
theorem run_terminate (timed : host.Timed) {rounds : Nat}
    (enough : c.grace / pollInterval + 1 < rounds) :
    (∃ c' s', (c.terminate rounds).run host s = (some c', s')) ∨
      Overruns c.process c.grace ((c.terminate rounds).trace host s) := by
  unfold terminate
  split_ifs
  · exact .inl ⟨c, s, rfl⟩
  · simp only [bind_eq]
    obtain ⟨⟨found, polled⟩, s₁, ran⟩ := (halts_poll { c with stopped := true }).run host s
    have tracked := poll_tracks (runs_trace ran)
    have process : polled.process = c.process := tracked.process
    have grace : polled.grace = c.grace := tracked.grace
    rcases polled.run_stopGroup s₁ timed (grace ▸ enough) with
      ⟨halted, s₂, ran'⟩ | ⟨s₂, ran', front, asked, ends, late⟩
    · rw [run_bind_some ran, run_bind_some ran']
      exact .inl (halted.halts_reap.run host s₂)
    · rw [trace_bind_some ran, trace_bind_none _ ran', ends, process, ← List.append_assoc]
      exact .inr ⟨_, asked, rfl, grace ▸ late⟩

/-! ## The protocol -/

/-- A stopped child is not stopped again. -/
theorem terminate_of_stopped (stopped : c.stopped) (rounds : Nat) :
    c.terminate rounds = done c := if_pos stopped

/-- A known exit status is given without asking. -/
theorem poll_of_exit {status : ExitStatus} (known : c.exit = some status) :
    c.poll = done (.ok (some status), c) := by
  unfold poll
  rw [known]

/-- Whatever becomes of the group and of the clock, a child is stopped by the protocol. Its exit
status afterwards is the one that was known before or was collected since, and is known if waiting
for it told it. It is not asked for again, and stopping the child again does nothing. With enough
rounds for the grace period the child is stopped under every host that keeps time, unless the clock
has less than a grace period left when the group was asked to end, and nothing happens from then
on. -/
theorem terminate_protocol (c : Child) (rounds : Nat) (fresh : c.stopped = false) :
    (∀ events c', Runs (c.terminate rounds) events c' →
      Quelled c.process c.grace events ∧ (Reliable events → c'.exit.isSome) ∧
      (∀ status, c'.exit = some status ↔
        c.exit = some status ∨ Observed c.process status events) ∧
      (∀ status, c'.exit = some status → c'.poll = done (.ok (some status), c')) ∧
      ∀ later, c'.terminate later = done c') ∧
    ∀ {σ : Type} (host : Host σ) (s : σ), host.Timed → c.grace / pollInterval + 1 < rounds →
      (∃ c' s', (c.terminate rounds).run host s = (some c', s')) ∨
        Overruns c.process c.grace ((c.terminate rounds).trace host s) := by
  refine ⟨fun events c' h => ?_, fun host s timed enough => run_terminate timed enough⟩
  obtain ⟨collects, quelled, known⟩ := terminate_quelled h fresh
  exact ⟨quelled, known, collects.exit, fun status => poll_of_exit,
    terminate_of_stopped collects.stopped⟩

/-- On this host a group has something left in it until it is killed, and so has its process. -/
def stubbornHost : Host Nat := .byTime fun _ r =>
  match r with
  | .signal _ _ => true
  | .groupAlive _ => true
  | .wait _ => some (.signaled 9)
  | r => r.idle

def stubbornChild : Child := ⟨"harness", 7, pollInterval, none, false⟩

/-- The child is asked to end, is still there after the pause, and is killed. -/
def stubbornEvents : List Event := [
  .polled 7 (.ok none), .signaled 7 .term true, .clock 0,
  .clock 0, .polled 7 (.ok none), .groupFound 7 true, .slept pollInterval,
  .clock pollInterval, .signaled 7 .kill true, ⟨.kill 7, ()⟩, .waited 7 (some (.signaled 9))]

/-- A group that does not end when asked is killed after the grace period, and its status is kept.
-/
theorem terminate_protocol_stubborn :
    stubbornChild.stopped = false ∧ stubbornHost.Timed ∧
      (∃ c' s', (stubbornChild.terminate 3).run stubbornHost 0 = (some c', s')) ∧
      ∃ c', Runs (stubbornChild.terminate 3) stubbornEvents c' ∧ Reliable stubbornEvents ∧
        Quelled 7 pollInterval stubbornEvents ∧ c'.exit = some (.signaled 9) ∧
        c'.poll = done (.ok (some (.signaled 9)), c') ∧ ∀ later, c'.terminate later = done c' := by
  obtain ⟨protocol, returns⟩ := terminate_protocol stubbornChild 3 rfl
  have played : Plays stubbornHost (stubbornChild.terminate 3) 0 stubbornEvents
      ⟨"harness", 7, pollInterval, some (.signaled 9), true⟩ pollInterval := ⟨rfl, rfl⟩
  obtain ⟨quelled, known, collected, kept, again⟩ := protocol _ _ played.runs
  have stopped : ∃ c' s', (stubbornChild.terminate 3).run stubbornHost 0 = (some c', s') := by
    refine (returns stubbornHost 0 (Host.timed_byTime _) (by decide)).resolve_right ?_
    -- The last thing that is played is the wait, not a look at the clock.
    rintro ⟨front, asked, ends, -⟩
    have last := congrArg List.getLast? (played.trace.symm.trans ends)
    have last : Event.waited 7 (some (.signaled 9)) = .clock asked := by
      simpa [stubbornEvents] using last
    cases last
  have reliable : Reliable stubbornEvents := by
    intro process hmem
    have others : ∀ e ∈ stubbornEvents, e ≠ .waited process none := by
      repeat refine List.forall_mem_cons.mpr ⟨nofun, ?_⟩
      exact nofun
    exact others _ hmem rfl
  exact ⟨rfl, Host.timed_byTime _, stopped, _, played.runs, reliable, quelled, rfl, kept _ rfl,
    again⟩

end Child
end ConformanceGate
