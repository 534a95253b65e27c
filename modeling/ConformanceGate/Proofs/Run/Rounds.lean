import ConformanceGate.Proofs.Run.Interrupts
import ConformanceGate.Proofs.Run.Readiness
import ConformanceGate.Proofs.Run.Supervision
import ConformanceGate.Proofs.System.Clock

/-!
# The rounds of supervision

Under a host every round of supervision has something to find: how either child has ended, whether
an interrupt is raised, and the time (`Supervision.Round`). Supervision goes on through the rounds
in which nothing comes up, and ends in the first other one, for the first reason that holds there.
-/

namespace ConformanceGate

open Program

variable {σ : Type}

namespace Child

/-- What a look at a child finds in a state, and the state that it leads to. A known exit status is
not asked for. -/
def glance (host : Host σ) (c : Child) (s : σ) : Except SystemError (Option ExitStatus) × σ :=
  match c.exit with
  | some status => (.ok (some status), s)
  | none => host s (.poll c.process)

/-- A look finds what there is to find, and changes nothing if the child has not ended. -/
theorem run_poll (host : Host σ) (c : Child) (s : σ) :
    ∃ c', c.poll.run host s = (some ((c.glance host s).1, c'), (c.glance host s).2) ∧
      ((c.glance host s).1 = .ok none → c' = c) := by
  unfold poll glance
  cases c.exit with
  | some status => exact ⟨c, rfl, nofun⟩
  | none =>
    simp only [run]
    rcases (host s (.poll c.process)).1 with e | _ | status
    · exact ⟨c, rfl, nofun⟩
    · exact ⟨c, rfl, fun _ => rfl⟩
    · exact ⟨_, rfl, nofun⟩

theorem run_observe (host : Host σ) (c : Child) (s : σ) :
    ∃ c', c.observe.run host s = (some ((c.glance host s).1.mapError
        (.system ("polling " ++ c.label)), c'), (c.glance host s).2) ∧ c'.label = c.label ∧
      ((c.glance host s).1 = .ok none → c' = c) := by
  obtain ⟨c', ran, same⟩ := c.run_poll host s
  have label : c'.label = c.label := (poll_tracks (runs_trace ran)).label
  refine ⟨c', ?_, label, same⟩
  simp only [observe, bind_eq, pure_eq, run_bind, ran, label]
  rfl

end Child

namespace Supervision

/-! ## What a round finds -/

/-- What there is to find in a round, whether or not supervision comes to ask for all of it. -/
structure Round where
  /-- What a look at the first child finds. -/
  primary : Except SystemError (Option ExitStatus)
  /-- What a look at the second child finds. -/
  companion : Except SystemError (Option ExitStatus)
  /-- Whether an interrupt is raised. -/
  raised : Bool
  /-- The time after the looks. -/
  time : Nat

/-- Nothing comes up in a round: both children are there, no interrupt is raised, and the time is
not over. -/
structure Round.Quiet (deadline : Option Nat) (r : Round) : Prop where
  primary : r.primary = .ok none
  companion : r.companion = .ok none
  calm : r.raised = false
  early : ∀ d, deadline = some d → r.time < d

/-- Why supervision ends in a round, by the first reason that holds: the end of the first child
comes before the end of the second one, that before an interrupt, and that before the time limit. A
look that is refused comes in the place of what it would have found. -/
inductive Round.Ends (deadline : Option Nat) (primary companion : Child) (r : Round) :
    Except Failure ExitStatus → Prop
  | primary {status : ExitStatus} : r.primary = .ok (some status) →
      Ends deadline primary companion r (.ok status)
  | companion {status : ExitStatus} : r.primary = .ok none → r.companion = .ok (some status) →
      Ends deadline primary companion r
        (.error (.infrastructure (.exitedBeforeEnd companion.label status primary.label)))
  | interrupted : r.primary = .ok none → r.companion = .ok none → r.raised = true →
      Ends deadline primary companion r (.error .interrupted)
  | overdue {d : Nat} : r.primary = .ok none → r.companion = .ok none → r.raised = false →
      deadline = some d → d ≤ r.time →
      Ends deadline primary companion r (.error (.infrastructure (.unfinished primary.label)))
  | primaryUnseen {e : SystemError} : r.primary = .error e →
      Ends deadline primary companion r (.error (.system ("polling " ++ primary.label) e))
  | companionUnseen {e : SystemError} : r.primary = .ok none → r.companion = .error e →
      Ends deadline primary companion r (.error (.system ("polling " ++ companion.label) e))

variable {host : Host σ} {deadline : Option Nat} {primary companion : Child} {s s₀ : σ} {n k : Nat}
  {outcome : Except Failure ExitStatus}

/-- A round is quiet, or supervision ends in it. -/
theorem Round.quiet_or_ends (deadline : Option Nat) (primary companion : Child) (r : Round) :
    r.Quiet deadline ∨ ∃ outcome, r.Ends deadline primary companion outcome := by
  rcases first : r.primary with e | _ | status
  · exact .inr ⟨_, .primaryUnseen first⟩
  · rcases second : r.companion with e | _ | status
    · exact .inr ⟨_, .companionUnseen first second⟩
    · cases flag : r.raised with
      | true => exact .inr ⟨_, .interrupted first second flag⟩
      | false =>
        by_cases late : ∃ d, deadline = some d ∧ d ≤ r.time
        · obtain ⟨d, same, reached⟩ := late
          exact .inr ⟨_, .overdue first second flag same reached⟩
        · refine .inl ⟨first, second, flag, fun d same => ?_⟩
          exact Nat.lt_of_not_le fun reached => late ⟨d, same, reached⟩
    · exact .inr ⟨_, .companion first second⟩
  · exact .inr ⟨_, .primary first⟩

theorem Round.Ends.not_quiet {r : Round} (h : r.Ends deadline primary companion outcome) :
    ¬ r.Quiet deadline := by
  rintro ⟨first, second, calm, early⟩
  cases h with
  | overdue _ _ _ same reached => exact Nat.not_le_of_lt (early _ same) reached
  | _ => simp_all

/-- What there is to find in the round that begins in a state. -/
def Round.of (host : Host σ) (primary companion : Child) (s : σ) : Round :=
  let first := primary.glance host s
  let second := companion.glance host first.2
  let check := host second.2 .interrupted
  ⟨first.1, second.1, check.1, host.time check.2⟩

/-- The state after a round in which nothing comes up. The clock is only read for a deadline. -/
def after (host : Host σ) (deadline : Option Nat) (primary companion : Child) (s : σ) : σ :=
  let looked := (companion.glance host (primary.glance host s).2).2
  let checked := (host looked .interrupted).2
  (host (deadline.elim checked fun _ => (host checked .now).2) (.sleep pollInterval)).2

/-- The time is not over before the deadline. -/
theorem run_isOver_of_early (early : ∀ d, deadline = some d → host.time s < d) :
    (isOver deadline).run host s =
      (some false, deadline.elim s fun _ => (host s .now).2) := by
  cases deadline with
  | none => rfl
  | some d =>
    refine (run_now_bind _ s).trans ?_
    rw [decide_eq_false (Nat.not_le_of_lt (early d rfl))]
    rfl

theorem run_isOver_of_le {d : Nat} (reached : d ≤ host.time s) :
    (isOver (some d)).run host s = (some true, (host s .now).2) := by
  refine (run_now_bind _ s).trans ?_
  rw [decide_eq_true reached]
  rfl

/-- If both children are there, it is asked for an interrupt and for the time. -/
theorem run_watch_of_looks (first : (primary.glance host s).1 = .ok none)
    (second : (companion.glance host (primary.glance host s).2).1 = .ok none) :
    (watch deadline (n + 1) primary companion).run host s =
      (interrupted.bind fun raised =>
        if raised then done (.error .interrupted, primary, companion)
        else (isOver deadline).bind fun late =>
          if late then
            done (.error (.infrastructure (.unfinished primary.label)), primary, companion)
          else (sleep pollInterval).bind fun _ => watch deadline n primary companion).run host
        (companion.glance host (primary.glance host s).2).2 := by
  obtain ⟨primary', ran, -, same⟩ := primary.run_observe host s
  obtain rfl := same first
  obtain ⟨companion', ran', -, same'⟩ := companion.run_observe host (primary'.glance host s).2
  obtain rfl := same' second
  refine (run_bind_some ran).trans ?_
  rw [first]
  refine (run_bind_some ran').trans ?_
  rw [second]
  rfl

/-- A round in which nothing comes up leads to the next one. -/
theorem run_watch_of_quiet (quiet : (Round.of host primary companion s).Quiet deadline) :
    (watch deadline (n + 1) primary companion).run host s =
      (watch deadline n primary companion).run host (after host deadline primary companion s) := by
  obtain ⟨first, second, calm, early⟩ := quiet
  have calm' : host.raised (companion.glance host (primary.glance host s).2).2 = false := calm
  refine (run_watch_of_looks first second).trans ((run_interrupted_bind _ _).trans ?_)
  rw [calm']
  exact run_bind_some (run_isOver_of_early early)

/-- In any other round watching ends, for the reason that holds there. -/
theorem run_watch_of_ends
    (ends : (Round.of host primary companion s).Ends deadline primary companion outcome) :
    ∃ primary' companion' s', (watch deadline (n + 1) primary companion).run host s =
      (some (outcome, primary', companion'), s') := by
  obtain ⟨primary', ran, -, same⟩ := primary.run_observe host s
  obtain ⟨companion', ran', label, -⟩ := companion.run_observe host (primary.glance host s).2
  cases ends with
  | primary first =>
    rw [show (primary.glance host s).1 = _ from first] at ran
    exact ⟨_, _, _, run_bind_some ran⟩
  | primaryUnseen first =>
    rw [show (primary.glance host s).1 = _ from first] at ran
    exact ⟨_, _, _, run_bind_some ran⟩
  | companion first second =>
    obtain rfl := same first
    rw [show (primary'.glance host s).1 = _ from first] at ran
    rw [show (companion.glance host (primary'.glance host s).2).1 = _ from second] at ran'
    rw [← label]
    exact ⟨_, _, _, (run_bind_some ran).trans (run_bind_some ran')⟩
  | companionUnseen first second =>
    obtain rfl := same first
    rw [show (primary'.glance host s).1 = _ from first] at ran
    rw [show (companion.glance host (primary'.glance host s).2).1 = _ from second] at ran'
    exact ⟨_, _, _, (run_bind_some ran).trans (run_bind_some ran')⟩
  | interrupted first second flag =>
    have flag' : host.raised (companion.glance host (primary.glance host s).2).2 = true := flag
    rw [run_watch_of_looks first second, run_interrupted_bind, flag']
    exact ⟨_, _, _, rfl⟩
  | overdue first second flag same reached =>
    subst same
    have flag' : host.raised (companion.glance host (primary.glance host s).2).2 = false := flag
    rw [run_watch_of_looks first second, run_interrupted_bind, flag']
    exact ⟨_, _, _, run_bind_some (run_isOver_of_le reached)⟩

/-! ## The rounds in their order -/

/-- The state in which a round begins, if nothing comes up in the rounds before it. -/
def start (host : Host σ) (deadline : Option Nat) (primary companion : Child) (s : σ) : Nat → σ
  | 0 => s
  | k + 1 => start host deadline primary companion (after host deadline primary companion s) k

/-- What there is to find in a round, if nothing comes up in the rounds before it. -/
def nth (host : Host σ) (deadline : Option Nat) (primary companion : Child) (s : σ) (k : Nat) :
    Round :=
  Round.of host primary companion (start host deadline primary companion s k)

/-- A round is the first in which something comes up, and this is what comes of it. -/
structure EndsIn (host : Host σ) (deadline : Option Nat) (primary companion : Child) (s : σ)
    (k : Nat) (outcome : Except Failure ExitStatus) : Prop where
  quiet : ∀ j < k, (nth host deadline primary companion s j).Quiet deadline
  ends : (nth host deadline primary companion s k).Ends deadline primary companion outcome

theorem endsIn_zero_iff : EndsIn host deadline primary companion s 0 outcome ↔
    (Round.of host primary companion s).Ends deadline primary companion outcome :=
  ⟨fun h => h.ends, fun h => ⟨nofun, h⟩⟩

/-- A later round is the first to end exactly if this one is quiet and the rest ends there. -/
theorem endsIn_succ_iff : EndsIn host deadline primary companion s (k + 1) outcome ↔
    (Round.of host primary companion s).Quiet deadline ∧
      EndsIn host deadline primary companion (after host deadline primary companion s) k
        outcome := by
  constructor
  · rintro ⟨quiet, ends⟩
    exact ⟨quiet 0 (Nat.succ_pos k), fun j hj => quiet (j + 1) (Nat.succ_lt_succ hj), ends⟩
  · rintro ⟨first, quiet, ends⟩
    refine ⟨fun j hj => ?_, ends⟩
    cases j with
    | zero => exact first
    | succ j => exact quiet j (Nat.lt_of_succ_lt_succ hj)

/-- Watching ends as the first round ends in which something comes up, if it comes to that round. -/
theorem run_watch_iff : (∃ primary' companion' s',
    (watch deadline n primary companion).run host s = (some (outcome, primary', companion'), s')) ↔
      ∃ k < n, EndsIn host deadline primary companion s k outcome := by
  induction n generalizing s with
  | zero =>
    constructor
    · rintro ⟨_, _, _, ran⟩
      cases ran
    · rintro ⟨k, hk, -⟩
      exact absurd hk (Nat.not_lt_zero k)
  | succ n ih =>
    rcases Round.quiet_or_ends deadline primary companion (Round.of host primary companion s) with
      quiet | ⟨found, ends⟩
    · rw [run_watch_of_quiet quiet, ih]
      constructor
      · rintro ⟨k, hk, later⟩
        exact ⟨k + 1, Nat.succ_lt_succ hk, endsIn_succ_iff.mpr ⟨quiet, later⟩⟩
      · rintro ⟨_ | k, hk, h⟩
        · exact absurd quiet (endsIn_zero_iff.mp h).not_quiet
        · exact ⟨k, Nat.lt_of_succ_lt_succ hk, (endsIn_succ_iff.mp h).2⟩
    · constructor
      · rintro ⟨_, _, _, ran⟩
        obtain ⟨_, _, _, ran'⟩ := run_watch_of_ends (n := n) ends
        obtain ⟨⟨rfl, -⟩, -⟩ : (outcome = found ∧ _) ∧ _ := by
          simpa only [Prod.mk.injEq, Option.some.injEq] using ran.symm.trans ran'
        exact ⟨0, Nat.succ_pos n, endsIn_zero_iff.mpr ends⟩
      · rintro ⟨_ | k, -, h⟩
        · exact run_watch_of_ends (endsIn_zero_iff.mp h)
        · exact absurd (endsIn_succ_iff.mp h).1 ends.not_quiet

/-- Watching gives up if and only if nothing comes up in any of its rounds. -/
theorem run_watch_eq_none_iff : ((watch deadline n primary companion).run host s).1 = none ↔
    ∀ k < n, (nth host deadline primary companion s k).Quiet deadline := by
  induction n generalizing s with
  | zero => exact ⟨fun _ k hk => absurd hk (Nat.not_lt_zero k), fun _ => rfl⟩
  | succ n ih =>
    rcases Round.quiet_or_ends deadline primary companion (Round.of host primary companion s) with
      quiet | ⟨found, ends⟩
    · rw [run_watch_of_quiet quiet, ih]
      constructor
      · rintro later (_ | k) hk
        · exact quiet
        · exact later k (Nat.lt_of_succ_lt_succ hk)
      · intro all k hk
        exact all (k + 1) (Nat.succ_lt_succ hk)
    · obtain ⟨_, _, _, ran⟩ := run_watch_of_ends (n := n) ends
      constructor
      · intro gaveUp
        rw [ran] at gaveUp
        cases gaveUp
      · intro all
        exact absurd (all 0 (Nat.succ_pos n)) ends.not_quiet

/-! ## Flags and clocks along the rounds -/

/-- A request that the look makes, if it makes one, keeps up what every request keeps up. -/
theorem glance_keeps {holds : σ → Prop} (kept : ∀ s r, holds s → holds (host s r).2) (c : Child)
    (h : holds s) : holds (c.glance host s).2 := by
  unfold Child.glance
  cases c.exit with
  | some status => exact h
  | none => exact kept _ _ h

/-- An interrupt that is raised when a round begins is found in the round. -/
theorem raised_of (flag : host.HoldsFlag) (raised : host.raised s = true) :
    (Round.of host primary companion s).raised = true :=
  glance_keeps flag companion (glance_keeps flag primary raised)

/-- The time of a round is not before the round begins. -/
theorem time_le_of (timed : host.Timed) :
    host.time s ≤ (Round.of host primary companion s).time := by
  have kept : ∀ t r, host.time s ≤ host.time t → host.time s ≤ host.time (host t r).2 :=
    fun t r h => Nat.le_trans h (timed.onward t r)
  exact kept _ _ (glance_keeps kept companion (glance_keeps kept primary (Nat.le_refl _)))

/-- A round in which nothing comes up takes its pause. -/
theorem time_le_after (timed : host.Timed) : (Round.of host primary companion s).time +
    pollInterval ≤ host.time (after host deadline primary companion s) := by
  refine Nat.le_trans (Nat.add_le_add_right ?_ _) (timed.slept _ _)
  cases deadline with
  | none => exact Nat.le_refl _
  | some d => exact timed.onward _ _

/-- Every round takes a pause at least. -/
theorem time_le_start (timed : host.Timed) (k : Nat) : host.time s + k * pollInterval ≤
    host.time (start host deadline primary companion s k) := by
  induction k generalizing s with
  | zero => simp [start]
  | succ k ih =>
    have first : host.time s + pollInterval ≤
        host.time (after host deadline primary companion s) :=
      Nat.le_trans (Nat.add_le_add_right (time_le_of timed) _) (time_le_after timed)
    have rest := @ih (after host deadline primary companion s)
    rw [start, Nat.succ_mul]
    omega

/-- A round without an end comes before the deadline, and takes its pauses. -/
theorem lt_of_quiet {d : Nat} (timed : host.Timed)
    (quiet : (nth host (some d) primary companion s k).Quiet (some d)) :
    host.time s + k * pollInterval < d :=
  Nat.lt_of_le_of_lt (Nat.le_trans (time_le_start timed k) (time_le_of timed)) (quiet.early d rfl)

/-! ## Supervision -/

/-- How supervision begins: without a time limit there is no deadline; a time limit is counted from
the time that the clock shows. -/
inductive Opens (host : Host σ) : Option Nat → σ → Option Nat → σ → Prop
  | unlimited {s : σ} : Opens host none s none s
  | limited {s : σ} {duration deadline : Nat} :
      Instant.after? (host.time s) duration = some deadline →
      Opens host (some duration) s (some deadline) (host s .now).2

theorem run_supervise_of_opens {limit : Option Nat} (opens : Opens host limit s deadline s₀) :
    (supervise limit n primary companion).run host s =
      (watch deadline n primary companion).run host s₀ := by
  cases opens with
  | unlimited => rfl
  | limited within =>
    refine (run_now_bind _ s).trans ?_
    rw [within]

theorem run_supervise_of_beyond {duration : Nat}
    (beyond : Instant.after? (host.time s) duration = none) :
    (supervise (some duration) n primary companion).run host s =
      (some (.error .beyondClock, primary, companion), (host s .now).2) := by
  refine (run_now_bind _ s).trans ?_
  rw [beyond]
  rfl

/-- Supervision ends in the first round in which something comes up, and never before, for the first
reason that holds there. An exit status that it ends with is what a look at the first child found.
An interrupt that is raised when a round begins is reported in that round at the latest, unless a
process has ended; a deadline is not outlasted by any round that reaches it, and on a clock such a
round comes. A deadline beyond the clock is refused at once. -/
theorem supervise_firstRound (host : Host σ) (limit : Option Nat) (n : Nat)
    (primary companion : Child) (s : σ) :
    (∀ duration, limit = some duration → Instant.after? (host.time s) duration = none →
      (supervise limit n primary companion).run host s =
        (some (.error .beyondClock, primary, companion), (host s .now).2)) ∧
    ∀ deadline s₀, Opens host limit s deadline s₀ →
      (∀ outcome, (∃ primary' companion' s', (supervise limit n primary companion).run host s =
          (some (outcome, primary', companion'), s')) ↔
        ∃ k < n, EndsIn host deadline primary companion s₀ k outcome) ∧
      (((supervise limit n primary companion).run host s).1 = none ↔
        ∀ k < n, (nth host deadline primary companion s₀ k).Quiet deadline) ∧
      (∀ k outcome, EndsIn host deadline primary companion s₀ k outcome →
        (∀ status, outcome = .ok status →
          (nth host deadline primary companion s₀ k).primary = .ok (some status)) ∧
        (host.HoldsFlag →
          ∀ j, host.raised (start host deadline primary companion s₀ j) = true → k ≤ j ∧
            (k = j → outcome ≠ .error (.infrastructure (.unfinished primary.label)))) ∧
        ∀ j d, deadline = some d → d ≤ (nth host deadline primary companion s₀ j).time → k ≤ j) ∧
      (host.Timed → ∀ duration, limit = some duration → duration / pollInterval + 1 < n →
        ((supervise limit n primary companion).run host s).1 ≠ none) := by
  refine ⟨?_, fun deadline s₀ opens => ⟨fun outcome => ?_, ?_, fun k outcome ends => ?_,
    fun timed duration limited enough gaveUp => ?_⟩⟩
  · rintro duration rfl beyond
    exact run_supervise_of_beyond beyond
  · rw [run_supervise_of_opens opens]
    exact run_watch_iff
  · rw [run_supervise_of_opens opens]
    exact run_watch_eq_none_iff
  · obtain ⟨quiet, reason⟩ := ends
    refine ⟨fun status same => ?_, fun flag j raised => ?_, fun j d same reached => ?_⟩
    · subst same
      cases reason with
      | primary found => exact found
    · have found : (nth host deadline primary companion s₀ j).raised = true := raised_of flag raised
      refine ⟨Nat.le_of_not_lt fun before => ?_, ?_⟩
      · rw [(quiet j before).calm] at found
        cases found
      · rintro rfl rfl
        cases reason with
        | overdue _ _ calm => simp [calm] at found
    · refine Nat.le_of_not_lt fun before => ?_
      exact Nat.not_le_of_lt ((quiet j before).early d same) reached
  · subst limited
    cases opens with
    | limited within =>
      rw [run_supervise_of_opens (.limited within)] at gaveUp
      have early := lt_of_quiet timed (run_watch_eq_none_iff.mp gaveUp _ enough)
      have onward := timed.onward s .now
      obtain ⟨-, rfl⟩ := Instant.after?_eq_some_iff.mp within
      simp only [pollInterval] at early
      omega

/-- In the third round process 7 has ended with success, process 8 has ended without, and the
interrupt flag is raised: in the pause before, a second handle on it was made and used. -/
def endingHost : Host (Interrupts.With 0 × Nat) :=
  Interrupts.host 0
    (.byTime fun time r =>
      match r with
      | .poll 7 => .ok (if 2 ≤ time / pollInterval then some (.exited 0) else none)
      | .poll 8 => .ok (if 2 ≤ time / pollInterval then some (.exited 1) else none)
      | r => r.idle)
    fun time r =>
      match r with
      | .sleep _ => if time = pollInterval then [.share 0, .raise 1] else []
      | _ => []

def endingStart : Interrupts.With 0 × Nat := (⟨.single, Nat.one_pos⟩, 0)

/-- The two children of the rounds of `endingHost`. -/
def endingHarness : Child := ⟨"harness", 7, 0, none, false⟩

def endingSubject : Child := ⟨"subject", 8, 0, none, false⟩

/-- In the third round the harness has ended, the interrupt is raised and the time is over: the end
of the harness decides. -/
theorem supervise_firstRound_atOnce :
    let program := supervise (some 40000) 4 endingHarness endingSubject
    let begins := start endingHost (some 40000) endingHarness endingSubject endingStart
    let round := nth endingHost (some 40000) endingHarness endingSubject endingStart
    Opens endingHost (some 40000) endingStart (some 40000) endingStart ∧ endingHost.HoldsFlag ∧
      endingHost.Timed ∧
      EndsIn endingHost (some 40000) endingHarness endingSubject endingStart 2 (.ok (.exited 0)) ∧
      (∃ harness subject s', program.run endingHost endingStart =
        (some (.ok (.exited 0), harness, subject), s')) ∧
      (round 2).primary = .ok (some (.exited 0)) ∧
      (∀ j, endingHost.raised (begins j) = true → 2 ≤ j) ∧
      (∀ j, 40000 ≤ (round j).time → 2 ≤ j) ∧ (round 2).raised = true ∧
      (program.run endingHost endingStart).1 ≠ none := by
  intro program begins round
  have opens : Opens endingHost (some 40000) endingStart (some 40000) endingStart :=
    .limited (if_pos (by decide))
  have holds : endingHost.HoldsFlag := Interrupts.holdsFlag_host _ _ _
  have timed : endingHost.Timed := Interrupts.timed_host (Host.timed_byTime _) _ _
  obtain ⟨ended_iff, -, justified, returns⟩ :=
    (supervise_firstRound endingHost (some 40000) 4 endingHarness endingSubject endingStart).2 _ _
      opens
  have ends : EndsIn endingHost (some 40000) endingHarness endingSubject endingStart 2
      (.ok (.exited 0)) := by
    refine ⟨fun j hj => ?_, .primary rfl⟩
    obtain rfl | rfl : j = 0 ∨ j = 1 := by omega
    · exact ⟨rfl, rfl, rfl, fun d same => by cases same; decide⟩
    · exact ⟨rfl, rfl, rfl, fun d same => by cases same; decide⟩
  obtain ⟨found, reported, reached⟩ := justified 2 _ ends
  exact ⟨opens, holds, timed, ends, (ended_iff _).mpr ⟨2, by decide, ends⟩, found _ rfl,
    fun j raised => (reported holds j raised).1, fun j late => reached j 40000 rfl late, rfl,
    returns timed 40000 rfl (by decide)⟩

end Supervision
end ConformanceGate
