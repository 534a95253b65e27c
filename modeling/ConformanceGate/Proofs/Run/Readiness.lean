import ConformanceGate.Proofs.Run.Endpoint
import ConformanceGate.Run.Readiness

/-!
# When the listening side counts as ready

The waiting ends well in one way only: a connection was accepted, or the fixed time was over and the
child had still not ended (`Readiness.Shown`). Whenever the child was looked at until then it had
not ended, and no interrupt was raised (`Undisturbed`).
-/

namespace ConformanceGate

open Program Endpoint

/-- Whenever a process was looked at it had not ended, and no interrupt was raised. -/
structure Undisturbed (process : Nat) (events : List Event) : Prop where
  alive : ∀ found, .polled process found ∈ events → found = .ok none
  calm : ∀ raised, .interrupt raised ∈ events → raised = false

theorem undisturbed_append {process : Nat} {front back : List Event} :
    Undisturbed process (front ++ back) ↔ Undisturbed process front ∧ Undisturbed process back := by
  constructor
  · rintro ⟨alive, calm⟩
    exact ⟨⟨fun found h => alive found (by simp [h]), fun raised h => calm raised (by simp [h])⟩,
      ⟨fun found h => alive found (by simp [h]), fun raised h => calm raised (by simp [h])⟩⟩
  · rintro ⟨first, second⟩
    exact ⟨fun found h => (List.mem_append.mp h).elim (first.alive found) (second.alive found),
      fun raised h => (List.mem_append.mp h).elim (first.calm raised) (second.calm raised)⟩

/-- What neither looks at the process nor asks for interrupts does not disturb. -/
theorem undisturbed_of_others {process : Nat} {events : List Event}
    (h : ∀ e ∈ events, e.request ≠ .poll process ∧ e.request ≠ .interrupted) :
    Undisturbed process events :=
  ⟨fun _ hmem => absurd rfl (h _ hmem).1, fun _ hmem => absurd rfl (h _ hmem).2⟩

namespace Readiness

variable {c c' : Child} {events : List Event}

/-! ## Looking once -/

theorem ensureAlive_tracks {outcome : Except Failure Unit}
    (h : Runs (ensureAlive c) events (outcome, c')) : c.Tracks events c' := by
  simp only [ensureAlive, bind_eq, pure_eq] at h
  obtain ⟨⟨found, middle⟩, looked, rest, hobserve, hafter, rfl⟩ := runs_bind_iff.mp h
  have tracks := Child.observe_tracks hobserve
  rcases found with failure | _ | status
  all_goals
    obtain ⟨rfl, rfl, rfl⟩ := runs_done_pair_iff.mp hafter
    simpa using tracks

/-- The child was found not to have ended. -/
theorem ensureAlive_ok (h : Runs (ensureAlive c) events (.ok (), c')) :
    c' = c ∧ events = [.polled c.process (.ok none)] := by
  simp only [ensureAlive, bind_eq, pure_eq] at h
  obtain ⟨⟨found, middle⟩, looked, rest, hobserve, hafter, rfl⟩ := runs_bind_iff.mp h
  rcases found with failure | _ | status
  · simp at hafter
  · obtain ⟨rfl, -, hlooked⟩ := Child.observe_none hobserve
    obtain ⟨rfl, -, rfl⟩ := runs_done_pair_iff.mp hafter
    exact ⟨rfl, by simpa using hlooked⟩
  · simp at hafter

theorem check_tracks {outcome : Except Failure Unit}
    (h : Runs (check c) events (outcome, c')) : c.Tracks events c' := by
  simp only [check, bind_eq, pure_eq] at h
  obtain ⟨raised, rest, rfl, hafter⟩ := runs_interrupted_bind_iff.mp h
  split_ifs at hafter
  · obtain ⟨rfl, -, rfl⟩ := runs_done_pair_iff.mp hafter
    exact .refl _ _
  · exact (Child.Tracks.refl c [_]).trans (ensureAlive_tracks hafter)

/-- There was no interrupt, and the child was found not to have ended. -/
theorem check_ok (h : Runs (check c) events (.ok (), c')) :
    c' = c ∧ events = [.interrupt false, .polled c.process (.ok none)] := by
  simp only [check, bind_eq, pure_eq] at h
  obtain ⟨raised, rest, rfl, hafter⟩ := runs_interrupted_bind_iff.mp h
  split_ifs at hafter with hraised
  · simp at hafter
  · obtain ⟨rfl, rfl⟩ := ensureAlive_ok hafter
    obtain rfl : raised = false := by simpa using hraised
    exact ⟨rfl, rfl⟩

theorem undisturbed_polled (process : Nat) : Undisturbed process [.polled process (.ok none)] := by
  refine ⟨fun found h => ?_, fun raised h => ?_⟩
  · cases List.mem_singleton.mp h
    rfl
  · cases List.mem_singleton.mp h

theorem undisturbed_interrupt (process : Nat) : Undisturbed process [.interrupt false] := by
  refine ⟨fun found h => ?_, fun raised h => ?_⟩
  · cases List.mem_singleton.mp h
  · cases List.mem_singleton.mp h
    rfl

theorem undisturbed_clock (process time : Nat) : Undisturbed process [.clock time] :=
  undisturbed_of_others (by simp [Event.clock])

theorem undisturbed_pause (process time duration : Nat) :
    Undisturbed process [.clock time, .slept duration] :=
  undisturbed_of_others (by simp [Event.clock, Event.slept])

/-- What is asked by a check that the child passes. -/
theorem undisturbed_check (process : Nat) :
    Undisturbed process [.interrupt false, .polled process (.ok none)] :=
  undisturbed_append.mpr ⟨undisturbed_interrupt process, undisturbed_polled process⟩

/-- A waiting that ends well reads the clock once more, to tell how long it took. -/
theorem elapsed_cases {started : Nat} {outcome : Except Failure Nat}
    (h : Runs ((elapsed started).bind fun spent => done (.ok spent, c)) events (outcome, c')) :
    ∃ finished, events = [.clock finished] ∧ outcome = .ok (finished - started) ∧ c' = c := by
  obtain ⟨spent, helapsed, houtcome⟩ := runs_bind_done_iff.mp h
  obtain ⟨rfl, rfl⟩ := Prod.mk.inj houtcome
  obtain ⟨finished, rest, rfl, hdone⟩ := runs_now_bind_iff.mp helapsed
  obtain ⟨rfl, rfl⟩ := runs_done_iff.mp hdone
  exact ⟨finished, rfl, rfl, rfl⟩

/-! ## Trying to connect -/

/-- A successful attempt ends with a connection to an endpoint of the address. -/
theorem attempt_true {address : String} {deadline : Nat}
    (h : Runs (attempt address deadline) events (.ok true)) :
    ∃ lookups endpoints endpoint limit tried time, Resolves address lookups endpoints ∧
      endpoint ∈ endpoints ∧
      events = .clock time :: lookups ++ tried ++ [.connected endpoint limit] := by
  simp only [attempt, bind_eq, pure_eq] at h
  obtain ⟨time, rest, rfl, hafter⟩ := runs_now_bind_iff.mp h
  obtain ⟨found, lookups, rest, hresolve, hconnect, rfl⟩ := runs_bind_iff.mp hafter
  cases found with
  | error failure => simp at hconnect
  | ok endpoints =>
    obtain ⟨accepted, hany, haccepted⟩ := runs_bind_done_iff.mp hconnect
    obtain rfl : true = accepted := Except.ok.inj haccepted
    obtain ⟨endpoint, hmem, tried, rfl⟩ := connectAny_true hany
    refine ⟨lookups, endpoints, endpoint, max (min (deadline - time) attemptLimit) attemptLeast,
      tried, time, resolves_of_runs hresolve, hmem, ?_⟩
    simp

theorem asks_attempt (address : String) (deadline : Nat) :
    (attempt address deadline).Asks fun r => r = .now ∨ Probes r := by
  refine Asks.bind ⟨.inl rfl, fun _ => trivial⟩ fun time =>
    ((asks_resolve address).mono fun _ => .inr).bind fun found => ?_
  cases found with
  | error failure => trivial
  | ok endpoints =>
    exact ((asks_connectAny _ endpoints).mono fun _ => .inr).bind fun _ => trivial

theorem undisturbed_attempt {address : String} {deadline : Nat} {outcome : Except Failure Bool}
    (h : Runs (attempt address deadline) events outcome) (process : Nat) :
    Undisturbed process events := by
  refine undisturbed_of_others fun e he => ?_
  rcases h.all_of_asks (asks_attempt address deadline) e he with
    hnow | ⟨_, hlookup⟩ | ⟨_, hbind⟩ | ⟨_, _, hconnect⟩
  all_goals simp [*]

/-- What shows that the child is ready: a connection to the address was accepted, or the fixed time
was over and the child had not ended, and nothing disturbed the waiting until then. -/
inductive Shown (process : Nat) : Readiness → List Event → Prop
  | accepting {address : String} {timeout interval : Nat} {before lookups tried : List Event}
      {endpoints : List String} {endpoint : String} {limit finished : Nat} :
      Undisturbed process (before ++ lookups ++ tried) → Resolves address lookups endpoints →
      endpoint ∈ endpoints →
      Shown process (.accepting address timeout interval) (before ++ lookups ++ tried ++
        [.connected endpoint limit, .clock finished])
  | fixed {delay started ended finished : Nat} {looks : List Event} :
      Undisturbed process looks → started + delay ≤ ended →
      Shown process (.fixed delay) (.clock started :: looks ++
        [.clock ended, .polled process (.ok none), .clock finished])

theorem Shown.prepend {process : Nat} {address : String} {timeout interval : Nat}
    {front : List Event} (hfront : Undisturbed process front)
    (h : Shown process (.accepting address timeout interval) events) :
    Shown process (.accepting address timeout interval) (front ++ events) := by
  cases h with
  | @accepting _ _ _ before lookups tried _ _ _ _ undisturbed resolves hmem =>
    have joined : Undisturbed process (front ++ before ++ lookups ++ tried) := by
      simpa using undisturbed_append.mpr ⟨hfront, undisturbed⟩
    simpa using Shown.accepting joined resolves hmem

/-- Trying to connect keeps track of the child, and ends well only as shown. -/
theorem tryUntil_spec {address : String} {interval started deadline rounds : Nat}
    {outcome : Except Failure Nat} (timeout : Nat)
    (h : Runs (tryUntil address interval started deadline rounds c) events (outcome, c')) :
    c.Tracks events c' ∧ ∀ ready, outcome = .ok ready →
      c' = c ∧ Shown c.process (.accepting address timeout interval) events := by
  induction rounds generalizing c events with
  | zero => exact (not_runs_exhausted h).elim
  | succ rounds ih =>
    simp only [tryUntil, bind_eq, pure_eq] at h
    obtain ⟨⟨checked, middle⟩, looked, rest, hcheck, hafter, rfl⟩ := runs_bind_iff.mp h
    cases checked with
    | error failure =>
      obtain ⟨rfl, rfl, rfl⟩ := runs_done_pair_iff.mp hafter
      exact ⟨by simpa using check_tracks hcheck, by simp⟩
    | ok _ =>
      obtain ⟨rfl, rfl⟩ := check_ok hcheck
      obtain ⟨tried, attempted, rest, hattempt, hnext, rfl⟩ := runs_bind_iff.mp hafter
      rcases tried with failure | _ | _
      · obtain ⟨rfl, rfl, rfl⟩ := runs_done_pair_iff.mp hnext
        exact ⟨.refl _ _, by simp⟩
      · have looks := undisturbed_append.mpr
          ⟨undisturbed_check middle.process, undisturbed_attempt hattempt middle.process⟩
        obtain ⟨time, rest, rfl, hwait⟩ := runs_now_bind_iff.mp hnext
        split at hwait
        · obtain ⟨rfl, rfl, rfl⟩ := runs_done_pair_iff.mp hwait
          exact ⟨.refl _ _, by simp⟩
        · split_ifs at hwait
          · obtain ⟨spent, back, rest, -, hdone, rfl⟩ := runs_bind_iff.mp hwait
            obtain ⟨rfl, rfl, rfl⟩ := runs_done_pair_iff.mp hdone
            exact ⟨.refl _ _, by simp⟩
          · obtain ⟨rest, rfl, hloop⟩ := runs_sleep_bind_iff.mp hwait
            obtain ⟨later, shown⟩ := ih hloop
            -- This round saw no end and no interrupt, so it may stand before the later ones.
            have front : Undisturbed middle.process
                ([.interrupt false, .polled middle.process (.ok none)] ++ attempted ++
                  [.clock time, .slept interval]) :=
              undisturbed_append.mpr ⟨looks, undisturbed_pause _ _ _⟩
            refine ⟨later.mono fun e he => by simp [he], fun ready hready => ?_⟩
            obtain ⟨rfl, proof⟩ := shown ready hready
            exact ⟨rfl, by simpa using proof.prepend front⟩
      · obtain ⟨lookups, endpoints, endpoint, limit, tried, time, resolves, hmem, rfl⟩ :=
          attempt_true hattempt
        obtain ⟨finished, rfl, -, rfl⟩ := elapsed_cases hnext
        have looks := undisturbed_append.mp (undisturbed_attempt hattempt c'.process)
        have before : Undisturbed c'.process ([.interrupt false,
            .polled c'.process (.ok none), .clock time] ++ lookups ++ tried) := by
          simpa using undisturbed_append.mpr ⟨undisturbed_check c'.process, looks.1⟩
        refine ⟨.refl _ _, fun ready _ => ⟨rfl, ?_⟩⟩
        simpa using Shown.accepting before resolves hmem

/-! ## Waiting for a fixed time -/

/-- Waiting for a fixed time keeps track of the child. It ends well only after the deadline, when
the child has still not ended. -/
theorem waitUntil_spec {started deadline rounds : Nat} {outcome : Except Failure Nat}
    (h : Runs (waitUntil started deadline rounds c) events (outcome, c')) :
    c.Tracks events c' ∧ ∀ ready, outcome = .ok ready → c' = c ∧ ∃ looks ended finished,
      Undisturbed c.process looks ∧ deadline ≤ ended ∧
      events = looks ++ [.clock ended, .polled c.process (.ok none), .clock finished] := by
  induction rounds generalizing c events with
  | zero => exact (not_runs_exhausted h).elim
  | succ rounds ih =>
    simp only [waitUntil, bind_eq, pure_eq] at h
    obtain ⟨time, rest, rfl, hafter⟩ := runs_now_bind_iff.mp h
    split_ifs at hafter with hbefore
    · obtain ⟨⟨checked, middle⟩, looked, rest, hcheck, hnext, rfl⟩ := runs_bind_iff.mp hafter
      cases checked with
      | error failure =>
        obtain ⟨rfl, rfl, rfl⟩ := runs_done_pair_iff.mp hnext
        exact ⟨(check_tracks hcheck).mono fun e he => by simp [he], by simp⟩
      | ok _ =>
        obtain ⟨rfl, rfl⟩ := check_ok hcheck
        obtain ⟨again, rest, rfl, hsleep⟩ := runs_now_bind_iff.mp hnext
        obtain ⟨rest, rfl, hloop⟩ := runs_sleep_bind_iff.mp hsleep
        obtain ⟨later, shown⟩ := ih hloop
        refine ⟨later.mono fun e he => by simp [he], fun ready hready => ?_⟩
        obtain ⟨rfl, looks, ended, finished, undisturbed, hended, rfl⟩ := shown ready hready
        have checked := undisturbed_append.mpr
          ⟨undisturbed_clock c'.process time, undisturbed_check c'.process⟩
        have paused := undisturbed_append.mpr ⟨checked, undisturbed_pause c'.process again
          (min (deadline - again) pollInterval)⟩
        have before := undisturbed_append.mpr ⟨paused, undisturbed⟩
        exact ⟨rfl, _, ended, finished, before, hended, by simp⟩
    · obtain ⟨⟨checked, middle⟩, looked, rest, hcheck, hnext, rfl⟩ := runs_bind_iff.mp hafter
      cases checked with
      | error failure =>
        obtain ⟨rfl, rfl, rfl⟩ := runs_done_pair_iff.mp hnext
        exact ⟨(ensureAlive_tracks hcheck).mono fun e he => by simp [he], by simp⟩
      | ok _ =>
        obtain ⟨rfl, rfl⟩ := ensureAlive_ok hcheck
        obtain ⟨finished, rfl, -, rfl⟩ := elapsed_cases hnext
        exact ⟨.refl _ _, fun ready _ => ⟨rfl, [], time, finished, undisturbed_of_others (by simp),
          Nat.le_of_not_lt hbefore, rfl⟩⟩

/-! ## Waiting -/

/-- Waiting keeps track of the child. It ends well only as shown, and then the child is as it was
before. -/
theorem wait_spec {r : Readiness} {rounds : Nat} {outcome : Except Failure Nat}
    (h : Runs (r.wait rounds c) events (outcome, c')) :
    c.Tracks events c' ∧ ∀ ready, outcome = .ok ready → c' = c ∧ Shown c.process r events := by
  simp only [wait, bind_eq, pure_eq] at h
  obtain ⟨started, rest, rfl, hafter⟩ := runs_now_bind_iff.mp h
  cases r with
  | accepting address timeout interval =>
    cases hdeadline : Instant.after? started timeout with
    | none =>
      simp only [hdeadline] at hafter
      obtain ⟨rfl, rfl, rfl⟩ := runs_done_pair_iff.mp hafter
      exact ⟨.refl _ _, by simp⟩
    | some deadline =>
      simp only [hdeadline] at hafter
      obtain ⟨tracks, shown⟩ := tryUntil_spec timeout hafter
      refine ⟨tracks.mono fun e he => by simp [he], fun ready hready => ?_⟩
      obtain ⟨rfl, proof⟩ := shown ready hready
      exact ⟨rfl, proof.prepend (undisturbed_clock _ started)⟩
  | fixed delay =>
    cases hdeadline : Instant.after? started delay with
    | none =>
      simp only [hdeadline] at hafter
      obtain ⟨rfl, rfl, rfl⟩ := runs_done_pair_iff.mp hafter
      exact ⟨.refl _ _, by simp⟩
    | some deadline =>
      simp only [hdeadline] at hafter
      obtain ⟨tracks, shown⟩ := waitUntil_spec hafter
      refine ⟨tracks.mono fun e he => by simp [he], fun ready hready => ?_⟩
      obtain ⟨rfl, looks, ended, finished, undisturbed, hended, rfl⟩ := shown ready hready
      obtain ⟨-, rfl⟩ := Instant.after?_eq_some_iff.mp hdeadline
      exact ⟨rfl, .fixed undisturbed hended⟩

/-- A child that is shown to be ready was found running whenever it was looked at. -/
theorem Shown.undisturbed {process : Nat} {r : Readiness} (h : Shown process r events) :
    Undisturbed process events := by
  cases h with
  | accepting undisturbed =>
    exact undisturbed_append.mpr ⟨undisturbed, undisturbed_of_others (by
      simp [Event.connected, Event.clock])⟩
  | @fixed _ started ended finished looks undisturbed =>
    have before := undisturbed_append.mpr ⟨undisturbed_clock process started, undisturbed⟩
    have after := undisturbed_append.mpr ⟨undisturbed_append.mpr
      ⟨undisturbed_clock process ended, undisturbed_polled process⟩,
      undisturbed_clock process finished⟩
    exact undisturbed_append.mpr ⟨before, after⟩

/-! ## Waiting starts nothing -/

theorem tends_ensureAlive : (ensureAlive c).Asks Request.Tends := by
  refine Child.tends_observe.bind fun found => ?_
  rcases found with ⟨_ | _ | _, _⟩ <;> trivial

theorem tends_check : (check c).Asks Request.Tends := by
  refine Asks.bind (.request trivial) fun raised => ?_
  split_ifs
  · trivial
  · exact tends_ensureAlive

theorem tends_elapsed (started : Nat) : (elapsed started).Asks Request.Tends :=
  .request trivial

theorem tends_tryUntil (address : String) (interval started deadline rounds : Nat) :
    (tryUntil address interval started deadline rounds c).Asks Request.Tends := by
  induction rounds generalizing c with
  | zero => trivial
  | succ rounds ih =>
    refine tends_check.bind fun checked => ?_
    rcases checked with ⟨_ | _, c⟩
    · trivial
    · have attempts := (asks_attempt address deadline).mono fun r h =>
        h.elim (fun h => h ▸ trivial) tends_of_probes
      refine attempts.bind fun accepted => ?_
      rcases accepted with _ | _ | _
      · trivial
      · refine Asks.bind (.request trivial) fun time => ?_
        split
        · trivial
        · split_ifs
          · exact (tends_elapsed started).bind fun _ => trivial
          · exact Asks.bind (.request trivial) fun _ => ih
      · exact (tends_elapsed started).bind fun _ => trivial

theorem tends_waitUntil (started deadline rounds : Nat) :
    (waitUntil started deadline rounds c).Asks Request.Tends := by
  induction rounds generalizing c with
  | zero => trivial
  | succ rounds ih =>
    refine Asks.bind (.request trivial) fun time => ?_
    split_ifs
    · refine tends_check.bind fun checked => ?_
      rcases checked with ⟨_ | _, c⟩
      · trivial
      · exact Asks.bind (.request trivial) fun again =>
          Asks.bind (.request trivial) fun _ => ih
    · refine tends_ensureAlive.bind fun checked => ?_
      rcases checked with ⟨_ | _, c⟩
      · trivial
      · exact (tends_elapsed started).bind fun _ => trivial

/-- Waiting for readiness starts no process, and looks at no file. -/
theorem tends_wait (r : Readiness) (rounds : Nat) : (r.wait rounds c).Asks Request.Tends := by
  refine Asks.bind (.request trivial) fun started => ?_
  cases r with
  | accepting address timeout interval =>
    dsimp only
    split
    · trivial
    · exact tends_tryUntil address interval started _ rounds
  | fixed delay =>
    dsimp only
    split
    · trivial
    · exact tends_waitUntil started _ rounds

theorem asks_wait (r : Readiness) (rounds : Nat) : (r.wait rounds c).Asks Request.Spawnless :=
  (tends_wait r rounds).mono fun _ => Request.Tends.spawnless

end Readiness
end ConformanceGate
