import ConformanceGate.Proofs.System.Visits
import ConformanceGate.Run.Child
import Mathlib.Data.List.Infix

/-!
# What a child knows, and how it is stopped

A child is a record of what was seen of a process: its exit status is one that was observed
(`Child.Tracks`), and if it was stopped then so was its group (`Child.Recorded`). Every look at a
child keeps this up, and so does stopping it, which sends its signals in one order only (`Quelled`)
and after which the process is torn down (`TornDown`).
-/

namespace ConformanceGate

open Program

/-- It was seen how a process ended. -/
def Observed (process : Nat) (status : ExitStatus) (events : List Event) : Prop :=
  .polled process (.ok (some status)) ∈ events ∨ .waited process (some status) ∈ events

/-- A request that starts no process. -/
def Request.Spawnless : Request → Prop
  | .spawn _ => False
  | _ => True

/-- A request to the clock, the network or a process that was started. It starts nothing and asks
for no file. -/
def Request.Tends : Request → Prop
  | .now | .sleep _ | .interrupted | .lookup _ | .bind _ | .connect _ _ | .poll _ | .signal _ _
  | .groupAlive _ | .kill _ | .wait _ => True
  | _ => False

theorem Request.Tends.spawnless {r : Request} (h : r.Tends) : r.Spawnless := by
  cases r <;> trivial

def Spawnless (events : List Event) : Prop := ∀ e ∈ events, e.request.Spawnless

theorem spawnless_append {front back : List Event} :
    Spawnless (front ++ back) ↔ Spawnless front ∧ Spawnless back := by
  simp [Spawnless, or_imp, forall_and]

/-- Every wait for a process told how it ended. -/
def Reliable (events : List Event) : Prop := ∀ process, .waited process none ∉ events

/-- Whenever the group of a process was looked at, something was left in it. -/
def FoundAlive (process : Nat) (events : List Event) : Prop :=
  ∀ alive, .groupFound process alive ∈ events → alive = true

/-- How a group that was asked to end is dealt with: it is there whenever it is looked at, until it
is found to be empty, or until the deadline is over and it is killed. -/
inductive GroupEnd (process deadline : Nat) : List Event → Prop
  | emptied {looks : List Event} : FoundAlive process looks →
      GroupEnd process deadline (looks ++ [.groupFound process false])
  | killed {looks : List Event} {ended : Nat} {reached : Bool} : FoundAlive process looks →
      deadline ≤ ended →
      GroupEnd process deadline (looks ++ [.clock ended, .signaled process .kill reached])

/-- How a group is stopped: it is asked to end, and then cannot be reached, or is dealt with. -/
inductive GroupStop (process grace : Nat) : List Event → Prop
  | unreachable : GroupStop process grace [.signaled process .term false]
  | reached {started : Nat} {events : List Event} : GroupEnd process (started + grace) events →
      GroupStop process grace (.signaled process .term true :: .clock started :: events)

/-- A process is torn down: it was seen how it ended, and its group was stopped. -/
structure TornDown (process grace : Nat) (events : List Event) : Prop where
  collected : ∃ status, Observed process status events
  group : ∃ stop, GroupStop process grace stop ∧ stop <:+: events

theorem foundAlive_cons {process : Nat} {e : Event} {events : List Event} :
    FoundAlive process (e :: events) ↔
      (∀ alive, .groupFound process alive = e → alive = true) ∧ FoundAlive process events := by
  simp [FoundAlive, or_imp, forall_and]

theorem foundAlive_append {process : Nat} {front back : List Event} :
    FoundAlive process (front ++ back) ↔ FoundAlive process front ∧ FoundAlive process back := by
  simp [FoundAlive, or_imp, forall_and]

/-! ## Stopping a group, signal by signal -/

/-- No signal is sent to any group. -/
def Silent (events : List Event) : Prop := ∀ e ∈ events, ∀ process signal,
  e.request ≠ .signal process signal

theorem silent_nil : Silent [] := nofun

theorem silent_cons {e : Event} {events : List Event} :
    Silent (e :: events) ↔
      (∀ process signal, e.request ≠ .signal process signal) ∧ Silent events := by
  simp [Silent]

theorem silent_append {front back : List Event} :
    Silent (front ++ back) ↔ Silent front ∧ Silent back := by
  simp [Silent, or_imp, forall_and]

/-- A group is waited for: no signal is sent, the group is there whenever it is looked at, and
whenever the clock is read the deadline is still to come. -/
structure Biding (process deadline : Nat) (events : List Event) : Prop where
  silent : Silent events
  alive : FoundAlive process events
  early : ∀ time, .clock time ∈ events → time < deadline

theorem biding_nil (process deadline : Nat) : Biding process deadline [] := ⟨nofun, nofun, nofun⟩

theorem biding_cons {process deadline : Nat} {e : Event} {events : List Event} :
    Biding process deadline (e :: events) ↔ (∀ other signal, e.request ≠ .signal other signal) ∧
      (∀ alive, .groupFound process alive = e → alive = true) ∧
      (∀ time, .clock time = e → time < deadline) ∧ Biding process deadline events := by
  constructor
  · rintro ⟨silent, alive, early⟩
    exact ⟨(silent_cons.mp silent).1, (foundAlive_cons.mp alive).1,
      fun time same => early time (same ▸ List.mem_cons_self), (silent_cons.mp silent).2,
      (foundAlive_cons.mp alive).2, fun time hmem => early time (List.mem_cons_of_mem _ hmem)⟩
  · rintro ⟨silent, alive, early, rest⟩
    exact ⟨silent_cons.mpr ⟨silent, rest.silent⟩, foundAlive_cons.mpr ⟨alive, rest.alive⟩,
      fun time hmem => (List.mem_cons.mp hmem).elim (early time) (rest.early time)⟩

theorem Biding.append {process deadline : Nat} {front back : List Event}
    (h : Biding process deadline front) (h' : Biding process deadline back) :
    Biding process deadline (front ++ back) where
  silent := silent_append.mpr ⟨h.silent, h'.silent⟩
  alive := foundAlive_append.mpr ⟨h.alive, h'.alive⟩
  early := fun time hmem => (List.mem_append.mp hmem).elim (h.early time) (h'.early time)

/-- How waiting for a group ends: the group is found to be empty, or the deadline is over and the
group is killed. -/
inductive Outwaited (process deadline : Nat) : List Event → Prop
  | emptied {waiting : List Event} : Biding process deadline waiting →
      Outwaited process deadline (waiting ++ [.groupFound process false])
  | killed {waiting : List Event} {ended : Nat} {reached : Bool} :
      Biding process deadline waiting → deadline ≤ ended →
      Outwaited process deadline (waiting ++ [.clock ended, .signaled process .kill reached])

theorem Outwaited.prepend {process deadline : Nat} {front events : List Event}
    (hfront : Biding process deadline front) (h : Outwaited process deadline events) :
    Outwaited process deadline (front ++ events) := by
  cases h with
  | emptied waiting => simpa using Outwaited.emptied (hfront.append waiting)
  | killed waiting past => simpa using Outwaited.killed (hfront.append waiting) past

/-- A group that was waited for is dealt with. -/
theorem Outwaited.groupEnd {process deadline : Nat} {events : List Event}
    (h : Outwaited process deadline events) : GroupEnd process deadline events := by
  cases h with
  | emptied waiting => exact .emptied waiting.alive
  | killed waiting past => exact .killed waiting.alive past

/-- How a group is stopped by signals. The first one asks it to end; if that reaches nothing then no
other one is sent, and otherwise the group is waited for. -/
inductive Halted (process grace : Nat) : List Event → Prop
  | unreachable : Halted process grace [.signaled process .term false]
  | outwaited {asked : Nat} {waiting : List Event} : Outwaited process (asked + grace) waiting →
      Halted process grace (.signaled process .term true :: .clock asked :: waiting)

theorem Halted.groupStop {process grace : Nat} {events : List Event}
    (h : Halted process grace events) : GroupStop process grace events := by
  cases h with
  | unreachable => exact .unreachable
  | outwaited waiting => exact .reached waiting.groupEnd

/-- How a child is stopped: its group is stopped, and no signal is sent before or after that. -/
def Quelled (process grace : Nat) (events : List Event) : Prop :=
  ∃ before stop after, events = before ++ stop ++ after ∧ Silent before ∧
    Halted process grace stop ∧ Silent after

/-! ## What is known of a process -/

theorem Reliable.mono {events more : List Event} (h : Reliable more) (sub : events ⊆ more) :
    Reliable events := fun process hmem => h process (sub hmem)

theorem observed_append {process : Nat} {status : ExitStatus} {front back : List Event} :
    Observed process status (front ++ back) ↔
      Observed process status front ∨ Observed process status back := by
  simp only [Observed, List.mem_append]
  tauto

theorem Observed.append {process : Nat} {status : ExitStatus} {events : List Event}
    (h : Observed process status events) (front back : List Event) :
    Observed process status (front ++ events ++ back) :=
  observed_append.mpr (.inl (observed_append.mpr (.inr h)))

theorem observed_polled_iff {process : Nat} {status : ExitStatus}
    {found : Except SystemError (Option ExitStatus)} :
    Observed process status [.polled process found] ↔ found = .ok (some status) := by
  constructor
  · rintro (looked | waited)
    · cases List.mem_singleton.mp looked
      rfl
    · cases List.mem_singleton.mp waited
  · rintro rfl
    exact .inl List.mem_cons_self

theorem observed_waited_iff {process : Nat} {status : ExitStatus} {found : Option ExitStatus} :
    Observed process status [.waited process found] ↔ found = some status := by
  constructor
  · rintro (looked | waited)
    · cases List.mem_singleton.mp looked
    · cases List.mem_singleton.mp waited
      rfl
  · rintro rfl
    exact .inr List.mem_cons_self

theorem TornDown.append {process grace : Nat} {events : List Event}
    (h : TornDown process grace events) (front back : List Event) :
    TornDown process grace (front ++ events ++ back) := by
  obtain ⟨⟨status, hstatus⟩, stop, hstop, hin⟩ := h
  exact ⟨⟨status, hstatus.append front back⟩, stop, hstop,
    hin.trans (List.infix_append front events back)⟩

namespace Child

/-- A later state of a child: the same process, and an exit status that was known before or was
observed since. -/
structure Tracks (c : Child) (events : List Event) (c' : Child) : Prop where
  label : c'.label = c.label
  process : c'.process = c.process
  grace : c'.grace = c.grace
  stopped : c'.stopped = c.stopped
  kept : ∀ status, c.exit = some status → c'.exit = some status
  found : ∀ status, c'.exit = some status →
    c.exit = some status ∨ Observed c.process status events

theorem Tracks.refl (c : Child) (events : List Event) : c.Tracks events c :=
  ⟨rfl, rfl, rfl, rfl, fun _ h => h, fun _ h => .inl h⟩

theorem Tracks.trans {c c' c'' : Child} {front back : List Event} (h : c.Tracks front c')
    (h' : c'.Tracks back c'') : c.Tracks (front ++ back) c'' where
  label := h'.label.trans h.label
  process := h'.process.trans h.process
  grace := h'.grace.trans h.grace
  stopped := h'.stopped.trans h.stopped
  kept := fun status hs => h'.kept status (h.kept status hs)
  found := by
    intro status hs
    rcases h'.found status hs with known | seen
    · exact (h.found status known).imp_right fun seen => by simpa using seen.append [] back
    · exact .inr (by simpa [h.process] using seen.append front [])

theorem Tracks.mono {c c' : Child} {events more : List Event} (h : c.Tracks events c')
    (sub : events ⊆ more) : c.Tracks more c' :=
  { h with found := fun status hs => (h.found status hs).imp_right fun seen =>
      seen.imp (fun hmem => sub hmem) fun hmem => sub hmem }

/-! ## Collecting the exit status -/

variable {c c' c'' : Child} {events front back : List Event}

/-- A later state of a child, whose exit status is exactly what was known before or was observed
since. -/
structure Collects (c : Child) (events : List Event) (c' : Child) : Prop where
  label : c'.label = c.label
  process : c'.process = c.process
  grace : c'.grace = c.grace
  stopped : c'.stopped = c.stopped
  exit : ∀ status, c'.exit = some status ↔ c.exit = some status ∨ Observed c.process status events

theorem Collects.tracks (h : c.Collects events c') : c.Tracks events c' where
  label := h.label
  process := h.process
  grace := h.grace
  stopped := h.stopped
  kept := fun status known => (h.exit status).mpr (.inl known)
  found := fun status known => (h.exit status).mp known

theorem Collects.trans (h : c.Collects front c') (h' : c'.Collects back c'') :
    c.Collects (front ++ back) c'' where
  label := h'.label.trans h.label
  process := h'.process.trans h.process
  grace := h'.grace.trans h.grace
  stopped := h'.stopped.trans h.stopped
  exit := fun status => by rw [h'.exit, h.exit, observed_append, h.process, or_assoc]

/-- What neither looks at a process nor waits for it collects nothing. -/
theorem collects_of_others (c : Child) (h : ∀ e ∈ events, ∀ process,
    e.request ≠ .poll process ∧ e.request ≠ .wait process) : c.Collects events c := by
  refine ⟨rfl, rfl, rfl, rfl, fun status => ⟨.inl, fun known => known.resolve_right ?_⟩⟩
  rintro (looked | waited)
  · exact (h _ looked c.process).1 rfl
  · exact (h _ waited c.process).2 rfl

/-! ## Looking at a child -/

/-- A known exit status is not asked for again; otherwise the reply to one request is what is found,
and is kept if it is an exit status. -/
theorem poll_cases {found : Except SystemError (Option ExitStatus)}
    (h : Runs c.poll events (found, c')) :
    (∃ status, c.exit = some status ∧ events = [] ∧ found = .ok (some status) ∧ c' = c) ∨
    (c.exit = none ∧ events = [.polled c.process found] ∧
      ((∃ status, found = .ok (some status) ∧ c' = { c with exit := some status }) ∨
        (∀ status, found ≠ .ok (some status)) ∧ c' = c)) := by
  unfold poll at h
  split at h
  next status hexit =>
    simp only [runs_done_iff, Prod.mk.injEq] at h
    exact .inl ⟨status, hexit, h.1, h.2.1, h.2.2⟩
  next hexit =>
    obtain ⟨reply, rest, rfl, hreply⟩ := runs_ask_iff.mp h
    refine .inr ⟨hexit, ?_⟩
    rcases reply with failure | _ | status
    all_goals
      obtain ⟨rfl, rfl, rfl⟩ := runs_done_pair_iff.mp hreply
    · exact ⟨rfl, .inr ⟨by simp, rfl⟩⟩
    · exact ⟨rfl, .inr ⟨by simp, rfl⟩⟩
    · exact ⟨rfl, .inl ⟨status, rfl, rfl⟩⟩

/-- A look collects the exit status, if there is one. -/
theorem poll_collects {found : Except SystemError (Option ExitStatus)}
    (h : Runs c.poll events (found, c')) : c.Collects events c' := by
  obtain ⟨_, -, rfl, -, rfl⟩ | ⟨hexit, rfl, ended⟩ := poll_cases h
  · exact collects_of_others _ nofun
  · obtain ⟨status, rfl, rfl⟩ | ⟨other, rfl⟩ := ended
    · refine ⟨rfl, rfl, rfl, rfl, fun seen => ?_⟩
      simp [hexit, observed_polled_iff]
    · refine ⟨rfl, rfl, rfl, rfl, fun seen => ?_⟩
      simp [hexit, observed_polled_iff, other]

theorem poll_tracks {found : Except SystemError (Option ExitStatus)}
    (h : Runs c.poll events (found, c')) : c.Tracks events c' := (poll_collects h).tracks

theorem observe_iff {found : Except Failure (Option ExitStatus)} :
    Runs c.observe events (found, c') ↔ ∃ reply, Runs c.poll events (reply, c') ∧
      found = reply.mapError (.system ("polling " ++ c'.label)) := by
  simp only [observe, bind_eq, pure_eq, runs_bind_done_iff, Prod.exists, Prod.mk.injEq]
  constructor
  · rintro ⟨reply, later, h, rfl, rfl⟩
    exact ⟨reply, h, rfl⟩
  · rintro ⟨reply, h, rfl⟩
    exact ⟨reply, c', h, rfl, rfl⟩

theorem observe_tracks {found : Except Failure (Option ExitStatus)}
    (h : Runs c.observe events (found, c')) : c.Tracks events c' := by
  obtain ⟨reply, h, -⟩ := observe_iff.mp h
  exact poll_tracks h

/-- A look that does not fail finds what asking finds. -/
theorem observe_ok {found : Option ExitStatus} (h : Runs c.observe events (.ok found, c')) :
    Runs c.poll events (.ok found, c') := by
  obtain ⟨reply, h, hfound⟩ := observe_iff.mp h
  rwa [Except.ok_eq_mapError.mp hfound] at h

/-- An exit status that a look finds is known afterwards. -/
theorem observe_some {status : ExitStatus} (h : Runs c.observe events (.ok (some status), c')) :
    c'.exit = some status := by
  obtain ⟨known, hexit, -, hfound, rfl⟩ | ⟨-, -, ⟨known, hfound, rfl⟩ | ⟨hnone, -⟩⟩ :=
    poll_cases (observe_ok h)
  · cases hfound
    exact hexit
  · cases hfound
    rfl
  · exact absurd rfl (hnone status)

/-- A look that finds no exit status asked for it, and changes nothing. -/
theorem observe_none (h : Runs c.observe events (.ok none, c')) :
    c' = c ∧ c.exit = none ∧ events = [.polled c.process (.ok none)] := by
  obtain ⟨known, -, -, hfound, -⟩ | ⟨hexit, hevents, ⟨known, hfound, -⟩ | ⟨-, rfl⟩⟩ :=
    poll_cases (observe_ok h)
  · cases hfound
  · cases hfound
  · exact ⟨rfl, hexit, hevents⟩

/-! ## Stopping a child -/

theorem poll_biding {found : Except SystemError (Option ExitStatus)}
    (h : Runs c.poll events (found, c')) (process deadline : Nat) :
    Biding process deadline events := by
  obtain ⟨_, -, rfl, -⟩ | ⟨-, rfl, -⟩ := poll_cases h
  · exact biding_nil _ _
  · exact biding_cons.mpr ⟨nofun, nofun, nofun, biding_nil _ _⟩

/-- Waiting for a group collects the exit status, and ends with an empty group or with the deadline.
-/
theorem awaitGroup_outwaited {deadline rounds : Nat}
    (h : Runs (awaitGroup deadline rounds c) events c') :
    c.Collects events c' ∧ Outwaited c.process deadline events := by
  induction rounds generalizing c events with
  | zero => exact (not_runs_exhausted h).elim
  | succ rounds ih =>
    simp only [awaitGroup, bind_eq, pure_eq] at h
    obtain ⟨time, rest, rfl, hbody⟩ := runs_now_bind_iff.mp h
    split_ifs at hbody with hover
    · obtain ⟨reached, rest, rfl, hkill⟩ := runs_ask_iff.mp hbody
      obtain ⟨rfl, rfl⟩ := runs_done_iff.mp hkill
      exact ⟨collects_of_others _ (by simp [Event.clock]), .killed (biding_nil _ _) hover⟩
    · obtain ⟨⟨found, middle⟩, looked, rest, hpoll, hafter, rfl⟩ := runs_bind_iff.mp hbody
      have collects := poll_collects hpoll
      have looks : Biding c.process deadline (.clock time :: looked) :=
        biding_cons.mpr ⟨nofun, nofun, fun _ same => by cases same; omega,
          poll_biding hpoll _ _⟩
      have reading : c.Collects [.clock time] c := collects_of_others c (by simp [Event.clock])
      have first : c.Collects (.clock time :: looked) middle := reading.trans collects
      simp only [collects.process] at hafter
      obtain ⟨alive, rest, rfl, hnext⟩ := runs_groupAlive_bind_iff.mp hafter
      split_ifs at hnext with halive
      · obtain ⟨rest, rfl, hloop⟩ := runs_sleep_bind_iff.mp hnext
        obtain ⟨later, ends⟩ := ih hloop
        -- The group is still there, so this round stands before the later ones.
        have still : Biding c.process deadline
            [.groupFound c.process alive, .slept pollInterval] :=
          biding_cons.mpr ⟨nofun, fun _ same => by cases same; exact halive, nofun,
            biding_cons.mpr ⟨nofun, nofun, nofun, biding_nil _ _⟩⟩
        have pause : middle.Collects [.groupFound c.process alive, .slept pollInterval] middle :=
          collects_of_others _ (by simp [Event.groupFound, Event.slept])
        rw [collects.process] at ends
        exact ⟨by simpa using (first.trans pause).trans later,
          by simpa using ends.prepend (looks.append still)⟩
      · obtain ⟨rfl, rfl⟩ := runs_done_iff.mp hnext
        obtain rfl : alive = false := by simpa using halive
        exact ⟨first.trans (collects_of_others _ (by simp [Event.groupFound])), .emptied looks⟩

/-- A group is stopped by one signal, or by two with the grace period between them. -/
theorem stopGroup_halted {rounds : Nat} (h : Runs (c.stopGroup rounds) events c') :
    c.Collects events c' ∧ Halted c.process c.grace events := by
  obtain ⟨reached, rest, rfl, hafter⟩ := runs_ask_iff.mp h
  cases reached with
  | false =>
    obtain ⟨rfl, rfl⟩ := runs_done_iff.mp hafter
    exact ⟨collects_of_others _ (by simp), .unreachable⟩
  | true =>
    simp only [bind_eq] at hafter
    obtain ⟨asked, rest, rfl, hwithin⟩ := runs_now_bind_iff.mp hafter
    split at hwithin
    next => exact (not_runs_exhausted hwithin).elim
    next deadline within =>
    obtain ⟨-, rfl⟩ := Instant.after?_eq_some_iff.mp within
    obtain ⟨waits, ends⟩ := awaitGroup_outwaited hwithin
    have asking : c.Collects [.signaled c.process .term true, .clock asked] c :=
      collects_of_others _ (by simp [Event.signaled, Event.clock])
    exact ⟨asking.trans waits, .outwaited ends⟩

/-- Afterwards the exit status is known, if it could be found out. No group gets a signal. -/
theorem reap_collects (h : Runs c.reap events c') :
    c.Collects events c' ∧ Silent events ∧ (Reliable events → c'.exit.isSome) := by
  unfold reap at h
  split at h
  next status hexit =>
    obtain ⟨rfl, rfl⟩ := runs_done_iff.mp h
    exact ⟨collects_of_others _ nofun, silent_nil, fun _ => by simp [hexit]⟩
  next hexit =>
    obtain ⟨_, rest, rfl, hwait⟩ := runs_ask_iff.mp h
    obtain ⟨status, rest, rfl, hdone⟩ := runs_ask_iff.mp hwait
    obtain ⟨rfl, rfl⟩ := runs_done_iff.mp hdone
    have killing : c.Collects [⟨.kill c.process, ()⟩] c := collects_of_others c (by simp)
    have waiting : c.Collects [.waited c.process status] { c with exit := status } := by
      refine ⟨rfl, rfl, rfl, rfl, fun seen => ⟨fun same => .inr (observed_waited_iff.mpr same),
        fun known => observed_waited_iff.mp (known.resolve_left (by simp [hexit]))⟩⟩
    refine ⟨killing.trans waiting, silent_cons.mpr ⟨nofun, silent_cons.mpr ⟨nofun, silent_nil⟩⟩,
      fun reliable => Option.isSome_iff_ne_none.mpr fun hnone => reliable c.process ?_⟩
    obtain rfl : status = none := hnone
    simp [Event.waited]

/-- A child that was not stopped before is stopped with its group, and its exit status is known, if
it could be found out. -/
theorem terminate_quelled {rounds : Nat} (h : Runs (c.terminate rounds) events c')
    (fresh : c.stopped = false) :
    ({ c with stopped := true } : Child).Collects events c' ∧ Quelled c.process c.grace events ∧
      (Reliable events → c'.exit.isSome) := by
  unfold terminate at h
  rw [if_neg (by simp [fresh])] at h
  simp only [bind_eq] at h
  obtain ⟨⟨found, polled⟩, before, rest, hpoll, hafter, rfl⟩ := runs_bind_iff.mp h
  obtain ⟨halted, stop, after, hstop, hreap, rfl⟩ := runs_bind_iff.mp hafter
  have first := poll_collects hpoll
  obtain ⟨second, signals⟩ := stopGroup_halted hstop
  obtain ⟨third, silent, known⟩ := reap_collects hreap
  rw [first.process, first.grace] at signals
  refine ⟨first.trans (second.trans third), ⟨before, stop, after, by simp,
    (poll_biding hpoll 0 0).silent, signals, silent⟩, fun reliable => known fun process hmem => ?_⟩
  exact reliable process (by simp [hmem])

/-- Stopping does nothing to a child that was stopped. Any other child is stopped with its group,
and its exit status is known, if it could be found out. -/
theorem terminate_cases {rounds : Nat} (h : Runs (c.terminate rounds) events c') :
    (c.stopped ∧ events = [] ∧ c' = c) ∨
    (¬ c.stopped ∧ ({ c with stopped := true } : Child).Tracks events c' ∧
      (∃ stop, GroupStop c.process c.grace stop ∧ stop <:+: events) ∧
      (Reliable events → c'.exit.isSome)) := by
  cases fresh : c.stopped with
  | true =>
    rw [terminate, if_pos fresh] at h
    obtain ⟨rfl, rfl⟩ := runs_done_iff.mp h
    exact .inl ⟨rfl, rfl, rfl⟩
  | false =>
    obtain ⟨collects, ⟨before, stop, after, rfl, -, halted, -⟩, known⟩ := terminate_quelled h fresh
    exact .inr ⟨nofun, collects.tracks, ⟨stop, halted.groupStop, before, after, rfl⟩, known⟩

/-! ## What a child knows -/

/-- What a child knows is what happened: a known exit status was observed, and of a stopped child
the group was stopped and the exit status is known, if it could be found out. -/
structure Recorded (c : Child) (past : List Event) : Prop where
  observed : ∀ status, c.exit = some status → Observed c.process status past
  group : c.stopped → ∃ stop, GroupStop c.process c.grace stop ∧ stop <:+: past
  known : c.stopped → Reliable past → c.exit.isSome

/-- A child that was just started knows nothing. -/
theorem recorded_start (label : String) (process grace : Nat) (past : List Event) :
    (⟨label, process, grace, none, false⟩ : Child).Recorded past :=
  ⟨nofun, nofun, nofun⟩

/-- A later state of a child, which may have been stopped since: it still knows what happened. -/
structure Continues (c : Child) (events : List Event) (c' : Child) : Prop where
  process : c'.process = c.process
  grace : c'.grace = c.grace
  recorded : ∀ past, c.Recorded past → c'.Recorded (past ++ events)

theorem Continues.trans {c c' c'' : Child} {front back : List Event} (h : c.Continues front c')
    (h' : c'.Continues back c'') : c.Continues (front ++ back) c'' where
  process := h'.process.trans h.process
  grace := h'.grace.trans h.grace
  recorded := fun past hpast => by simpa using h'.recorded _ (h.recorded past hpast)

/-- A known exit status was observed. -/
theorem Tracks.observed (h : c.Tracks events c') {past : List Event}
    (known : ∀ status, c.exit = some status → Observed c.process status past)
    {status : ExitStatus} (hs : c'.exit = some status) :
    Observed c'.process status (past ++ events) := by
  rw [h.process]
  rcases h.found status hs with before | since
  · simpa using (known status before).append [] events
  · simpa using since.append past []

/-- A child that is kept track of knows what happened. -/
theorem Tracks.continues (h : c.Tracks events c') : c.Continues events c' := by
  refine ⟨h.process, h.grace, fun past recorded => ⟨fun status => h.observed recorded.observed,
    fun hstopped => ?_, fun hstopped reliable => ?_⟩⟩
  · obtain ⟨stop, hstop, hin⟩ := recorded.group (h.stopped ▸ hstopped)
    exact ⟨stop, by rwa [h.process, h.grace], hin.trans (List.prefix_append past events).isInfix⟩
  · obtain ⟨status, hs⟩ := Option.isSome_iff_exists.mp (recorded.known (h.stopped ▸ hstopped)
      fun process hmem => reliable process (List.mem_append_left _ hmem))
    simp [h.kept status hs]

/-- However often a child is stopped, it is stopped afterwards and knows what happened. -/
theorem terminate_continues {rounds : Nat} (h : Runs (c.terminate rounds) events c') :
    c.Continues events c' ∧ c'.stopped := by
  obtain ⟨hstopped, rfl, rfl⟩ | ⟨-, tracks, ⟨stop, hstop, hin⟩, known⟩ := terminate_cases h
  · exact ⟨(Tracks.refl _ _).continues, hstopped⟩
  · refine ⟨⟨tracks.process, tracks.grace, fun past recorded => ⟨fun status =>
      tracks.observed recorded.observed, fun _ => ⟨stop, ?_, ?_⟩, fun _ reliable => ?_⟩⟩,
      tracks.stopped⟩
    · rwa [tracks.process, tracks.grace]
    · exact hin.trans (List.suffix_append past events).isInfix
    · exact known fun process hmem => reliable process (List.mem_append_right _ hmem)

/-- A stopped child was torn down, if its exit status could be found out. -/
theorem Recorded.tornDown {past : List Event} (h : c.Recorded past) (hstopped : c.stopped)
    (reliable : Reliable past) : TornDown c.process c.grace past := by
  obtain ⟨status, hs⟩ := Option.isSome_iff_exists.mp (h.known hstopped reliable)
  exact ⟨⟨status, h.observed status hs⟩, h.group hstopped⟩

/-- A child that was started and is stopped in the end is torn down. -/
theorem Continues.tornDown {label : String} {process grace rounds : Nat} {front back : List Event}
    (h : (⟨label, process, grace, none, false⟩ : Child).Continues front c)
    (hstop : Runs (c.terminate rounds) back c') (reliable : Reliable (front ++ back)) :
    TornDown process grace (front ++ back) := by
  obtain ⟨stops, stopped⟩ := terminate_continues hstop
  have whole := h.trans stops
  have recorded := whole.recorded [] (recorded_start label process grace [])
  simpa [whole.process, whole.grace] using recorded.tornDown stopped (by simpa using reliable)

/-! ## Starting -/

/-- Starting a child is one request, and a child is there if it was granted. -/
theorem spawn_cases {label : String} {launch : Launch} {grace : Nat}
    {started : Except Failure Child} (h : Runs (spawn label launch grace) events started) :
    (∃ process, events = [.spawned launch process] ∧
      started = .ok ⟨label, process, grace, none, false⟩) ∨
    (∃ e failure, events = [.refused launch e] ∧ started = .error failure) := by
  obtain ⟨reply, rest, rfl, hreply⟩ := runs_ask_iff.mp h
  rcases reply with e | process
  · obtain ⟨rfl, rfl⟩ := runs_done_iff.mp hreply
    exact .inr ⟨e, _, rfl, rfl⟩
  · obtain ⟨rfl, rfl⟩ := runs_done_iff.mp hreply
    exact .inl ⟨process, rfl, rfl⟩

theorem asks_spawn {kind : Request → Prop} {label : String} {launch : Launch} {grace : Nat}
    (h : kind (.spawn launch)) : (spawn label launch grace).Asks kind := by
  refine ⟨h, fun reply => ?_⟩
  rcases reply with e | process <;> trivial

/-! ## Looking comes to an end -/

theorem halts_poll (c : Child) : c.poll.Halts := by
  unfold poll
  split
  · trivial
  · rintro (_ | _ | _) <;> trivial

theorem halts_observe (c : Child) : c.observe.Halts := c.halts_poll.bind fun _ => trivial

theorem halts_reap (c : Child) : c.reap.Halts := by
  unfold reap
  split
  · trivial
  · exact fun _ _ => trivial

/-! ## Looking and stopping start nothing -/

theorem tends_poll : c.poll.Asks Request.Tends := by
  unfold poll
  split
  · trivial
  · refine ⟨trivial, fun reply => ?_⟩
    rcases reply with _ | _ | _ <;> trivial

theorem tends_observe : c.observe.Asks Request.Tends := tends_poll.bind fun _ => trivial

theorem tends_awaitGroup (deadline rounds : Nat) :
    (awaitGroup deadline rounds c).Asks Request.Tends := by
  induction rounds generalizing c with
  | zero => trivial
  | succ rounds ih =>
    refine Asks.bind (.request trivial) fun time => ?_
    split_ifs
    · exact .request trivial
    · refine tends_poll.bind fun looked => Asks.bind (.request trivial) fun alive => ?_
      split_ifs
      · exact Asks.bind (.request trivial) fun _ => ih
      · trivial

/-- Stopping a child starts no process, and looks at no file. -/
theorem tends_terminate (rounds : Nat) : (c.terminate rounds).Asks Request.Tends := by
  unfold terminate
  split_ifs
  · trivial
  · refine tends_poll.bind fun looked => Asks.bind ?_ fun halted => ?_
    · refine ⟨trivial, fun reached => ?_⟩
      cases reached with
      | false => trivial
      | true =>
        refine Asks.bind (.request trivial) fun asked => ?_
        split
        · trivial
        · exact tends_awaitGroup _ _
    · unfold reap
      split
      · trivial
      · exact ⟨trivial, fun _ => .request trivial⟩

theorem asks_terminate (rounds : Nat) : (c.terminate rounds).Asks Request.Spawnless :=
  (tends_terminate rounds).mono fun _ => Request.Tends.spawnless

end Child
end ConformanceGate
