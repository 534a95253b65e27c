import ConformanceGate.Proofs.Run.Readiness
import ConformanceGate.Proofs.System.Clock

/-!
# Attempts to connect

Waiting for a connection goes in rounds. A round first checks for an interrupt and for the end of
the child, and then makes one attempt. A round that comes to nothing ends with a pause, as long as
the pause is over by the deadline (`Readiness.Futile`); any other round is the last one
(`Readiness.Settles`). On a clock there is at most one round more than pauses fit into the timeout,
and how the last one went justifies the outcome (`Readiness.wait_attempts`).
-/

namespace ConformanceGate

open Program

namespace Endpoint

variable {endpoints : List String} {events : List Event}

def declined (limit : Nat) (endpoint : String) : Event := ⟨.connect endpoint limit, false⟩

/-- The endpoints are tried in order, up to the first one that accepts. -/
theorem connectAny_declines {limit : Nat} {accepted : Bool}
    (h : Runs (connectAny limit endpoints) events accepted) :
    if accepted then ∃ before endpoint after, endpoints = before ++ endpoint :: after ∧
      events = before.map (declined limit) ++ [.connected endpoint limit]
    else events = endpoints.map (declined limit) := by
  induction endpoints generalizing events with
  | nil =>
    obtain ⟨rfl, rfl⟩ := runs_done_iff.mp h
    simp
  | cons first endpoints ih =>
    obtain ⟨reply, rest, rfl, hreply⟩ := runs_ask_iff.mp h
    cases reply with
    | true =>
      obtain ⟨rfl, rfl⟩ := runs_done_iff.mp hreply
      exact ⟨[], first, endpoints, rfl, rfl⟩
    | false =>
      have later := ih hreply
      cases accepted with
      | true =>
        obtain ⟨before, endpoint, after, rfl, rfl⟩ := later
        exact ⟨first :: before, endpoint, after, rfl, rfl⟩
      | false => exact congrArg (declined limit first :: ·) later

/-- An address that does not resolve is a flaw. -/
theorem resolve_error {address : String} {failure : Failure}
    (h : Runs (resolve address) events (.error failure)) : ∃ flaw, failure = .config flaw := by
  unfold resolve at h
  split at h
  · simp at h
  · split at h
    · exact ⟨_, Except.error.inj (runs_done_iff.mp h).2⟩
    · split at h
      · exact ⟨_, Except.error.inj (runs_done_iff.mp h).2⟩
      · split_ifs at h
        · exact ⟨_, Except.error.inj (runs_done_iff.mp h).2⟩
        · obtain ⟨reply, rest, rfl, hreply⟩ := runs_ask_iff.mp h
          rcases reply with reason | _ | ⟨host, hosts⟩
          · exact ⟨_, Except.error.inj (runs_done_iff.mp hreply).2⟩
          · exact ⟨_, Except.error.inj (runs_done_iff.mp hreply).2⟩
          · simp at hreply

theorem halts_resolve (address : String) : (resolve address).Halts := by
  unfold resolve
  split
  · trivial
  · split
    · trivial
    · split
      · trivial
      · split_ifs
        · trivial
        · rintro (_ | _ | _) <;> trivial

theorem halts_connectAny (limit : Nat) (endpoints : List String) :
    (connectAny limit endpoints).Halts := by
  induction endpoints with
  | nil => trivial
  | cons endpoint endpoints ih =>
    rintro (_ | _)
    · exact ih
    · trivial

end Endpoint

namespace Readiness

open Endpoint

variable {address : String} {interval started deadline : Nat} {c c' : Child} {events : List Event}

/-! ## One attempt -/

/-- The time that an attempt may take for each endpoint, if it begins at a time. -/
def allowance (deadline time : Nat) : Nat := max (min (deadline - time) attemptLimit) attemptLeast

/-- How an attempt to connect goes: the clock is read, the address is resolved, and its endpoints
are tried in order, up to the first one that accepts. -/
inductive Attempted (address : String) (deadline : Nat) : List Event → Bool → Prop
  | accepted {time : Nat} {lookups : List Event} {before after : List String} {endpoint : String} :
      Resolves address lookups (before ++ endpoint :: after) →
      Attempted address deadline (.clock time ::
        (lookups ++ (before.map (Endpoint.declined (allowance deadline time)) ++
          [.connected endpoint (allowance deadline time)]))) true
  | declined {time : Nat} {lookups : List Event} {endpoints : List String} :
      Resolves address lookups endpoints →
      Attempted address deadline (.clock time ::
        (lookups ++ endpoints.map (Endpoint.declined (allowance deadline time)))) false

/-- An attempt that comes to a result goes in the way that attempts go. -/
theorem attempted_of_runs {accepted : Bool}
    (h : Runs (attempt address deadline) events (.ok accepted)) :
    Attempted address deadline events accepted := by
  simp only [attempt, bind_eq, pure_eq] at h
  obtain ⟨time, rest, rfl, hafter⟩ := runs_now_bind_iff.mp h
  obtain ⟨found, lookups, rest, hresolve, hconnect, rfl⟩ := runs_bind_iff.mp hafter
  cases found with
  | error failure => simp at hconnect
  | ok endpoints =>
    obtain ⟨reply, hany, same⟩ := runs_bind_done_iff.mp hconnect
    obtain rfl : accepted = reply := Except.ok.inj same
    have resolves := resolves_of_runs hresolve
    have tried := connectAny_declines hany
    cases accepted with
    | true =>
      obtain ⟨before, endpoint, after, rfl, rfl⟩ := tried
      exact .accepted resolves
    | false =>
      obtain rfl := tried
      exact .declined resolves

theorem halts_attempt (address : String) (deadline : Nat) : (attempt address deadline).Halts := by
  refine fun time => (halts_resolve address).bind fun found => ?_
  cases found with
  | error failure => trivial
  | ok endpoints => exact (halts_connectAny _ endpoints).bind fun _ => trivial

/-- An attempt fails only for an address that cannot be used. -/
theorem attempt_error {failure : Failure}
    (h : Runs (attempt address deadline) events (.error failure)) :
    ∃ flaw, failure = .config flaw := by
  simp only [attempt, bind_eq, pure_eq] at h
  obtain ⟨time, rest, rfl, hafter⟩ := runs_now_bind_iff.mp h
  obtain ⟨found, lookups, rest, hresolve, hconnect, rfl⟩ := runs_bind_iff.mp hafter
  cases found with
  | error refused =>
    obtain ⟨-, same⟩ := runs_done_iff.mp hconnect
    obtain rfl := Except.error.inj same
    exact resolve_error hresolve
  | ok endpoints =>
    obtain ⟨reply, -, same⟩ := runs_bind_done_iff.mp hconnect
    cases same

/-! ## One round -/

/-- What is asked by a check that is passed: no interrupt is raised, and the child has not ended. -/
def passed (process : Nat) : List Event := [.interrupt false, .polled process (.ok none)]

/-- A round that comes to nothing: the check is passed, the attempt fails, and there is a pause,
which is over by the deadline. -/
inductive Futile (address : String) (interval deadline : Nat) (c : Child) : List Event → Prop
  | pause {tried : List Event} {time : Nat} : c.exit = none →
      Attempted address deadline tried false → time + interval ≤ deadline →
      Futile address interval deadline c
        (passed c.process ++ tried ++ [.clock time, .slept interval])

/-- The last round, and what the waiting ends with. If the check is not passed then nothing is
attempted. -/
inductive Settles (address : String) (interval started deadline : Nat) (c : Child) :
    List Event → Except Failure Nat → Prop
  | interrupted : Settles address interval started deadline c [.interrupt true]
      (.error .interrupted)
  /-- It was known before that the child has ended. -/
  | known {status : ExitStatus} : c.exit = some status →
      Settles address interval started deadline c [.interrupt false]
        (.error (.infrastructure (.exitedBeforeReady c.label status)))
  | exited {status : ExitStatus} : c.exit = none → Settles address interval started deadline c
      [.interrupt false, .polled c.process (.ok (some status))]
      (.error (.infrastructure (.exitedBeforeReady c.label status)))
  /-- The look at the child is refused. -/
  | unseen {e : SystemError} : c.exit = none → Settles address interval started deadline c
      [.interrupt false, .polled c.process (.error e)] (.error (.system ("polling " ++ c.label) e))
  /-- The address does not resolve. -/
  | unresolved {tried : List Event} {flaw : Flaw} : c.exit = none →
      Runs (attempt address deadline) tried (.error (.config flaw)) →
      Settles address interval started deadline c (passed c.process ++ tried)
        (.error (.config flaw))
  | accepted {tried : List Event} {finished : Nat} : c.exit = none →
      Attempted address deadline tried true →
      Settles address interval started deadline c (passed c.process ++ tried ++ [.clock finished])
        (.ok (finished - started))
  /-- After another pause the deadline would be over. -/
  | late {tried : List Event} {time finished : Nat} : c.exit = none →
      Attempted address deadline tried false → deadline < time + interval →
      Settles address interval started deadline c
        (passed c.process ++ tried ++ [.clock time, .clock finished])
        (.error (.notReady address (finished - started)))
  /-- The clock does not reach to the end of another pause. -/
  | beyond {tried : List Event} {time : Nat} : c.exit = none →
      Attempted address deadline tried false → Instant.after? time interval = none →
      Settles address interval started deadline c (passed c.process ++ tried ++ [.clock time])
        (.error .beyondClock)

theorem halts_check (c : Child) : (check c).Halts := by
  intro raised
  cases raised with
  | true => trivial
  | false =>
    refine c.halts_observe.bind fun found => ?_
    rcases found with ⟨_ | _ | _, _⟩ <;> trivial

/-- A check that is not passed settles the waiting. -/
theorem check_settles {failure : Failure} (h : Runs (check c) events (.error failure, c')) :
    Settles address interval started deadline c events (.error failure) := by
  simp only [check, ensureAlive, bind_eq, pure_eq] at h
  obtain ⟨raised, rest, rfl, hafter⟩ := runs_interrupted_bind_iff.mp h
  split_ifs at hafter with hraised
  · obtain rfl := hraised
    obtain ⟨rfl, same, -⟩ := runs_done_pair_iff.mp hafter
    obtain rfl := Except.error.inj same
    exact .interrupted
  · obtain rfl : raised = false := by simpa using hraised
    obtain ⟨⟨found, middle⟩, looked, rest, hobserve, hended, rfl⟩ := runs_bind_iff.mp hafter
    obtain ⟨reply, hpoll, rfl⟩ := Child.observe_iff.mp hobserve
    have label := (Child.poll_tracks hpoll).label
    rcases reply with e | _ | status
    · obtain ⟨rfl, same, rfl⟩ := runs_done_pair_iff.mp hended
      obtain rfl := Except.error.inj same
      obtain ⟨_, -, -, hfound, -⟩ | ⟨hexit, rfl, -⟩ := Child.poll_cases hpoll
      · cases hfound
      · simpa [label] using Settles.unseen hexit
    · obtain ⟨-, same, -⟩ := runs_done_pair_iff.mp hended
      cases same
    · obtain ⟨rfl, same, rfl⟩ := runs_done_pair_iff.mp hended
      obtain rfl := Except.error.inj same
      rw [label]
      obtain ⟨_, hexit, rfl, hfound, -⟩ | ⟨hexit, rfl, -⟩ := Child.poll_cases hpoll
      · cases hfound
        exact .known hexit
      · exact .exited hexit

/-- A check is passed only if it was not known that the child has ended. -/
theorem exit_of_check (h : Runs (check c) events (.ok (), c')) : c.exit = none := by
  simp only [check, ensureAlive, bind_eq, pure_eq] at h
  obtain ⟨raised, rest, rfl, hafter⟩ := runs_interrupted_bind_iff.mp h
  split_ifs at hafter with hraised
  · simp at hafter
  · obtain ⟨⟨found, middle⟩, looked, rest, hobserve, hended, rfl⟩ := runs_bind_iff.mp hafter
    rcases found with failure | _ | status
    · simp at hended
    · exact (Child.observe_none hobserve).2.1
    · simp at hended

variable {σ : Type} {host : Host σ} {s : σ} {n : Nat}

/-- How a round goes under a host: it is the last one, or it comes to nothing and leads to a state
in which the next one begins. -/
inductive RoundGoes (host : Host σ) (address : String) (interval started deadline n : Nat)
    (c : Child) (s : σ) : Prop
  | settles {events : List Event} {outcome : Except Failure Nat} {c' : Child} {s' : σ} :
      Plays host (tryUntil address interval started deadline (n + 1) c) s events (outcome, c') s' →
      Settles address interval started deadline c events outcome →
      RoundGoes host address interval started deadline n c s
  | futile {round : List Event} {s' : σ} : Futile address interval deadline c round →
      (host.Timed → host.time s + interval ≤ deadline ∧ host.time s + interval ≤ host.time s') →
      (∀ events ended t,
        Plays host (tryUntil address interval started deadline n c) s' events ended t →
        Plays host (tryUntil address interval started deadline (n + 1) c) s (round ++ events) ended
          t) →
      RoundGoes host address interval started deadline n c s

theorem plays_elapsed (started : Nat) (s : σ) : Plays host (elapsed started) s
    [.clock (host.time s)] (host.time s - started) (host s .now).2 := ⟨rfl, rfl⟩

/-- After an attempt that fails there is a pause, if it fits before the deadline. -/
theorem roundGoes_of_declined {s₁ s₂ : σ} {tried : List Event}
    (hcheck : Plays host (check c) s (passed c.process) (.ok (), c) s₁)
    (hattempt : Plays host (attempt address deadline) s₁ tried (.ok false) s₂) :
    RoundGoes host address interval started deadline n c s := by
  have alive := exit_of_check hcheck.runs
  have declined := attempted_of_runs hattempt.runs
  cases within : Instant.after? (host.time s₂) interval with
  | none =>
    have played : Plays host (tryUntil address interval started deadline (n + 1) c) s
        (passed c.process ++ (tried ++ [.clock (host.time s₂)])) (.error .beyondClock, c)
        (host s₂ .now).2 := by
      refine hcheck.bind (hattempt.bind (plays_now_bind ?_))
      rw [within]
      exact plays_done _ _
    exact .settles played (by simpa using Settles.beyond alive declined within)
  | some next =>
    obtain ⟨-, rfl⟩ := Instant.after?_eq_some_iff.mp within
    by_cases past : deadline < host.time s₂ + interval
    · have played : Plays host (tryUntil address interval started deadline (n + 1) c) s
          (passed c.process ++ (tried ++ .clock (host.time s₂) ::
            ([.clock (host.time (host s₂ .now).2)] ++ [])))
          (.error (.notReady address (host.time (host s₂ .now).2 - started)), c)
          (host (host s₂ .now).2 .now).2 := by
        refine hcheck.bind (hattempt.bind (plays_now_bind ?_))
        simp only [within, if_pos past]
        exact (plays_elapsed started _).bind (plays_done _ _)
      exact .settles played (by simpa using Settles.late alive declined past)
    · have played (events : List Event) (ended : Except Failure Nat × Child) (t : σ)
          (later : Plays host (tryUntil address interval started deadline n c)
            (host (host s₂ .now).2 (.sleep interval)).2 events ended t) :
          Plays host (tryUntil address interval started deadline (n + 1) c) s
            (passed c.process ++ (tried ++ .clock (host.time s₂) :: .slept interval :: events))
            ended t := by
        refine hcheck.bind (hattempt.bind (plays_now_bind ?_))
        simp only [within, if_neg past]
        exact plays_sleep_bind later
      refine .futile (.pause alive declined (Nat.le_of_not_lt past)) (fun timed => ?_)
        fun events ended t later => by simpa using played events ended t later
      have onward := Nat.le_trans (timed.plays_le hcheck) (timed.plays_le hattempt)
      have read := timed.onward s₂ .now
      have paused := timed.slept (host s₂ .now).2 interval
      omega

/-- Under every host a round is the last one, or comes to nothing. -/
theorem roundGoes (host : Host σ) (s : σ) (n : Nat) :
    RoundGoes host address interval started deadline n c s := by
  obtain ⟨looked, ⟨checked, c₁⟩, s₁, hcheck⟩ := (halts_check c).plays host s
  cases checked with
  | error failure =>
    exact .settles (hcheck.bind (plays_done _ _)) (by simpa using check_settles hcheck.runs)
  | ok =>
    have alive := exit_of_check hcheck.runs
    obtain ⟨rfl, rfl⟩ := check_ok hcheck.runs
    obtain ⟨tried, answer, s₂, hattempt⟩ := (halts_attempt address deadline).plays host s₁
    rcases answer with failure | _ | _
    · obtain ⟨flaw, rfl⟩ := attempt_error hattempt.runs
      refine .settles (hcheck.bind (hattempt.bind (plays_done _ _))) ?_
      simpa [passed] using Settles.unresolved alive hattempt.runs
    · exact roundGoes_of_declined hcheck hattempt
    · refine .settles
        (hcheck.bind (hattempt.bind ((plays_elapsed started s₂).bind (plays_done _ _)))) ?_
      simpa [passed] using Settles.accepted alive (attempted_of_runs hattempt.runs)

/-! ## The rounds in their order -/

/-- The waiting goes through rounds that come to nothing and a last one. -/
structure GoesThrough (address : String) (interval started deadline : Nat) (c : Child)
    (failed : List (List Event)) (last : List Event) (outcome : Except Failure Nat) : Prop where
  futile : ∀ round ∈ failed, Futile address interval deadline c round
  settles : Settles address interval started deadline c last outcome

/-- On a clock each round that comes to nothing takes one of the pauses that fit into the time that
is left. -/
theorem tryUntil_rounds (timed : host.Timed) (positive : 0 < interval)
    (enough : (deadline - host.time s) / interval < n) :
    ∃ failed last outcome c' s',
      Plays host (tryUntil address interval started deadline n c) s (failed.flatten ++ last)
        (outcome, c') s' ∧
      failed.length ≤ (deadline - host.time s) / interval ∧
      GoesThrough address interval started deadline c failed last outcome := by
  induction n generalizing s with
  | zero => exact absurd enough (Nat.not_lt_zero _)
  | succ n ih =>
    cases @roundGoes address interval started deadline c _ host s n with
    | settles played settles => exact ⟨[], _, _, _, _, played, Nat.zero_le _, nofun, settles⟩
    | @futile round s' futile timely goesOn =>
      obtain ⟨fits, onward⟩ := timely timed
      have left : (deadline - host.time s') / interval + 1 ≤
          (deadline - host.time s) / interval := by
        rw [Nat.div_eq_sub_div positive (Nat.le_sub_of_add_le' fits)]
        exact Nat.succ_le_succ (Nat.div_le_div_right (by omega))
      obtain ⟨failed, last, outcome, c', t, played, bound, through⟩ := ih (s := s') (by omega)
      refine ⟨round :: failed, last, outcome, c', t, by simpa using goesOn _ _ _ played,
        Nat.le_trans (Nat.succ_le_succ bound) left,
        List.forall_mem_cons.mpr ⟨futile, through.futile⟩, through.settles⟩

/-! ## What the outcome says -/

/-- What the outcome says of the rounds. The waiting ends well right after an attempt that
succeeded, in a round whose check was passed. It ends for want of time after an attempt that failed,
if the next pause would end after the deadline. A raised interrupt that is found ends it at once,
and so does the end of the child. -/
structure Justified (address : String) (interval started deadline : Nat) (c : Child)
    (failed : List (List Event)) (last : List Event) (outcome : Except Failure Nat) : Prop where
  ready : ∀ spent, outcome = .ok spent → ∃ tried finished, Attempted address deadline tried true ∧
    last = passed c.process ++ tried ++ [.clock finished] ∧ spent = finished - started
  notReady : ∀ target spent, outcome = .error (.notReady target spent) → target = address ∧
    ∃ tried time finished, Attempted address deadline tried false ∧ deadline < time + interval ∧
      last = passed c.process ++ tried ++ [.clock time, .clock finished] ∧
      spent = finished - started
  interrupted : .interrupt true ∈ failed.flatten ++ last →
    last = [.interrupt true] ∧ outcome = .error .interrupted
  exited : ∀ status, .polled c.process (.ok (some status)) ∈ failed.flatten ++ last →
    last = [.interrupt false, .polled c.process (.ok (some status))] ∧
      outcome = .error (.infrastructure (.exitedBeforeReady c.label status))
  known : ∀ status, c.exit = some status → failed = [] ∧
    (last = [.interrupt true] ∧ outcome = .error .interrupted ∨
      last = [.interrupt false] ∧
        outcome = .error (.infrastructure (.exitedBeforeReady c.label status)))

theorem undisturbed_passed (process : Nat) : Undisturbed process (passed process) :=
  undisturbed_check process

theorem Attempted.undisturbed {accepted : Bool} (h : Attempted address deadline events accepted)
    (process : Nat) : Undisturbed process events := by
  have asking {lookups : List Event} {endpoints : List String}
      (resolves : Resolves address lookups endpoints) : Undisturbed process lookups := by
    cases resolves with
    | numeric => exact undisturbed_of_others nofun
    | named => exact undisturbed_of_others (by simp)
  have declining (limit : Nat) (endpoints : List String) :
      Undisturbed process (endpoints.map (Endpoint.declined limit)) :=
    undisturbed_of_others (by simp [Endpoint.declined])
  cases h with
  | @accepted time _ before _ endpoint resolves =>
    have connecting : Undisturbed process [.connected endpoint (allowance deadline time)] :=
      undisturbed_of_others (by simp [Event.connected])
    exact undisturbed_append.mpr ⟨undisturbed_clock process time, undisturbed_append.mpr
      ⟨asking resolves, undisturbed_append.mpr ⟨declining _ _, connecting⟩⟩⟩
  | @declined time _ _ resolves =>
    exact undisturbed_append.mpr ⟨undisturbed_clock process time,
      undisturbed_append.mpr ⟨asking resolves, declining _ _⟩⟩

/-- A round that comes to nothing finds the process there and no interrupt. -/
theorem Futile.undisturbed {round : List Event} (h : Futile address interval deadline c round) :
    Undisturbed c.process round := by
  cases h with
  | pause _ declined =>
    exact undisturbed_append.mpr ⟨undisturbed_append.mpr
      ⟨undisturbed_passed c.process, declined.undisturbed c.process⟩, undisturbed_pause _ _ _⟩

/-- What disturbs the last round is an interrupt, the end of the child or a refused look. -/
theorem Settles.cases_found {last : List Event} {outcome : Except Failure Nat}
    (h : Settles address interval started deadline c last outcome) :
    Undisturbed c.process last ∨ (last = [.interrupt true] ∧ outcome = .error .interrupted) ∨
    (∃ status, last = [.interrupt false, .polled c.process (.ok (some status))] ∧
      outcome = .error (.infrastructure (.exitedBeforeReady c.label status))) ∨
    ∃ e, last = [.interrupt false, .polled c.process (.error e)] := by
  have checked {tried rest : List Event} (calm : Undisturbed c.process tried)
      (calm' : Undisturbed c.process rest) :
      Undisturbed c.process (passed c.process ++ tried ++ rest) :=
    undisturbed_append.mpr ⟨undisturbed_append.mpr ⟨undisturbed_passed c.process, calm⟩, calm'⟩
  cases h with
  | interrupted => exact .inr (.inl ⟨rfl, rfl⟩)
  | known => exact .inl (undisturbed_interrupt c.process)
  | exited => exact .inr (.inr (.inl ⟨_, rfl, rfl⟩))
  | unseen => exact .inr (.inr (.inr ⟨_, rfl⟩))
  | unresolved _ ran =>
    exact .inl (undisturbed_append.mpr
      ⟨undisturbed_passed c.process, undisturbed_attempt ran c.process⟩)
  | accepted _ accepted =>
    exact .inl (checked (accepted.undisturbed c.process) (undisturbed_clock c.process _))
  | late _ declined =>
    have clocks (time time' : Nat) : Undisturbed c.process [.clock time, .clock time'] :=
      undisturbed_append.mpr ⟨undisturbed_clock c.process time, undisturbed_clock c.process time'⟩
    exact .inl (checked (declined.undisturbed c.process) (clocks _ _))
  | beyond _ declined =>
    exact .inl (checked (declined.undisturbed c.process) (undisturbed_clock c.process _))

/-- An interrupt that is found in the last round ends it at once. -/
theorem Settles.of_interrupt {last : List Event} {outcome : Except Failure Nat}
    (h : Settles address interval started deadline c last outcome)
    (found : .interrupt true ∈ last) :
    last = [.interrupt true] ∧ outcome = .error .interrupted := by
  rcases h.cases_found with calm | ended | ⟨status, rfl, -⟩ | ⟨e, rfl⟩
  · cases calm.calm true found
  · exact ended
  all_goals
    rcases List.mem_cons.mp found with same | later
    · cases same
    · cases List.mem_singleton.mp later

/-- And so does the end of the child. -/
theorem Settles.of_exit {last : List Event} {outcome : Except Failure Nat} {status : ExitStatus}
    (h : Settles address interval started deadline c last outcome)
    (found : .polled c.process (.ok (some status)) ∈ last) :
    last = [.interrupt false, .polled c.process (.ok (some status))] ∧
      outcome = .error (.infrastructure (.exitedBeforeReady c.label status)) := by
  rcases h.cases_found with calm | ⟨rfl, -⟩ | ⟨seen, rfl, rfl⟩ | ⟨e, rfl⟩
  · cases calm.alive _ found
  · cases List.mem_singleton.mp found
  · rcases List.mem_cons.mp found with same | later
    · cases same
    · cases List.mem_singleton.mp later
      exact ⟨rfl, rfl⟩
  · rcases List.mem_cons.mp found with same | later
    · cases same
    · cases List.mem_singleton.mp later

/-- If the child is known to have ended then there is nothing to look at. -/
theorem Settles.of_known {last : List Event} {outcome : Except Failure Nat} {status : ExitStatus}
    (h : Settles address interval started deadline c last outcome) (known : c.exit = some status) :
    last = [.interrupt true] ∧ outcome = .error .interrupted ∨ last = [.interrupt false] ∧
      outcome = .error (.infrastructure (.exitedBeforeReady c.label status)) := by
  cases h with
  | interrupted => exact .inl ⟨rfl, rfl⟩
  | known same =>
    obtain rfl : status = _ := Option.some.inj (known.symm.trans same)
    exact .inr ⟨rfl, rfl⟩
  | exited alive | unseen alive | unresolved alive | accepted alive | late alive | beyond alive =>
    simp [known] at alive

theorem undisturbed_flatten {process : Nat} {rounds : List (List Event)}
    (h : ∀ round ∈ rounds, Undisturbed process round) : Undisturbed process rounds.flatten := by
  refine ⟨fun found hmem => ?_, fun raised hmem => ?_⟩
  · obtain ⟨round, hround, hmem⟩ := List.mem_flatten.mp hmem
    exact (h round hround).alive found hmem
  · obtain ⟨round, hround, hmem⟩ := List.mem_flatten.mp hmem
    exact (h round hround).calm raised hmem

/-- The rounds justify the outcome. -/
theorem GoesThrough.justified {failed : List (List Event)} {last : List Event}
    {outcome : Except Failure Nat}
    (h : GoesThrough address interval started deadline c failed last outcome) :
    Justified address interval started deadline c failed last outcome := by
  obtain ⟨futile, settles⟩ := h
  -- What is found at all is found in the last round.
  have calm : Undisturbed c.process failed.flatten :=
    undisturbed_flatten fun round hround => (futile round hround).undisturbed
  refine ⟨?_, ?_, fun found => ?_, fun status found => ?_, fun status known => ?_⟩
  · rintro spent rfl
    cases settles with
    | accepted _ accepted => exact ⟨_, _, accepted, rfl, rfl⟩
  · rintro target spent rfl
    cases settles with
    | late _ declined past => exact ⟨rfl, _, _, _, declined, past, rfl, rfl⟩
  · refine settles.of_interrupt ((List.mem_append.mp found).resolve_left fun before => ?_)
    cases calm.calm true before
  · refine settles.of_exit ((List.mem_append.mp found).resolve_left fun before => ?_)
    cases calm.alive _ before
  · refine ⟨?_, settles.of_known known⟩
    cases failed with
    | nil => rfl
    | cons round failed =>
      cases futile round List.mem_cons_self with
      | pause alive => simp [known] at alive

/-- On a clock, and with rounds for every pause that fits into the timeout, the waiting comes to an
end. It makes at most one attempt for each of these pauses and one more, the last one in the last
round, and its outcome is justified by the rounds. A timeout beyond the clock is refused at once. -/
theorem wait_attempts (host : Host σ) (s : σ) (c : Child) (address : String)
    {timeout interval rounds : Nat} (timed : host.Timed) (positive : 0 < interval)
    (enough : timeout / interval < rounds) :
    (Instant.after? (host.time s) timeout = none →
      Plays host ((accepting address timeout interval).wait rounds c) s [.clock (host.time s)]
        (.error .beyondClock, c) (host s .now).2) ∧
    ∀ deadline, Instant.after? (host.time s) timeout = some deadline →
      ∃ failed last outcome c' s',
        Plays host ((accepting address timeout interval).wait rounds c) s
          (.clock (host.time s) :: (failed.flatten ++ last)) (outcome, c') s' ∧
        failed.length ≤ timeout / interval ∧
        GoesThrough address interval (host.time s) deadline c failed last outcome ∧
        Justified address interval (host.time s) deadline c failed last outcome := by
  refine ⟨fun beyond => plays_now_bind ?_, fun deadline within => ?_⟩
  · simp only [beyond]
    exact plays_done _ _
  · have left : (deadline - host.time (host s .now).2) / interval ≤ timeout / interval := by
      have onward := timed.onward s .now
      obtain ⟨-, rfl⟩ := Instant.after?_eq_some_iff.mp within
      exact Nat.div_le_div_right (by omega)
    obtain ⟨failed, last, outcome, c', s', played, bound, through⟩ :=
      @tryUntil_rounds address interval (host.time s) deadline c _ host (host s .now).2 rounds timed
        positive (Nat.lt_of_le_of_lt left enough)
    refine ⟨failed, last, outcome, c', s', plays_now_bind ?_, Nat.le_trans bound left, through,
      through.justified⟩
    simp only [within]
    exact played

def deafHost : Host Nat := .byTime fun _ r => r.idle

def deafChild : Child := ⟨"harness", 7, 0, none, false⟩

/-- Nothing ever listens, and the waiting gives up. -/
theorem wait_attempts_deaf :
    deafHost.Timed ∧ 0 < 20000 ∧ 50000 / 20000 < 3 ∧ Instant.after? 0 50000 = some 50000 ∧
      ∃ failed last c' s',
        Plays deafHost ((accepting "127.0.0.1:9001" 50000 20000).wait 3 deafChild) 0
          (.clock 0 :: (failed.flatten ++ last))
          (.error (.notReady "127.0.0.1:9001" 40000), c') s' ∧
        failed.length ≤ 2 ∧
        Justified "127.0.0.1:9001" 20000 0 50000 deafChild failed last
          (.error (.notReady "127.0.0.1:9001" 40000)) := by
  have timed : deafHost.Timed := Host.timed_byTime _
  have within : Instant.after? (deafHost.time 0) 50000 = some 50000 := if_pos (by decide)
  obtain ⟨failed, last, outcome, c', s', played, bound, -, justified⟩ :=
    (@wait_attempts _ deafHost 0 deafChild "127.0.0.1:9001" 50000 20000 3 timed (by decide)
      (by decide)).2 50000 within
  have ran : ((accepting "127.0.0.1:9001" 50000 20000).wait 3 deafChild).run deafHost 0 =
      (some (.error (.notReady "127.0.0.1:9001" 40000), deafChild), 40000) := rfl
  obtain ⟨⟨rfl, -⟩, -⟩ : (outcome = _ ∧ _) ∧ _ := by
    simpa only [Prod.mk.injEq, Option.some.injEq] using played.run.symm.trans ran
  exact ⟨timed, by decide, by decide, within, failed, last, c', s', played, bound, justified⟩

end Readiness
end ConformanceGate
