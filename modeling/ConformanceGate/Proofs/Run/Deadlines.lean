import ConformanceGate.Proofs.Config.Overlay
import ConformanceGate.Proofs.Document.Writing
import ConformanceGate.Proofs.Run.Failures
import ConformanceGate.Proofs.Run.Precedence

/-!
# Deadlines

A run adds durations to the time on the clock, and the clock ends at `Instant.limit`. If it does not
reach far enough, one of the durations was too long for a time that was shown, and a run that ends
well had time for its limit (`Orchestrator.timely_run`). All durations of an accepted configuration
but the time limit of a run are given in milliseconds and stay on the clock. The time limit is given
in seconds, and may be too long for every clock (`Orchestrator.ofConfig_deadlines`).
-/

namespace ConformanceGate

open Program

variable {α β : Type} {shown : Nat → Prop}

/-! ## Programs by what the clock shows -/

namespace Program

variable {good : α → Prop} {good' : β → Prop}

/-- As long as the clock shows only such times, the program ends with a good value, if it ends. -/
def EndsOn (shown : Nat → Prop) (good : α → Prop) (p : Program α) : Prop :=
  ∀ events a, Runs p events a → (∀ time, .clock time ∈ events → shown time) → good a

theorem Ends.on {p : Program α} (h : p.Ends good) : p.EndsOn shown good :=
  fun _ _ ran _ => ran.good_of_ends h

theorem endsOn_done {a : α} (h : good a) : (done a).EndsOn shown good := Ends.on h

theorem EndsOn.mono {good' : α → Prop} {p : Program α} (h : p.EndsOn shown good)
    (hgood : ∀ a, good a → good' a) : p.EndsOn shown good' :=
  fun events a ran readings => hgood a (h events a ran readings)

/-- A program may be followed by another one, with what the clock shows in common. -/
theorem EndsOn.bind {p : Program α} {f : α → Program β} (hp : p.EndsOn shown good)
    (hf : ∀ a, good a → (f a).EndsOn shown good') : (p.bind f).EndsOn shown good' := by
  intro events b ran readings
  obtain ⟨a, front, back, first, later, rfl⟩ := runs_bind_iff.mp ran
  have first := hp front a first fun time read => readings time (List.mem_append_left _ read)
  exact hf a first back b later fun time read => readings time (List.mem_append_right _ read)

/-- What a program ends with is of no concern to what follows. -/
theorem EndsOn.after (p : Program α) {f : α → Program β} (hf : ∀ a, (f a).EndsOn shown good') :
    (p.bind f).EndsOn shown good' := by
  have anyhow : p.EndsOn shown fun _ => True := fun _ _ _ _ => trivial
  exact anyhow.bind fun a _ => hf a

theorem EndsOn.now {f : Nat → Program β} (h : ∀ time, shown time → (f time).EndsOn shown good') :
    (now.bind f).EndsOn shown good' := by
  intro events b ran readings
  obtain ⟨time, rest, rfl, later⟩ := runs_now_bind_iff.mp ran
  exact h time (readings time (List.mem_cons_self ..)) rest b later fun time read =>
    readings time (List.mem_cons_of_mem _ read)

end Program

/-! ## Outcomes and the clock -/

section Outcomes

variable {spans needed : List Nat}

/-- A failure, if it is one, is not that the clock does not reach far enough. -/
def OnClock (outcome : Except Failure α) : Prop :=
  ∀ failure, outcome = .error failure → failure ≠ .beyondClock

theorem Mild.onClock {outcome : Except Failure α} (h : Mild outcome) : OnClock outcome :=
  fun failure failed => (h failure failed).2

@[simp] theorem onClock_ok (a : α) : OnClock (.ok a) := nofun

@[simp] theorem onClock_error_iff {failure : Failure} :
    OnClock (.error failure : Except Failure α) ↔ failure ≠ .beyondClock := by
  simp [OnClock]

/-- If the clock does not reach far enough, one of the `spans` was too long for a time that was
shown; if all went well, each of the `needed` durations was short enough for one. -/
def Timely (shown : Nat → Prop) (spans needed : List Nat) : Except Failure α → Prop
  | .ok _ => ∀ span ∈ needed, ∃ time, shown time ∧ time + span < Instant.limit
  | .error failure => failure = .beyondClock →
      ∃ span ∈ spans, ∃ time, shown time ∧ Instant.limit ≤ time + span

theorem OnClock.timely_error {failure : Failure}
    (h : OnClock (.error failure : Except Failure α)) :
    Timely shown spans needed (.error failure : Except Failure β) :=
  fun late => absurd late (onClock_error_iff.mp h)

theorem OnClock.timely {outcome : Except Failure α} (h : OnClock outcome) :
    Timely shown spans [] outcome := by
  cases outcome with
  | ok a => exact nofun
  | error failure => exact h.timely_error

/-- A failure that has its reason in some durations has it in more of them. -/
theorem Timely.error {spans' needed' : List Nat} {failure : Failure}
    (h : Timely shown spans needed (.error failure : Except Failure α)) (more : spans ⊆ spans') :
    Timely shown spans' needed' (.error failure : Except Failure β) := by
  intro late
  obtain ⟨span, among, reason⟩ := h late
  exact ⟨span, more among, reason⟩

/-- A sum that the clock refused justifies the failure. -/
theorem timely_beyondClock {span time : Nat} (among : span ∈ spans) (h : shown time)
    (refused : Instant.after? time span = none) :
    Timely shown spans needed (.error .beyondClock : Except Failure α) := by
  intro
  refine ⟨span, among, time, h, ?_⟩
  simpa [Instant.after?] using refused

end Outcomes

/-! ## Phases of a run -/

namespace Readiness

def spans : Readiness → List Nat
  | .accepting _ timeout interval => [timeout, interval]
  | .fixed delay => [delay]

/-- Trying fails beyond the clock only for the timeout or the interval. -/
theorem timely_tryUntil (address : String) (timeout interval started deadline rounds : Nat)
    (c : Child) : (tryUntil address interval started deadline rounds c).EndsOn shown fun ended =>
      Timely shown [timeout, interval] [] ended.1 := by
  induction rounds generalizing c with
  | zero => exact Ends.on trivial
  | succ rounds ih =>
    refine (mild_check c).on.bind fun found mild => ?_
    rcases found with ⟨failure | ⟨⟩, c⟩
    · exact endsOn_done mild.onClock.timely_error
    refine (mild_attempt address deadline).on.bind fun found mild => ?_
    rcases found with failure | _ | _
    · exact endsOn_done mild.onClock.timely_error
    · refine EndsOn.now fun time read => ?_
      cases next : Instant.after? time interval with
      | none => exact endsOn_done (timely_beyondClock (by simp) read next)
      | some next =>
        dsimp only
        split_ifs
        · exact EndsOn.after (elapsed started) fun _ => endsOn_done nofun
        · exact EndsOn.after (sleep interval) fun _ => ih c
    · exact EndsOn.after (elapsed started) fun _ => endsOn_done (onClock_ok _).timely

/-- Waiting fails beyond the clock only for one of its own durations. -/
theorem timely_wait (r : Readiness) (rounds : Nat) (c : Child) :
    (r.wait rounds c).EndsOn shown fun ended => Timely shown r.spans [] ended.1 := by
  refine EndsOn.now fun started read => ?_
  cases r with
  | accepting address timeout interval =>
    dsimp only
    split
    · rename_i refused
      exact endsOn_done (timely_beyondClock (by simp [spans]) read refused)
    · exact timely_tryUntil address timeout interval started _ rounds c
  | fixed delay =>
    dsimp only
    split
    · rename_i refused
      exact endsOn_done (timely_beyondClock (by simp [spans]) read refused)
    · exact (mild_waitUntil started _ rounds c).on.mono fun _ mild => mild.onClock.timely

end Readiness

namespace Supervision

/-- Supervision fails beyond the clock only for the time limit, which was short enough if all went
well. -/
theorem timely_supervise (limit : Option Nat) (rounds : Nat) (primary companion : Child) :
    (supervise limit rounds primary companion).EndsOn shown fun ended =>
      Timely shown limit.toList limit.toList ended.1 := by
  cases limit with
  | none =>
    exact (mild_watch none rounds primary companion).on.mono fun _ mild => mild.onClock.timely
  | some limit =>
    refine EndsOn.now fun time read => ?_
    split
    · rename_i refused
      exact endsOn_done (timely_beyondClock (by simp) read refused)
    · rename_i deadline reached
      refine (mild_watch _ rounds primary companion).on.mono fun ended mild => ?_
      rcases ended with ⟨failure | status, rest⟩
      · exact mild.onClock.timely_error
      · -- The deadline was on the clock, so the limit was short enough.
        have fits : time + limit < Instant.limit := by
          by_contra late
          simp [Instant.after?, late] at reached
        simpa [Timely] using ⟨time, read, fits⟩

end Supervision

namespace Orchestrator

variable {o : Orchestrator} {role : Role} {rc : RoleConfig}

def spans (o : Orchestrator) : List Nat :=
  [o.grace, o.timeout, o.interval] ++ o.fixedDelay.toList

abbrev RunTimely (o : Orchestrator) (shown : Nat → Prop) : Except Failure RunReport → Prop :=
  Timely shown (o.spans ++ o.limit.toList) o.limit.toList

theorem spans_readiness (address : String) :
    (o.readiness address).spans ⊆ o.spans ++ o.limit.toList := by
  unfold readiness
  cases h : o.fixedDelay <;> simp [Readiness.spans, spans, h]

theorem timely_runBoth (rounds : Nat) (role : Role) (spec : Spec) (started readyAfter : Nat)
    (listener connector : Child) :
    (o.runBoth rounds role spec started readyAfter listener connector).EndsOn shown fun ended =>
      o.RunTimely shown ended.1.1 := by
  refine (Supervision.timely_supervise o.limit rounds connector listener).bind ?_
  intro found timely
  rcases found with ⟨failure | status, connector, listener⟩
  · exact endsOn_done (timely.error (List.subset_append_right ..))
  · dsimp only
    split_ifs
    · refine EndsOn.after _ fun listener => ?_
      refine (mild_finish role spec started readyAfter).on.bind fun outcome mild => ?_
      cases outcome with
      | error failure => exact endsOn_done mild.onClock.timely_error
      | ok report => exact endsOn_done timely
    · exact endsOn_done nofun

/-- With the listening side running, only the durations of the run are added to the time. -/
theorem timely_runListener (rounds : Nat) (role : Role) (rc : RoleConfig) (spec : Spec)
    (address : String) (started : Nat) (listener : Child) :
    (o.runListener rounds role rc spec address started listener).EndsOn shown fun ended =>
      o.RunTimely shown ended.1 := by
  refine (Readiness.timely_wait _ rounds listener).bind fun ready timely => ?_
  rcases ready with ⟨failure | readyAfter, listener⟩
  · exact endsOn_done (timely.error (spans_readiness address))
  · dsimp only
    have connects := o.mild_connecting role rc (o.specPath rc)
    split
    · rename_i failure refused
      rw [refused] at connects
      exact endsOn_done connects.onClock.timely_error
    · refine (Child.mild_spawn _ _ _).on.bind fun spawned mild => ?_
      cases spawned with
      | error failure => exact endsOn_done mild.onClock.timely_error
      | ok connector =>
        refine (timely_runBoth rounds role spec _ readyAfter listener connector).bind ?_
        exact fun ended timely => EndsOn.after _ fun _ => endsOn_done timely

theorem timely_during (rounds : Nat) (label : String) (launch : Launch)
    {body : Child → Program (Except Failure RunReport × Child)}
    (h : ∀ c, (body c).EndsOn shown fun ended => o.RunTimely shown ended.1) :
    (Child.during rounds label launch o.grace body).EndsOn shown (o.RunTimely shown) := by
  refine (Child.mild_spawn label launch o.grace).on.bind fun spawned mild => ?_
  cases spawned with
  | error failure => exact endsOn_done mild.onClock.timely_error
  | ok c =>
    refine (h c).bind fun ended timely => ?_
    exact EndsOn.after (ended.2.terminate rounds) fun _ => endsOn_done timely

/-- A step that is not held up by the clock leaves the outcome to the rest. -/
theorem timely_bind {t : Action α} {f : α → Action RunReport} (ht : t.Fails (· ≠ .beyondClock))
    (hf : ∀ a, (f a).toProgram.EndsOn shown (o.RunTimely shown)) :
    (t >>= f).toProgram.EndsOn shown (o.RunTimely shown) := by
  rw [Action.toProgram_bind]
  refine (Ends.on ht).bind fun found (onClock : OnClock found) => ?_
  cases found with
  | error failure => exact endsOn_done onClock.timely_error
  | ok a => exact hf a

/-- Whatever the system does: if the clock does not reach far enough for a run, one of the durations
of the run was too long for a time that was shown, and if the run ends well, its time limit was
short enough for one. -/
theorem timely_run (o : Orchestrator) (rounds : Nat) (role : Role) (rc : RoleConfig) :
    (o.run rounds role rc).toProgram.EndsOn shown (o.RunTimely shown) := by
  have loading : (Spec.load role.mode (o.specPath rc)).Fails (· ≠ .beyondClock) :=
    Action.fails_bind (Action.fails_attempt fun _ => nofun) fun _ =>
      Action.fails_ofFlaw fun _ => nofun
  have checking (address : String) : (Endpoint.ensureFree address).Fails (· ≠ .beyondClock) :=
    (Endpoint.mild_ensureFree address).mono fun _ mild => mild.onClock
  refine timely_bind (Action.fails_lift _) fun started => timely_bind loading fun spec => ?_
  refine timely_bind (Action.fails_ofFlaw fun _ => nofun) fun address => ?_
  have starting : (Action.ofExcept (o.listening role rc (o.specPath rc)) >>= fun side =>
      Action.ofProgram (Child.during rounds side.1 side.2 o.grace
        (o.runListener rounds role rc spec address started))).toProgram.EndsOn shown
          (o.RunTimely shown) :=
    timely_bind (Action.fails_ofExcept (o.mild_listening role rc _).onClock) fun side =>
      timely_during rounds side.1 side.2 (timely_runListener rounds role rc spec address started)
  split_ifs
  · exact timely_bind (checking address) fun _ => starting
  · exact starting

end Orchestrator

/-! ## Accepted configurations -/

/-- What all fields of a record keep holds of every value that is read over a good one. -/
theorem Shape.over_keeps {ρ : Type} {shape : Shape ρ} {usual found : ρ} {t : Terms} {w : Written}
    (invariant : ρ → Prop) (read : shape.over usual t w = .ok found)
    (keeps : ∀ inner, ∀ f ∈ shape.fields, f.Keeps inner invariant) (before : invariant usual) :
    invariant found := by
  obtain ⟨⟨last, kept⟩, filled, rfl⟩ := Except.map_eq_ok.mp read
  obtain ⟨inner, -, through⟩ := Shape.fill_keeps filled
  exact through invariant (keeps inner) before

/-- The times that the probing is given, in milliseconds. -/
def ReadinessConfig.times (c : ReadinessConfig) : List Nat :=
  [c.timeout, c.interval] ++ c.fixedDelay.toList

/-- The times that a configuration gives in milliseconds. -/
def Config.times (c : Config) : List Nat := c.teardown.grace :: c.readiness.times

theorem Decoder.lt_of_nat64 {t : Terms} {w : Written} {n : Nat} (read : nat64 t w = .ok n) :
    n < UInt64.size := (nat64_eq_ok_iff.mp read).1

theorem Decoder.lt_of_optional_nat64 {t : Terms} {w : Written} {found : Option Nat}
    (read : optional nat64 t w = .ok found) : ∀ n ∈ found, n < UInt64.size := by
  unfold optional at read
  split at read
  · cases read
    nofun
  · obtain ⟨n, given, rfl⟩ := Except.map_eq_ok.mp read
    rintro _ ⟨⟩
    exact lt_of_nat64 given

/-- The times of the probing that are read have 64 bits. -/
theorem ReadinessConfig.times_lt {t : Terms} {w : Written} {c : ReadinessConfig}
    (read : shape.over Config.usual.readiness t w = .ok c) : ∀ n ∈ c.times, n < UInt64.size := by
  refine Shape.over_keeps (fun c => ∀ n ∈ c.times, n < UInt64.size) read (fun inner => ?_)
    (by decide)
  simp only [shape, List.forall_mem_cons, List.not_mem_nil, false_implies, implies_true, and_true]
  refine ⟨Field.keeps_of fun w n draft read before => ?_,
    Field.keeps_of fun w n draft read before => ?_,
    Field.keeps_of fun w found draft read before => ?_⟩
  · have := Decoder.lt_of_nat64 read
    simp_all [times]
  · have := Decoder.lt_of_nat64 read
    simp_all [times]
  · have := Decoder.lt_of_optional_nat64 read
    simp_all [times]

theorem TeardownConfig.grace_lt {t : Terms} {w : Written} {c : TeardownConfig}
    (read : shape.over Config.usual.teardown t w = .ok c) : c.grace < UInt64.size := by
  refine Shape.over_keeps (fun c => c.grace < UInt64.size) read (fun inner => ?_) (by decide)
  simp only [shape, List.forall_mem_cons, List.not_mem_nil, false_implies, implies_true, and_true]
  exact Field.keeps_of fun w n draft read _ => Decoder.lt_of_nat64 read

/-- The times in milliseconds that are read have 64 bits. -/
theorem Config.times_lt {text : String} {c : Config} (accepted : ofText text = .ok c) :
    ∀ n ∈ c.times, n < UInt64.size := by
  obtain ⟨table, -, made⟩ := ofText_eq_ok_iff.mp accepted
  refine Shape.over_keeps (fun c => ∀ n ∈ c.times, n < UInt64.size)
    (ofTree_eq_ok_iff.mp made).1 (fun inner => ?_) (by decide)
  have untouched {α : Type} {name : String} {d : Decoder α} {put : α → Config → Config}
      (same : ∀ a c, (put a c).times = c.times) :
      (Field.of name d put).Keeps inner fun c => ∀ n ∈ c.times, n < UInt64.size :=
    Field.keeps_of fun w a draft _ before => (same a draft).symm ▸ before
  simp only [shape, List.forall_mem_cons, List.not_mem_nil, false_implies, implies_true, and_true]
  refine ⟨untouched fun _ _ => rfl, untouched fun _ _ => rfl, untouched fun _ _ => rfl,
    untouched fun _ _ => rfl, ?_, ?_, untouched fun _ _ => rfl, untouched fun _ _ => rfl⟩
  · refine Field.keeps_of fun w readiness draft read before => ?_
    have := ReadinessConfig.times_lt read
    simp_all [times]
  · refine Field.keeps_of fun w teardown draft read before => ?_
    have := TeardownConfig.grace_lt read
    simp_all [times]

namespace Instant

open Orchestrator (millis seconds)

/-- A clock that has run for a second at least, and for 2 ^ 40 seconds at most. -/
def Usual (now : Nat) : Prop := seconds 1 ≤ now ∧ now ≤ seconds (2 ^ 40)

variable {now n : Nat}

/-- At a usual time, milliseconds of 64 bits never lead beyond the clock. -/
theorem after?_millis (h : Usual now) (small : n < UInt64.size) :
    after? now (millis n) = some (now + millis n) := by
  have size : UInt64.size = 2 ^ 64 := rfl
  have last : limit = 2 ^ 63 * 1000000 := rfl
  obtain ⟨-, before⟩ := h
  simp only [seconds, millis] at *
  rw [after?, if_pos (by omega)]

theorem isSome_after?_iff : (after? now n).isSome ↔ now + n < limit := by
  unfold after?
  split_ifs <;> simp_all

theorem usual_first : Usual (seconds 1) := by simp [Usual, seconds]

theorem usual_last : Usual (seconds (2 ^ 40)) := by simp [Usual, seconds]

/-- A number of seconds fits on every usual clock if it does on the one that has run longest. -/
theorem forall_isSome_after?_seconds_iff :
    (∀ now, Usual now → (after? now (seconds n)).isSome) ↔ n < 2 ^ 63 - 2 ^ 40 := by
  have last : limit = 2 ^ 63 * 1000000 := rfl
  simp only [isSome_after?_iff]
  constructor
  · intro h
    have := h _ usual_last
    simp only [seconds] at this
    omega
  · rintro h now ⟨-, before⟩
    simp only [seconds] at *
    omega

/-- A number of seconds fits on no usual clock if it does not on the one that has just begun. -/
theorem forall_after?_seconds_eq_none_iff :
    (∀ now, Usual now → after? now (seconds n) = none) ↔ 2 ^ 63 - 1 ≤ n := by
  have last : limit = 2 ^ 63 * 1000000 := rfl
  simp only [after?_eq_none_iff]
  constructor
  · intro h
    have := h _ usual_first
    simp only [seconds] at this
    omega
  · rintro h now ⟨after, -⟩
    simp only [seconds] at *
    omega

end Instant

namespace Orchestrator

theorem spans_ofConfig (c : Config) (precheck : Bool) :
    (ofConfig c precheck).spans = c.times.map millis := by
  cases h : c.readiness.fixedDelay <;>
    simp [spans, ofConfig, Config.times, ReadinessConfig.times, h]

/-- Of the durations that a run under an accepted configuration adds to the time, all but its time
limit are short enough for every usual clock. A time limit is short enough for all usual clocks if
it is below 2 ^ 63 - 2 ^ 40 seconds, and for none of them from 2 ^ 63 - 1 seconds on. If the clock
is usual all along, it fails to reach far enough for a run only if a time limit is set that was too
long for a time that was shown, and a run ends well only if a time limit that is set was short
enough for one. -/
theorem ofConfig_deadlines {text : String} {c : Config} (accepted : Config.ofText text = .ok c)
    (precheck : Bool) :
    (∀ now, Instant.Usual now → ∀ span ∈ (ofConfig c precheck).spans,
      Instant.after? now span = some (now + span)) ∧
    (∀ limit, c.runTimeout = some limit →
      ((∀ now, Instant.Usual now → (Instant.after? now (seconds limit)).isSome) ↔
        limit < 2 ^ 63 - 2 ^ 40) ∧
      ((∀ now, Instant.Usual now → Instant.after? now (seconds limit) = none) ↔
        2 ^ 63 - 1 ≤ limit)) ∧
    ∀ rounds role rc events outcome,
      Runs ((ofConfig c precheck).run rounds role rc).toProgram events outcome →
      (∀ time, .clock time ∈ events → Instant.Usual time) →
        (outcome = .error .beyondClock → ∃ limit ∈ c.runTimeout, ∃ time, .clock time ∈ events ∧
          Instant.after? time (seconds limit) = none) ∧
        ∀ report, outcome = .ok report → ∀ limit ∈ c.runTimeout, ∃ time, .clock time ∈ events ∧
          (Instant.after? time (seconds limit)).isSome := by
  have fits : ∀ now, Instant.Usual now → ∀ span ∈ (ofConfig c precheck).spans,
      Instant.after? now span = some (now + span) := by
    intro now usual span among
    rw [spans_ofConfig] at among
    obtain ⟨n, given, rfl⟩ := List.mem_map.mp among
    exact Instant.after?_millis usual (Config.times_lt accepted n given)
  refine ⟨fits, fun limit _ => ⟨Instant.forall_isSome_after?_seconds_iff,
    Instant.forall_after?_seconds_eq_none_iff⟩, fun rounds role rc events outcome ran usual => ?_⟩
  have timely : (ofConfig c precheck).RunTimely (.clock · ∈ events) outcome :=
    timely_run _ rounds role rc events outcome ran fun _ read => read
  have limits : (ofConfig c precheck).limit = c.runTimeout.map seconds := rfl
  constructor
  · rintro rfl
    obtain ⟨span, among, time, read, late⟩ := timely rfl
    rcases List.mem_append.mp among with among | among
    · -- Only the time limit can be too long.
      have := fits time (usual time read) span among
      rw [Instant.after?_eq_none_iff.mpr late] at this
      cases this
    · rw [limits] at among
      obtain ⟨limit, given, rfl⟩ := by simpa using among
      exact ⟨limit, given, time, read, Instant.after?_eq_none_iff.mpr late⟩
  · rintro report rfl limit given
    obtain ⟨time, read, fits⟩ := timely (seconds limit) (by simp [limits, Option.mem_def.mp given])
    exact ⟨time, read, Instant.isSome_after?_iff.mpr fits⟩

def longestText : String := "run_timeout_secs = 9223372036854775807\n"

def longest : Config := { Config.usual with runTimeout := some 9223372036854775807 }

theorem ofText_longest : Config.ofText longestText = .ok longest := by
  have read : Toml.read longestText =
      .ok (.table [("run_timeout_secs", .number (.integer 9223372036854775807))]) := by cbv
  exact Config.ofText_eq_ok_iff.mpr ⟨_, read, rfl⟩

def longestRun : Program (Except Failure RunReport) :=
  ((ofConfig longest false).run 2 .client (.usual .client)).toProgram

def longestRest : Program (Except Failure RunReport) :=
  Child.during 2 (harnessLabel .server)
    ((ofConfig longest false).harnessLaunch .server "./autobahn/fuzzingserver.json") usual.grace
    ((ofConfig longest false).runListener 2 .client (.usual .client) sampleSpec "127.0.0.1:9001"
      1000000)

/-- A host on which the harness is ready at once, and nothing ends. -/
abbrev longestHost : Host Nat := endsHost fun _ => none

/-- One second after the clock has begun the harness is ready and the subject is started, but there
is no deadline to supervise them by. -/
theorem plays_longest : ∃ events, Plays longestHost longestRun 1000000 events (.error .beyondClock)
    (1000000 : Nat) := by
  have clock : Plays longestHost (Action.lift .now).toProgram 1000000 [.clock 1000000]
      (.ok (1000000 : Nat)) (1000000 : Nat) := ⟨rfl, rfl⟩
  have loaded : Plays longestHost (Spec.load .server (usual.specPath (.usual .client))).toProgram
      1000000 [.fileRead (usual.specPath (.usual .client)) sampleText] (.ok sampleSpec)
      (1000000 : Nat) := by
    have loaded := @Spec.run_load_of_read _ longestHost 1000000 .server
      (usual.specPath (.usual .client)) sampleText rfl
    rw [ofText_sample] at loaded
    exact ⟨loaded, rfl⟩
  have address : Plays longestHost (Action.ofFlaw sampleSpec.listenAddress).toProgram 1000000 []
      (.ok "127.0.0.1:9001") (1000000 : Nat) := by
    have found : Spec.socketAddress "ws://127.0.0.1:9001" = .ok "127.0.0.1:9001" := by cbv
    exact ⟨by simp [sampleSpec, Spec.listenAddress, found, Action.ofFlaw], rfl⟩
  have rest : Plays longestHost longestRest 1000000 _ (.error .beyondClock) (1000000 : Nat) :=
    ⟨rfl, rfl⟩
  exact ⟨_, Action.plays_bind clock (Action.plays_bind loaded (Action.plays_bind address rest))⟩

/-- The longest time limit that can be written: the run fails beyond the clock. -/
theorem ofConfig_deadlines_longest : Config.ofText longestText = .ok longest ∧
    Instant.after? 1000000 (millis 2000) = some 3000000 ∧
    (∀ now, Instant.Usual now → Instant.after? now (seconds 9223372036854775807) = none) ∧
    ∃ events, Runs longestRun events (.error .beyondClock) ∧
      ∃ time, .clock time ∈ events ∧ Instant.after? time (seconds 9223372036854775807) = none := by
  obtain ⟨fits, limits, runs⟩ := ofConfig_deadlines ofText_longest false
  obtain ⟨events, played⟩ := plays_longest
  have usual : ∀ time, .clock time ∈ events → Instant.Usual time := by
    intro time read
    obtain ⟨after, before⟩ := (Host.timed_byTime _).plays_clock played read
    obtain rfl : 1000000 = time := Nat.le_antisymm after before
    exact Instant.usual_first
  refine ⟨ofText_longest, fits 1000000 Instant.usual_first (millis 2000) (by decide),
    (limits _ rfl).2.mpr (by decide), events, played.runs, ?_⟩
  obtain ⟨limit, given, time, read, refused⟩ := (runs 2 .client _ events _ played.runs usual).1 rfl
  obtain rfl : 9223372036854775807 = limit := Option.some.inj given
  exact ⟨time, read, refused⟩

/-- The longest time limit is accepted and leads beyond a clock that has just begun: a run by it
comes to nothing on a host that grants everything. -/
theorem run_longest : Config.ofText longestText = .ok longest ∧ Instant.Usual (seconds 1) ∧
    (ofConfig longest false).limit = some (seconds 9223372036854775807) ∧
    Instant.after? (seconds 1) (seconds 9223372036854775807) = none ∧
    (longestRun.run longestHost (seconds 1)).1 = some (.error .beyondClock) := by
  obtain ⟨events, played⟩ := plays_longest
  exact ⟨ofText_longest, Instant.usual_first, rfl, by decide, congrArg Prod.fst played.run⟩

end Orchestrator
end ConformanceGate
