import ConformanceGate.Proofs.System.Outcomes
import ConformanceGate.Run.Orchestrator

/-!
# Failures of a run

A run starts, watches and stops processes, and compares nothing. However its spec, its processes,
the network and the clock behave, it does not end with a regression (`Orchestrator.fails_run`).
Phases that add nothing to the time do not fail for the clock either (`Mild`).
-/

namespace ConformanceGate

open Program

/-- A failure, if it is one, is no regression. -/
def StopsShort {α : Type} (outcome : Except Failure α) : Prop :=
  ∀ failure, outcome = .error failure → failure.isRegression = false

@[simp] theorem stopsShort_ok {α : Type} (a : α) : StopsShort (.ok a) := nofun

@[simp] theorem stopsShort_error_iff {α : Type} {failure : Failure} :
    StopsShort (.error failure : Except Failure α) ↔ failure.isRegression = false := by
  constructor
  · intro h
    exact h failure rfl
  · rintro h _ ⟨⟩
    exact h

/-- A failure, if it is one, is neither a regression nor that the clock does not reach far enough. -/
def Mild {α : Type} (outcome : Except Failure α) : Prop :=
  ∀ failure, outcome = .error failure → failure.isRegression = false ∧ failure ≠ .beyondClock

@[simp] theorem mild_ok {α : Type} (a : α) : Mild (.ok a) := nofun

@[simp] theorem mild_error_iff {α : Type} {failure : Failure} :
    Mild (.error failure : Except Failure α) ↔
      failure.isRegression = false ∧ failure ≠ .beyondClock := by
  simp [Mild]

theorem Mild.stopsShort {α : Type} {outcome : Except Failure α} (h : Mild outcome) :
    StopsShort outcome :=
  fun failure failed => (h failure failed).1

namespace Child

theorem mild_spawn (label : String) (launch : Launch) (grace : Nat) :
    (spawn label launch grace).Ends Mild := by
  intro reply
  rcases reply with e | process <;> simp [Ends, Failure.isRegression]

theorem mild_observe (c : Child) : c.observe.Ends fun found => Mild found.1 := by
  refine Ends.after c.poll fun ⟨found, c⟩ => ?_
  rcases found with e | status <;> simp [Ends, Failure.isRegression]

theorem stops_during {α : Type} (rounds : Nat) (label : String) (launch : Launch) (grace : Nat)
    {body : Child → Program (Except Failure α × Child)}
    (h : ∀ c, (body c).Ends fun ended => StopsShort ended.1) :
    (during rounds label launch grace body).Ends StopsShort := by
  refine (mild_spawn label launch grace).bind fun started mild => ?_
  cases started with
  | error failure => simpa [Ends] using mild.stopsShort
  | ok c =>
    refine (h c).bind fun ended short => ?_
    exact Ends.after (ended.2.terminate rounds) fun _ => short

end Child

namespace Endpoint

theorem mild_resolve (address : String) : (resolve address).Ends Mild := by
  unfold resolve
  split
  · simp [Ends]
  · split
    · simp [Ends, Failure.isRegression]
    · split
      · simp [Ends, Failure.isRegression]
      · split
        · simp [Ends, Failure.isRegression]
        · intro reply
          rcases reply with reason | _ | ⟨host, hosts⟩ <;> simp [Ends, Failure.isRegression]

theorem mild_bindAll (endpoints : List String) : (bindAll endpoints).Ends Mild := by
  induction endpoints with
  | nil => simp [bindAll, Ends]
  | cons endpoint rest ih =>
    intro reply
    cases reply with
    | error e => simp [Ends, Failure.isRegression]
    | ok => exact ih

theorem mild_ensureFree (address : String) : (ensureFree address).toProgram.Ends Mild :=
  Action.fails_bind (mild_resolve address) mild_bindAll

end Endpoint

namespace Readiness

theorem mild_ensureAlive (c : Child) : (ensureAlive c).Ends fun found => Mild found.1 := by
  refine c.mild_observe.bind fun found mild => ?_
  rcases found with ⟨failure | _ | status, c⟩
  · simpa [Ends] using mild
  · simp [Ends]
  · simp [Ends, Failure.isRegression]

theorem mild_check (c : Child) : (check c).Ends fun found => Mild found.1 := by
  refine Ends.after interrupted fun raised => ?_
  cases raised with
  | false => exact mild_ensureAlive c
  | true => simp [Ends, Failure.isRegression]

theorem mild_attempt (address : String) (deadline : Nat) :
    (attempt address deadline).Ends Mild := by
  refine Ends.after now fun time => ?_
  refine (Endpoint.mild_resolve address).bind fun found mild => ?_
  cases found with
  | error failure => simpa [Ends] using mild
  | ok endpoints => exact Ends.after _ fun _ => mild_ok _

theorem stops_tryUntil (address : String) (interval started deadline rounds : Nat) (c : Child) :
    (tryUntil address interval started deadline rounds c).Ends fun ended => StopsShort ended.1 := by
  induction rounds generalizing c with
  | zero => trivial
  | succ rounds ih =>
    refine (mild_check c).bind fun found mild => ?_
    rcases found with ⟨failure | ⟨⟩, c⟩
    · simpa [Ends] using mild.stopsShort
    refine (mild_attempt address deadline).bind fun found mild => ?_
    rcases found with failure | _ | _
    · simpa [Ends] using mild.stopsShort
    · -- The attempt failed: there may be no next one.
      refine Ends.after now fun time => ?_
      split
      · simp [Ends, Failure.isRegression]
      · split_ifs
        · exact Ends.after (elapsed started) fun _ => by simp [Ends, Failure.isRegression]
        · exact fun _ => ih c
    · exact fun _ => stopsShort_ok _

theorem mild_waitUntil (started deadline rounds : Nat) (c : Child) :
    (waitUntil started deadline rounds c).Ends fun ended => Mild ended.1 := by
  induction rounds generalizing c with
  | zero => trivial
  | succ rounds ih =>
    refine Ends.after now fun time => ?_
    split_ifs
    · refine (mild_check c).bind fun found mild => ?_
      rcases found with ⟨failure | ⟨⟩, c⟩
      · simpa [Ends] using mild
      · exact fun _ _ => ih c
    · refine (mild_ensureAlive c).bind fun found mild => ?_
      rcases found with ⟨failure | ⟨⟩, c⟩
      · simpa [Ends] using mild
      · exact fun _ => mild_ok _

/-- Waiting for readiness never fails with a regression. -/
theorem stops_wait (r : Readiness) (rounds : Nat) (c : Child) :
    (r.wait rounds c).Ends fun ended => StopsShort ended.1 := by
  refine Ends.after now fun started => ?_
  cases r with
  | accepting address timeout interval =>
    dsimp only
    split
    · simp [Ends, Failure.isRegression]
    · exact stops_tryUntil address interval started _ rounds c
  | fixed delay =>
    dsimp only
    split
    · simp [Ends, Failure.isRegression]
    · exact (mild_waitUntil started _ rounds c).mono fun _ mild => mild.stopsShort

end Readiness

namespace Supervision

/-- Watching adds nothing to the time. -/
theorem mild_watch (deadline : Option Nat) (rounds : Nat) (primary companion : Child) :
    (watch deadline rounds primary companion).Ends fun ended => Mild ended.1 := by
  induction rounds generalizing primary companion with
  | zero => trivial
  | succ rounds ih =>
    refine primary.mild_observe.bind fun found mild => ?_
    rcases found with ⟨failure | _ | status, primary⟩
    · simpa [Ends] using mild
    · refine companion.mild_observe.bind fun found mild => ?_
      rcases found with ⟨failure | _ | status, companion⟩
      · simpa [Ends] using mild
      · refine Ends.after interrupted fun raised => ?_
        cases raised with
        | true => simp [Ends, Failure.isRegression]
        | false =>
          refine Ends.after (isOver deadline) fun passed => ?_
          cases passed with
          | true => simp [Ends, Failure.isRegression]
          | false => exact fun _ => ih primary companion
      · simp [Ends, Failure.isRegression]
    · simp [Ends]

/-- Supervision never fails with a regression. -/
theorem stops_supervise (limit : Option Nat) (rounds : Nat) (primary companion : Child) :
    (supervise limit rounds primary companion).Ends fun ended => StopsShort ended.1 := by
  have watching (deadline : Option Nat) :=
    (mild_watch deadline rounds primary companion).mono fun _ mild => mild.stopsShort
  cases limit with
  | none => exact watching none
  | some limit =>
    refine Ends.after now fun time => ?_
    split
    · simp [Ends, Failure.isRegression]
    · exact watching _

end Supervision

namespace Orchestrator

variable {o : Orchestrator} {role : Role} {rc : RoleConfig}

theorem mild_finish (role : Role) (spec : Spec) (started readyAfter : Nat) :
    (o.finish role spec started readyAfter).Ends Mild := by
  refine Ends.after (isFile _) fun there => ?_
  cases there with
  | true => exact fun _ => mild_ok _
  | false => simp [Ends, Failure.isRegression]

theorem stops_runBoth (rounds : Nat) (role : Role) (spec : Spec) (started readyAfter : Nat)
    (listener connector : Child) :
    (o.runBoth rounds role spec started readyAfter listener connector).Ends
      fun ended => StopsShort ended.1.1 := by
  refine (Supervision.stops_supervise o.limit rounds connector listener).bind fun found short => ?_
  rcases found with ⟨failure | status, connector, listener⟩
  · simpa [Ends] using short
  · dsimp only
    split_ifs
    · refine Ends.after _ fun listener => ?_
      exact (mild_finish role spec started readyAfter).bind fun outcome mild => mild.stopsShort
    · simp [Ends, Failure.isRegression]

theorem mild_subjectLaunch (rc : RoleConfig) : Mild (o.subjectLaunch rc) := by
  unfold subjectLaunch
  cases Launch.ofCommand rc.subject (some o.workingDir) <;> simp [Failure.isRegression]

theorem mild_connecting (role : Role) (rc : RoleConfig) (spec : String) :
    Mild (o.connecting role rc spec) := by
  have subject := o.mild_subjectLaunch rc
  cases role with
  | server => exact mild_ok _
  | client =>
    unfold connecting
    cases h : o.subjectLaunch rc <;> simp_all [Except.map]

theorem mild_listening (role : Role) (rc : RoleConfig) (spec : String) :
    Mild (o.listening role rc spec) := by
  have subject := o.mild_subjectLaunch rc
  cases role with
  | server =>
    unfold listening
    cases h : o.subjectLaunch rc <;> simp_all [Except.map]
  | client => exact mild_ok _

theorem stops_runListener (rounds : Nat) (role : Role) (rc : RoleConfig) (spec : Spec)
    (address : String) (started : Nat) (listener : Child) :
    (o.runListener rounds role rc spec address started listener).Ends
      fun ended => StopsShort ended.1 := by
  refine (Readiness.stops_wait _ rounds listener).bind fun ready short => ?_
  rcases ready with ⟨failure | readyAfter, listener⟩
  · simpa [Ends] using short
  · dsimp only
    have connects := o.mild_connecting role rc (o.specPath rc)
    split
    · rename_i failure refused
      rw [refused] at connects
      simpa [Ends] using connects.stopsShort
    · refine (Child.mild_spawn _ _ _).bind fun started mild => ?_
      cases started with
      | error failure => simpa [Ends] using mild.stopsShort
      | ok connector =>
        refine (stops_runBoth rounds role spec _ readyAfter listener connector).bind ?_
        intro ended short
        exact Ends.after _ fun _ => short

/-- Whatever keeps a run from its results is no regression. -/
theorem fails_run (o : Orchestrator) (rounds : Nat) (role : Role) (rc : RoleConfig) :
    (o.run rounds role rc).Fails fun failure => failure.isRegression = false := by
  refine Action.fails_bind (Action.fails_lift _) fun started => ?_
  have loading : (Spec.load role.mode (o.specPath rc)).Fails
      fun failure => failure.isRegression = false :=
    Action.fails_bind (Action.fails_attempt fun _ => rfl) fun _ => Action.fails_ofFlaw fun _ => rfl
  refine Action.fails_bind loading fun spec => ?_
  refine Action.fails_bind (Action.fails_ofFlaw fun _ => rfl) fun address => ?_
  have starting : (Action.ofExcept (o.listening role rc (o.specPath rc)) >>= fun side =>
      Action.ofProgram (Child.during rounds side.1 side.2 o.grace
        (o.runListener rounds role rc spec address started))).Fails
          fun failure => failure.isRegression = false :=
    Action.fails_bind (Action.fails_ofExcept (o.mild_listening role rc _).stopsShort) fun side =>
      Child.stops_during rounds side.1 side.2 o.grace
        (stops_runListener rounds role rc spec address started)
  split_ifs
  · have checking := (Endpoint.mild_ensureFree address).mono fun _ mild => mild.stopsShort
    exact Action.fails_bind checking fun _ => starting
  · exact starting

end Orchestrator
end ConformanceGate
