import ConformanceGate.Proofs.Run.Orchestrator

/-!
# No process is left behind

Whatever the system does, every process that a run has started is torn down before the run ends:
its exit status was seen, and its group was stopped. The only assumption is that waiting for a
process tells how it ended.
-/

namespace ConformanceGate

open Program

/-- Every process that was started was torn down since. -/
def Secured (grace : Nat) (events : List Event) : Prop :=
  ∀ before launch process after, events = before ++ .spawned launch process :: after →
    TornDown process grace after

variable {grace : Nat} {events : List Event}

/-- Where nothing is started, there is nothing to tear down. -/
theorem secured_of_spawnless (h : Spawnless events) : Secured grace events := by
  rintro before launch process after rfl
  exact (h (.spawned launch process) (by simp)).elim

/-- After a process was started it has to be torn down, as every later one. -/
theorem secured_spawned {launch : Launch} {process : Nat} (torn : TornDown process grace events)
    (h : Secured grace events) : Secured grace (.spawned launch process :: events) := by
  intro before launch' process' after heq
  cases before with
  | nil =>
    cases heq
    exact torn
  | cons e before =>
    obtain ⟨-, rfl⟩ := List.cons.inj heq
    exact h before launch' process' after rfl

theorem secured_refused {launch : Launch} {e : SystemError} :
    Secured grace [.refused launch e] := by
  intro before launch' process after heq
  cases before with
  | nil => cases heq
  | cons e' before => simp at heq

theorem Secured.append {front back : List Event} (h : Secured grace front)
    (h' : Secured grace back) : Secured grace (front ++ back) := by
  intro before launch process after heq
  -- The start is in the back part, or in the front part with all of the back part after it.
  rcases List.append_eq_append_iff.mp heq with ⟨middle, rfl, hback⟩ | ⟨middle, hfront, hafter⟩
  · exact h' middle launch process after hback
  · cases middle with
    | nil => exact h' [] launch process after hafter.symm
    | cons e middle =>
      obtain ⟨rfl, rfl⟩ := List.cons.inj hafter
      simpa using (h before launch process middle hfront).append [] back

namespace Orchestrator

variable {o : Orchestrator} {rounds : Nat} {role : Role} {rc : RoleConfig}

/-- While the listening side is up it is kept track of, and the connecting side, if started, is torn
down. -/
theorem runListener_secured {spec : Spec} {address : String} {started : Nat}
    {listener listener' : Child} {outcome : Except Failure RunReport}
    (h : Runs (o.runListener rounds role rc spec address started listener) events
      (outcome, listener')) (reliable : Reliable events) :
    listener.Continues events listener' ∧ Secured o.grace events := by
  obtain ⟨silent, tracks, -⟩ | ⟨waited, rest, label, launch, rfl, silent, -, -, hrest⟩ :=
    runListener_cases h
  · exact ⟨tracks.continues, secured_of_spawnless silent⟩
  have waiting := (Child.Tracks.refl listener waited).continues
  obtain ⟨e, failure, rfl, -, rfl⟩ |
    ⟨process, front, back, connector, connector', _, rfl, hboth, hstop⟩ := hrest
  · exact ⟨(Child.Tracks.refl _ _).continues,
      (secured_of_spawnless silent).append secured_refused⟩
  · obtain ⟨continues, tracks, -⟩ := runBoth_spec hboth
    have stopping := (Child.Tracks.refl listener' back).continues
    have starting := (Child.Tracks.refl listener [.spawned launch process]).continues
    have silent' : Spawnless (front ++ back) := spawnless_append.mpr
      ⟨hboth.all_of_asks (asks_runBoth rounds role spec started _ listener _),
        hstop.all_of_asks (Child.asks_terminate rounds)⟩
    have torn : TornDown process o.grace (front ++ back) :=
      tracks.continues.tornDown hstop (reliable.mono fun e he => by simp_all)
    refine ⟨?_, (secured_of_spawnless silent).append
      (secured_spawned torn (secured_of_spawnless silent'))⟩
    simpa using ((waiting.trans starting).trans continues).trans stopping

/-- When a run ends, every process that it started was torn down: its exit status was seen, and its
group was found to be empty or out of reach, or was killed after it had been there for all of the
grace period. -/
theorem run_tornDown (o : Orchestrator) (rounds : Nat) (role : Role) (rc : RoleConfig)
    {outcome : Except Failure RunReport} (h : Runs (o.run rounds role rc).toProgram events outcome)
    (reliable : ∀ process, .waited process none ∉ events) :
    ∀ before launch process after, events = before ++ .spawned launch process :: after →
      TornDown process o.grace after := by
  obtain ⟨silent, -⟩ | ⟨before, rest, spec, address, label, launch, started, rfl, silent, -, -,
    hduring⟩ := run_cases h
  · exact secured_of_spawnless silent
  refine (secured_of_spawnless silent).append ?_
  obtain ⟨e, failure, rfl, -⟩ | ⟨process, front, back, c, c', rfl, hbody, hstop⟩ :=
    during_cases hduring
  · exact secured_refused
  · have reliable' : Reliable (front ++ back) := fun process hmem =>
      reliable process (by simp_all)
    obtain ⟨continues, secured⟩ :=
      runListener_secured hbody (reliable'.mono (List.subset_append_left front back))
    have silent' : Spawnless back := hstop.all_of_asks (Child.asks_terminate rounds)
    exact secured_spawned (continues.tornDown hstop reliable')
      (secured.append (secured_of_spawnless silent'))

/-- The process that the sample starts first is torn down. -/
theorem run_tornDown_killed :
    ∃ before launch after,
      Runs (sample.run 2 .client (.usual .client)).toProgram
        (before ++ .spawned launch 7 :: after) (.ok sampleReport) ∧
      (∀ process, .waited process none ∉ before ++ .spawned launch 7 :: after) ∧
      TornDown 7 sample.grace after := by
  have reliable : ∀ process, .waited process none ∉ sampleEvents := by
    intro process hmem
    have others : ∀ e ∈ sampleEvents, e ≠ .waited process none := by
      repeat refine List.forall_mem_cons.mpr ⟨nofun, ?_⟩
      exact nofun
    exact others _ hmem rfl
  exact ⟨[_, _], _, _, runs_sample, reliable,
    run_tornDown sample 2 .client (.usual .client) runs_sample reliable [_, _] _ 7 _ rfl⟩

end Orchestrator
end ConformanceGate
