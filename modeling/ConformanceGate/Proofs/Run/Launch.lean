import ConformanceGate.Proofs.Run.Orchestrator

/-!
# When processes are started

A run starts the listening side once it is prepared, and the connecting side once the listening one
is shown to be ready. Nothing else is started, and nothing twice (`Orchestrator.Launched`). A run
ends well only if the connecting side was seen to end with success and the results file was there.
-/

namespace ConformanceGate

open Program

/-- The two sides of a run. -/
inductive Side
  | subject
  | harness

def Role.listens : Role → Side
  | .server => .subject
  | .client => .harness

def Role.connects : Role → Side
  | .server => .harness
  | .client => .subject

namespace Orchestrator

variable {o : Orchestrator} {rounds : Nat} {role : Role} {rc : RoleConfig} {events : List Event}
  {outcome : Except Failure RunReport}

def launchOf (o : Orchestrator) (role : Role) (rc : RoleConfig) : Side → Except Failure Launch
  | .subject => o.subjectLaunch rc
  | .harness => .ok (o.harnessLaunch role.mode (o.specPath rc))

/-- What has happened when a run has ended well: the connecting side was started and seen to end
with success, and the results file was there. -/
structure Succeeded (o : Orchestrator) (spec : Spec) (report : RunReport)
    (reply : Except SystemError Nat) (events : List Event) : Prop where
  ended : ∃ process status, reply = .ok process ∧ Observed process status events ∧ status.success
  results : report.results = spec.resultsIndex o.workingDir
  written : .fileFound report.results true ∈ events

/-- How a run starts processes, and what comes of it. -/
inductive Launched (o : Orchestrator) (role : Role) (rc : RoleConfig) :
    List Event → Except Failure RunReport → Prop
  /-- Nothing is started. -/
  | nothing {events : List Event} {failure : Failure} : Spawnless events →
      Launched o role rc events (.error failure)
  /-- Only the listening side is started, or tried to. -/
  | listening {before after : List Event} {spec : Spec} {address : String} {launch : Launch}
      {reply : Except SystemError Nat} {failure : Failure} :
      Spawnless before → Spawnless after →
      o.Prepared role rc spec address before → o.launchOf role rc role.listens = .ok launch →
      Launched o role rc (before ++ ⟨.spawn launch, reply⟩ :: after) (.error failure)
  /-- The connecting side is started after the listening one, or tried to. -/
  | both {before between after : List Event} {spec : Spec} {address : String}
      {listen connect : Launch} {process : Nat} {reply : Except SystemError Nat}
      {outcome : Except Failure RunReport} :
      Spawnless before → Spawnless between → Spawnless after →
      o.Prepared role rc spec address before → o.launchOf role rc role.listens = .ok listen →
      (o.readiness address).Shown process between → Undisturbed process between →
      o.launchOf role rc role.connects = .ok connect →
      (∀ report, outcome = .ok report → o.Succeeded spec report reply after) →
      Launched o role rc
        (before ++ .spawned listen process :: between ++ ⟨.spawn connect, reply⟩ :: after) outcome

theorem launchOf_listens {label : String} {launch : Launch}
    (h : o.listening role rc (o.specPath rc) = .ok (label, launch)) :
    o.launchOf role rc role.listens = .ok launch := by
  cases role with
  | server =>
    obtain ⟨launch, hlaunch, heq⟩ := Except.map_eq_ok.mp h
    cases heq
    exact hlaunch
  | client =>
    cases h
    rfl

theorem launchOf_connects {label : String} {launch : Launch}
    (h : o.connecting role rc (o.specPath rc) = .ok (label, launch)) :
    o.launchOf role rc role.connects = .ok launch := by
  cases role with
  | server =>
    cases h
    rfl
  | client =>
    obtain ⟨launch, hlaunch, heq⟩ := Except.map_eq_ok.mp h
    cases heq
    exact hlaunch

/-- Every run starts processes as described, whatever the system does. -/
theorem run_launched (o : Orchestrator) (rounds : Nat) (role : Role) (rc : RoleConfig)
    (h : Runs (o.run rounds role rc).toProgram events outcome) :
    o.Launched role rc events outcome := by
  obtain ⟨silent, failure, rfl⟩ | ⟨before, rest, spec, address, label, launch, started, rfl, silent,
    prepared, hlisten, hduring⟩ := run_cases h
  · exact .nothing silent
  have listens := launchOf_listens hlisten
  obtain ⟨e, failure, rfl, rfl⟩ | ⟨process, front, back, c, c', rfl, hbody, hstop⟩ :=
    during_cases hduring
  · exact .listening silent (by simp [Spawnless]) prepared listens
  have stopless : Spawnless back := hstop.all_of_asks (Child.asks_terminate rounds)
  obtain ⟨waitless, -, failure, rfl⟩ |
    ⟨waited, rest, label, connect, rfl, waitless, shown, hconnect, hrest⟩ := runListener_cases hbody
  · exact .listening silent (spawnless_append.mpr ⟨waitless, stopless⟩) prepared listens
  have connects := launchOf_connects hconnect
  obtain ⟨e, failure, rfl, rfl, -⟩ |
    ⟨process', during, after, connector, connector', readyAfter, rfl, hboth, hend⟩ := hrest
  · have launched : o.Launched role rc (before ++ .spawned launch process :: waited ++
        .refused connect e :: back) (.error failure) :=
      .both silent waitless stopless prepared listens shown shown.undisturbed connects
        (by simp)
    simpa using launched
  · obtain ⟨-, tracks, ended⟩ := runBoth_spec hboth
    have rests : Spawnless (during ++ after ++ back) := spawnless_append.mpr ⟨spawnless_append.mpr
      ⟨hboth.all_of_asks (asks_runBoth rounds role spec started readyAfter _ _),
        hend.all_of_asks (Child.asks_terminate rounds)⟩, stopless⟩
    have succeeds : ∀ report, outcome = .ok report →
        o.Succeeded spec report (.ok process') (during ++ after ++ back) := by
      intro report hreport
      obtain ⟨⟨status, hexit, hsuccess⟩, hresults, hwritten⟩ := ended report hreport
      have seen := (tracks.found status hexit).resolve_left (by simp)
      exact ⟨⟨process', status, rfl, by simpa using seen.append [] (after ++ back), hsuccess⟩,
        hresults, by simp [hwritten]⟩
    have launched : o.Launched role rc (before ++ .spawned launch process :: waited ++
        .spawned connect process' :: (during ++ after ++ back)) outcome :=
      .both silent waitless rests prepared listens shown shown.undisturbed connects succeeds
    simpa using launched

/-- The sample starts both sides and ends well. -/
theorem run_launched_sample :
    Runs (sample.run 2 .client (.usual .client)).toProgram sampleEvents (.ok sampleReport) ∧
      sample.Launched .client (.usual .client) sampleEvents (.ok sampleReport) :=
  ⟨runs_sample, run_launched sample 2 .client (.usual .client) runs_sample⟩

end Orchestrator
end ConformanceGate
