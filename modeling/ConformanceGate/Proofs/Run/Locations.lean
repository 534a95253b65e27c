import ConformanceGate.Proofs.Path.Locations
import ConformanceGate.Proofs.Run.Requests

/-!
# Where the harness finds its files

The harness is started in the working directory and resolves paths from there. It writes its results
where the run looks for them. It is told the spec by the path that the run itself has used, which
leads to the same place only if the path does not depend on the working directory, or the working
directory leads nowhere else.
-/

namespace ConformanceGate

open Program

/-- The directory that a process is started in, seen from that of the one who starts it. -/
def Launch.start (cwd : List String) (l : Launch) : List String :=
  match l.directory with
  | some path => Path.location cwd path
  | none => cwd

namespace Path

/-- From the base itself, a joined path leads to the same place only if the base counts for nothing
in it the second time. -/
theorem location_join_again_iff (cwd : List String) (base p : String) :
    location (location cwd base) (join base p) = location cwd (join base p) ↔
      isAbsolute p ∨ isAbsolute base ∨ steps base = [] := by
  rw [location_join, location_join]
  cases absolute : isAbsolute p with
  | true => simp [location_eq, absolute]
  | false =>
    cases rooted : isAbsolute base with
    | true => simp [location_eq, rooted]
    | false => simp [location_eq, absolute, rooted]

end Path

namespace Orchestrator

/-- The spec that the harness is told leads it to where the run has loaded it from if and only if
the path of the spec or the working directory is absolute, or the working directory has no steps.
The results are always looked for where the harness writes them. A run reads no other file, starts
no other harness, and reports the results of the spec that it has read. -/
theorem harness_locations (o : Orchestrator) (role : Role) (rc : RoleConfig) (cwd : List String) :
    let launch := o.harnessLaunch role.mode (o.specPath rc)
    (∃ front file, launch.args = front ++ ["-s", file] ∧
      (Path.location (launch.start cwd) file = Path.location cwd (o.specPath rc) ↔
        Path.isAbsolute rc.spec ∨ Path.isAbsolute o.workingDir ∨
          Path.steps o.workingDir = [])) ∧
    (∀ spec : Spec, Path.location (launch.start cwd) (Path.join spec.outdir "index.json") =
      Path.location cwd (spec.resultsIndex o.workingDir)) ∧
    ∀ rounds events outcome, Runs (o.run rounds role rc).toProgram events outcome →
      (∀ path reply, ⟨.readFile path, reply⟩ ∈ events → path = o.specPath rc) ∧
      (∀ l reply, ⟨.spawn l, reply⟩ ∈ events → l = launch ∨ o.subjectLaunch rc = .ok l) ∧
      ∀ report, outcome = .ok report → ∃ text spec, .fileRead (o.specPath rc) text ∈ events ∧
        Spec.ofText role.mode (o.specPath rc) text = .ok spec ∧
        report.results = spec.resultsIndex o.workingDir := by
  refine ⟨⟨o.harness.args ++ ["-m", role.mode.name], o.specPath rc, ?_, ?_⟩, fun spec => ?_,
    fun rounds events outcome h => ⟨?_, ?_, ?_⟩⟩
  · simp [harnessLaunch]
  · exact Path.location_join_again_iff cwd o.workingDir rc.spec
  · rw [Spec.resultsIndex, Path.location_join, Path.location_join, Path.location_join]
    rfl
  · intro path reply hmem
    exact h.all_of_asks (asks_run o rounds role rc) _ hmem
  · intro l reply hmem
    obtain ⟨side, launched⟩ := h.all_of_asks (asks_run o rounds role rc) _ hmem
    cases side with
    | harness => exact .inl (Except.ok.inj launched).symm
    | subject => exact .inr launched
  · rintro report rfl
    obtain ⟨text, spec, read, found, results, -⟩ := run_ok h
    exact ⟨text, spec, read, found, results⟩

/-- In a relative working directory the harness looks for its spec below itself once more. -/
theorem harness_locations_nested :
    let o := { sample with workingDir := "sub" }
    let launch := o.harnessLaunch .server (o.specPath (.usual .client))
    launch.args = ["-m", "fuzzingserver", "-s", "sub/autobahn/fuzzingserver.json"] ∧
    Path.location (launch.start ["home"]) "sub/autobahn/fuzzingserver.json" =
      ["home", "sub", "sub", "autobahn", "fuzzingserver.json"] ∧
    Path.location ["home"] (o.specPath (.usual .client)) =
      ["home", "sub", "autobahn", "fuzzingserver.json"] ∧
    Path.location (launch.start ["home"]) "sub/autobahn/fuzzingserver.json" ≠
      Path.location ["home"] (o.specPath (.usual .client)) := by
  refine ⟨?_, ?_, ?_, ?_⟩ <;> decide

theorem harness_locations_sample :
    Runs (sample.run 2 .client (.usual .client)).toProgram sampleEvents (.ok sampleReport) ∧
      Path.location ((sample.harnessLaunch .server (sample.specPath (.usual .client))).start
        ["home"]) (Path.join "reports" "index.json") = Path.location ["home"] sampleReport.results ∧
      ∃ text spec, .fileRead (sample.specPath (.usual .client)) text ∈ sampleEvents ∧
        Spec.ofText .server (sample.specPath (.usual .client)) text = .ok spec ∧
        sampleReport.results = spec.resultsIndex "." := by
  obtain ⟨-, results, runs⟩ := harness_locations sample .client (.usual .client) ["home"]
  exact ⟨runs_sample, results sampleSpec, (runs 2 sampleEvents _ runs_sample).2.2 _ rfl⟩

end Orchestrator
end ConformanceGate
