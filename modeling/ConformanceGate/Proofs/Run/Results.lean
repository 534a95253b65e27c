import ConformanceGate.Proofs.Run.Requests
import ConformanceGate.Proofs.Storage.Specs
import ConformanceGate.Proofs.System.Clock

/-!
# The results of a run

A run does not write the results itself, and looks for them once, after the connecting side has
ended with success: it ends well if and only if a file is there at that time. Whether the file was
written during the run does not show.
-/

namespace ConformanceGate

open Program

namespace Orchestrator

/-- A run writes no file. It ends as the results are found when they are looked for, and ends well
only if they were found; if they were not there when the run began, they have come to be while a
request of the run was answered. -/
theorem run_results {σ : Type} (host : Host σ) {o : Orchestrator} {rounds : Nat} {role : Role}
    {rc : RoleConfig} {s s' : σ} {outcome : Except Failure RunReport}
    (ran : (o.run rounds role rc).toProgram.run host s = (some outcome, s')) :
    let visits := (o.run rounds role rc).toProgram.visits host s
    (∀ v ∈ visits, ∀ path text, v.2 ≠ .writeFile path text ∧ v.2 ≠ .createDirs path) ∧
    (∀ v ∈ visits, ∀ path, v.2 = .isFile path → Judged path (host.hasFile v.1 path) outcome) ∧
    ∀ report, outcome = .ok report →
      (∃ v ∈ visits, v.2 = .isFile report.results ∧ host.hasFile v.1 report.results) ∧
      (host.hasFile s report.results = false → ∃ u ∈ visits,
        host.hasFile u.1 report.results = false ∧ host.hasFile (host u.1 u.2).2 report.results) := by
  have runs := runs_trace ran
  refine ⟨fun v hv path text => ?_, fun v hv path looks => ?_, ?_⟩
  · have asked := forall_visits_of_asks (asks_run o rounds role rc) s v hv
    constructor
    · intro writes
      rw [writes] at asked
      exact asked
    · intro makes
      rw [makes] at asked
      exact asked
  · obtain ⟨state, request⟩ := v
    dsimp only at looks
    subst looks
    exact decides_run o rounds role rc _ _ runs path _ (List.mem_map_of_mem hv)
  · rintro report rfl
    obtain ⟨text, spec, -, -, -, found⟩ := run_ok runs
    obtain ⟨⟨state, request⟩, hv, same⟩ := List.mem_map.mp found
    obtain ⟨rfl, there⟩ := Event.mk.inj same
    have there : host.hasFile state report.results = true := eq_of_heq there
    refine ⟨⟨_, hv, rfl, there⟩, fun missing => ?_⟩
    obtain ⟨u, hu, before, after⟩ := exists_visit_of_changed
      (fun state => host.hasFile state report.results = true) (by simp [missing]) hv there
    exact ⟨u, hu, by simpa using before, after⟩

/-! ## A host of files -/

/-- A host that keeps files by their paths. The harness stays up as process 7; the subject is
process 8, has ended with success when it is looked at, and leaves some files. -/
def filesHost (leaves : List (String × String)) : Host (List (String × String))
  | files, .readFile path =>
    (match files.lookup path with | some text => .ok text | none => .error .notFound, files)
  | files, .writeFile path text => (.ok (), (path, text) :: files)
  | files, .isFile path => ((files.lookup path).isSome, files)
  | files, .isThere path => ((files.lookup path).isSome, files)
  | files, .connect _ _ => (true, files)
  | files, .spawn launch => (.ok (if launch.program = "wstest" then 7 else 8), files)
  | files, .poll process =>
    if process = 8 then (.ok (some (.exited 0)), leaves ++ files) else (.ok none, files)
  | files, .wait _ => (some (.exited 0), files)
  | files, r => (r.idle, files)

/-- Nothing but a request to write changes a file, except for what the subject leaves. -/
theorem filesHost_next {leaves files : List (String × String)} {r : Request}
    (h : ∀ path text, r ≠ .writeFile path text) :
    (filesHost leaves files r).2 = files ∨ (filesHost leaves files r).2 = leaves ++ files := by
  cases r with
  | writeFile path text => exact absurd rfl (h path text)
  | poll process =>
    simp only [filesHost]
    split_ifs
    · exact .inr rfl
    · exact .inl rfl
  | _ => exact .inl rfl

/-- A request of a run changes the files at most by what is left behind. -/
theorem filesHost_run {leaves files : List (String × String)} {o : Orchestrator} {rounds : Nat}
    {role : Role} {rc : RoleConfig} :
    ∀ v ∈ (o.run rounds role rc).toProgram.visits (filesHost leaves) files,
      (filesHost leaves v.1 v.2).2 = v.1 ∨ (filesHost leaves v.1 v.2).2 = leaves ++ v.1 := by
  intro v hv
  refine filesHost_next fun path text writes => ?_
  have asked := forall_visits_of_asks (asks_run o rounds role rc) files v hv
  rw [writes] at asked
  exact asked

theorem filesHost_atRest (leaves files : List (String × String)) :
    (filesHost leaves).AtRest files := by
  intro looks all
  have still : looks.foldl (fun files r => (filesHost leaves files r).2) files = files := by
    induction looks with
    | nil => rfl
    | cons r rest ih =>
      obtain ⟨first, rest⟩ := List.forall_mem_cons.mp all
      have same : (filesHost leaves files r).2 = files := by
        cases r <;> first | rfl | exact first.elim
      rw [List.foldl_cons, same]
      exact ih rest
  rw [still]

/-- All through a run a file is read as it was, if the subject leaves another one. -/
theorem filesHost_reading {leaves files : List (String × String)} {path text : String}
    (given : (filesHost leaves).reading files path = .ok text) (apart : leaves.lookup path = none)
    {o : Orchestrator} {rounds : Nat} {role : Role} {rc : RoleConfig} :
    ∀ v ∈ (o.run rounds role rc).toProgram.visits (filesHost leaves) files,
      (filesHost leaves).reading v.1 path = .ok text := by
  intro v hv
  -- A change would have come about at a request, and requests of a run only add what is left.
  by_contra changed
  obtain ⟨u, hu, before, after⟩ := exists_visit_of_changed
    (fun files => (filesHost leaves).reading files path ≠ .ok text) (not_not.mpr given) hv changed
  refine after ?_
  rcases filesHost_run u hu with same | added
  · rw [same]
    exact not_not.mp before
  · rw [added]
    refine Eq.trans ?_ (not_not.mp before)
    simp only [Host.reading, filesHost, List.lookup_append, apart, Option.none_or]
    rfl

/-- Runs by the usual settings, without a look at the port. -/
def usual : Orchestrator := .ofConfig .usual false

/-- With the sample spec in place a run comes to the start of the harness. -/
theorem run_usual {leaves files : List (String × String)}
    (given : (filesHost leaves files (.readFile "./autobahn/fuzzingserver.json")).1 =
      Except.ok sampleText) :
    (usual.run 2 .client (.usual .client)).toProgram.run (filesHost leaves) files =
      (Child.during 2 (harnessLabel .server)
        (usual.harnessLaunch .server "./autobahn/fuzzingserver.json") usual.grace
        (usual.runListener 2 .client (.usual .client) sampleSpec "127.0.0.1:9001" 0)).run
          (filesHost leaves) files := by
  have address : Spec.socketAddress "ws://127.0.0.1:9001" = .ok "127.0.0.1:9001" := by cbv
  have clock : (Action.lift .now).toProgram.run (filesHost leaves) files =
    (some (.ok 0), files) := rfl
  have loaded := Spec.run_load_of_read .server given
  rw [ofText_sample] at loaded
  have found : (Action.ofFlaw sampleSpec.listenAddress).toProgram.run (filesHost leaves) files =
      (some (.ok "127.0.0.1:9001"), files) := by
    simp [sampleSpec, Spec.listenAddress, address, Action.ofFlaw]
  unfold run
  refine (Action.run_bind_ok clock).trans ((Action.run_bind_ok loaded).trans ?_)
  refine (Action.run_bind_ok found).trans ?_
  rfl

def staleFiles : List (String × String) :=
  [("./autobahn/fuzzingserver.json", sampleText), ("./reports/index.json", "\x7b\x7d")]

/-- A run ends well with results that were there before, while no request that it makes changes any
file. -/
theorem run_results_stale :
    (usual.run 2 .client (.usual .client)).toProgram.run (filesHost []) staleFiles =
      (some (.ok ⟨.client, "./reports/index.json", 0, 0⟩), staleFiles) ∧
    (filesHost []).hasFile staleFiles "./reports/index.json" ∧
    ∀ u ∈ (usual.run 2 .client (.usual .client)).toProgram.visits (filesHost []) staleFiles,
      (filesHost [] u.1 u.2).2 = u.1 :=
  ⟨(run_usual rfl).trans rfl, rfl, fun u hu => (filesHost_run u hu).elim id id⟩

def emptyFiles : List (String × String) := [("./autobahn/fuzzingserver.json", sampleText)]

/-- The harness leaves a file behind, and the run is well. -/
theorem run_results_left :
    let host := filesHost [("./reports/index.json", "\x7b\x7d")]
    let report : RunReport := ⟨.client, "./reports/index.json", 0, 0⟩
    (usual.run 2 .client (.usual .client)).toProgram.run host emptyFiles =
      (some (.ok report), ("./reports/index.json", "\x7b\x7d") :: emptyFiles) ∧
    host.hasFile emptyFiles report.results = false ∧
    ∃ u ∈ (usual.run 2 .client (.usual .client)).toProgram.visits host emptyFiles,
      host.hasFile u.1 report.results = false ∧ host.hasFile (host u.1 u.2).2 report.results := by
  intro host report
  have ran : (usual.run 2 .client (.usual .client)).toProgram.run host emptyFiles =
      (some (.ok report), ("./reports/index.json", "\x7b\x7d") :: emptyFiles) :=
    (run_usual rfl).trans rfl
  exact ⟨ran, rfl, ((run_results host ran).2.2 report rfl).2 rfl⟩

end Orchestrator
end ConformanceGate
