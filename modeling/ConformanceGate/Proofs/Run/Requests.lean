import ConformanceGate.Proofs.Run.Launch

/-!
# What a run asks for

A run reads its spec, looks for the results of a spec, and starts its two sides; all else that it
asks for is about the clock, the network and the processes that it started
(`Orchestrator.asks_run`). In particular it writes no file.
-/

namespace ConformanceGate

open Program

def Request.Lookless (r : Request) : Prop := ∀ path, r ≠ .isFile path

theorem Request.Tends.lookless {r : Request} (h : r.Tends) : r.Lookless := by
  rintro path rfl
  exact h

/-- Whenever the program looks for a file, what it finds and what it ends with go together. -/
def Program.Decides {α : Type} (p : Program α) (good : String → Bool → α → Prop) : Prop :=
  ∀ events a, Runs p events a → ∀ path there, .fileFound path there ∈ events → good path there a

namespace Program

variable {α β : Type} {good : String → Bool → α → Prop} {good' : String → Bool → β → Prop}

theorem decides_done (a : α) : (done a).Decides good := by
  intro events b h path there hmem
  obtain ⟨rfl, -⟩ := runs_done_iff.mp h
  simp at hmem

/-- A decision is not changed by what comes before it, if that looks at no file. -/
theorem Decides.after {p : Program α} {f : α → Program β} (hp : p.Asks Request.Lookless)
    (hf : ∀ a, (f a).Decides good') : (p.bind f).Decides good' := by
  intro events b h path there hmem
  obtain ⟨a, front, back, hfront, hback, rfl⟩ := runs_bind_iff.mp h
  rcases List.mem_append.mp hmem with found | found
  · exact absurd rfl (hfront.all_of_asks hp _ found path)
  · exact hf a back b hback path there found

/-- A decision is carried on by what comes after it, if that looks at no file. -/
theorem Decides.before {p : Program α} {f : α → Program β} (hp : p.Decides good)
    (hf : ∀ a, (f a).Asks Request.Lookless)
    (passed : ∀ a events b, Runs (f a) events b → ∀ path there, good path there a →
      good' path there b) : (p.bind f).Decides good' := by
  intro events b h path there hmem
  obtain ⟨a, front, back, hfront, hback, rfl⟩ := runs_bind_iff.mp h
  rcases List.mem_append.mp hmem with found | found
  · exact passed a back b hback path there (hp front a hfront path there found)
  · exact absurd rfl (hback.all_of_asks (hf a) _ found path)

end Program

theorem Action.decides_bind {α β : Type} {good : String → Bool → Except Failure β → Prop}
    {t : Action α} {f : α → Action β} (ht : t.toProgram.Asks Request.Lookless)
    (hf : ∀ a, (f a).toProgram.Decides good) : (t >>= f).toProgram.Decides good := by
  rw [toProgram_bind]
  refine .after ht fun found => ?_
  cases found with
  | error failure => exact decides_done _
  | ok a => exact hf a

namespace Orchestrator

variable {o : Orchestrator} {rounds : Nat} {role : Role} {rc : RoleConfig} {events : List Event}

def MayAsk (o : Orchestrator) (role : Role) (rc : RoleConfig) : Request → Prop
  | .readFile path => path = o.specPath rc
  | .isFile path => ∃ spec : Spec, path = spec.resultsIndex o.workingDir
  | .spawn launch => ∃ side, o.launchOf role rc side = .ok launch
  | r => r.Tends

theorem MayAsk.of_tends {r : Request} (h : r.Tends) : o.MayAsk role rc r := by
  cases r <;> first | exact h | exact h.elim

theorem MayAsk.of_mayEnd {spec : Spec} {r : Request} (h : o.MayEnd spec r) :
    o.MayAsk role rc r := by
  rcases h with tends | rfl
  · exact .of_tends tends
  · exact ⟨spec, rfl⟩

/-- With the listening side running, the run asks only for what it may ask. -/
theorem asks_runListener (rounds : Nat) (spec : Spec) (address : String) (started : Nat)
    (listener : Child) :
    (o.runListener rounds role rc spec address started listener).Asks (o.MayAsk role rc) := by
  refine ((Readiness.tends_wait _ rounds).mono fun _ => .of_tends).bind fun ready => ?_
  rcases ready with ⟨_ | readyAfter, listener⟩
  · trivial
  · dsimp only
    split
    · trivial
    · rename_i label launch connects
      refine (Child.asks_spawn ⟨_, launchOf_connects connects⟩).bind fun started => ?_
      cases started with
      | error failure => trivial
      | ok connector =>
        refine ((ends_runBoth rounds role spec _ _ listener connector).mono
          fun _ => .of_mayEnd).bind fun ended => ?_
        exact ((Child.tends_terminate rounds).mono fun _ => .of_tends).bind fun _ => trivial

theorem asks_during (rounds : Nat) {label : String} {launch : Launch} {side : Side}
    (h : o.launchOf role rc side = .ok launch)
    {body : Child → Program (Except Failure RunReport × Child)}
    (hbody : ∀ c, (body c).Asks (o.MayAsk role rc)) :
    (Child.during rounds label launch o.grace body).Asks (o.MayAsk role rc) := by
  refine (Child.asks_spawn ⟨side, h⟩).bind fun started => ?_
  cases started with
  | error failure => trivial
  | ok c =>
    exact (hbody c).bind fun ended =>
      ((Child.tends_terminate rounds).mono fun _ => .of_tends).bind fun _ => trivial

/-- Whatever the system does, a run asks for nothing else. -/
theorem asks_run (o : Orchestrator) (rounds : Nat) (role : Role) (rc : RoleConfig) :
    (o.run rounds role rc).toProgram.Asks (o.MayAsk role rc) := by
  refine Action.asks_bind (Asks.request trivial) fun started => ?_
  have loading : (Spec.load role.mode (o.specPath rc)).toProgram.Asks (o.MayAsk role rc) :=
    Action.asks_bind (.request rfl) fun _ => trivial
  refine Action.asks_bind loading fun spec => Action.asks_bind trivial fun address => ?_
  have starting : (Action.ofExcept (o.listening role rc (o.specPath rc)) >>= fun side =>
      Action.ofProgram (Child.during rounds side.1 side.2 o.grace
        (o.runListener rounds role rc spec address started))).toProgram.Asks
          (o.MayAsk role rc) := by
    cases listens : o.listening role rc (o.specPath rc) with
    | error failure => trivial
    | ok found =>
      exact asks_during rounds (launchOf_listens listens)
        (asks_runListener rounds spec address started)
  split_ifs
  · exact Action.asks_bind ((Endpoint.tends_ensureFree address).mono fun _ => .of_tends)
      fun _ => starting
  · exact starting

/-! ## Looking for the results -/

/-- Whether the results were there and how a run ended go together. -/
def Judged (path : String) (there : Bool) (outcome : Except Failure RunReport) : Prop :=
  if there then ∃ report, outcome = .ok report ∧ report.results = path
  else outcome = .error (.infrastructure (.noResults path))

/-- The end of a run is decided by its look at the results. -/
theorem decides_finish (role : Role) (spec : Spec) (started readyAfter : Nat) :
    (o.finish role spec started readyAfter).Decides Judged := by
  intro events outcome h path there hmem
  simp only [finish, bind_eq, pure_eq] at h
  obtain ⟨found, rest, rfl, hafter⟩ := runs_isFile_bind_iff.mp h
  split_ifs at hafter with hfound
  · obtain ⟨time, rest, rfl, hdone⟩ := runs_now_bind_iff.mp hafter
    obtain ⟨rfl, rfl⟩ := runs_done_iff.mp hdone
    rcases List.mem_cons.mp hmem with same | later
    · cases same
      simp [Judged, hfound]
    · cases List.mem_singleton.mp later
  · obtain ⟨rfl, rfl⟩ := runs_done_iff.mp hafter
    cases List.mem_singleton.mp hmem
    simp [Judged, hfound]

theorem lookless_terminate (rounds : Nat) {c : Child} :
    (c.terminate rounds).Asks Request.Lookless :=
  (Child.tends_terminate rounds).mono fun _ h => h.lookless

theorem decides_runBoth (rounds : Nat) (role : Role) (spec : Spec) (started readyAfter : Nat)
    (listener connector : Child) :
    (o.runBoth rounds role spec started readyAfter listener connector).Decides
      fun path there ended => Judged path there ended.1.1 := by
  refine .after ((Supervision.tends_supervise o.limit rounds).mono fun _ h => h.lookless)
    fun found => ?_
  rcases found with ⟨failure | status, first, second⟩
  · exact decides_done _
  · dsimp only
    split_ifs
    · refine .after (lookless_terminate rounds) fun stopped => ?_
      refine (decides_finish role spec started readyAfter).before (fun _ => trivial) ?_
      intro outcome events ended hdone path there judged
      obtain ⟨-, rfl⟩ := runs_done_iff.mp hdone
      exact judged
    · exact decides_done _

theorem decides_runListener (rounds : Nat) (spec : Spec) (address : String) (started : Nat)
    (listener : Child) :
    (o.runListener rounds role rc spec address started listener).Decides
      fun path there ended => Judged path there ended.1 := by
  refine .after ((Readiness.tends_wait _ rounds).mono fun _ h => h.lookless) fun ready => ?_
  rcases ready with ⟨_ | readyAfter, listener⟩
  · exact decides_done _
  · dsimp only
    split
    · exact decides_done _
    -- The connecting side is stopped after the results were looked for, so the end is settled by then.
    · refine .after (Child.asks_spawn nofun) fun started => ?_
      cases started with
      | error failure => exact decides_done _
      | ok connector =>
        refine (decides_runBoth rounds role spec _ _ listener connector).before
          (fun _ => (lookless_terminate rounds).bind fun _ => trivial) ?_
        rintro ⟨outcome, connector'⟩ events last h path there judged
        obtain ⟨_, -, rfl⟩ := runs_bind_done_iff.mp h
        exact judged

theorem decides_during (rounds : Nat) {label : String} {launch : Launch} {grace : Nat}
    {body : Child → Program (Except Failure RunReport × Child)}
    (hbody : ∀ c, (body c).Decides fun path there ended => Judged path there ended.1) :
    (Child.during rounds label launch grace body).Decides Judged := by
  refine .after (Child.asks_spawn nofun) fun started => ?_
  cases started with
  | error failure => exact decides_done _
  | ok c =>
    refine (hbody c).before
      (fun _ => (lookless_terminate rounds).bind fun _ => trivial) ?_
    rintro ⟨outcome, c'⟩ events last h path there judged
    obtain ⟨_, -, rfl⟩ := runs_bind_done_iff.mp h
    exact judged

/-- What is found when the results are looked for decides how the run ends. -/
theorem decides_run (o : Orchestrator) (rounds : Nat) (role : Role) (rc : RoleConfig) :
    (o.run rounds role rc).toProgram.Decides Judged := by
  refine Action.decides_bind (.request nofun) fun started => ?_
  have loading : (Spec.load role.mode (o.specPath rc)).toProgram.Asks Request.Lookless :=
    Action.asks_bind (.request nofun) fun _ => trivial
  refine Action.decides_bind loading fun spec => Action.decides_bind trivial fun address => ?_
  have starting : (Action.ofExcept (o.listening role rc (o.specPath rc)) >>= fun side =>
      Action.ofProgram (Child.during rounds side.1 side.2 o.grace
        (o.runListener rounds role rc spec address started))).toProgram.Decides Judged :=
    Action.decides_bind trivial fun found =>
      decides_during rounds (decides_runListener rounds spec address started)
  split_ifs
  · exact Action.decides_bind ((Endpoint.tends_ensureFree address).mono fun _ h => h.lookless)
      fun _ => starting
  · exact starting

/-! ## Runs that end well -/

/-- A run that ends well has read its spec, and found the results where the spec has them. -/
theorem run_ok {report : RunReport}
    (h : Runs (o.run rounds role rc).toProgram events (.ok report)) :
    ∃ text spec, .fileRead (o.specPath rc) text ∈ events ∧
      Spec.ofText role.mode (o.specPath rc) text = .ok spec ∧
      report.results = spec.resultsIndex o.workingDir ∧
      .fileFound report.results true ∈ events := by
  obtain ⟨-, failure, hfailure⟩ | ⟨before, rest, spec, address, label, launch, started, rfl, -,
    prepared, -, hduring⟩ := run_cases h
  · cases hfailure
  obtain ⟨text, read, found⟩ := prepared.loaded
  refine ⟨text, spec, List.mem_append_left _ read, found, ?_⟩
  obtain ⟨e, failure, -, hfailure⟩ | ⟨process, front, back, c, c', rfl, hbody, -⟩ :=
    during_cases hduring
  · cases hfailure
  obtain ⟨-, -, failure, hfailure⟩ | ⟨waited, rest, label, connect, rfl, -, -, -, hrest⟩ :=
    runListener_cases hbody
  · cases hfailure
  obtain ⟨e, failure, -, hfailure, -⟩ |
    ⟨process', during, after, connector, connector', readyAfter, rfl, hboth, -⟩ := hrest
  · cases hfailure
  obtain ⟨-, results, there⟩ := (runBoth_spec hboth).2.2 report rfl
  exact ⟨results, by simp [there]⟩

end Orchestrator
end ConformanceGate
