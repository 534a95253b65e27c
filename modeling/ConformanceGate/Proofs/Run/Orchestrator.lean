import ConformanceGate.Proofs.Run.Readiness
import ConformanceGate.Proofs.Run.Supervision
import ConformanceGate.Proofs.Spec.Text
import ConformanceGate.Run.Orchestrator
import Mathlib

/-!
# The parts of a run

While both sides are up nothing is started. The part ends well only if the connecting side is known
to have ended with success and the results file is there.
-/

namespace ConformanceGate

open Program

/-- The spec of a file is read once, and is what the text of the file says. -/
theorem Spec.runs_load_iff {mode : Mode} {path : String} {events : List Event} {spec : Spec} :
    Runs (Spec.load mode path).toProgram events (.ok spec) ↔
      ∃ text, events = [.fileRead path text] ∧ Spec.ofText mode path text = .ok spec := by
  refine Action.runs_readFile_bind_iff.trans (exists_congr fun text => ?_)
  simp [eq_comm]

theorem Spec.asks_load (mode : Mode) (path : String) :
    (Spec.load mode path).toProgram.Asks Request.Spawnless :=
  Action.asks_bind (.request trivial) fun _ => trivial

namespace Orchestrator

variable {o : Orchestrator} {events : List Event}

/-- A report names the file where the spec has the results, and that file was there. -/
theorem finish_ok {role : Role} {spec : Spec} {started readyAfter : Nat} {report : RunReport}
    (h : Runs (o.finish role spec started readyAfter) events (.ok report)) :
    report.results = spec.resultsIndex o.workingDir ∧ .fileFound report.results true ∈ events := by
  simp only [finish, bind_eq, pure_eq] at h
  obtain ⟨there, rest, rfl, hafter⟩ := runs_isFile_bind_iff.mp h
  split_ifs at hafter with hthere
  · obtain ⟨time, rest, rfl, hdone⟩ := runs_now_bind_iff.mp hafter
    obtain ⟨rfl, hreport⟩ := runs_done_iff.mp hdone
    cases hreport
    simp [hthere]
  · simp at hafter

/-- What the end of a run may ask for, once its processes were started. -/
def MayEnd (o : Orchestrator) (spec : Spec) (r : Request) : Prop :=
  r.Tends ∨ r = .isFile (spec.resultsIndex o.workingDir)

theorem MayEnd.spawnless {spec : Spec} {r : Request} (h : o.MayEnd spec r) : r.Spawnless := by
  rcases h with tends | rfl
  · exact tends.spawnless
  · trivial

theorem ends_finish (role : Role) (spec : Spec) (started readyAfter : Nat) :
    (o.finish role spec started readyAfter).Asks (o.MayEnd spec) := by
  refine Asks.bind (.request (.inr rfl)) fun there => ?_
  split_ifs
  · exact Asks.bind (.request (.inl trivial)) fun _ => trivial
  · trivial

/-- While both sides are up the listening side may be stopped, and the connecting one is only looked
at. The part ends well only if the connecting side ended with success and there are results. -/
theorem runBoth_spec {rounds : Nat} {role : Role} {spec : Spec} {started readyAfter : Nat}
    {listener listener' connector connector' : Child} {outcome : Except Failure RunReport}
    (h : Runs (o.runBoth rounds role spec started readyAfter listener connector) events
      ((outcome, listener'), connector')) :
    listener.Continues events listener' ∧ connector.Tracks events connector' ∧
      ∀ report, outcome = .ok report → (∃ status, connector'.exit = some status ∧ status.success) ∧
        report.results = spec.resultsIndex o.workingDir ∧
        .fileFound report.results true ∈ events := by
  simp only [runBoth, bind_eq, pure_eq] at h
  obtain ⟨⟨ended, first, second⟩, watched, rest, hsupervise, hafter, rfl⟩ := runs_bind_iff.mp h
  obtain ⟨tracks, tracks', hended⟩ := Supervision.supervise_spec hsupervise
  cases ended with
  | error failure =>
    simp only [runs_done_iff, Prod.mk.injEq] at hafter
    obtain ⟨rfl, ⟨rfl, rfl⟩, rfl⟩ := hafter
    exact ⟨by simpa using tracks'.continues, by simpa using tracks, by simp⟩
  | ok status =>
    dsimp only at hafter
    split_ifs at hafter with hsuccess
    · obtain ⟨halted, stopping, rest, hterminate, hlast, rfl⟩ := runs_bind_iff.mp hafter
      obtain ⟨result, hfinish, hresult⟩ := runs_bind_done_iff.mp hlast
      simp only [Prod.mk.injEq] at hresult
      obtain ⟨⟨rfl, rfl⟩, rfl⟩ := hresult
      have halts := (Child.terminate_continues hterminate).1
      have rests := (Child.Tracks.refl listener' rest).continues
      refine ⟨by simpa using (tracks'.continues.trans halts).trans rests,
        tracks.mono fun e he => by simp [he], fun report hreport => ?_⟩
      obtain ⟨hresults, hthere⟩ := finish_ok (hreport ▸ hfinish)
      exact ⟨⟨status, hended status rfl, hsuccess⟩, hresults, by simp [hthere]⟩
    · simp only [runs_done_iff, Prod.mk.injEq] at hafter
      obtain ⟨rfl, ⟨rfl, rfl⟩, rfl⟩ := hafter
      exact ⟨by simpa using tracks'.continues, by simpa using tracks, by simp⟩

theorem ends_runBoth (rounds : Nat) (role : Role) (spec : Spec) (started readyAfter : Nat)
    (listener connector : Child) :
    (o.runBoth rounds role spec started readyAfter listener connector).Asks (o.MayEnd spec) := by
  have tending (r : Request) : r.Tends → o.MayEnd spec r := .inl
  refine ((Supervision.tends_supervise o.limit rounds).mono tending).bind fun found => ?_
  rcases found with ⟨_ | status, first, second⟩
  · trivial
  · dsimp only
    split_ifs
    · exact ((Child.tends_terminate rounds).mono tending).bind fun _ =>
        (ends_finish role spec started readyAfter).bind fun _ => trivial
    · trivial

theorem asks_runBoth (rounds : Nat) (role : Role) (spec : Spec) (started readyAfter : Nat)
    (listener connector : Child) :
    (o.runBoth rounds role spec started readyAfter listener connector).Asks
      Request.Spawnless :=
  (ends_runBoth rounds role spec started readyAfter listener connector).mono fun _ =>
    MayEnd.spawnless

/-! ## The way of a run -/

/-- A part of a run during which a child is up begins with starting it, and ends with stopping it
after its body has ended. -/
theorem during_cases {rounds : Nat} {label : String} {launch : Launch} {grace : Nat}
    {body : Child → Program (Except Failure RunReport × Child)}
    {outcome : Except Failure RunReport}
    (h : Runs (Child.during rounds label launch grace body) events outcome) :
    (∃ e failure, events = [.refused launch e] ∧ outcome = .error failure) ∨
    ∃ process front back c c', events = .spawned launch process :: front ++ back ∧
      Runs (body ⟨label, process, grace, none, false⟩) front (outcome, c) ∧
      Runs (c.terminate rounds) back c' := by
  simp only [Child.during, bind_eq, pure_eq] at h
  obtain ⟨started, front, rest, hspawn, hafter, rfl⟩ := runs_bind_iff.mp h
  obtain ⟨process, rfl, rfl⟩ | ⟨e, failure, rfl, rfl⟩ := Child.spawn_cases hspawn
  · obtain ⟨⟨result, c⟩, front, rest, hbody, hlast, rfl⟩ := runs_bind_iff.mp hafter
    obtain ⟨c', hterminate, rfl⟩ := runs_bind_done_iff.mp hlast
    exact .inr ⟨process, front, rest, c, c', rfl, hbody, hterminate⟩
  · obtain ⟨rfl, rfl⟩ := runs_done_iff.mp hafter
    exact .inl ⟨e, failure, rfl, rfl⟩

/-- The part of a run during which the listening side is up ends without starting anything, or the
listening side is shown to be ready and the connecting side is started. If that is granted, both are
up for a while, and then the connecting side is stopped. -/
theorem runListener_cases {rounds : Nat} {role : Role} {rc : RoleConfig} {spec : Spec}
    {address : String} {started : Nat} {listener listener' : Child}
    {outcome : Except Failure RunReport}
    (h : Runs (o.runListener rounds role rc spec address started listener) events
      (outcome, listener')) :
    (Spawnless events ∧ listener.Tracks events listener' ∧ ∃ failure, outcome = .error failure) ∨
    ∃ waited rest label launch, events = waited ++ rest ∧ Spawnless waited ∧
      (o.readiness address).Shown listener.process waited ∧
      o.connecting role rc (o.specPath rc) = .ok (label, launch) ∧
      ((∃ e failure, rest = [.refused launch e] ∧ outcome = .error failure ∧
          listener' = listener) ∨
        ∃ process front back connector connector' readyAfter,
          rest = .spawned launch process :: front ++ back ∧
          Runs (o.runBoth rounds role spec started readyAfter listener
            ⟨label, process, o.grace, none, false⟩) front ((outcome, listener'), connector) ∧
          Runs (connector.terminate rounds) back connector') := by
  simp only [runListener, bind_eq, pure_eq] at h
  obtain ⟨⟨ready, middle⟩, waited, rest, hwait, hafter, rfl⟩ := runs_bind_iff.mp h
  obtain ⟨tracks, shown⟩ := Readiness.wait_spec hwait
  have silent := hwait.all_of_asks (Readiness.asks_wait _ rounds)
  cases ready with
  | error failure =>
    simp only [runs_done_iff, Prod.mk.injEq] at hafter
    obtain ⟨rfl, rfl, rfl⟩ := hafter
    exact .inl ⟨by simpa [Spawnless] using silent, by simpa using tracks, failure, rfl⟩
  | ok readyAfter =>
    obtain ⟨rfl, proof⟩ := shown readyAfter rfl
    cases hlaunch : o.connecting role rc (o.specPath rc) with
    | error failure =>
      simp only [hlaunch, runs_done_iff, Prod.mk.injEq] at hafter
      obtain ⟨rfl, rfl, rfl⟩ := hafter
      exact .inl ⟨by simpa [Spawnless] using silent, .refl _ _, failure, rfl⟩
    | ok launched =>
      obtain ⟨label, launch⟩ := launched
      refine .inr ⟨waited, rest, label, launch, rfl, silent, proof, rfl, ?_⟩
      simp only [hlaunch] at hafter
      obtain ⟨child, front, rest, hspawn, hboth, rfl⟩ := runs_bind_iff.mp hafter
      obtain ⟨process, rfl, rfl⟩ | ⟨e, failure, rfl, rfl⟩ := Child.spawn_cases hspawn
      · obtain ⟨⟨result, connector⟩, front, rest, hbody, hlast, rfl⟩ := runs_bind_iff.mp hboth
        obtain ⟨connector', hterminate, houtcome⟩ := runs_bind_done_iff.mp hlast
        obtain rfl : (outcome, listener') = result := houtcome
        exact .inr ⟨process, front, rest, connector, connector', readyAfter, rfl, hbody, hterminate⟩
      · simp only [runs_done_iff, Prod.mk.injEq] at hboth
        obtain ⟨rfl, rfl, rfl⟩ := hboth
        exact .inl ⟨e, failure, rfl, rfl, rfl⟩

/-- What has happened before the listening side is started: the spec was read and is usable, the
address was taken from it, and, if that is to be checked, all endpoints of the address are free. -/
structure Prepared (o : Orchestrator) (role : Role) (rc : RoleConfig) (spec : Spec)
    (address : String) (events : List Event) : Prop where
  loaded : ∃ text, .fileRead (o.specPath rc) text ∈ events ∧
    Spec.ofText role.mode (o.specPath rc) text = .ok spec
  valid : spec.validate = .ok ()
  listens : spec.listenAddress = .ok address
  free : o.precheck → ∃ lookups endpoints, Endpoint.Resolves address lookups endpoints ∧
    lookups <:+: events ∧ ∀ endpoint ∈ endpoints, .bound endpoint ∈ events

/-- A check that the address is free fails, or is passed before anything else happens. -/
theorem precheck_cases {address : String} {f : Unit → Action RunReport}
    {outcome : Except Failure RunReport}
    (h : Runs (if o.precheck then Endpoint.ensureFree address >>= f else f ()).toProgram
      events outcome) :
    (Spawnless events ∧ ∃ failure, outcome = .error failure) ∨
    ∃ checking rest, events = checking ++ rest ∧ Spawnless checking ∧
      (o.precheck → ∃ lookups endpoints, Endpoint.Resolves address lookups endpoints ∧
        lookups <:+: checking ∧ ∀ endpoint ∈ endpoints, .bound endpoint ∈ checking) ∧
      Runs (f ()).toProgram rest outcome := by
  split_ifs at h with hcheck
  · have silent {checking : List Event} {found : Except Failure Unit}
        (hfree : Runs (Endpoint.ensureFree address).toProgram checking found) :
        Spawnless checking := hfree.all_of_asks (Endpoint.asks_ensureFree address)
    obtain ⟨failure, hfree, rfl⟩ | ⟨_, checking, rest, hfree, hrest, rfl⟩ :=
      Action.runs_bind_iff.mp h
    · exact .inl ⟨silent hfree, failure, rfl⟩
    · obtain ⟨lookups, endpoints, binds, resolves, rfl, hbound⟩ := Endpoint.ensureFree_ok hfree
      refine .inr ⟨_, rest, rfl, silent hfree, fun _ => ⟨lookups, endpoints, resolves,
        (List.prefix_append lookups binds).isInfix, fun endpoint hmem => ?_⟩, hrest⟩
      exact List.mem_append_right _ (hbound endpoint hmem)
  · exact .inr ⟨[], events, rfl, by simp [Spawnless], fun hyes => absurd hyes hcheck, h⟩

/-- A run ends without starting anything, or is prepared and goes on with the listening side. -/
theorem run_cases {rounds : Nat} {role : Role} {rc : RoleConfig}
    {outcome : Except Failure RunReport}
    (h : Runs (o.run rounds role rc).toProgram events outcome) :
    (Spawnless events ∧ ∃ failure, outcome = .error failure) ∨
    ∃ before rest spec address label launch started, events = before ++ rest ∧
      Spawnless before ∧ o.Prepared role rc spec address before ∧
      o.listening role rc (o.specPath rc) = .ok (label, launch) ∧
      Runs (Child.during rounds label launch o.grace
        (o.runListener rounds role rc spec address started)) rest outcome := by
  unfold run at h
  obtain ⟨failure, hnow, -⟩ | ⟨started, clock, rest, hnow, hload, rfl⟩ := Action.runs_bind_iff.mp h
  · simp at hnow
  have clockless : Spawnless clock := hnow.all_of_asks (.request trivial)
  obtain ⟨failure, hspec, rfl⟩ | ⟨spec, loading, rest, hspec, haddress, rfl⟩ :=
    Action.runs_bind_iff.mp hload
  · have loadless : Spawnless rest := hspec.all_of_asks (Spec.asks_load _ _)
    exact .inl ⟨spawnless_append.mpr ⟨clockless, loadless⟩, failure, rfl⟩
  have loadless : Spawnless loading := hspec.all_of_asks (Spec.asks_load _ _)
  obtain ⟨text, rfl, htext⟩ := Spec.runs_load_iff.mp hspec
  obtain ⟨failure, hfound, rfl⟩ | ⟨address, nothing, rest, hfound, hcheck, rfl⟩ :=
    Action.runs_bind_iff.mp haddress
  · obtain ⟨rfl, -⟩ := Action.runs_ofFlaw_iff.mp hfound
    exact .inl ⟨spawnless_append.mpr ⟨clockless, by simpa using loadless⟩, failure, rfl⟩
  obtain ⟨rfl, hlistens⟩ := Action.runs_ofFlaw_iff.mp hfound
  have listens : spec.listenAddress = .ok address := Except.ok_eq_mapError.mp hlistens
  obtain ⟨silent, failure, rfl⟩ | ⟨checking, rest, rfl, silent, free, hstart⟩ :=
    precheck_cases hcheck
  · exact .inl ⟨spawnless_append.mpr ⟨clockless, spawnless_append.mpr ⟨loadless, silent⟩⟩,
      failure, rfl⟩
  have before : Spawnless (clock ++ [.fileRead (o.specPath rc) text] ++ checking) :=
    spawnless_append.mpr ⟨spawnless_append.mpr ⟨clockless, loadless⟩, silent⟩
  obtain ⟨failure, hlaunch, rfl⟩ | ⟨⟨label, launch⟩, nothing, rest, hlaunch, hduring, rfl⟩ :=
    Action.runs_bind_iff.mp hstart
  · obtain ⟨rfl, -⟩ := Action.runs_ofExcept_iff.mp hlaunch
    exact .inl ⟨by simpa using before, failure, rfl⟩
  · obtain ⟨rfl, hside⟩ := Action.runs_ofExcept_iff.mp hlaunch
    refine .inr ⟨_, rest, spec, address, label, launch, started, by simp, before, ⟨⟨text, by simp,
      htext⟩, (Spec.ofText_eq_ok_iff.mp htext).2, listens, fun hyes => ?_⟩, hside.symm, hduring⟩
    obtain ⟨lookups, endpoints, resolves, hin, hbound⟩ := free hyes
    exact ⟨lookups, endpoints, resolves, hin.trans (List.suffix_append _ checking).isInfix,
      fun endpoint hmem => List.mem_append_right _ (hbound endpoint hmem)⟩

/-! ## A run -/

def sample : Orchestrator where
  harness := ⟨"wstest", []⟩
  workingDir := "."
  timeout := 1000
  interval := 100
  fixedDelay := some 500
  grace := 2000
  limit := none
  precheck := false

def sampleText : String := "\x7b\"url\":\"ws://127.0.0.1:9001\",\"outdir\":\"reports\"\x7d"

def sampleSpec : Spec := .server ⟨"ws://127.0.0.1:9001", "reports", .all, none⟩

def sampleReport : RunReport := ⟨.client, sampleSpec.resultsIndex ".", 500, 600⟩

/-- The harness listens as process 7 and has to be killed; the subject connects as process 8. -/
def sampleEvents : List Event := [
  .clock 0, .fileRead (sample.specPath (.usual .client)) sampleText,
  .spawned (sample.harnessLaunch .server (sample.specPath (.usual .client))) 7,
  .clock 0, .clock 0, .interrupt false, .polled 7 (.ok none), .clock 0, .slept 500,
  .clock 500, .polled 7 (.ok none), .clock 500,
  .spawned ⟨"target/debug/examples/autobahn-client", [], some "."⟩ 8,
  .polled 8 (.ok (some (.exited 0))),
  .polled 7 (.ok none), .signaled 7 .term true, .clock 500,
  .clock 500, .polled 7 (.ok none), .groupFound 7 true, .slept pollInterval,
  .clock 25000, .signaled 7 .kill true, ⟨.kill 7, ()⟩, .waited 7 (some (.signaled 9)),
  .fileFound (sampleSpec.resultsIndex ".") true, .clock 600,
  .signaled 8 .term false]

theorem ofText_sample (path : String) : Spec.ofText .server path sampleText = .ok sampleSpec := by
  have scanned : Json.scan sampleText = (.object [(.ok "url", .string "ws://127.0.0.1:9001"),
      (.ok "outdir", .string "reports")] none, .ok []) := by cbv
  have address : Spec.socketAddress "ws://127.0.0.1:9001" = .ok "127.0.0.1:9001" := by cbv
  have named : Text.blank "reports" = false := by decide
  simp [Spec.ofText, Spec.validate, Decoder.ofText, scanned, Json.finished, Json.skipBlanks,
    Spec.outdir, Spec.urls, address, named, Spec.decode, ServerSpec.decode, ServerSpec.shape,
    Selection.shape, Shape.fill, Shape.fillMembers, Terms.json, Terms.enter, Field.of,
    Decoder.string, Decoder.text, Bind.bind, Except.bind, Except.map, Pure.pure,
    Except.pure, required, Selection.decode, sampleSpec, Written.depthLimit]

/-- The sample comes to its report. -/
theorem runs_sample :
    Runs (sample.run 2 .client (.usual .client)).toProgram sampleEvents (.ok sampleReport) := by
  refine Action.runs_bind_iff.mpr (.inr ⟨0, [.clock 0], _,
    Action.runs_lift_iff.mpr ⟨0, .ask (.done 0), rfl⟩, ?_, rfl⟩)
  refine Action.runs_bind_iff.mpr (.inr ⟨sampleSpec, [.fileRead _ sampleText], _,
    Spec.runs_load_iff.mpr ⟨sampleText, rfl, ofText_sample _⟩, ?_, rfl⟩)
  have address : sampleSpec.listenAddress = .ok "127.0.0.1:9001" := by
    have read : Spec.socketAddress "ws://127.0.0.1:9001" = .ok "127.0.0.1:9001" := by cbv
    simpa [sampleSpec, Spec.listenAddress] using read
  refine Action.runs_bind_iff.mpr (.inr ⟨"127.0.0.1:9001", [], _,
    Action.runs_ofFlaw_iff.mpr ⟨rfl, Except.ok_eq_mapError.mpr address⟩, ?_, rfl⟩)
  repeat refine .ask ?_
  exact .done _

end Orchestrator
end ConformanceGate
