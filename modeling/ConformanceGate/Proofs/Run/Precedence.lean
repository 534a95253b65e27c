import ConformanceGate.Proofs.Run.Launch
import ConformanceGate.Proofs.Run.Results
import ConformanceGate.Proofs.System.Clock

/-!
# Which side ends first

The two sides of a run are looked at one after the other, and again after a pause. A run in which
the listening side is looked at after its end and before the end of the connecting side ends in a
failure. If both ends fall between two looks then their order does not show, and the end of the
connecting side is what counts.
-/

namespace ConformanceGate

open Program

/-! ## When processes end -/

/-- How and when a process ends. -/
structure Ending where
  time : Nat
  status : ExitStatus

/-- The ends of the processes. A process without one does not end. -/
def Timeline : Type := Nat → Option Ending

/-- How a process has ended by a time, if it has. -/
def Timeline.found (ends : Timeline) (process time : Nat) : Option ExitStatus :=
  ((ends process).filter fun ending => decide (ending.time ≤ time)).map Ending.status

/-- The looks of a run find what there is to find at their times, unless they are refused. -/
def Timeline.Tells {σ : Type} (ends : Timeline) (host : Host σ) (visits : List (σ × Request)) :
    Prop :=
  ∀ s process found, (s, .poll process) ∈ visits →
    (host s (.poll process)).1 = Except.ok found → found = ends.found process (host.time s)

/-- A process is found running exactly before its end. -/
theorem Timeline.found_eq_none_iff {ends : Timeline} {process time : Nat} :
    ends.found process time = none ↔ ∀ ending, ends process = some ending → time < ending.time := by
  simp [found]

/-- A process is found to have ended from its end on. -/
theorem Timeline.found_eq_some_iff {ends : Timeline} {process time : Nat} {status : ExitStatus} :
    ends.found process time = some status ↔
      ∃ ending, ends process = some ending ∧ ending.time ≤ time ∧ ending.status = status := by
  simp [found, and_assoc]

/-! ## The processes of a run -/

def Program.Event.started? : Event → Option Nat
  | ⟨.spawn _, .ok process⟩ => some process
  | _ => none

def started (events : List Event) : List Nat := events.filterMap Event.started?

theorem started_append (front back : List Event) :
    started (front ++ back) = started front ++ started back :=
  List.filterMap_append

@[simp] theorem started_spawned (launch : Launch) (process : Nat) (events : List Event) :
    started (.spawned launch process :: events) = process :: started events := rfl

theorem started_of_spawnless {events : List Event} (h : Spawnless events) :
    started events = [] := by
  refine List.filterMap_eq_nil_iff.mpr fun e he => ?_
  have silent := h e he
  obtain ⟨r, reply⟩ := e
  cases r <;> first | rfl | exact silent.elim

/-- Two starts with nothing started before, between or after them. -/
theorem started_both {before between after : List Event} (listen connect : Launch) (p q : Nat)
    (h : Spawnless before) (h' : Spawnless between) (h'' : Spawnless after) :
    started (before ++ .spawned listen p :: between ++ .spawned connect q :: after) = [p, q] := by
  simp [started_append, started_of_spawnless, h, h', h'']

/-! ## Looks at a process -/

/-- Whenever a process was looked at, it had not ended. -/
def Unended (process : Nat) (events : List Event) : Prop :=
  ∀ found, .polled process found ∈ events → found = .ok none

theorem unended_nil (process : Nat) : Unended process [] := nofun

theorem unended_cons {process : Nat} {e : Event} {events : List Event} :
    Unended process (e :: events) ↔
      (∀ found, .polled process found = e → found = .ok none) ∧ Unended process events := by
  simp [Unended, or_imp, forall_and]

theorem unended_append {process : Nat} {front back : List Event} :
    Unended process (front ++ back) ↔ Unended process front ∧ Unended process back := by
  simp [Unended, or_imp, forall_and]

/-- A look that found no end changes nothing. -/
theorem Unended.polled {process other : Nat} {events : List Event} (h : Unended process events) :
    Unended process (.polled other (.ok none) :: events) :=
  unended_cons.mpr ⟨fun _ same => by cases same; rfl, h⟩

/-- Neither does a request of another kind. -/
theorem Unended.other {process : Nat} {e : Event} {events : List Event} (h : Unended process events)
    (other : e.request ≠ .poll process) : Unended process (e :: events) :=
  unended_cons.mpr ⟨fun _ same => absurd (congrArg Event.request same).symm other, h⟩

theorem unended_of_asks {kind : Request → Prop} {α : Type} {p : Program α} {events : List Event}
    {a : α} (h : Runs p events a) (asks : p.Asks kind) {process : Nat}
    (other : ¬ kind (.poll process)) : Unended process events :=
  fun _ hmem => absurd (h.all_of_asks asks _ hmem) other

namespace Supervision

variable {primary primary' companion companion' : Child} {events : List Event}

theorem isOver_unended {deadline : Option Nat} {reached : Bool}
    (h : Runs (isOver deadline) events reached) (process : Nat) : Unended process events := by
  have asks : (isOver deadline).Asks (· = .now) := by
    cases deadline with
    | none => trivial
    | some deadline => exact .request rfl
  exact unended_of_asks h asks nofun

/-- Watching that ends well has found the end of the first child in its last look, and no end in any
look before. -/
theorem watch_ok {deadline : Option Nat} {rounds : Nat} {status : ExitStatus}
    (h : Runs (watch deadline rounds primary companion) events (.ok status, primary', companion'))
    (running : primary.exit = none) :
    ∃ front, events = front ++ [.polled primary.process (.ok (some status))] ∧
      ∀ process, Unended process front := by
  induction rounds generalizing primary companion events with
  | zero => exact (not_runs_exhausted h).elim
  | succ rounds ih =>
    simp only [watch, bind_eq, pure_eq] at h
    obtain ⟨⟨found, first⟩, looked, rest, hfirst, hafter, rfl⟩ := runs_bind_iff.mp h
    rcases found with failure | _ | ended
    · simp at hafter
    · obtain ⟨rfl, -, rfl⟩ := Child.observe_none hfirst
      obtain ⟨⟨found, second⟩, looked', rest, hsecond, hnext, rfl⟩ := runs_bind_iff.mp hafter
      rcases found with failure | _ | ended
      · simp at hnext
      · obtain ⟨rfl, -, rfl⟩ := Child.observe_none hsecond
        obtain ⟨raised, rest, rfl, hdue⟩ := runs_interrupted_bind_iff.mp hnext
        split_ifs at hdue
        · simp at hdue
        · obtain ⟨reached, asked, rest, hreached, hloop, rfl⟩ := runs_bind_iff.mp hdue
          split_ifs at hloop
          · simp at hloop
          · obtain ⟨rest, rfl, hagain⟩ := runs_sleep_bind_iff.mp hloop
            obtain ⟨front, rfl, unended⟩ := ih hagain running
            -- What the looks of this round found stands before the looks of the later ones.
            refine ⟨.polled first.process (.ok none) :: .polled second.process (.ok none) ::
              .interrupt raised :: (asked ++ .slept pollInterval :: front), by simp,
              fun process => ?_⟩
            have later : Unended process (asked ++ .slept pollInterval :: front) :=
              unended_append.mpr ⟨isOver_unended hreached process,
                (unended process).other (by rintro ⟨⟩)⟩
            have calm : Unended process
                (.interrupt raised :: (asked ++ .slept pollInterval :: front)) :=
              later.other (by rintro ⟨⟩)
            exact calm.polled.polled
      · simp at hnext
    · obtain ⟨known, hexit, -⟩ | ⟨-, rfl, -⟩ := Child.poll_cases (Child.observe_ok hfirst)
      · simp [running] at hexit
      · simp only [runs_done_iff, Prod.mk.injEq, Except.ok.injEq] at hafter
        obtain ⟨rfl, rfl, -⟩ := hafter
        exact ⟨[], by simp, unended_nil⟩

/-- Supervision that succeeds ends with the look that finds the first child ended; no process was
found ended before. -/
theorem supervise_ok {limit : Option Nat} {rounds : Nat} {status : ExitStatus}
    (h : Runs (supervise limit rounds primary companion) events
      (.ok status, primary', companion')) (running : primary.exit = none) :
    ∃ front, events = front ++ [.polled primary.process (.ok (some status))] ∧
      ∀ process, Unended process front := by
  cases limit with
  | none => exact watch_ok h running
  | some limit =>
    simp only [supervise, bind_eq, pure_eq] at h
    obtain ⟨now, rest, rfl, hafter⟩ := runs_now_bind_iff.mp h
    split at hafter
    · simp at hafter
    · obtain ⟨front, rfl, unended⟩ := watch_ok hafter running
      refine ⟨.clock now :: front, rfl, fun process => ?_⟩
      exact (unended process).other (by rintro ⟨⟩)

end Supervision

/-! ## Looks come after the first start -/

namespace Program

variable {α β : Type}

/-- The program looks at no process before it has tried to start one. -/
def StartsFirst : Program α → Prop
  | .done _ => True
  | .ask r k => (∃ launch, r = .spawn launch) ∨
      (∀ process, r ≠ .poll process) ∧ ∀ reply, (k reply).StartsFirst
  | .exhausted => True

theorem StartsFirst.bind {p : Program α} {f : α → Program β} (hp : p.StartsFirst)
    (hf : ∀ a, (f a).StartsFirst) : (p.bind f).StartsFirst := by
  induction p with
  | done a => exact hf a
  | ask r k ih =>
    exact hp.imp_right fun ⟨other, later⟩ => ⟨other, fun reply => ih reply (later reply)⟩
  | exhausted => trivial

theorem startsFirst_of_asks {p : Program α} (asks : p.Asks fun r => ∀ process, r ≠ .poll process) :
    p.StartsFirst := by
  induction p with
  | done a => trivial
  | ask r k ih => exact .inr ⟨asks.1, fun reply => ih reply (asks.2 reply)⟩
  | exhausted => trivial

/-- As long as nothing was started, nothing was looked at. -/
theorem StartsFirst.unended {p : Program α} {a : α} {front back : List Event} (h : p.StartsFirst)
    (ran : Runs p (front ++ back) a) (silent : Spawnless front) (process : Nat) :
    Unended process front := by
  induction front generalizing p with
  | nil => exact unended_nil process
  | cons e front ih =>
    cases ran with
    | @ask r k reply _ _ later =>
      obtain ⟨launch, rfl⟩ | ⟨other, rest⟩ := h
      · exact (silent _ List.mem_cons_self).elim
      · refine unended_cons.mpr ⟨fun found same => ?_, ih (rest reply) later fun e he =>
          silent e (List.mem_cons_of_mem _ he)⟩
        exact absurd (congrArg Event.request same).symm (other process)

end Program

theorem Action.startsFirst_bind {α β : Type} {t : Action α} {f : α → Action β}
    (ht : t.toProgram.Asks fun r => ∀ process, r ≠ .poll process)
    (hf : ∀ a, (f a).toProgram.StartsFirst) : (t >>= f).toProgram.StartsFirst := by
  rw [toProgram_bind]
  refine (startsFirst_of_asks ht).bind fun found => ?_
  cases found with
  | error failure => trivial
  | ok a => exact hf a

namespace Orchestrator

variable {o : Orchestrator} {rounds : Nat} {role : Role} {rc : RoleConfig} {events : List Event}

/-- A run looks at no process before it has started one. -/
theorem startsFirst_run (o : Orchestrator) (rounds : Nat) (role : Role) (rc : RoleConfig) :
    (o.run rounds role rc).toProgram.StartsFirst := by
  have unlike (r : Request) (probes : Endpoint.Probes r) (process : Nat) : r ≠ .poll process := by
    rintro rfl
    simp [Endpoint.Probes] at probes
  have probing (address : String) : (Endpoint.ensureFree address).toProgram.Asks
      fun r => ∀ process, r ≠ .poll process :=
    Action.asks_bind ((Endpoint.asks_resolve address).mono unlike) fun endpoints =>
      (Endpoint.asks_bindAll endpoints).mono unlike
  have loading : (Spec.load role.mode (o.specPath rc)).toProgram.Asks
      fun r => ∀ process, r ≠ .poll process :=
    Action.asks_bind ⟨fun process => nofun, fun _ => trivial⟩ fun _ => trivial
  refine Action.startsFirst_bind ⟨fun process => nofun, fun _ => trivial⟩ fun started => ?_
  refine Action.startsFirst_bind loading fun spec => ?_
  refine Action.startsFirst_bind trivial fun address => ?_
  have starting : (Action.ofExcept (o.listening role rc (o.specPath rc)) >>= fun side =>
      Action.ofProgram (Child.during rounds side.1 side.2 o.grace
        (o.runListener rounds role rc spec address started))).toProgram.StartsFirst :=
    Action.startsFirst_bind trivial fun side => .inl ⟨side.2, rfl⟩
  split_ifs
  · exact Action.startsFirst_bind (probing address) fun _ => starting
  · exact starting

/-- While both sides are up, a run that ends well finds that the connecting side has ended, with
success, and no end in any look before. -/
theorem runBoth_ok {spec : Spec} {started readyAfter : Nat}
    {listener listener' connector connector' : Child} {report : RunReport}
    (h : Runs (o.runBoth rounds role spec started readyAfter listener connector) events
      ((.ok report, listener'), connector')) (running : connector.exit = none) :
    ∃ front status back, events = front ++ .polled connector.process (.ok (some status)) :: back ∧
      status.success ∧ ∀ process, Unended process front := by
  simp only [runBoth, bind_eq, pure_eq] at h
  obtain ⟨⟨ended, first, second⟩, watched, rest, hsupervise, hafter, rfl⟩ := runs_bind_iff.mp h
  cases ended with
  | error failure => simp at hafter
  | ok status =>
    obtain ⟨front, rfl, unended⟩ := Supervision.supervise_ok hsupervise running
    dsimp only at hafter
    split_ifs at hafter with success
    · exact ⟨front, status, rest, by simp, success, unended⟩
    · simp at hafter

/-- A run that ends well has started the listening side and then the connecting side. It has found
that the connecting side has ended, with success, and no end in any look at the listening side
before. -/
theorem run_ok_looks {report : RunReport}
    (h : Runs (o.run rounds role rc).toProgram events (.ok report)) :
    ∃ p q front status back, started events = [p, q] ∧
      events = front ++ .polled q (.ok (some status)) :: back ∧ status.success ∧
      Unended p front := by
  obtain ⟨-, failure, hfailure⟩ | ⟨before, rest, spec, address, label, launch, begun, rfl, silent,
    -, -, hduring⟩ := run_cases h
  · cases hfailure
  obtain ⟨e, failure, -, hfailure⟩ | ⟨p, during, after, c, c', rfl, hbody, hstop⟩ :=
    during_cases hduring
  · cases hfailure
  obtain ⟨-, -, failure, hfailure⟩ |
    ⟨waited, rest, label, connect, rfl, waitless, shown, -, hrest⟩ := runListener_cases hbody
  · cases hfailure
  obtain ⟨e, failure, -, hfailure, -⟩ |
    ⟨q, both, stopping, connector, connector', readyAfter, rfl, hboth, hend⟩ := hrest
  · cases hfailure
  obtain ⟨front, status, back, rfl, success, unended⟩ := runBoth_ok hboth rfl
  have silent' : Spawnless
      (front ++ .polled q (.ok (some status)) :: back ++ stopping ++ after) :=
    spawnless_append.mpr ⟨spawnless_append.mpr
      ⟨hboth.all_of_asks (asks_runBoth rounds role spec begun readyAfter _ _),
        hend.all_of_asks (Child.asks_terminate rounds)⟩,
      hstop.all_of_asks (Child.asks_terminate rounds)⟩
  refine ⟨p, q, before ++ .spawned launch p :: (waited ++ .spawned connect q :: front), status,
    back ++ stopping ++ after, ?_, by simp, success, ?_⟩
  · simpa using started_both launch connect p q silent waitless silent'
  · have later : Unended p (waited ++ .spawned connect q :: front) :=
      unended_append.mpr ⟨shown.undisturbed.alive, (unended p).other (by rintro ⟨⟩)⟩
    exact unended_append.mpr ⟨(startsFirst_run o rounds role rc).unended h silent p,
      later.other (by rintro ⟨⟩)⟩

/-! ## Looks at the listening side -/

variable {σ : Type} {host : Host σ} {s s' : σ} {outcome : Except Failure RunReport}
  {ends : Timeline} {p q : Nat}

/-- In some state of a run that ends well it was found that the connecting side has ended, with
success. In no state before was the listening side found to have ended. -/
theorem run_ok_visits {report : RunReport}
    (ran : (o.run rounds role rc).toProgram.run host s = (some (.ok report), s')) :
    ∃ p q front t back status, started ((o.run rounds role rc).toProgram.trace host s) = [p, q] ∧
      (o.run rounds role rc).toProgram.visits host s = front ++ (t, .poll q) :: back ∧
      (host t (.poll q)).1 = Except.ok (some status) ∧ status.success ∧
      ∀ u, (u, .poll p) ∈ front → (host u (.poll p)).1 = Except.ok none := by
  obtain ⟨p, q, front, status, back, sides, split, success, unended⟩ :=
    run_ok_looks (runs_trace ran)
  obtain ⟨earlier, rest, visited, rfl, hrest⟩ := List.map_eq_append_iff.mp split
  obtain ⟨⟨t, request⟩, later, rfl, answered, rfl⟩ := List.map_eq_cons_iff.mp hrest
  obtain ⟨rfl, found⟩ := Event.mk.inj answered
  exact ⟨p, q, earlier, t, later, status, sides, visited, eq_of_heq found, success,
    fun u hu => unended _ (List.mem_map_of_mem hu)⟩

/-- A run in which the listening side, which is started first, is looked at after its end and before
the end of the connecting side ends in a failure, whatever else happens. A run ends well only if the
connecting side ends with success. -/
theorem run_earlierEnd (timed : host.Timed)
    (ran : (o.run rounds role rc).toProgram.run host s = (some outcome, s'))
    (told : ends.Tells host ((o.run rounds role rc).toProgram.visits host s))
    (sides : started ((o.run rounds role rc).toProgram.trace host s) = [p, q]) :
    (∀ t ending, (t, .poll p) ∈ (o.run rounds role rc).toProgram.visits host s →
      ends p = some ending → ending.time ≤ host.time t →
      (∀ other, ends q = some other → host.time t < other.time) →
      ∃ failure, outcome = .error failure) ∧
    ∀ report, outcome = .ok report → ∃ other, ends q = some other ∧ other.status.success := by
  rcases outcome with failure | report
  · exact ⟨fun _ _ _ _ _ _ => ⟨failure, rfl⟩, nofun⟩
  obtain ⟨p', q', front, t, back, status, sides', visited, found, success, unended⟩ :=
    run_ok_visits ran
  obtain ⟨rfl, rfl⟩ : p = p' ∧ q = q' := by simpa using sides.symm.trans sides'
  have inOrder := timed.visits_pairwise (o.run rounds role rc).toProgram s
  rw [visited] at told inOrder ⊢
  -- The connecting side has ended by the time of the look that found its end.
  obtain ⟨other, ended, reached, rfl⟩ :=
    Timeline.found_eq_some_iff.mp (told t q _ (by simp) found).symm
  refine ⟨fun u ending look ended' past before => ?_, fun _ _ => ⟨other, ended, success⟩⟩
  rcases List.mem_append.mp look with early | late
  · have nothing := told u p none (List.mem_append_left _ early) (unended u early)
    exact absurd past (Nat.not_le_of_lt (Timeline.found_eq_none_iff.mp nothing.symm _ ended'))
  · have onward : host.time t ≤ host.time u := by
      rcases List.mem_cons.mp late with same | late
      · obtain ⟨rfl, -⟩ := Prod.mk.inj same
        exact Nat.le_refl _
      · exact List.rel_of_pairwise_cons (List.pairwise_append.mp inOrder).2.1 late
    exact absurd (before _ ended) (Nat.not_lt_of_le (Nat.le_trans reached onward))

/-! ## Ends within a pause -/

/-- A host on which the harness is process 7 and the subject process 8. Everything else is granted,
and the processes end as they are said to. -/
def endsHost (ends : Timeline) : Host Nat := .byTime fun time r =>
  match r with
  | .readFile _ => .ok sampleText
  | .isFile _ => true
  | .connect _ _ => true
  | .spawn launch => .ok (if launch.program = "wstest" then 7 else 8)
  | .poll process => .ok (ends.found process time)
  | r => r.idle

theorem endsHost_tells (ends : Timeline) (visits : List (Nat × Request)) :
    ends.Tells (endsHost ends) visits := by
  intro time process found _ answered
  exact (Except.ok.inj answered).symm

def usualRest : Program (Except Failure RunReport) :=
  Child.during 2 (harnessLabel .server)
    (usual.harnessLaunch .server "./autobahn/fuzzingserver.json") usual.grace
    (usual.runListener 2 .client (.usual .client) sampleSpec "127.0.0.1:9001" 0)

theorem run_load_ends (ends : Timeline) :
    (Spec.load .server (usual.specPath (.usual .client))).toProgram.run (endsHost ends) 0 =
      (some (.ok sampleSpec), 0) := by
  have loaded := @Spec.run_load_of_read _ (endsHost ends) 0 .server
    (usual.specPath (.usual .client)) sampleText rfl
  rw [ofText_sample] at loaded
  exact loaded

theorem run_address_ends (ends : Timeline) :
    (Action.ofFlaw sampleSpec.listenAddress).toProgram.run (endsHost ends) 0 =
      (some (.ok "127.0.0.1:9001"), 0) := by
  have address : Spec.socketAddress "ws://127.0.0.1:9001" = .ok "127.0.0.1:9001" := by cbv
  simp [sampleSpec, Spec.listenAddress, address, Action.ofFlaw]

/-- A run by the usual settings goes on from the start of the harness. -/
theorem plays_usual {t : Nat} (h : Plays (endsHost ends) usualRest 0 events outcome t) :
    Plays (endsHost ends) (usual.run 2 .client (.usual .client)).toProgram 0
      ([.clock 0] ++ ([.fileRead (usual.specPath (.usual .client)) sampleText] ++ ([] ++ events)))
      outcome t := by
  have clock : Plays (endsHost ends) (Action.lift .now).toProgram 0 [.clock 0] (.ok (0 : Nat)) 0 :=
    ⟨rfl, rfl⟩
  refine Action.plays_bind clock ?_
  refine Action.plays_bind ⟨run_load_ends ends, rfl⟩ ?_
  refine Action.plays_bind ⟨run_address_ends ends, rfl⟩ ?_
  exact h

/-- The harness ends after 5 milliseconds, without success, and the subject ends with success. -/
def endsFirst (later : Nat) : Timeline
  | 7 => some ⟨5000, .exited 1⟩
  | 8 => some ⟨later, .exited 0⟩
  | _ => none

/-- Both ends fall into the first pause, that of the listening side first, and the run ends well. -/
theorem run_earlierEnd_unseen :
    let program := (usual.run 2 .client (.usual .client)).toProgram
    let host := endsHost (endsFirst 10000)
    host.Timed ∧ (endsFirst 10000).Tells host (program.visits host 0) ∧
      started (program.trace host 0) = [7, 8] ∧
      endsFirst 10000 7 = some ⟨5000, .exited 1⟩ ∧ endsFirst 10000 8 = some ⟨10000, .exited 0⟩ ∧
      program.run host 0 = (some (.ok ⟨.client, "./reports/index.json", 0, 20000⟩), 20000) := by
  intro program host
  have played : Plays host program 0 _ (.ok ⟨.client, "./reports/index.json", 0, 20000⟩) 20000 :=
    plays_usual ⟨rfl, rfl⟩
  refine ⟨Host.timed_byTime _, endsHost_tells _ _, ?_, rfl, rfl, played.run⟩
  rw [played.trace]
  rfl

/-- The harness is looked at when the pause is over, and the subject is still there. -/
theorem visits_seen :
    (usualRest.visits (endsHost (endsFirst 30000)) 0)[13]? = some (20000, .poll 7) := rfl

/-- The listening side ends more than a pause earlier: it is looked at in between, and the run
fails. -/
theorem run_earlierEnd_seen :
    let program := (usual.run 2 .client (.usual .client)).toProgram
    let host := endsHost (endsFirst 30000)
    ∃ outcome, program.run host 0 = (some outcome, 20000) ∧
      started (program.trace host 0) = [7, 8] ∧ (20000, .poll 7) ∈ program.visits host 0 ∧
      ∃ failure, outcome = .error failure := by
  intro program host
  have played : Plays host program 0 _ (.error (.infrastructure (.exitedBeforeEnd
      "harness (fuzzingserver)" (.exited 1) "subject client"))) 20000 :=
    plays_usual ⟨rfl, rfl⟩
  have sides : started (program.trace host 0) = [7, 8] := by
    rw [played.trace]
    rfl
  have look : (20000, .poll 7) ∈ program.visits host 0 := by
    have clock : (Action.lift .now).toProgram.run host 0 = (some (.ok (0 : Nat)), 0) := rfl
    refine Action.mem_visits_bind clock ?_
    refine Action.mem_visits_bind (run_load_ends _) ?_
    refine Action.mem_visits_bind (run_address_ends _) ?_
    exact List.mem_of_getElem? visits_seen
  refine ⟨_, played.run, sides, look, ?_⟩
  refine (run_earlierEnd (Host.timed_byTime _) played.run (endsHost_tells _ _) sides).1 20000
    ⟨5000, .exited 1⟩ look rfl ?_ fun other ended => ?_
  · decide
  · obtain rfl : ⟨30000, .exited 0⟩ = other := Option.some.inj ended
    decide

end Orchestrator
end ConformanceGate
