import ConformanceGate.CommandLine.Commands
import ConformanceGate.Proofs.Run.Results
import Mathlib

/-!
# Gate runs and later comparisons

A gate run and a comparison of the same role find the spec, the results and the baseline on their
own, and take the policy from the settings on their own. They come to the same on the files that the
run has left, unless the spec was changed meanwhile (`Config.runGate_agrees`).
-/

namespace ConformanceGate

open Program

/-! ## Loading is one request -/

/-- What is made of the reply to a single request is one more step of the same. -/
theorem Action.toProgram_bind_ofExcept {α β : Type} {t : Action α} {r : Request}
    {g : r.Reply → Except Failure α} (single : t.toProgram = ask r fun reply => done (g reply))
    (e : α → Except Failure β) :
    (t >>= fun a => Action.ofExcept (e a)).toProgram = ask r fun reply => done (g reply >>= e) := by
  rw [Action.toProgram_bind, single]
  refine congrArg (ask r) (funext fun reply => ?_)
  rw [done_bind]
  cases g reply <;> rfl

theorem Json.load_eq (path : String) :
    (Json.load path).toProgram = ask (.readFile path) fun reply =>
      done (reply.mapError (.system ("reading " ++ path)) >>= fun text =>
        (Json.parse text).mapError (.unreadable path)) :=
  Action.toProgram_bind_ofExcept rfl _

/-- A file is read, parsed and taken for results. -/
theorem Results.load_eq (path : String) :
    (Results.load path).toProgram = ask (.readFile path) fun reply =>
      done ((reply.mapError (.system ("reading " ++ path)) >>= fun text =>
        (Json.parse text).mapError (.unreadable path)) >>= fun v =>
          (Results.ofJson v).mapError (.irregular path)) :=
  Action.toProgram_bind_ofExcept (Json.load_eq path) _

/-! ## Comparing asks for texts only, and ends -/

theorem Json.reads_load (path : String) : (Json.load path).toProgram.Asks Request.Reads :=
  Action.asks_bind (.request ⟨path, rfl⟩) fun _ => trivial

theorem Json.halts_load (path : String) : (Json.load path).toProgram.Halts :=
  Action.halts_bind (fun _ => trivial) fun _ => trivial

namespace Policy

theorem reads_verifyFiles (p : Policy) (baseline fresh : String) :
    (p.verifyFiles baseline fresh).toProgram.Asks Request.Reads :=
  Action.asks_bind (Json.reads_load baseline) fun _ =>
    Action.asks_bind (Json.reads_load fresh) fun _ => trivial

theorem halts_verifyFiles (p : Policy) (baseline fresh : String) :
    (p.verifyFiles baseline fresh).toProgram.Halts :=
  Action.halts_bind (Json.halts_load baseline) fun _ =>
    Action.halts_bind (Json.halts_load fresh) fun _ => trivial

end Policy

variable {σ : Type} {host : Host σ} {s s₁ s' t : σ}

namespace Config

variable {c : Config} {role : Role} {precheck : Bool} {rounds : Nat} {report : RunReport}

/-- The results are expected where the spec of the role has them. -/
theorem run_freshPath {spec : Spec} {text : String}
    (read : host.reading t (c.specPath role) = .ok text)
    (found : Spec.ofText role.mode (c.specPath role) text = .ok spec) :
    (c.freshPath role).toProgram.run host t =
      (some (.ok (spec.resultsIndex c.workingDir)), (host t (.readFile (c.specPath role))).2) := by
  have loaded := Spec.run_load_of_read role.mode read
  rw [found] at loaded
  exact Action.run_bind_ok loaded

/-- A run that ended well reports the results that its spec leads to, if the spec is still there. -/
theorem run_freshPath_of_run
    (ran : ((Orchestrator.ofConfig c precheck).run rounds role (c.role role)).toProgram.run host s =
      (some (.ok report), s'))
    (kept : ∀ text, .fileRead (c.specPath role) text ∈ ((Orchestrator.ofConfig c precheck).run rounds
        role (c.role role)).toProgram.trace host s → host.reading t (c.specPath role) = .ok text) :
    (c.freshPath role).toProgram.run host t =
      (some (.ok report.results), (host t (.readFile (c.specPath role))).2) := by
  obtain ⟨text, spec, read, found, results, -⟩ := Orchestrator.run_ok (runs_trace ran)
  rw [results]
  exact run_freshPath (kept text read) found

/-- Comparing the results of a role compares the files, wherever its spec leads. -/
theorem run_verifyRole {fresh : String} {found : Except Failure Verdict} (same : host.Agree s' t)
    (located : (c.freshPath role).toProgram.run host t =
      (some (.ok fresh), (host t (.readFile (c.specPath role))).2))
    (compared : ((c.policy.verifyFiles (c.baselinePath role) fresh).toProgram.run host s').1 =
      some found) :
    ((c.verifyRole role).toProgram.run host t).1 = some found := by
  have agree := same.next (r := .readFile (c.specPath role)) trivial
  refine (congrArg Prod.fst (Action.run_bind_ok located)).trans ?_
  exact (agree.run_eq (c.policy.reads_verifyFiles _ _)).symm.trans compared

/-- For the log the results are read once, whatever comes of it. -/
theorem logSummary_eq (report : RunReport) : (logSummary report).toProgram =
    ask (.readFile report.results) fun _ => done (.ok ()) := by
  unfold logSummary
  rw [Results.load_eq]
  rfl

/-- After the run, a gate run compares the files. By then it has read the results for the log. -/
theorem run_runGate {found : Except Failure Verdict} {s₂ : σ}
    (checked : host s (.isFile (c.baselinePath role)) = (true, s₁))
    (ran : ((Orchestrator.ofConfig c precheck).run rounds role (c.role role)).toProgram.run host s₁ =
      (some (.ok report), s'))
    (compared : (c.policy.verifyFiles (c.baselinePath role) report.results).toProgram.run host
      (host s' (.readFile report.results)).2 = (some found, s₂)) :
    (c.runGate (.ofConfig c precheck) rounds role).toProgram.run host s =
      (some (found.map fun verdict => ⟨report, c.baselinePath role, c.relaxed, verdict⟩), s₂) := by
  have looked : (Action.lift (.isFile (c.baselinePath role))).toProgram.run host s =
      (some (.ok true), s₁) := by
    have asked := Program.run_request host (.isFile (c.baselinePath role)) s
    rw [checked] at asked
    exact Action.run_lift asked
  have logged : (logSummary report).toProgram.run host s' =
      (some (.ok ()), (host s' (.readFile report.results)).2) := by
    rw [logSummary_eq]
    rfl
  refine (Action.run_bind_ok looked).trans ((Action.run_bind_ok ran).trans ?_)
  refine (Action.run_bind_ok logged).trans ?_
  rcases found with failure | verdict
  · exact Action.run_bind_error compared
  · exact Action.run_bind_ok compared

end Config

namespace CommandLine

def exitCode {α : Type} : Except Failure α → Nat
  | .ok _ => 0
  | .error failure => failure.exitCode

/-- What a command does before it turns to its files. -/
def prepare : Command → Action Unit
  | .gate _ _ _ => Interrupts.install
  | _ => pure ()

/-- The arguments are understood as a command, the settings are loaded, and signals raise the flag
of a gate command. -/
def Starts (host : Host σ) (args : List String) (start : σ) (command : Command) (c : Config)
    (s : σ) : Prop :=
  ∃ path json s₀, parse args = .run ⟨path, json, command⟩ ∧
    (settings path).toProgram.run host start = (some (.ok c), s₀) ∧
    (prepare command).toProgram.run host s₀ = (some (.ok ()), s)

variable {rounds : Nat} {args : List String} {start : σ} {c : Config} {role : Role}
  {relaxed : Bool} {found : Except Failure Verdict}

/-- The exit code of a command line is that of the outcome of its command. -/
theorem run_invoke {invocation : Invocation} {outcome : Except Failure Unit}
    (understood : parse args = .run invocation)
    (executed : ((execute rounds invocation).toProgram.run host start).1 = some outcome) :
    ((invoke rounds args).run host start).1 = some (exitCode outcome) := by
  have ended := Prod.ext (y := (some outcome, _)) executed rfl
  unfold invoke
  rw [understood]
  refine (congrArg Prod.fst (Program.run_bind (execute rounds invocation).toProgram _ start)).trans ?_
  rw [ended]
  rcases outcome with failure | ⟨⟩ <;> rfl

/-- What is told of a verdict does not matter to how a command ends. -/
theorem run_tell {α : Type} (line : String) (t : Action α) (s : σ) :
    (Action.lift (Program.printLine line) >>= fun _ => t).toProgram.run host s =
      t.toProgram.run host (host s (.print (line ++ "\n"))).2 :=
  Action.run_bind_ok (Action.run_lift (Program.run_request host _ s))

/-- A gate command fails as its verdict does. -/
theorem run_gate (json : Bool) {skips : Bool} {report : RunReport} {baseline : String} {s₀ : σ}
    (installed : Interrupts.install.toProgram.run host s₀ = (some (.ok ()), s))
    (ran : (Config.runGate { c with relaxed := relaxed || c.relaxed }
        (.ofConfig { c with relaxed := relaxed || c.relaxed } (!skips)) rounds role).toProgram.run
          host s = (some (found.map fun verdict =>
            ⟨report, baseline, relaxed || c.relaxed, verdict⟩), s')) :
    ((gate rounds c json role relaxed skips).toProgram.run host s₀).1 =
      some (found >>= Verdict.accept) := by
  refine congrArg Prod.fst (Action.run_bind_ok installed) |>.trans ?_
  rcases found with failure | verdict
  · exact congrArg Prod.fst (Action.run_bind_error ran)
  · refine congrArg Prod.fst ((Action.run_bind_ok ran).trans (run_tell _ _ _)) |>.trans ?_
    rcases verdict with _ | diff <;> rfl

/-- So does a command that compares the results of a role. -/
theorem run_verify (json : Bool) {fresh : String}
    (located : (c.freshPath role).toProgram.run host s = (some (.ok fresh), s₁))
    (compared : ((Policy.verifyFiles ⟨relaxed || c.relaxed⟩ (c.baselinePath role)
      fresh).toProgram.run host s₁).1 = some found) :
    ((verify c json (some role) none relaxed).toProgram.run host s).1 =
      some (found >>= Verdict.accept) := by
  have ended := Prod.ext (y := (some found, _)) compared rfl
  unfold verify
  refine congrArg Prod.fst (Action.run_bind_ok located) |>.trans ?_
  rcases found with failure | verdict
  · exact congrArg Prod.fst (Action.run_bind_error ended)
  · refine congrArg Prod.fst (Action.run_bind_ok ended) |>.trans ?_
    exact congrArg Prod.fst (run_tell _ _ _)

end CommandLine

namespace Config

open CommandLine

/-- A gate run whose run ends well comes to what a comparison of the role comes to afterwards, on
the same files: the same verdict or failure, about the results that the spec leads to. So do the
commands, if they relax alike and load the same settings. -/
theorem runGate_agrees {σ : Type} (host : Host σ) {c : Config} {precheck : Bool} {rounds : Nat}
    {role : Role} {report : RunReport} {s s₁ s' t : σ}
    (checked : host s (.isFile (c.baselinePath role)) = (true, s₁))
    (ran : ((Orchestrator.ofConfig c precheck).run rounds role (c.role role)).toProgram.run host s₁ =
      (some (.ok report), s'))
    (kept : ∀ text, .fileRead (c.specPath role) text ∈ ((Orchestrator.ofConfig c precheck).run rounds
        role (c.role role)).toProgram.trace host s₁ → host.reading s' (c.specPath role) = .ok text)
    (same : host.Agree s' t) :
    ∃ found : Except Failure Verdict,
      ((c.runGate (.ofConfig c precheck) rounds role).toProgram.run host s).1 =
        some (found.map fun verdict => ⟨report, c.baselinePath role, c.relaxed, verdict⟩) ∧
      ((c.verifyRole role).toProgram.run host t).1 = some found ∧
      ((c.freshPath role).toProgram.run host t).1 = some (.ok report.results) ∧
      ∀ given relaxed skips args args' start start',
        c = { given with relaxed := relaxed || given.relaxed } → precheck = !skips →
        Starts host args start (.gate role relaxed skips) given s →
        Starts host args' start' (.verify (some role) none relaxed) given t →
        ((invoke rounds args).run host start).1 = some (exitCode (found >>= Verdict.accept)) ∧
          ((invoke rounds args').run host start').1 = some (exitCode (found >>= Verdict.accept)) := by
  obtain ⟨found, s₂, compared⟩ := (c.policy.halts_verifyFiles (c.baselinePath role)
    report.results).run host (host s' (.readFile report.results)).2
  have gated := run_runGate checked ran compared
  -- Reading the results for the log leaves the files as the run has left them.
  have logged : host.Agree (host s' (.readFile report.results)).2 t :=
    (same.symm.next (r := .readFile report.results) trivial).symm
  have located := run_freshPath_of_run (t := t) ran fun text read =>
    (congrFun same.reading _).symm.trans (kept text read)
  have result : ((c.policy.verifyFiles (c.baselinePath role) report.results).toProgram.run host
      (host s' (.readFile report.results)).2).1 = some found := by rw [compared]
  refine ⟨found, by rw [gated], run_verifyRole logged located result, by rw [located], ?_⟩
  rintro given relaxed skips args args' start start' rfl rfl
    ⟨path, json, s₀, understood, loaded, prepared⟩ ⟨path', json', _, understood', loaded', ⟨⟩⟩
  constructor
  · exact run_invoke understood
      ((congrArg Prod.fst (Action.run_bind_ok loaded)).trans (run_gate json prepared gated))
  -- By now the comparing command has read the spec once more than the gate command.
  · have again := (logged.next (r := .readFile (given.specPath role)) trivial).run_eq
      (Policy.reads_verifyFiles ⟨relaxed || given.relaxed⟩ (given.baselinePath role) report.results)
    exact run_invoke understood' ((congrArg Prod.fst (Action.run_bind_ok loaded')).trans
      (run_verify json' located (again.symm.trans result)))

def gateFiles : List (String × String) :=
  ("./autobahn/client-results.json", "\x7b\x7d") :: Orchestrator.emptyFiles

/-- Results left by the harness: the run of the role and the comparison of the files agree. -/
theorem runGate_agrees_left :
    let host := Orchestrator.filesHost [("./reports/index.json", "\x7b\x7d")]
    let left := ("./reports/index.json", "\x7b\x7d") :: gateFiles
    let report : RunReport := ⟨.client, "./reports/index.json", 0, 0⟩
    (Orchestrator.usual.run 2 .client (.usual .client)).toProgram.run host gateFiles =
      (some (.ok report), left) ∧
    host.Agree left left ∧
    ∃ found : Except Failure Verdict,
      ((usual.runGate Orchestrator.usual 2 .client).toProgram.run host gateFiles).1 = some
        (found.map fun verdict => ⟨report, "./autobahn/client-results.json", false, verdict⟩) ∧
      ((usual.verifyRole .client).toProgram.run host left).1 = some found ∧
      ((invoke 2 ["client", "--no-port-check"]).run host gateFiles).1 =
        ((invoke 2 ["verify", "--role", "client"]).run host left).1 := by
  intro host left report
  have gated : parse ["client", "--no-port-check"] =
      .run ⟨none, false, .gate .client false true⟩ := by cbv
  have compared : parse ["verify", "--role", "client"] =
      .run ⟨none, false, .verify (some .client) none false⟩ := by cbv
  have checked : host gateFiles (.isFile (usual.baselinePath .client)) = (true, gateFiles) := rfl
  have ran : ((Orchestrator.ofConfig usual false).run 2 .client (usual.role .client)).toProgram.run
      host gateFiles = (some (.ok report), left) := (Orchestrator.run_usual rfl).trans rfl
  have same : host.Agree left left := (Orchestrator.filesHost_atRest _ left).agree
  have kept : ∀ text, .fileRead (usual.specPath .client) text ∈ ((Orchestrator.ofConfig usual
      false).run 2 .client (usual.role .client)).toProgram.trace host gateFiles →
        host.reading left (usual.specPath .client) = .ok text := by
    intro text read
    obtain ⟨⟨files, request⟩, visited, answered⟩ := List.mem_map.mp read
    obtain ⟨rfl, reply⟩ := Event.mk.inj answered
    exact (Orchestrator.filesHost_reading rfl rfl _ visited).symm.trans (eq_of_heq reply)
  obtain ⟨found, gate, verified, -, codes⟩ := runGate_agrees host checked ran kept same
  obtain ⟨code, code'⟩ := codes usual false true _ _ gateFiles left rfl rfl
    ⟨none, false, _, gated, rfl, rfl⟩ ⟨none, false, _, compared, rfl, rfl⟩
  exact ⟨ran, same, found, gate, verified, code.trans code'.symm⟩

end Config
end ConformanceGate
