import ConformanceGate.Proofs.Results.Document
import ConformanceGate.Report.Page
import ConformanceGate.Report.Terminal

/-!
# Reports of documents that agree

Fresh results that agree with a baseline look like it in every report. Agreement speaks of the
members of two values, a report of cases and counts; what ties them together is that agreeing
records make cases that count the same (`Policy.SameCase`), and that all that a report shows is made
of them, case by case and implementation by implementation.
-/

namespace ConformanceGate

/-! ## Cases -/

theorem Json.text?_eq_of_same {v w : Json} (h : v.same w) : v.text? = w.text? := by
  cases v <;> cases w <;> simp_all [Json.same, Json.text?]

namespace Policy

variable {p : Policy}

def countedStatus (p : Policy) (s : Status) : Status :=
  if p.relaxed ∧ s = .nonStrict then .ok else s

/-- Statuses that count the same are the same, or both are statuses of a case that passed. -/
theorem eq_or_passed {s t : Status} (h : p.countedStatus s = p.countedStatus t) :
    s = t ∨ (s = .ok ∨ s = .nonStrict) ∧ (t = .ok ∨ t = .nonStrict) := by
  unfold countedStatus at h
  split_ifs at h <;> simp_all

/-- Two cases that look the same once statuses are taken for what they count as. -/
structure SameCase (p : Policy) (c d : TestCase) : Prop where
  status : p.countedStatus c.status = p.countedStatus d.status
  close : c.close.map p.countedStatus = d.close.map p.countedStatus
  report : c.report = d.report

/-- If every status counts as itself, cases look the same only if what is shown of them is. -/
theorem SameCase.of_strict {c d : TestCase} (h : strict.SameCase c d) :
    c.status = d.status ∧ c.close = d.close ∧ c.report = d.report := by
  have counted : strict.countedStatus = id := by
    funext s
    simp [countedStatus, strict]
  have status := h.status
  have close := h.close
  rw [counted] at status close
  exact ⟨status, by simpa using close, h.report⟩

/-- A field of a status counts as its status does. -/
theorem ofText_counted (p : Policy) {field : String}
    (status : field = "behavior" ∨ field = "behaviorClose") (v : Json) :
    (p.counted field v).text?.map Status.ofText =
      (v.text?.map Status.ofText).map p.countedStatus := by
  cases v with
  | string s =>
    by_cases lax : s = "NON-STRICT"
    · subst lax
      by_cases relaxed : p.relaxed <;>
        simp [counted, countedStatus, relaxed, status, Json.same, Json.text?, Status.ofText]
    · have strict : Status.ofText s ≠ .nonStrict := fun h => lax (by
        rw [← Status.text_ofText s, h, Status.text])
      simp [counted, countedStatus, lax, strict, Json.same, Json.text?]
  | _ => simp [counted, Json.same, Json.text?]

/-- Fields that count alike show the same status, up to strictness. -/
theorem status_of_alike {field : String} (status : field = "behavior" ∨ field = "behaviorClose")
    {a b : Option Json} (h : Json.Alike (a.map (p.counted field)) (b.map (p.counted field))) :
    ((a.bind Json.text?).map Status.ofText).map p.countedStatus =
      ((b.bind Json.text?).map Status.ofText).map p.countedStatus := by
  cases a with
  | none => cases b <;> simp_all
  | some v =>
    cases b with
    | none => simp at h
    | some w =>
      simp only [Option.map_some, Json.alike_some] at h
      simp only [Option.bind_some, ← ofText_counted p status, Json.text?_eq_of_same h]

theorem text_of_alike {field : String} (plain : field ≠ "behavior")
    (plain' : field ≠ "behaviorClose") {a b : Option Json}
    (h : Json.Alike (a.map (p.counted field)) (b.map (p.counted field))) :
    a.bind Json.text? = b.bind Json.text? := by
  have same (v : Json) : p.counted field v = v := by simp [counted, plain, plain']
  cases a <;> cases b <;> simp_all
  exact Json.text?_eq_of_same h

/-- Records that agree make cases that look the same. -/
theorem AgreeOnFields.sameCase {record record' : Json} {c d : TestCase}
    (agree : p.AgreeOnFields record record') (shows : c.Shows record) (shows' : d.Shows record') :
    p.SameCase c d where
  status := by
    have same := status_of_alike (.inl rfl) (agree "behavior" (by decide))
    rwa [shows.status, shows'.status, Option.map_some, Option.map_some, Option.some.injEq] at same
  close := by
    have same := status_of_alike (.inr rfl) (agree "behaviorClose" (by decide))
    rwa [shows.close, shows'.close] at same
  report := by
    have same := text_of_alike (by decide) (by decide) (agree "reportfile" (by decide))
    rwa [shows.report, shows'.report] at same

/-! ## Results -/

/-- The same cases in the same order, and those of one identifier look the same. -/
def SameCases (p : Policy) : List (CaseId × TestCase) → List (CaseId × TestCase) → Prop :=
  List.Forall₂ fun a b => a.1 = b.1 ∧ p.SameCase a.2 b.2

/-- Cases whose fields agree under their keys are the same cases. -/
theorem sameCases_of_agree {found found' : List (CaseId × TestCase)}
    {cases cases' : List (String × Json)} (distinct : (cases.map (·.1)).Nodup)
    (distinct' : (cases'.map (·.1)).Nodup) (holds : Results.HoldsCases found cases)
    (holds' : Results.HoldsCases found' cases')
    (agree : ∀ key, Option.Rel p.AgreeOnFields ((Json.object cases).get? key)
      ((Json.object cases').get? key)) :
    p.SameCases found found' := by
  refine (Keyed.forall₂_iff_lookup (R := p.SameCase) holds.increasing holds'.increasing).mpr
    fun id => ?_
  exact rel_between (fun _ _ _ _ shows agree shows' => agree.sameCase shows shows')
    (holds.rel_lookup distinct id) (agree id.text) (holds'.rel_lookup distinct' id)

/-- Results of values that agree have the same implementations, and those have the same cases. -/
theorem sameCases_of_holds {v w : Json} {r r' : Results} (hv : v.Ordered) (hw : w.Ordered)
    (comparable : Json.Comparable v w) (agree : p.Agree v w) (holds : Results.Holds r v)
    (holds' : Results.Holds r' w) :
    List.Forall₂ (fun a b => a.1 = b.1 ∧ p.SameCases a.2 b.2) r.agents r'.agents := by
  refine (Keyed.forall₂_iff_lookup (R := p.SameCases) (holds.increasing hv)
    (holds'.increasing hw)).mpr fun agent => ?_
  refine rel_between ?_ (holds.rel_agent? hv comparable.baseline_results agent)
    (p.agree_iff.mp agree agent) (holds'.rel_agent? hw comparable.fresh_results agent)
  rintro found _ _ found' ⟨cases, rfl, distinct, held⟩ same ⟨cases', rfl, distinct', held'⟩
  exact sameCases_of_agree distinct distinct' held held' same

end Policy

/-! ## Counts -/

namespace Counts

/-- The same counts, but for how many of the passing cases passed strictly and closed cleanly. -/
structure EqLax (a b : Counts) : Prop where
  total : a.total = b.total
  passed : a.passed + a.nonStrict = b.passed + b.nonStrict
  unimplemented : a.unimplemented = b.unimplemented
  failed : a.failed = b.failed
  informational : a.informational = b.informational
  other : a.other = b.other

theorem EqLax.add {a b c d : Counts} (h : EqLax a b) (h' : EqLax c d) :
    EqLax (a.add c) (b.add d) := by
  obtain ⟨_, _, _, _, _, _⟩ := h
  obtain ⟨_, _, _, _, _, _⟩ := h'
  constructor <;> simp only [Counts.add] <;> omega

theorem EqLax.sum {parts others : List Counts} (h : List.Forall₂ EqLax parts others) :
    EqLax (sum parts) (sum others) := by
  unfold Counts.sum
  exact List.rel_foldl (fun _ _ h _ _ h' => h.add h') ⟨rfl, rfl, rfl, rfl, rfl, rfl⟩ h

/-- Cases that look the same, under whatever policy, count the same but for strictness. -/
theorem eqLax_ofCase {p : Policy} {c d : TestCase} (h : p.SameCase c d) :
    EqLax (ofCase c) (ofCase d) := by
  obtain same | ⟨hc, hd⟩ := Policy.eq_or_passed h.status
  · cases hd : d.status <;> constructor <;> simp [ofCase, same, hd]
  · rcases hc with hc | hc <;> rcases hd with hd | hd <;> constructor <;>
      simp [ofCase, hc, hd, zero]

end Counts

/-! ## Summaries -/

namespace AgentSummary

/-- The same implementation with the same cases in the same order, and the same counts but for
strictness. -/
structure EqLax (a b : AgentSummary) : Prop where
  agent : a.agent = b.agent
  ids : a.rows.map (·.id) = b.rows.map (·.id)
  counts : a.counts.EqLax b.counts

variable {p : Policy} {cases cases' : List (CaseId × TestCase)}

/-- The same cases have the same summary. -/
theorem ofCases_eq (agent : String) (h : Policy.strict.SameCases cases cases') :
    ofCases agent cases = ofCases agent cases' := by
  have counts : cases.map (fun c => Counts.ofCase c.2) = cases'.map fun c => Counts.ofCase c.2 :=
    map_eq_map_iff_forall₂.mpr (h.imp fun _ _ ⟨_, same⟩ => by
      obtain ⟨status, close, -⟩ := same.of_strict
      rw [Counts.ofCase, Counts.ofCase, TestCase.closedCleanly, TestCase.closedCleanly, status,
        close])
  have rows : cases.map (fun c => CaseRow.ofCase c.1 c.2) =
      cases'.map fun c => CaseRow.ofCase c.1 c.2 :=
    map_eq_map_iff_forall₂.mpr (h.imp fun _ _ ⟨id, same⟩ => by
      obtain ⟨status, close, report⟩ := same.of_strict
      rw [CaseRow.ofCase, CaseRow.ofCase, id, status, close, report])
  rw [ofCases, ofCases, counts, rows]

/-- Cases that are the same up to strictness have summaries that are. -/
theorem eqLax_ofCases (agent : String) (h : p.SameCases cases cases') :
    EqLax (ofCases agent cases) (ofCases agent cases') where
  agent := rfl
  ids := by
    simp only [ofCases, List.map_map]
    exact map_eq_map_iff_forall₂.mpr (h.imp fun _ _ ⟨id, _⟩ => by simp [CaseRow.ofCase, id])
  counts := by
    refine .sum (List.forall₂_map_left_iff.mpr (List.forall₂_map_right_iff.mpr ?_))
    exact h.imp fun _ _ ⟨_, same⟩ => Counts.eqLax_ofCase same

end AgentSummary

namespace Summary

/-- The same implementations with the same cases, and the same counts but for strictness, of each
implementation and in total. -/
structure EqLax (s t : Summary) : Prop where
  agents : List.Forall₂ AgentSummary.EqLax s.agents t.agents
  totals : s.totals.EqLax t.totals

variable {r r' : Results}

theorem ofResults_eq (h : List.Forall₂ (fun a b => a.1 = b.1 ∧ Policy.strict.SameCases a.2 b.2)
    r.agents r'.agents) : ofResults r = ofResults r' := by
  have agents : (r.agents.map fun a => AgentSummary.ofCases a.1 a.2) =
      r'.agents.map fun a => AgentSummary.ofCases a.1 a.2 :=
    map_eq_map_iff_forall₂.mpr (h.imp fun _ _ ⟨name, same⟩ => by
      rw [name, AgentSummary.ofCases_eq _ same])
  simp only [ofResults, agents]

theorem eqLax_ofResults {p : Policy} (h : List.Forall₂ (fun a b => a.1 = b.1 ∧
    p.SameCases a.2 b.2) r.agents r'.agents) : EqLax (ofResults r) (ofResults r') := by
  have agents : List.Forall₂ AgentSummary.EqLax (ofResults r).agents (ofResults r').agents :=
    List.forall₂_map_left_iff.mpr (List.forall₂_map_right_iff.mpr (h.imp
      fun a b ⟨name, same⟩ => by
        obtain ⟨agent, cases⟩ := a
        obtain rfl : agent = b.1 := name
        exact AgentSummary.eqLax_ofCases b.1 same))
  refine ⟨agents, .sum (List.forall₂_map_left_iff.mpr (List.forall₂_map_right_iff.mpr ?_))⟩
  exact agents.imp fun _ _ same => same.counts

/-- Fresh results that agree with a baseline have its summary, so every report of them reads the
same. If `NON-STRICT` counts as `OK`, they have the same cases and differ at most in how many of
those that passed did so strictly, or closed cleanly. -/
theorem summaries_agree {v w : Json} (hv : v.Ordered) (hw : w.Ordered)
    (ok : Results.ofJson v = .ok r) (ok' : Results.ofJson w = .ok r') (origin origin' : String) :
    (Policy.strict.verify origin v origin' w = .ok .agrees →
      ofResults r = ofResults r' ∧ (ofResults r).terminalText = (ofResults r').terminalText ∧
        ∀ o, (ofResults r).pageText o = (ofResults r').pageText o) ∧
    (Policy.verify ⟨true⟩ origin v origin' w = .ok .agrees →
      EqLax (ofResults r) (ofResults r')) := by
  have loaded (p : Policy) (agrees : p.verify origin v origin' w = .ok .agrees) :
      List.Forall₂ (fun a b => a.1 = b.1 ∧ p.SameCases a.2 b.2) r.agents r'.agents := by
    obtain ⟨comparable, judged⟩ | ⟨-, path, cause, refused⟩ := p.verify_cases origin origin' v w
    · have agree := (p.judge_eq_agrees_iff hv hw comparable).mp
        (Except.ok.inj (judged.symm.trans agrees))
      exact Policy.sameCases_of_holds hv hw comparable agree (Results.holds_of_ofJson hv ok).2
        (Results.holds_of_ofJson hw ok').2
    · cases refused.symm.trans agrees
  refine ⟨fun agrees => ?_, fun agrees => eqLax_ofResults (loaded _ agrees)⟩
  have same := ofResults_eq (loaded _ agrees)
  exact ⟨same, congrArg terminalText same, fun o => congrArg (pageText · o) same⟩

/-- The record of `strictSample` without the volatile field. -/
def untimedSample : Json :=
  .object [("duration", .object [("1.1.1", .object [("behavior", .string "OK")])])]

/-- A duration makes no difference to the summary; a non-strict status makes one, in strictness
alone. -/
theorem summaries_agree_samples :
    ∃ timed untimed lax, Results.ofJson Policy.strictSample = .ok timed ∧
      Results.ofJson untimedSample = .ok untimed ∧ Results.ofJson Policy.laxSample = .ok lax ∧
      timed ≠ untimed ∧ ofResults timed = ofResults untimed ∧
      ofResults timed ≠ ofResults lax ∧ EqLax (ofResults timed) (ofResults lax) := by
  have timed := Policy.strictSample_ordered
  have untimed : untimedSample.Ordered := by
    simp [untimedSample, Json.Ordered, Json.OrderedMembers, Keyed.increasing_cons]
  have lax : Policy.laxSample.Ordered := by
    simp [Policy.laxSample, Json.Ordered, Json.OrderedMembers, Keyed.increasing_cons]
  have read : Results.ofJson Policy.strictSample =
      .ok ⟨[("duration", [(⟨[1, 1, 1], by simp⟩, ⟨.ok, none, some 4, none, none⟩)])]⟩ := by rfl
  have read' : Results.ofJson untimedSample =
      .ok ⟨[("duration", [(⟨[1, 1, 1], by simp⟩, ⟨.ok, none, none, none, none⟩)])]⟩ := by rfl
  have readLax : Results.ofJson Policy.laxSample =
      .ok ⟨[("duration", [(⟨[1, 1, 1], by simp⟩, ⟨.nonStrict, none, none, none, none⟩)])]⟩ := by rfl
  refine ⟨_, _, _, read, read', readLax, by decide, ?_, by decide, ?_⟩
  · exact ((summaries_agree timed untimed read read' "" "").1 rfl).1
  · exact (summaries_agree timed lax read readLax "" "").2 rfl

end Summary
end ConformanceGate
