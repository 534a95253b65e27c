import ConformanceGate.Proofs.Results.Document
import ConformanceGate.Report.Summary
import Mathlib

/-!
# Exact counts

A summary says of a document what stands in it (`Summary.ofResults_exact`): for every implementation
one row a case, in the order of the identifiers, and of every status how many records have exactly
this text for their status. Every other text counts as `other`, however much it looks like one of
the five.
-/

namespace ConformanceGate

/-! ## What is counted -/

def Status.known : List String := ["OK", "NON-STRICT", "UNIMPLEMENTED", "FAILED", "INFORMATIONAL"]

namespace Json

/-- The record has exactly this text for its status. -/
def hasStatus (s : String) (record : Json) : Bool :=
  match record.get? "behavior" with
  | some (.string text) => text = s
  | _ => false

/-- The record has a status without a meaning of its own. -/
def hasOtherStatus (record : Json) : Bool := Status.known.all fun s => !record.hasStatus s

/-- For its closing handshake the record has something that is neither null nor the status `OK` or
`INFORMATIONAL`. -/
def closesUncleanly (record : Json) : Bool :=
  match record.get? "behaviorClose" with
  | none => false
  | some close =>
    !close.same .null && !close.same (.string "OK") && !close.same (.string "INFORMATIONAL")

end Json

/-- The row tells what is in the record of a case. -/
structure CaseRow.Tells (row : CaseRow) (id : CaseId) (record : Json) : Prop where
  id : row.id = id.text
  status : record.get? "behavior" = some (.string row.status)
  close : (record.get? "behaviorClose").bind Json.text? = row.close
  report : (record.get? "reportfile").bind Json.text? = row.report

namespace Counts

/-- The counts are those of the records: every record is counted once under its status. -/
structure Exact (c : Counts) (records : List Json) : Prop where
  total : c.total = records.length
  parts : c.total =
    c.passed + c.nonStrict + c.unimplemented + c.failed + c.informational + c.other
  passed : c.passed = records.countP (Json.hasStatus "OK")
  uncleanClose : c.uncleanClose =
    records.countP fun record => record.hasStatus "OK" && record.closesUncleanly
  nonStrict : c.nonStrict = records.countP (Json.hasStatus "NON-STRICT")
  unimplemented : c.unimplemented = records.countP (Json.hasStatus "UNIMPLEMENTED")
  failed : c.failed = records.countP (Json.hasStatus "FAILED")
  informational : c.informational = records.countP (Json.hasStatus "INFORMATIONAL")
  other : c.other = records.countP Json.hasOtherStatus

/-- Every count of the whole is the sum of this count of the parts. -/
structure SumOf (whole : Counts) (parts : List Counts) : Prop where
  total : whole.total = (parts.map (·.total)).sum
  passed : whole.passed = (parts.map (·.passed)).sum
  uncleanClose : whole.uncleanClose = (parts.map (·.uncleanClose)).sum
  nonStrict : whole.nonStrict = (parts.map (·.nonStrict)).sum
  unimplemented : whole.unimplemented = (parts.map (·.unimplemented)).sum
  failed : whole.failed = (parts.map (·.failed)).sum
  informational : whole.informational = (parts.map (·.informational)).sum
  other : whole.other = (parts.map (·.other)).sum

/-! ## Adding up -/

theorem sumOf_zero : SumOf zero [] := ⟨rfl, rfl, rfl, rfl, rfl, rfl, rfl, rfl⟩

/-- Adding one more part. -/
theorem SumOf.add {whole : Counts} {parts : List Counts} (h : SumOf whole parts) (part : Counts) :
    SumOf (whole.add part) (parts ++ [part]) := by
  constructor <;> simp [Counts.add, h.total, h.passed, h.uncleanClose, h.nonStrict,
    h.unimplemented, h.failed, h.informational, h.other]

/-- Adding counts up sums every one of them. -/
theorem sumOf_sum (parts : List Counts) : SumOf (sum parts) parts := by
  induction parts using List.reverseRecOn with
  | nil => exact sumOf_zero
  | append_singleton parts part ih =>
    have next : sum (parts ++ [part]) = (sum parts).add part := by simp [sum]
    rw [next]
    exact ih.add part

theorem exact_nil : Exact zero [] := ⟨rfl, rfl, rfl, rfl, rfl, rfl, rfl, rfl, rfl⟩

/-- Adding the counts of more records. -/
theorem Exact.add {a b : Counts} {records more : List Json} (h : Exact a records)
    (h' : Exact b more) : Exact (a.add b) (records ++ more) where
  total := by simp [Counts.add, h.total, h'.total]
  parts := by
    have first := h.parts
    have second := h'.parts
    simp only [Counts.add]
    omega
  passed := by simp [Counts.add, h.passed, h'.passed]
  uncleanClose := by simp [Counts.add, h.uncleanClose, h'.uncleanClose]
  nonStrict := by simp [Counts.add, h.nonStrict, h'.nonStrict]
  unimplemented := by simp [Counts.add, h.unimplemented, h'.unimplemented]
  failed := by simp [Counts.add, h.failed, h'.failed]
  informational := by simp [Counts.add, h.informational, h'.informational]
  other := by simp [Counts.add, h.other, h'.other]

/-- Adding the counts of records one by one. -/
theorem Exact.foldl {parts : List Counts} {records : List Json}
    (h : List.Forall₂ (fun part record => Exact part [record]) parts records) {init : Counts}
    {before : List Json} (start : Exact init before) :
    Exact (parts.foldl Counts.add init) (before ++ records) := by
  induction h generalizing init before with
  | nil => simpa using start
  | cons one _ ih => simpa using ih (start.add one)

/-- The order of the records does not matter. -/
theorem Exact.perm {c : Counts} {records others : List Json} (h : Exact c records)
    (perm : records.Perm others) : Exact c others where
  total := h.total.trans perm.length_eq
  parts := h.parts
  passed := h.passed.trans (perm.countP_eq _)
  uncleanClose := h.uncleanClose.trans (perm.countP_eq _)
  nonStrict := h.nonStrict.trans (perm.countP_eq _)
  unimplemented := h.unimplemented.trans (perm.countP_eq _)
  failed := h.failed.trans (perm.countP_eq _)
  informational := h.informational.trans (perm.countP_eq _)
  other := h.other.trans (perm.countP_eq _)

/-! ## One case -/

/-- A text is one of the five known statuses, or is kept as it is. -/
theorem known_or_other (s : String) :
    s = "OK" ∨ s = "NON-STRICT" ∨ s = "UNIMPLEMENTED" ∨ s = "FAILED" ∨ s = "INFORMATIONAL" ∨
      Status.ofText s = .other s ∧ s ∉ Status.known := by
  unfold Status.ofText Status.known
  split_ifs <;> simp_all

theorem hasStatus_eq {record : Json} {s : String}
    (h : record.get? "behavior" = some (.string s)) (t : String) :
    record.hasStatus t = decide (s = t) := by
  simp [Json.hasStatus, h]

theorem isClean_ofText (s : String) :
    (Status.ofText s).isClean = decide (s = "OK" ∨ s = "INFORMATIONAL") := by
  unfold Status.ofText
  split_ifs <;> simp_all [Status.isClean]

/-- A case closed cleanly unless its record tells of the opposite. -/
theorem closedCleanly_eq {c : TestCase} {record : Json} (isCase : record.IsCase)
    (shows : c.Shows record) : c.closedCleanly = !record.closesUncleanly := by
  have close := shows.close
  rw [TestCase.closedCleanly, Json.closesUncleanly, ← close]
  cases there : record.get? "behaviorClose" with
  | none => rfl
  | some found =>
    obtain rfl | ⟨s, rfl⟩ := isCase.behaviorClose found there
    · rfl
    · simp [Json.text?, isClean_ofText, Json.same, Bool.beq_eq_decide_eq]

/-- A case is counted under the status of its record, and nowhere else. -/
theorem exact_ofCase {c : TestCase} {record : Json} (isCase : record.IsCase)
    (shows : c.Shows record) : Exact (ofCase c) [record] := by
  obtain ⟨s, found⟩ := isCase.behavior
  have status : c.status = .ofText s := by
    have shown := shows.status
    simpa [found, Json.text?] using shown.symm
  have cleanly := closedCleanly_eq isCase shows
  have has := hasStatus_eq found
  obtain rfl | rfl | rfl | rfl | rfl | ⟨other, unknown⟩ := known_or_other s
  case inr.inr.inr.inr.inr =>
    rw [other] at status
    simp only [Status.known, List.mem_cons, List.not_mem_nil, or_false, not_or] at unknown
    constructor <;>
      simp [ofCase, status, zero, has, Json.hasOtherStatus, Status.known, unknown]
  -- The status is one of the five.
  all_goals
    cases unclean : record.closesUncleanly <;> constructor <;>
      simp [ofCase, status, Status.ofText, zero, has, cleanly, unclean, Json.hasOtherStatus,
        Status.known]

/-- The counts of cases are those of the records that the cases show. -/
theorem exact_sum {cases : List (CaseId × TestCase)} {records : List (CaseId × Json)}
    (h : List.Forall₂ (fun c m => m.2.IsCase ∧ c.2.Shows m.2) cases records) :
    Exact (sum (cases.map fun c => ofCase c.2)) (records.map (·.2)) := by
  have parts : List.Forall₂ (fun part record => Exact part [record])
      (cases.map fun c => ofCase c.2) (records.map (·.2)) :=
    List.forall₂_map_left_iff.mpr (List.forall₂_map_right_iff.mpr
      (h.imp fun _ _ ⟨isCase, shows⟩ => exact_ofCase isCase shows))
  exact Exact.foldl parts exact_nil

end Counts

namespace Results

/-- The cases of an implementation show the records under its keys, each under its identifier. -/
theorem HoldsCases.exists_records {found : List (CaseId × TestCase)}
    {cases : List (String × Json)} (holds : HoldsCases found cases)
    (increasing : Keyed.Increasing cases) :
    ∃ records : List (CaseId × Json),
      List.Forall₂ (fun c m => c.1 = m.1 ∧ c.2.Shows m.2) found records ∧
        (records.map fun m => (m.1.text, m.2)).Perm cases := by
  have ordered : Keyed.Increasing found := holds.increasing
  -- Under the text of every identifier there is a record, so none is missing when it is looked up.
  have stored : ∀ c ∈ found, ∃ record, Keyed.lookup c.1.text cases = some record ∧
      c.2.Shows record := by
    intro c hc
    have rel := holds.rel_lookup increasing.nodup c.1
    rw [(Keyed.lookup_eq_some_iff ordered.nodup).mpr hc] at rel
    generalize Keyed.lookup c.1.text cases = there at rel ⊢
    cases rel with
    | some shows => exact ⟨_, rfl, shows⟩
  let record (c : CaseId × TestCase) : Json := (Keyed.lookup c.1.text cases).getD .null
  refine ⟨found.map fun c => (c.1, record c), ?_, ?_⟩
  · refine List.forall₂_map_right_iff.mpr (List.forall₂_same.mpr fun c hc => ⟨rfl, ?_⟩)
    obtain ⟨there, looked, shows⟩ := stored c hc
    simpa [record, looked] using shows
  · rw [List.map_map]
    have texts : (found.map fun c => (c.1.text, record c)).Nodup := by
      have ids := ordered.nodup.map CaseId.text_injective
      refine List.Nodup.of_map (·.1) ?_
      simpa [Function.comp_def] using ids
    have subset : (found.map fun c => (c.1.text, record c)) ⊆ cases := by
      intro m hm
      obtain ⟨c, hc, rfl⟩ := List.mem_map.mp hm
      obtain ⟨there, looked, -⟩ := stored c hc
      simpa [record, looked] using Keyed.mem_of_lookup looked
    exact (texts.subperm subset).perm_of_length_le (by simp [holds.count])

/-- What was read of a document shows its cases, implementation by implementation. -/
theorem forall₂_agents_of_ofJson {v : Json} {r : Results} (ordered : v.Ordered)
    (ok : ofJson v = .ok r) :
    ∃ agents, v = .object agents ∧ List.Forall₂ (fun a m => a.1 = m.1 ∧ ∃ cases,
      m.2 = .object cases ∧ Keyed.Increasing cases ∧ (∀ m ∈ cases, m.2.IsCase) ∧
        HoldsCases a.2 cases) r.agents agents := by
  obtain ⟨-, cause, error, -⟩ | ⟨results, readable, r', ok', holds⟩ | ⟨-, cause, error, -⟩ :=
    ofJson_cases ordered
  · cases ok.symm.trans error
  · cases ok.symm.trans ok'
    obtain ⟨agents, rfl, -⟩ := id results
    refine ⟨agents, rfl, (Keyed.forall₂_iff_lookup (R := fun found value => ∃ cases,
      value = .object cases ∧ Keyed.Increasing cases ∧ (∀ m ∈ cases, m.2.IsCase) ∧
        HoldsCases found cases) (holds.increasing ordered) ordered.increasing).mpr
      fun agent => ?_⟩
    have rel := holds.rel_agent? ordered results agent
    rw [Json.get?_object, agent?] at rel
    generalize Keyed.lookup agent r.agents = there at rel ⊢
    generalize hv : Keyed.lookup agent agents = value at rel ⊢
    cases rel with
    | none => exact .none
    | some held =>
      obtain ⟨cases, rfl, distinct, held⟩ := held
      have inner : (Json.object cases).Ordered := ordered.get? hv
      refine .some ⟨cases, rfl, inner.increasing, fun m hm => ?_, held⟩
      have stands : (Json.object agents).follow? [agent, m.1] = some m.2 := by
        simpa [hv] using (Keyed.lookup_eq_some_iff distinct).mpr hm
      exact (readable agent m.1 m.2 stands).record
  · cases ok.symm.trans error

end Results

/-! ## The summary -/

/-- The row of a case tells what is in its record. -/
theorem CaseRow.tells_ofCase {id : CaseId} {c : TestCase} {record : Json}
    (isCase : record.IsCase) (shows : c.Shows record) : (CaseRow.ofCase id c).Tells id record where
  id := rfl
  status := by
    obtain ⟨s, found⟩ := isCase.behavior
    have status : Status.ofText s = c.status := by simpa [found, Json.text?] using shows.status
    simp [CaseRow.ofCase, ← status, found]
  close := by
    have same (s : Option String) : (s.map Status.ofText).map Status.text = s := by
      cases s <;> simp
    rw [CaseRow.ofCase, ← shows.close, same]
  report := shows.report

/-- The summary of an implementation has one row for every case, in the order of the identifiers,
and counts the cases exactly. -/
structure AgentSummary.Exact (a : AgentSummary) (cases : List (String × Json)) : Prop where
  rows : ∃ records : List (CaseId × Json), records.Pairwise (fun m n => m.1 < n.1) ∧
    (records.map fun m => (m.1.text, m.2)).Perm cases ∧
    List.Forall₂ (fun row m => row.Tells m.1 m.2) a.rows records
  counts : a.counts.Exact (cases.map (·.2))

/-- The summary of an implementation counts its records exactly. -/
theorem AgentSummary.exact_ofCases (agent : String) {found : List (CaseId × TestCase)}
    {cases : List (String × Json)} (increasing : Keyed.Increasing cases)
    (records : ∀ m ∈ cases, m.2.IsCase) (holds : Results.HoldsCases found cases) :
    (AgentSummary.ofCases agent found).Exact cases := by
  obtain ⟨shown, rel, perm⟩ := holds.exists_records increasing
  have isCase : ∀ m ∈ shown, m.2.IsCase := fun m hm =>
    records _ (perm.subset (List.mem_map_of_mem (f := fun m => (m.1.text, m.2)) hm))
  have cases_shown : List.Forall₂ (fun c m => m.2.IsCase ∧ c.1 = m.1 ∧ c.2.Shows m.2) found shown :=
    ((List.forall₂_and_left _ _).mpr ⟨isCase, rel.flip⟩).flip
  have ids : found.map (·.1) = shown.map (·.1) :=
    map_eq_map_iff_forall₂.mpr (rel.imp fun _ _ h => h.1)
  refine ⟨⟨shown, ?_, perm, ?_⟩, ?_⟩
  · have inOrder : (found.map (·.1)).Pairwise (· < ·) := List.pairwise_map.mpr holds.increasing
    rw [ids] at inOrder
    exact List.pairwise_map.mp inOrder
  · refine List.forall₂_map_left_iff.mpr (cases_shown.imp fun c m ⟨isCase, id, shows⟩ => ?_)
    rw [id]
    exact CaseRow.tells_ofCase isCase shows
  · have counted := Counts.exact_sum (cases_shown.imp fun _ _ ⟨isCase, _, shows⟩ =>
      ⟨isCase, shows⟩)
    have values := perm.map (·.2)
    rw [List.map_map] at values
    exact counted.perm values

/-- Every implementation of the document has its exact summary, in the order of the document. -/
theorem Summary.exact_agents {v : Json} {r : Results} (ordered : v.Ordered)
    (ok : Results.ofJson v = .ok r) :
    ∃ agents, v = .object agents ∧
      List.Forall₂ (fun a m => a.agent = m.1 ∧ ∃ cases, m.2 = .object cases ∧ a.Exact cases)
        (ofResults r).agents agents := by
  obtain ⟨agents, rfl, rel⟩ := Results.forall₂_agents_of_ofJson ordered ok
  refine ⟨agents, rfl, List.forall₂_map_left_iff.mpr (rel.imp ?_)⟩
  rintro a m ⟨name, cases, value, increasing, records, holds⟩
  exact ⟨name, cases, value, AgentSummary.exact_ofCases a.1 increasing records holds⟩

/-- The summary of a document has one entry for every implementation, in the order of their names.
Each has one row for every case, in the order of the identifiers, and exact counts of the records by
their status. The counts of all implementations are added up one by one. -/
theorem Summary.ofResults_exact {v : Json} {r : Results} (ordered : v.Ordered)
    (ok : Results.ofJson v = .ok r) :
    ∃ agents, v = .object agents ∧ (agents.map (·.1)).Pairwise (· < ·) ∧
      List.Forall₂ (fun a m => a.agent = m.1 ∧ ∃ cases, m.2 = .object cases ∧ a.Exact cases)
        (ofResults r).agents agents ∧
      (ofResults r).totals.SumOf ((ofResults r).agents.map (·.counts)) := by
  obtain ⟨agents, rfl, exact⟩ := exact_agents ordered ok
  exact ⟨agents, rfl, List.pairwise_map.mpr ordered.increasing, exact, Counts.sumOf_sum _⟩

namespace Results

/-- A case that passed without a clean close, one that failed, and one whose status only looks like
that of a case that passed. -/
def mixedCases : Json :=
  .object [("client", .object [
    ("1.10", .object [("behavior", .string "OK"), ("behaviorClose", .string "WRONG CODE")]),
    ("1.9", .object [("behavior", .string "FAILED")]),
    ("2.1", .object [("behavior", .string "Ok")])])]

theorem mixedCases_ordered : mixedCases.Ordered := by
  have keys : "1.10" < "1.9" ∧ "1.10" < "2.1" ∧ "1.9" < "2.1" := by decide
  have fields : "behavior" < "behaviorClose" := by decide
  simp only [mixedCases, Json.Ordered, Json.OrderedMembers, Keyed.increasing_cons,
    Keyed.increasing_nil, List.forall_mem_cons, List.not_mem_nil, false_implies, implies_true,
    keys, fields, and_self]

end Results

/-- Three cases: one passes with an unclean close, one fails and one has a status of its own. -/
theorem Summary.ofResults_exact_mixedCases :
    Results.mixedCases.Ordered ∧ ∃ r a, Results.ofJson Results.mixedCases = .ok r ∧
      (ofResults r).agents = [a] ∧ a.agent = "client" ∧
      (∃ cases, Results.mixedCases = .object [("client", .object cases)] ∧ a.Exact cases) ∧
      a.rows.map (·.id) = ["1.9", "1.10", "2.1"] ∧ a.counts = ⟨3, 1, 1, 0, 0, 1, 0, 1⟩ := by
  have read : Results.ofJson Results.mixedCases = .ok ⟨[("client",
      [(⟨[1, 9], by simp⟩, ⟨.failed, none, none, none, none⟩),
        (⟨[1, 10], by simp⟩, ⟨.ok, some (.other "WRONG CODE"), none, none, none⟩),
        (⟨[2, 1], by simp⟩, ⟨.other "Ok", none, none, none, none⟩)])]⟩ := by rfl
  obtain ⟨agents, same, -, rel, -⟩ := ofResults_exact Results.mixedCases_ordered read
  obtain rfl := Json.object.inj same
  cases rel with
  | cons first _ =>
    obtain ⟨-, cases, value, exact⟩ := first
    obtain rfl := Json.object.inj value
    exact ⟨Results.mixedCases_ordered, _, _, read, rfl, rfl, ⟨_, rfl, exact⟩, by decide +kernel,
      by decide +kernel⟩

end ConformanceGate
