import ConformanceGate.Proofs.Report.Counts
import ConformanceGate.Proofs.Report.Sections
import ConformanceGate.Report.Terminal
import Mathlib

/-!
# The views of a document agree

The counts of a summary, the cells of a page and the failing cases of a terminal text classify
statuses each on its own: by the meaning of a status, by a class for colours, by the text `FAILED`.
A reader of the page finds one cell a case, coloured as it was counted, and a reader of the terminal
text finds the failing cases that were counted. So the three views agree on every document
(`Summary.views_agree`).
-/

namespace ConformanceGate

open Marks

/-! ## The lines of a terminal text -/

def endedLines (text : String) : List String :=
  (text.toList.splitOn '\n').dropLast.map String.ofList

/-- Lines that were ended and put together are found again. -/
theorem endedLines_join {lines : List String} (h : ∀ line ∈ lines, '\n' ∉ line.toList) :
    endedLines (String.join (lines.map (· ++ "\n"))) = lines := by
  have chars : (String.join (lines.map (· ++ "\n"))).toList.splitOn '\n' =
      lines.map String.toList ++ [[]] := by
    induction lines with
    | nil => rfl
    | cons line lines ih =>
      obtain ⟨here, later⟩ := List.forall_mem_cons.mp h
      have next : (String.join ((line :: lines).map (· ++ "\n"))).toList =
          line.toList ++ '\n' :: (String.join (lines.map (· ++ "\n"))).toList := by simp
      rw [next, List.splitOn_append_cons_self_of_not_mem here, ih later]
      rfl
  rw [endedLines, chars]
  simp [Function.comp_def]

def NamesFailures (line : String) : Prop := "  failing cases: ".toList <+: line.toList

instance : DecidablePred NamesFailures := fun line =>
  List.instDecidableIsPrefixOfDecidableEq "  failing cases: ".toList line.toList

def failureLines (text : String) : List String :=
  (endedLines text).filter fun line => NamesFailures line

theorem lineBreak_notMem_toDigits (n : Nat) : '\n' ∉ Nat.toDigits 10 n := fun h =>
  absurd (Nat.isDigit_of_mem_toDigits (by omega) (by omega) h) (by decide)

/-- What stands neither in the parts nor between them does not stand in the whole. -/
theorem notMem_intercalate {c : Char} {between : List Char} {parts : List (List Char)}
    (hbetween : c ∉ between) (hparts : ∀ part ∈ parts, c ∉ part) :
    c ∉ between.intercalate parts := by
  induction parts with
  | nil => simp
  | cons part parts ih =>
    obtain ⟨here, later⟩ := List.forall_mem_cons.mp hparts
    cases parts with
    | nil => simpa using here
    | cons next parts => simpa [here, hbetween] using ih later

theorem lineBreak_notMem_text (id : CaseId) : '\n' ∉ id.text.toList := by
  rw [CaseId.toList_text]
  refine notMem_intercalate (by decide) fun part hpart => ?_
  obtain ⟨n, -, rfl⟩ := List.mem_map.mp hpart
  simpa using lineBreak_notMem_toDigits n.toNat

namespace AgentSummary

/-- The line above the block of an implementation. It has whatever the name has in it, line breaks
included. -/
def headline (a : AgentSummary) : String := a.agent ++ ": " ++ a.counts.total.repr ++ " cases\n"

/-- The text of the block of an implementation below the line with its name. -/
def below (a : AgentSummary) : String := String.join (a.lines.tail.map (· ++ "\n"))

theorem lineBreak_notMem_countLine {label : String} (h : '\n' ∉ label.toList) (n : Nat) :
    '\n' ∉ (countLine label n).toList := by
  simp [countLine, Text.padLeft, h, lineBreak_notMem_toDigits]

end AgentSummary

/-- The terminal text is made of one block for every implementation. -/
theorem Summary.terminalText_eq_blocks (s : Summary) :
    s.terminalText = if s.agents.isEmpty then "no results\n"
      else String.join (s.agents.map fun a => a.headline ++ a.below) := by
  have block (a : AgentSummary) :
      a.headline ++ a.below = String.join (a.lines.map (· ++ "\n")) := by
    have first : a.lines = (a.agent ++ ": " ++ a.counts.total.repr ++ " cases") :: a.lines.tail :=
      rfl
    rw [first, AgentSummary.headline, AgentSummary.below]
    refine String.toList_inj.mp ?_
    simp
  rw [terminalText]
  refine congrArg _ (String.toList_inj.mp ?_)
  simp [block, List.flatMap_map, List.flatMap_assoc]

namespace AgentSummary

def failureLine (ids : List String) : String := "  failing cases: " ++ ", ".intercalate ids

/-- The line lists the cases after its label, with commas between them. -/
theorem toList_failureLine (ids : List String) : (failureLine ids).toList =
    "  failing cases: ".toList ++ [',', ' '].intercalate (ids.map String.toList) := by
  change ("  failing cases: " ++ ", ".intercalate ids).toList = _
  simp

theorem lineBreak_notMem_failureLine {ids : List String} (h : ∀ id ∈ ids, '\n' ∉ id.toList) :
    '\n' ∉ (failureLine ids).toList := by
  have joined : '\n' ∉ [',', ' '].intercalate (ids.map String.toList) := by
    refine notMem_intercalate (by decide) fun part hpart => ?_
    obtain ⟨id, hid, rfl⟩ := List.mem_map.mp hpart
    exact h id hid
  simp [toList_failureLine, joined]

def countLines (a : AgentSummary) : List String :=
  [ countLine "  passed         " a.counts.passed ++
      " (" ++ a.counts.uncleanClose.repr ++ " unclean close)",
    countLine "  non-strict     " a.counts.nonStrict,
    countLine "  unimplemented  " a.counts.unimplemented,
    countLine "  failed         " a.counts.failed,
    countLine "  informational  " a.counts.informational ] ++
  (if a.counts.other = 0 then [] else [countLine "  other          " a.counts.other])

/-- A line of a count is one line, and names no failing cases. -/
theorem of_mem_countLines {a : AgentSummary} {line : String} (h : line ∈ a.countLines) :
    '\n' ∉ line.toList ∧ ¬ NamesFailures line := by
  have other {line : String} (h : line ∈ if a.counts.other = 0 then []
      else [countLine "  other          " a.counts.other]) :
      line = countLine "  other          " a.counts.other := by
    split_ifs at h <;> simp_all
  have plain (label : String) (n : Nat) (h : '\n' ∉ label.toList) :=
    lineBreak_notMem_countLine h n
  rcases List.mem_append.mp h with h | h
  · simp only [List.mem_cons, List.not_mem_nil, or_false] at h
    rcases h with rfl | rfl | rfl | rfl | rfl
    · refine ⟨?_, by simp [NamesFailures, countLine]⟩
      have first := plain "  passed         " a.counts.passed (by decide)
      simp [first, lineBreak_notMem_toDigits]
    all_goals exact ⟨plain _ _ (by decide), by simp [NamesFailures, countLine]⟩
  · rw [other h]
    exact ⟨plain _ _ (by decide), by simp [NamesFailures, countLine]⟩

/-- Below its name a block has one line for every count, and the line of the failing cases if there
are any. -/
theorem failureLines_below (a : AgentSummary) (h : ∀ row ∈ a.rows, '\n' ∉ row.id.toList) :
    failureLines a.below =
      if a.failingCases.isEmpty then [] else [failureLine a.failingCases] := by
  have ids : ∀ id ∈ a.failingCases, '\n' ∉ id.toList := by
    intro id hid
    obtain ⟨row, hrow, rfl⟩ := List.mem_map.mp hid
    exact h row (List.mem_filter.mp hrow).1
  have last := lineBreak_notMem_failureLine ids
  have shape : a.lines.tail = a.countLines ++
      (if a.failingCases.isEmpty then [] else [failureLine a.failingCases]) := rfl
  have ended : ∀ line ∈ a.lines.tail, '\n' ∉ line.toList := by
    intro line hline
    rw [shape] at hline
    rcases List.mem_append.mp hline with hline | hline
    · exact (of_mem_countLines hline).1
    · split_ifs at hline
      · cases hline
      · rwa [List.mem_singleton.mp hline]
  have counts : a.countLines.filter (fun line => NamesFailures line) = [] :=
    List.filter_eq_nil_iff.mpr fun line hline => by simp [(of_mem_countLines hline).2]
  have named (ids : List String) : NamesFailures (failureLine ids) := by
    simp [NamesFailures, toList_failureLine]
  rw [failureLines, below, endedLines_join ended, shape, List.filter_append, counts]
  split_ifs <;> simp [named]

end AgentSummary

/-! ## Agreement -/

def colours : List (String × String) :=
  [("OK", "ok"), ("NON-STRICT", "non-strict"), ("UNIMPLEMENTED", "unimplemented"),
    ("FAILED", "failed"), ("INFORMATIONAL", "informational")]

/-- A colour is that of one status. -/
theorem mem_classes_iff {name cls : String} (h : (name, cls) ∈ colours) (status : String) :
    cls ∈ ["case", statusClass status] ↔ status = name := by
  simp only [colours, List.mem_cons, List.not_mem_nil, or_false, Prod.mk.injEq] at h
  unfold statusClass
  obtain ⟨rfl, rfl⟩ | ⟨rfl, rfl⟩ | ⟨rfl, rfl⟩ | ⟨rfl, rfl⟩ | ⟨rfl, rfl⟩ := h <;>
    split_ifs <;> simp_all

theorem other_mem_classes_iff (status : String) :
    "other" ∈ ["case", statusClass status] ↔ status ∉ Status.known := by
  unfold statusClass Status.known
  split_ifs <;> simp_all

namespace AgentSummary

/-- A section shows an implementation: its name, one cell for every row, in the order of the rows,
and as many cells of every colour as were counted. -/
structure ShownBy (a : AgentSummary) (s : Section) : Prop where
  heading : s.heading = a.agent
  cells : s.cells.map (·.text) = a.rows.map (·.id)
  passed : a.counts.passed = s.cells.countP fun c => "ok" ∈ c.classes
  nonStrict : a.counts.nonStrict = s.cells.countP fun c => "non-strict" ∈ c.classes
  unimplemented : a.counts.unimplemented = s.cells.countP fun c => "unimplemented" ∈ c.classes
  failed : a.counts.failed = s.cells.countP fun c => "failed" ∈ c.classes
  informational : a.counts.informational = s.cells.countP fun c => "informational" ∈ c.classes
  other : a.counts.other = s.cells.countP fun c => "other" ∈ c.classes

/-- The block of an implementation tells which of its cases failed: if any did, there is one line
for them, which names all of them, and no other case, in the order of their identifiers. -/
structure TellsFailures (a : AgentSummary) (cases : List (String × Json)) : Prop where
  none : a.counts.failed = 0 → failureLines a.below = []
  some : 0 < a.counts.failed → ∃ ids : List CaseId,
    failureLines a.below = [failureLine (ids.map CaseId.text)] ∧
      ids.length = a.counts.failed ∧ ids.Pairwise (· < ·) ∧
      ∀ id, id ∈ ids ↔ ∃ record, (id.text, record) ∈ cases ∧ record.hasStatus "FAILED"

variable {a : AgentSummary} {cases : List (String × Json)}

/-- What is counted of the records can be counted of the rows, by their status. -/
theorem Exact.countP_eq (h : a.Exact cases) {p : Json → Bool} {q : CaseRow → Bool}
    (same : ∀ record row, record.get? "behavior" = some (.string row.status) →
      p record = q row) : (cases.map (·.2)).countP p = a.rows.countP q := by
  obtain ⟨records, -, perm, rows⟩ := h.rows
  have values := perm.map (·.2)
  rw [List.map_map] at values
  have pointwise : a.rows.map q = records.map fun m => p m.2 :=
    map_eq_map_iff_forall₂.mpr (rows.imp fun row m tells => (same m.2 row tells.status).symm)
  have counted := congrArg (List.countP id) pointwise
  rw [List.countP_map, List.countP_map] at counted
  rw [← values.countP_eq, List.countP_map]
  exact counted.symm

/-- The cells of a class are as many as the records that are counted under it. -/
theorem Exact.countP_cells (h : a.Exact cases) {p : Json → Bool} {cls : String}
    (same : ∀ record status, record.get? "behavior" = some (.string status) →
      (p record = true ↔ cls ∈ ["case", statusClass status])) :
    (cases.map (·.2)).countP p = a.shownSection.cells.countP fun c => cls ∈ c.classes := by
  have rows := h.countP_eq (p := p) (q := fun r => cls ∈ r.shownCell.classes)
    fun record row found => by
      rw [Bool.eq_iff_iff, same record row.status found, decide_eq_true_iff, CaseRow.shownCell]
  rw [rows, shownSection, List.countP_map]
  rfl

/-- An exact summary is shown by the section that is made of it. -/
theorem Exact.shownBy (h : a.Exact cases) : a.ShownBy a.shownSection := by
  have known {name cls : String} (listed : (name, cls) ∈ colours) :
      (cases.map (·.2)).countP (Json.hasStatus name) =
        a.shownSection.cells.countP fun c => cls ∈ c.classes :=
    h.countP_cells fun record status found => by
      rw [Counts.hasStatus_eq found, decide_eq_true_iff, mem_classes_iff listed]
  refine ⟨rfl, ?_, ?_, ?_, ?_, ?_, ?_, ?_⟩
  · simp [shownSection, CaseRow.shownCell, Function.comp_def]
  · exact h.counts.passed.trans (known (by simp [colours]))
  · exact h.counts.nonStrict.trans (known (by simp [colours]))
  · exact h.counts.unimplemented.trans (known (by simp [colours]))
  · exact h.counts.failed.trans (known (by simp [colours]))
  · exact h.counts.informational.trans (known (by simp [colours]))
  · refine h.counts.other.trans (h.countP_cells fun record status found => ?_)
    rw [other_mem_classes_iff, Json.hasOtherStatus, Status.known]
    simp [Counts.hasStatus_eq found]

/-- The failing cases are as many as were counted. -/
theorem Exact.length_failingCases (h : a.Exact cases) :
    a.failingCases.length = a.counts.failed := by
  have counted := h.countP_eq (p := Json.hasStatus "FAILED")
    (q := fun row => row.status = "FAILED") fun _ _ found => Counts.hasStatus_eq found _
  rw [h.counts.failed, counted, failingCases, List.length_map, List.countP_eq_length_filter]

/-- The failing cases are those whose records have the status `FAILED`, in order. -/
theorem Exact.exists_failed (h : a.Exact cases) :
    ∃ ids : List CaseId, a.failingCases = ids.map CaseId.text ∧ ids.Pairwise (· < ·) ∧
      ∀ id, id ∈ ids ↔ ∃ record, (id.text, record) ∈ cases ∧ record.hasStatus "FAILED" := by
  obtain ⟨records, increasing, perm, rows⟩ := h.rows
  have failed : List.Forall₂ (fun row m => row.Tells m.1 m.2)
      (a.rows.filter fun row => row.status = "FAILED")
      (records.filter fun m => m.2.hasStatus "FAILED") :=
    List.rel_filter (fun row m tells => by simp [Counts.hasStatus_eq tells.status]) rows
  have stored (id : CaseId) (record : Json) :
      (id.text, record) ∈ cases ↔ (id, record) ∈ records := by
    rw [← perm.mem_iff, List.mem_map]
    constructor
    · rintro ⟨m, hm, same⟩
      obtain ⟨text, rfl⟩ := Prod.mk.inj same
      rwa [← CaseId.text_injective text]
    · exact fun hm => ⟨_, hm, rfl⟩
  refine ⟨(records.filter fun m => m.2.hasStatus "FAILED").map (·.1), ?_, ?_, fun id => ?_⟩
  · rw [failingCases, List.map_map]
    exact map_eq_map_iff_forall₂.mpr (failed.imp fun _ _ tells => tells.id)
  · exact List.pairwise_map.mpr (increasing.filter _)
  · simp only [List.mem_map, List.mem_filter, Prod.exists, exists_and_right, exists_eq_right,
      stored]

theorem Exact.lineBreak_notMem_id (h : a.Exact cases) : ∀ row ∈ a.rows, '\n' ∉ row.id.toList := by
  intro row hrow
  obtain ⟨records, -, -, rows⟩ := h.rows
  obtain ⟨m, -, tells⟩ := exists_of_forall₂ rows hrow
  rw [tells.id]
  exact lineBreak_notMem_text m.1

/-- The block of an exact summary names the failing cases. -/
theorem Exact.tellsFailures (h : a.Exact cases) : a.TellsFailures cases := by
  obtain ⟨ids, names, increasing, mem⟩ := h.exists_failed
  have count := h.length_failingCases
  have lines := a.failureLines_below h.lineBreak_notMem_id
  rw [names] at count lines
  rw [List.length_map] at count
  constructor
  · intro zero
    obtain rfl : ids = [] := List.length_eq_zero_iff.mp (count.trans zero)
    exact lines
  · intro positive
    have some : ids ≠ [] := by
      rintro rfl
      rw [List.length_nil] at count
      omega
    refine ⟨ids, ?_, count, increasing, mem⟩
    rw [lines, if_neg (by simpa using some)]

end AgentSummary

/-- The views of a document agree. A page has one section for every implementation, with one cell
for every row and as many cells of every colour as were counted. A terminal text has one block for
every implementation, which tells the cases that failed, as many as were counted. -/
theorem Summary.views_agree {v : Json} {r : Results} (ordered : v.Ordered)
    (ok : Results.ofJson v = .ok r) (o : PageOptions) :
    let s := ofResults r
    List.Forall₂ AgentSummary.ShownBy s.agents
      (sections (Outline.read (s.pageText o).toList).marks) ∧
    (s.terminalText = if s.agents.isEmpty then "no results\n"
      else String.join (s.agents.map fun a => a.headline ++ a.below)) ∧
    ∀ a ∈ s.agents, ∃ cases, v.get? a.agent = some (.object cases) ∧
      (a.rows.map (·.id)).Perm (cases.map (·.1)) ∧ a.TellsFailures cases := by
  intro s
  obtain ⟨agents, rfl, exact⟩ := exact_agents ordered ok
  refine ⟨?_, s.terminalText_eq_blocks, fun a ha => ?_⟩
  · rw [sections_pageText]
    refine List.forall₂_map_right_iff.mpr (List.forall₂_same.mpr fun a ha => ?_)
    obtain ⟨m, -, -, cases, -, exact⟩ := exists_of_forall₂ exact ha
    exact exact.shownBy
  · obtain ⟨⟨name, value⟩, hm, rfl, cases, rfl, exact⟩ := exists_of_forall₂ exact ha
    refine ⟨cases, (Keyed.lookup_eq_some_iff ordered.increasing.nodup).mpr hm, ?_,
      exact.tellsFailures⟩
    obtain ⟨records, -, perm, rows⟩ := exact.rows
    have ids : a.rows.map (·.id) = (records.map fun m => (m.1.text, m.2)).map (·.1) := by
      rw [List.map_map]
      exact map_eq_map_iff_forall₂.mpr (rows.imp fun _ _ tells => tells.id)
    rw [ids]
    exact perm.map _

/-- The page and the text name the same three cases, and the one that fails. -/
theorem Summary.views_agree_mixedCases :
    Results.mixedCases.Ordered ∧ ∃ r a found, Results.ofJson Results.mixedCases = .ok r ∧
      (ofResults r).agents = [a] ∧
      sections (Outline.read ((ofResults r).pageText ⟨"", "", none⟩).toList).marks = [found] ∧
      a.ShownBy found ∧ (∃ cases, a.TellsFailures cases) ∧
      a.rows.map (·.id) = ["1.9", "1.10", "2.1"] ∧
      failureLines a.below = ["  failing cases: 1.9"] := by
  have read : Results.ofJson Results.mixedCases = .ok ⟨[("client",
      [(⟨[1, 9], by simp⟩, ⟨.failed, none, none, none, none⟩),
        (⟨[1, 10], by simp⟩, ⟨.ok, some (.other "WRONG CODE"), none, none, none⟩),
        (⟨[2, 1], by simp⟩, ⟨.other "Ok", none, none, none, none⟩)])]⟩ := by rfl
  obtain ⟨shown, -, told⟩ := views_agree Results.mixedCases_ordered read ⟨"", "", none⟩
  obtain ⟨found, _, first, rest, same⟩ := List.forall₂_cons_left_iff.mp shown
  obtain rfl := List.forall₂_nil_left_iff.mp rest
  obtain ⟨cases, -, -, tells⟩ := told _ (List.mem_singleton_self _)
  exact ⟨Results.mixedCases_ordered, _, _, found, read, rfl, same, first, ⟨cases, tells⟩,
    by decide +kernel, by decide +kernel⟩

end ConformanceGate
