import ConformanceGate.Proofs.Report.Page
import Mathlib

/-!
# The sections of the page

From the outline of a page a reader makes sections, each with a heading and a grid of cells, by
looking for the tags that open and close them (`Marks.sections`). As no datum can look like a tag,
these are one section for every implementation, with one cell for every row
(`Summary.sections_pageText`).
-/

namespace ConformanceGate

/-! ## Reading sections and cells -/

/-- What a reader of markup sees: delimiters, each with the text after it. -/
abbrev Marks := List (Char × List Char)

namespace Marks

/-- What stands in the elements that one of the opening tags opens and one of the closing tags
closes, one after the other. Inside an element `found` is what has been read of it. -/
def elementsFrom (opening closing : List String) : Option Marks → Marks → List Marks
  | _, [] => []
  | none, m :: rest =>
    elementsFrom opening closing (if m ∈ opening.map (mark '<') then some [] else none) rest
  | some found, m :: rest =>
    if m ∈ closing.map (mark '<') then found :: elementsFrom opening closing none rest
    else elementsFrom opening closing (some (found ++ [m])) rest

/-- What stands in the elements that are not inside of others. -/
def elements (opening closing : List String) : Marks → List Marks :=
  elementsFrom opening closing none

/-- The classes of an element whose opening tag names them first. -/
def classes : Marks → List String
  | ('"', text) :: _ => (text.splitOn ' ').map String.ofList
  | _ => []

/-- The text of an element, without its tags. -/
def text (inside : Marks) : String :=
  String.ofList ((inside.filter fun m => m.1 = '>').flatMap (·.2))

theorem mark_inj {c d : Char} {s t : String} : mark c s = mark d t ↔ c = d ∧ s = t := by
  simp [mark, String.toList_inj]

def Lacks (names : List String) (marks : Marks) : Prop := ∀ m ∈ marks, m ∉ names.map (mark '<')

section Elements

variable {opening closing names : List String} {marks marks' : Marks}

theorem lacks_nil : Lacks names [] := nofun

theorem lacks_cons {m : Char × List Char} :
    Lacks names (m :: marks) ↔ m ∉ names.map (mark '<') ∧ Lacks names marks :=
  List.forall_mem_cons

theorem lacks_append : Lacks names (marks ++ marks') ↔ Lacks names marks ∧ Lacks names marks' := by
  simp [Lacks, or_imp, forall_and]

theorem lacks_flatMap {α : Type} {items : List α} {f : α → Marks} (h : ∀ a, Lacks names (f a)) :
    Lacks names (items.flatMap f) := by
  intro m hm
  obtain ⟨a, -, hm⟩ := List.mem_flatMap.mp hm
  exact h a m hm

/-- Where no tag begins there is none of these tags. -/
theorem lacks_of_ne (h : ∀ m ∈ marks, m.1 ≠ '<') : Lacks names marks := by
  intro m hm there
  obtain ⟨name, -, rfl⟩ := List.mem_map.mp there
  exact h _ hm rfl

/-- What has no opening tag is skipped. -/
theorem elements_skip (h : Lacks opening marks) (rest : Marks) :
    elements opening closing (marks ++ rest) = elements opening closing rest := by
  induction marks with
  | nil => rfl
  | cons m front ih =>
    obtain ⟨here, later⟩ := List.forall_mem_cons.mp h
    rw [List.cons_append, elements, elementsFrom, if_neg here]
    exact ih later

theorem elements_of_lacks (h : Lacks opening marks) : elements opening closing marks = [] := by
  have skipped : elements opening closing (marks ++ []) = [] := elements_skip h []
  rwa [List.append_nil] at skipped

/-- What has no closing tag belongs to the element that is open. -/
theorem elementsFrom_inside (h : Lacks closing marks) (found rest : Marks) :
    elementsFrom opening closing (some found) (marks ++ rest) =
      elementsFrom opening closing (some (found ++ marks)) rest := by
  induction marks generalizing found with
  | nil => simp
  | cons m inside ih =>
    obtain ⟨here, later⟩ := List.forall_mem_cons.mp h
    rw [List.cons_append, elementsFrom, if_neg here, ih later, List.append_assoc,
      List.singleton_append]

/-- One element and what comes after it. -/
theorem elements_element {start stop : Char × List Char} (starts : start ∈ opening.map (mark '<'))
    (stops : stop ∈ closing.map (mark '<')) (h : Lacks closing marks) (rest : Marks) :
    elements opening closing (start :: (marks ++ stop :: rest)) =
      marks :: elements opening closing rest := by
  rw [elements, elementsFrom, if_pos starts, elementsFrom_inside h, elementsFrom, if_pos stops,
    List.nil_append]

end Elements
end Marks

/-- A cell as a reader finds it. -/
structure Cell where
  classes : List String
  text : String

/-- A section as a reader finds it. -/
structure Section where
  heading : String
  cells : List Cell

namespace Marks

def cells (grid : Marks) : List Cell :=
  (elements ["a class=", "span class="] ["/a", "/span"] grid).map fun inside =>
    ⟨inside.classes, inside.text⟩

def readSection (inside : Marks) : Section where
  heading := "".intercalate ((elements ["h2"] ["/h2"] inside).map text)
  cells := ((elements ["div class="] ["/div"] inside).filter fun e => e.classes = ["grid"]).flatMap
    cells

def sections (page : Marks) : List Section :=
  (elements ["section class="] ["/section"] page).map readSection

end Marks

/-! ## The sections of a page -/

open Marks

def CaseRow.shownCell (r : CaseRow) : Cell := ⟨["case", statusClass r.status], r.id⟩

def AgentSummary.shownSection (a : AgentSummary) : Section :=
  ⟨a.agent, a.rows.map CaseRow.shownCell⟩

namespace CaseRow

theorem classes_case (status : String) (rest : Marks) :
    classes (mark '"' ("case " ++ statusClass status) :: rest) =
      ["case", statusClass status] := by
  unfold statusClass
  split_ifs <;> rfl

/-- The marks of a cell are one element that is read as the cell of the case. -/
theorem marks_eq_element (r : CaseRow) (base : String) :
    ∃ (start : Char × List Char) (inside : Marks) (stop : Char × List Char),
      r.marks base = start :: (inside ++ stop :: [mark '>' "\n"]) ∧
      start ∈ ["a class=", "span class="].map (mark '<') ∧
      stop ∈ ["/a", "/span"].map (mark '<') ∧ (∀ m ∈ inside, m.1 ≠ '<') ∧
      (⟨inside.classes, inside.text⟩ : Cell) = r.shownCell := by
  cases linked : r.link? base with
  | some link =>
    refine ⟨mark '<' "a class=", [mark '"' ("case " ++ statusClass r.status), mark '"' " href=",
      mark '"' link, mark '"' " title=", mark '"' r.tip, mark '"' "", mark '>' r.id],
      mark '<' "/a", ?_, by simp, by simp, by simp [mark], ?_⟩
    · simp [marks, linked]
    · rw [classes_case]
      simp [shownCell, text, mark]
  | none =>
    refine ⟨mark '<' "span class=", [mark '"' ("case " ++ statusClass r.status),
      mark '"' " title=", mark '"' r.tip, mark '"' "", mark '>' r.id],
      mark '<' "/span", ?_, by simp, by simp, by simp [mark], ?_⟩
    · simp [marks, linked]
    · rw [classes_case]
      simp [shownCell, text, mark]

/-- Cells are read one by one. -/
theorem cells_flatMap (rows : List CaseRow) (base : String) :
    cells (rows.flatMap (·.marks base)) = rows.map shownCell := by
  induction rows with
  | nil => rfl
  | cons r rows ih =>
    obtain ⟨start, inside, stop, element, starts, stops, plain, cell⟩ := r.marks_eq_element base
    have blank : Lacks ["a class=", "span class="] [mark '>' "\n"] := lacks_of_ne (by simp [mark])
    rw [List.map_cons, ← ih, ← cell, List.flatMap_cons, element, cells, List.cons_append,
      List.append_assoc, List.cons_append, elements_element starts stops (lacks_of_ne plain),
      elements_skip blank]
    rfl

end CaseRow

namespace AgentSummary

def countsMarks (a : AgentSummary) : Marks :=
  [mark '>' "\n", mark '<' "ul class=", mark '"' "counts", mark '"' "", mark '>' "\n"] ++
  a.counts.shown.flatMap countMarks ++ [mark '<' "/ul", mark '>' "\n"]

def frontMarks (a : AgentSummary) : Marks :=
  [mark '"' "agent", mark '"' "", mark '>' "\n"] ++
  mark '<' "h2" :: ([mark '>' a.agent] ++ mark '<' "/h2" :: a.countsMarks)

def gridMarks (a : AgentSummary) (base : String) : Marks :=
  [mark '"' "grid", mark '"' "", mark '>' "\n"] ++ a.rows.flatMap (·.marks base)

def insideMarks (a : AgentSummary) (base : String) : Marks :=
  a.frontMarks ++
  mark '<' "div class=" :: (a.gridMarks base ++ mark '<' "/div" :: [mark '>' "\n"])

/-- The marks of a section are one element and the line break after it. -/
theorem marks_eq_element (a : AgentSummary) (base : String) :
    a.marks base = mark '<' "section class=" ::
      (a.insideMarks base ++ mark '<' "/section" :: [mark '>' "\n"]) := by
  simp [marks, insideMarks, frontMarks, countsMarks, gridMarks]

/-- Beside the heading and the grid a section has the tags of its counts only. -/
theorem lacks_countsMarks {name : String} (h : name ∉ ["ul class=", "li class=", "/li", "/ul"])
    (a : AgentSummary) : Lacks [name] a.countsMarks := by
  simp only [List.mem_cons, List.not_mem_nil, or_false, not_or] at h
  obtain ⟨list, item, endItem, endList⟩ := h
  refine lacks_append.mpr ⟨lacks_append.mpr ⟨?_, lacks_flatMap fun shown => ?_⟩, ?_⟩
  · simp [Lacks, mark_inj, Ne.symm list]
  · simp [Lacks, countMarks, mark_inj, Ne.symm item, Ne.symm endItem]
  · simp [Lacks, mark_inj, Ne.symm endList]

/-- A grid has the tags of its cells only. -/
theorem lacks_gridMarks {name : String} (h : name ∉ ["a class=", "span class=", "/a", "/span"])
    (a : AgentSummary) (base : String) : Lacks [name] (a.gridMarks base) := by
  simp only [List.mem_cons, List.not_mem_nil, or_false, not_or] at h
  obtain ⟨link, plain, endLink, endPlain⟩ := h
  refine lacks_append.mpr ⟨by simp [Lacks, mark_inj], lacks_flatMap fun r => ?_⟩
  cases linked : r.link? base with
  | some target => simp [Lacks, CaseRow.marks, linked, mark_inj, Ne.symm link, Ne.symm endLink]
  | none => simp [Lacks, CaseRow.marks, linked, mark_inj, Ne.symm plain, Ne.symm endPlain]

/-- The heading of a section is the name of the implementation. -/
theorem elements_heading (a : AgentSummary) (base : String) :
    elements ["h2"] ["/h2"] (a.insideMarks base) = [[mark '>' a.agent]] := by
  have counts : Lacks ["h2"] a.countsMarks := lacks_countsMarks (by decide) a
  have grid : Lacks ["h2"] (a.gridMarks base) := lacks_gridMarks (by decide) a base
  have front : Lacks ["h2"] [mark '"' "agent", mark '"' "", mark '>' "\n"] := by
    simp [Lacks, mark_inj]
  have inside : Lacks ["/h2"] [mark '>' a.agent] := by simp [Lacks, mark_inj]
  have later : Lacks ["h2"] (a.countsMarks ++
      mark '<' "div class=" :: (a.gridMarks base ++ mark '<' "/div" :: [mark '>' "\n"])) := by
    simp [lacks_append, lacks_cons, lacks_nil, mark_inj, counts, grid]
  have shape : a.insideMarks base = [mark '"' "agent", mark '"' "", mark '>' "\n"] ++
      mark '<' "h2" :: ([mark '>' a.agent] ++ mark '<' "/h2" :: (a.countsMarks ++
        mark '<' "div class=" :: (a.gridMarks base ++ mark '<' "/div" :: [mark '>' "\n"]))) := by
    simp [insideMarks, frontMarks]
  rw [shape, elements_skip front, elements_element (by simp) (by simp) inside,
    elements_of_lacks later]

/-- There is one grid in a section. -/
theorem elements_grid (a : AgentSummary) (base : String) :
    elements ["div class="] ["/div"] (a.insideMarks base) = [a.gridMarks base] := by
  have counts : Lacks ["div class="] a.countsMarks := lacks_countsMarks (by decide) a
  have grid : Lacks ["/div"] (a.gridMarks base) := lacks_gridMarks (by decide) a base
  have front : Lacks ["div class="] a.frontMarks := by
    simp [frontMarks, lacks_cons, mark_inj, counts]
  rw [insideMarks, elements_skip front, elements_element (by simp) (by simp) grid,
    elements_of_lacks (by simp [Lacks, mark_inj])]

/-- A section is read as what it was made to show. -/
theorem readSection_insideMarks (a : AgentSummary) (base : String) :
    readSection (a.insideMarks base) = a.shownSection := by
  have blank : Lacks ["a class=", "span class="] [mark '"' "grid", mark '"' "", mark '>' "\n"] := by
    simp [Lacks, mark_inj]
  have cells : cells (a.gridMarks base) = a.rows.map CaseRow.shownCell := by
    rw [Marks.cells, gridMarks, elements_skip blank]
    exact CaseRow.cells_flatMap a.rows base
  have grid : classes (a.gridMarks base) = ["grid"] := by rfl
  have heading : text [mark '>' a.agent] = a.agent := by simp [text, mark]
  rw [readSection, elements_heading, elements_grid, shownSection]
  simp [heading, grid, cells]

/-- No section is inside of another one. -/
theorem lacks_insideMarks (a : AgentSummary) (base : String) :
    Lacks ["/section"] (a.insideMarks base) := by
  have counts : Lacks ["/section"] a.countsMarks := lacks_countsMarks (by decide) a
  have grid : Lacks ["/section"] (a.gridMarks base) := lacks_gridMarks (by decide) a base
  simp [insideMarks, frontMarks, lacks_append, lacks_cons, lacks_nil, mark_inj, counts, grid]

/-- Sections are read one by one. -/
theorem sections_flatMap (agents : List AgentSummary) (base : String) (rest : Marks) :
    sections (agents.flatMap (·.marks base) ++ rest) =
      agents.map shownSection ++ sections rest := by
  induction agents with
  | nil => rfl
  | cons a agents ih =>
    have blank : Lacks ["section class="] [mark '>' "\n"] := by simp [Lacks, mark_inj]
    have shape : (a :: agents).flatMap (·.marks base) ++ rest = mark '<' "section class=" ::
        (a.insideMarks base ++ mark '<' "/section" ::
          ([mark '>' "\n"] ++ (agents.flatMap (·.marks base) ++ rest))) := by
      simp [marks_eq_element]
    rw [List.map_cons, List.cons_append, ← ih, shape, sections,
      elements_element (by simp) (by simp) (a.lacks_insideMarks base), elements_skip blank,
      List.map_cons, readSection_insideMarks, ← sections]

end AgentSummary

/-- A reader of a page finds one section for every implementation, with its name for heading, and in
it one cell for every row. -/
theorem Summary.sections_pageText (s : Summary) (o : PageOptions) :
    sections (Outline.read (s.pageText o).toList).marks =
      s.agents.map AgentSummary.shownSection := by
  have head : Lacks ["section class="] (headMarks o.shownTitle style) := by
    simp [Lacks, headMarks, mark_inj]
  have foot : Lacks ["section class="] (o.generatedAt.elim []
      (fun seconds => footerMarks (Timestamp.text seconds)) ++
      [mark '<' "/body", mark '>' "", mark '<' "/html", mark '>' "\n"]) := by
    cases o.generatedAt <;> simp [Lacks, footerMarks, mark_inj]
  rw [read_pageText, marks, List.append_assoc, List.append_assoc]
  have found := AgentSummary.sections_flatMap s.agents o.reportBase (o.generatedAt.elim []
      (fun seconds => footerMarks (Timestamp.text seconds)) ++
      [mark '<' "/body", mark '>' "", mark '<' "/html", mark '>' "\n"])
  rw [sections, elements_skip head, ← sections, found, sections, elements_of_lacks foot,
    List.map_nil, List.append_nil]

end ConformanceGate
