import ConformanceGate.Proofs.Except
import ConformanceGate.Proofs.Report.Entities

/-!
# The structure of the page

A reader of the page finds every datum where the page puts it, as it was, and no delimiter but those
of the markup: the outline of a page is known beforehand (`Summary.read_pageText`). So the structure
of a page is a matter of how many implementations and cases there are, which of the cases have a
link, and whether there is a date, and of nothing else.
-/

namespace ConformanceGate

open Outline

/-- A delimiter with the text that comes after it. -/
def mark (c : Char) (text : String) : Char × List Char := (c, text.toList)

/-! ## What a reader finds -/

def CaseRow.marks (r : CaseRow) (base : String) : List (Char × List Char) :=
  match r.link? base with
  | some link =>
    [mark '<' "a class=", mark '"' ("case " ++ statusClass r.status), mark '"' " href=",
      mark '"' link, mark '"' " title=", mark '"' r.tip, mark '"' "", mark '>' r.id,
      mark '<' "/a", mark '>' "\n"]
  | none =>
    [mark '<' "span class=", mark '"' ("case " ++ statusClass r.status), mark '"' " title=",
      mark '"' r.tip, mark '"' "", mark '>' r.id, mark '<' "/span", mark '>' "\n"]

def countMarks (shown : String × String × Nat) : List (Char × List Char) :=
  [mark '<' "li class=", mark '"' shown.2.1, mark '"' "",
    mark '>' (shown.1 ++ ": " ++ shown.2.2.repr), mark '<' "/li", mark '>' "\n"]

def AgentSummary.marks (a : AgentSummary) (base : String) : List (Char × List Char) :=
  [mark '<' "section class=", mark '"' "agent", mark '"' "", mark '>' "\n",
    mark '<' "h2", mark '>' a.agent, mark '<' "/h2", mark '>' "\n",
    mark '<' "ul class=", mark '"' "counts", mark '"' "", mark '>' "\n"] ++
  a.counts.shown.flatMap countMarks ++
  [mark '<' "/ul", mark '>' "\n", mark '<' "div class=", mark '"' "grid", mark '"' "",
    mark '>' "\n"] ++
  a.rows.flatMap (·.marks base) ++
  [mark '<' "/div", mark '>' "\n", mark '<' "/section", mark '>' "\n"]

namespace Summary

def headMarks (title css : String) : List (Char × List Char) :=
  [mark '<' "!DOCTYPE html", mark '>' "\n", mark '<' "html", mark '>' "", mark '<' "head",
    mark '>' "", mark '<' "meta charset=", mark '"' "utf-8", mark '"' "", mark '>' "",
    mark '<' "title", mark '>' title, mark '<' "/title", mark '>' "\n",
    mark '<' "style", mark '>' ("\n" ++ css), mark '<' "/style", mark '>' "\n",
    mark '<' "/head", mark '>' "", mark '<' "body", mark '>' "\n",
    mark '<' "h1", mark '>' title, mark '<' "/h1", mark '>' "\n"]

def footerMarks (time : String) : List (Char × List Char) :=
  [mark '<' "footer", mark '>' ("generated " ++ time), mark '<' "/footer", mark '>' "\n"]

def marks (s : Summary) (o : PageOptions) : List (Char × List Char) :=
  headMarks o.shownTitle style ++
  s.agents.flatMap (·.marks o.reportBase) ++
  o.generatedAt.elim [] (fun seconds => footerMarks (Timestamp.text seconds)) ++
  [mark '<' "/body", mark '>' "", mark '<' "/html", mark '>' "\n"]

end Summary

/-- A cell is read as the marks of its row. -/
theorem CaseRow.shows_cell (r : CaseRow) (base : String) : Shows (r.cell base) (r.marks base) := by
  unfold cell marks
  -- The outline is computed; the data are no concern of it.
  generalize statusClass r.status = cls
  generalize r.tip = tip
  constructor
  · cases r.link? base <;> simp
  · intro rest
    cases r.link? base <;> simp only [mark, String.toList_append] <;> rfl

/-- A section is read as the marks of its implementation. -/
theorem AgentSummary.shows_page (a : AgentSummary) (base : String) :
    Shows (a.page base) (a.marks base) := by
  unfold page marks
  refine .append (.append (.append (.append ?_ (.flatMap fun shown => ?_)) ?_)
    (.flatMap fun r => r.shows_cell base)) ?_
  all_goals
    constructor
    · simp
    · intro rest
      simp only [countMarks, mark, String.toList_append, List.append_assoc]
      rfl

namespace Summary

theorem all_style : style.toList.all fun c => c != '&' && !isDelimiter c := by
  unfold style
  simp only [String.toList_append, List.all_append, Bool.and_eq_true]
  decide +kernel

theorem shows_head {css : String} (h : css.toList.all fun c => c != '&' && !isDelimiter c)
    (title : String) :
    Shows [.markup "<!DOCTYPE html>\n<html><head><meta charset=\"utf-8\"><title>", .datum title,
      .markup "</title>\n<style>\n", .markup css, .markup "</style>\n</head><body>\n<h1>",
      .datum title, .markup "</h1>\n"] (headMarks title css) := by
  simp only [List.all_eq_true, Bool.and_eq_true, bne_iff_ne, Bool.not_eq_true'] at h
  have undelimited : ∀ c ∈ css.toList, isDelimiter c = false := fun c hc => (h c hc).2
  constructor
  · have plain : '&' ∉ css.toList := fun hc => (h _ hc).1 rfl
    simp [plain]
  · intro rest
    simp only [List.foldr_cons, List.foldr_nil, putPiece, foldr_push undelimited, headMarks, mark,
      String.toList_append]
    rfl

theorem shows_footer (time : String) :
    Shows [.markup "<footer>generated ", .datum time, .markup "</footer>\n"]
      (footerMarks time) := by
  constructor
  · simp
  · intro rest
    simp only [footerMarks, mark, String.toList_append]
    rfl

/-- A page is read as the marks of its summary. -/
theorem shows_page (s : Summary) (o : PageOptions) : Shows (s.page o) (s.marks o) := by
  unfold page marks
  refine .append (.append (.append (shows_head all_style o.shownTitle)
    (.flatMap fun a => a.shows_page o.reportBase)) ?_) ?_
  · cases o.generatedAt with
    | none => exact .nil
    | some seconds => exact shows_footer _
  · constructor
    · simp
    · intro rest
      rfl

/-- A reader of a page finds its marks, and nothing in front of them. -/
theorem read_pageText (s : Summary) (o : PageOptions) :
    read (s.pageText o).toList = ⟨[], s.marks o⟩ := by
  have text : (s.pageText o).toList = (s.page o).flatMap Piece.toChars := String.toList_ofList
  rw [text, (s.shows_page o).read]

end Summary

/-! ## What the structure depends on -/

/-- The delimiters are the same, one by one. -/
def SameDelimiters : List (Char × List Char) → List (Char × List Char) → Prop :=
  List.Forall₂ fun m m' => m.1 = m'.1

theorem SameDelimiters.map_fst {marks marks' : List (Char × List Char)}
    (h : SameDelimiters marks marks') : marks.map Prod.fst = marks'.map Prod.fst :=
  map_eq_map_iff_forall₂.mpr h

/-- A case has a link: it has a report, and what leads to the report is not empty. -/
def CaseRow.Linked (r : CaseRow) (base : String) : Prop :=
  ∃ file, r.report = some file ∧ base ++ file ≠ ""

theorem CaseRow.isSome_link?_iff {r : CaseRow} {base : String} :
    (r.link? base).isSome ↔ r.Linked base := by
  cases h : r.report <;> simp [link?, Linked, h]

theorem CaseRow.sameDelimiters {r r' : CaseRow} {base base' : String}
    (h : r.Linked base ↔ r'.Linked base') : SameDelimiters (r.marks base) (r'.marks base') := by
  rw [← isSome_link?_iff, ← isSome_link?_iff] at h
  unfold marks SameDelimiters
  cases hl : r.link? base <;> cases hl' : r'.link? base' <;> simp_all [mark]

theorem AgentSummary.sameDelimiters {a a' : AgentSummary} {base base' : String}
    (h : List.Forall₂ (fun r r' => r.Linked base ↔ r'.Linked base') a.rows a'.rows) :
    SameDelimiters (a.marks base) (a'.marks base') := by
  have counts : SameDelimiters (a.counts.shown.flatMap countMarks)
      (a'.counts.shown.flatMap countMarks) := by
    simp [SameDelimiters, Counts.shown, countMarks, mark]
  have cells : SameDelimiters (a.rows.flatMap (·.marks base)) (a'.rows.flatMap (·.marks base')) :=
    List.rel_flatMap h fun r r' linked => CaseRow.sameDelimiters linked
  refine List.rel_append (List.rel_append (List.rel_append (List.rel_append ?_ counts) ?_) cells) ?_
  all_goals simp [mark]

namespace Summary

/-- Two pages have the same number of implementations and cases, the same cases with links, and a
date or none. -/
structure SameForm (s : Summary) (o : PageOptions) (s' : Summary) (o' : PageOptions) : Prop where
  agents : List.Forall₂ (fun a a' => List.Forall₂
    (fun r r' => r.Linked o.reportBase ↔ r'.Linked o'.reportBase) a.rows a'.rows) s.agents s'.agents
  dated : o.generatedAt.isSome ↔ o'.generatedAt.isSome

/-- Pages of the same form have the same delimiters. -/
theorem SameForm.sameDelimiters {s s' : Summary} {o o' : PageOptions} (h : SameForm s o s' o') :
    SameDelimiters (s.marks o) (s'.marks o') := by
  have sections : SameDelimiters (s.agents.flatMap (·.marks o.reportBase))
      (s'.agents.flatMap (·.marks o'.reportBase)) :=
    List.rel_flatMap h.agents fun a a' rows => AgentSummary.sameDelimiters rows
  have dates := h.dated
  refine List.rel_append (List.rel_append (List.rel_append ?_ sections) ?_) ?_
  · simp [headMarks, mark]
  · cases hd : o.generatedAt <;> cases hd' : o'.generatedAt <;>
      simp_all [footerMarks, mark]
  · simp [mark]

/-- A reader of a page finds every datum in its place, as it was. The delimiters of a page depend on
its form alone, whatever the data hold. -/
theorem pageText_structure (s : Summary) (o : PageOptions) :
    read (s.pageText o).toList = ⟨[], s.marks o⟩ ∧
    ∀ s' o', SameForm s o s' o' → delimiters (s.pageText o) = delimiters (s'.pageText o') := by
  refine ⟨s.read_pageText o, fun s' o' h => ?_⟩
  have found (s : Summary) (o : PageOptions) :
      delimiters (s.pageText o) = (s.marks o).map Prod.fst := by
    rw [delimiters, ← map_fst_marks_read, read_pageText]
  rw [found, found, h.sameDelimiters.map_fst]

def hostileRow : CaseRow :=
  ⟨"1.1.1", "OK\"><script>", some "&lt;", some "\" onclick=\"x"⟩

def hostile : Summary :=
  ⟨[⟨"<b>\"&amp;'\x60=", .zero, [hostileRow, ⟨"<2>", ">", none, some ""⟩]⟩], .zero⟩

def hostileOptions : PageOptions := ⟨"</title>", "", some 0⟩

def tame : Summary :=
  ⟨[⟨"a", .zero, [⟨"1", "OK", none, some "f"⟩, ⟨"2", "OK", none, none⟩]⟩], .zero⟩

def tameOptions : PageOptions := ⟨"", "reports/", some 86400⟩

/-- A name made of markup comes out as data: the page has the delimiters of one with harmless names.
-/
theorem pageText_structure_hostile :
    SameForm hostile hostileOptions tame tameOptions ∧
    delimiters (hostile.pageText hostileOptions) = delimiters (tame.pageText tameOptions) ∧
    mark '"' "\" onclick=\"x" ∈ (read (hostile.pageText hostileOptions).toList).marks := by
  have form : SameForm hostile hostileOptions tame tameOptions := by
    constructor <;>
      simp [hostile, hostileRow, hostileOptions, tame, tameOptions, CaseRow.Linked]
  obtain ⟨found, same⟩ := pageText_structure hostile hostileOptions
  refine ⟨form, same _ _ form, ?_⟩
  have link : hostileRow.link? "" = some "\" onclick=\"x" := by decide
  have cell : mark '"' "\" onclick=\"x" ∈ hostileRow.marks "" := by simp [CaseRow.marks, link]
  rw [found]
  simp [marks, hostile, hostileOptions, AgentSummary.marks, cell]

end Summary
end ConformanceGate
