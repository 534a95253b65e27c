import ConformanceGate.Report.Summary
import ConformanceGate.Report.Timestamp

/-!
# The summary as a page

A page is a list of pieces: markup, which is the same for every summary of one form, and data, in
which all characters that mean something in markup are written as entities.
-/

namespace ConformanceGate

inductive Piece
  /-- Markup, written as it is. -/
  | markup (text : String)
  /-- A datum, written with entities. -/
  | datum (text : String)

namespace Piece

def entity (c : Char) : List Char :=
  match c with
  | '&' => "&amp;".toList
  | '<' => "&lt;".toList
  | '>' => "&gt;".toList
  | '"' => "&quot;".toList
  | '\'' => "&#x27;".toList
  | '\x60' => "&#x60;".toList
  | '=' => "&#x3D;".toList
  | c => [c]

def toChars : Piece → List Char
  | .markup s => s.toList
  | .datum s => s.toList.flatMap entity

end Piece

/-- How a page is made out. -/
structure PageOptions where
  /-- The title; an empty one stands for the usual title. -/
  title : String
  /-- What is put in front of a report file to make a link. -/
  reportBase : String
  /-- When the page was made, in seconds since 1970. -/
  generatedAt : Option Int

namespace PageOptions

def usualTitle : String := "Conformance results"

def shownTitle (o : PageOptions) : String := if o.title.isEmpty then usualTitle else o.title

end PageOptions

def statusClass (status : String) : String :=
  if status = "OK" then "ok"
  else if status = "NON-STRICT" then "non-strict"
  else if status = "UNIMPLEMENTED" then "unimplemented"
  else if status = "FAILED" then "failed"
  else if status = "INFORMATIONAL" then "informational"
  else "other"

namespace CaseRow

def tip (r : CaseRow) : String :=
  match r.close with
  | some close => r.status ++ " / close " ++ close
  | none => r.status

def link? (r : CaseRow) (base : String) : Option String :=
  (r.report.map (base ++ ·)).filter fun link => !link.isEmpty

def cell (r : CaseRow) (base : String) : List Piece :=
  match r.link? base with
  | some link =>
    [.markup "<a class=\"case ", .datum (statusClass r.status), .markup "\" href=\"", .datum link,
      .markup "\" title=\"", .datum r.tip, .markup "\">", .datum r.id, .markup "</a>\n"]
  | none =>
    [.markup "<span class=\"case ", .datum (statusClass r.status), .markup "\" title=\"",
      .datum r.tip, .markup "\">", .datum r.id, .markup "</span>\n"]

end CaseRow

namespace Counts

/-- The counts that a page shows: label, class and number. -/
def shown (c : Counts) : List (String × String × Nat) :=
  [("total", "total", c.total), ("passed", "ok", c.passed),
    ("unclean close", "unclean", c.uncleanClose), ("non-strict", "non-strict", c.nonStrict),
    ("unimplemented", "unimplemented", c.unimplemented), ("failed", "failed", c.failed),
    ("informational", "informational", c.informational)]

end Counts

namespace AgentSummary

def page (a : AgentSummary) (base : String) : List Piece :=
  [.markup "<section class=\"agent\">\n<h2>", .datum a.agent,
    .markup "</h2>\n<ul class=\"counts\">\n"] ++
  a.counts.shown.flatMap (fun (label, cls, n) =>
    [.markup "<li class=\"", .datum cls, .markup "\">", .datum label, .markup ": ", .datum n.repr,
      .markup "</li>\n"]) ++
  [.markup "</ul>\n<div class=\"grid\">\n"] ++
  a.rows.flatMap (·.cell base) ++
  [.markup "</div>\n</section>\n"]

end AgentSummary

namespace Summary

def style : String :=
  "body\x7bfont-family:sans-serif;margin:2em\x7d\n" ++
  ".counts\x7blist-style:none;padding:0;display:flex;gap:1em\x7d\n" ++
  ".grid\x7bdisplay:flex;flex-wrap:wrap;gap:2px\x7d\n" ++
  ".case\x7bdisplay:inline-block;min-width:4em;padding:2px 4px;font-size:12px;" ++
  "text-decoration:none;color:#000\x7d\n" ++
  ".ok\x7bbackground:#9f9\x7d.non-strict\x7bbackground:#ff9\x7d" ++
  ".unimplemented\x7bbackground:#ccc\x7d\n" ++
  ".failed\x7bbackground:#f99\x7d.informational\x7bbackground:#9cf\x7d" ++
  ".other\x7bbackground:#fc9\x7d.unclean\x7bbackground:#fd8\x7d\n"

def page (s : Summary) (o : PageOptions) : List Piece :=
  [.markup "<!DOCTYPE html>\n<html><head><meta charset=\"utf-8\"><title>", .datum o.shownTitle,
    .markup "</title>\n<style>\n", .markup style, .markup "</style>\n</head><body>\n<h1>",
    .datum o.shownTitle, .markup "</h1>\n"] ++
  s.agents.flatMap (·.page o.reportBase) ++
  o.generatedAt.elim [] (fun seconds =>
    [.markup "<footer>generated ", .datum (Timestamp.text seconds), .markup "</footer>\n"]) ++
  [.markup "</body></html>\n"]

def pageText (s : Summary) (o : PageOptions) : String :=
  String.ofList ((s.page o).flatMap Piece.toChars)

end Summary
end ConformanceGate
