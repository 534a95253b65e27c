import ConformanceGate.Results.Document

/-!
# Summaries

What a results document comes to: for every implementation the number of cases of each status and
one row a case, in the order of the document, and the counts of all implementations together.
-/

namespace ConformanceGate

/-- Numbers of cases by status. -/
structure Counts where
  total : Nat
  passed : Nat
  /-- Those of `passed` whose closing handshake was not clean. -/
  uncleanClose : Nat
  nonStrict : Nat
  unimplemented : Nat
  failed : Nat
  informational : Nat
  other : Nat
deriving DecidableEq

namespace Counts

def zero : Counts := ⟨0, 0, 0, 0, 0, 0, 0, 0⟩

def add (a b : Counts) : Counts where
  total := a.total + b.total
  passed := a.passed + b.passed
  uncleanClose := a.uncleanClose + b.uncleanClose
  nonStrict := a.nonStrict + b.nonStrict
  unimplemented := a.unimplemented + b.unimplemented
  failed := a.failed + b.failed
  informational := a.informational + b.informational
  other := a.other + b.other

def ofCase (c : TestCase) : Counts :=
  match c.status with
  | .ok => { zero with total := 1, passed := 1, uncleanClose := if c.closedCleanly then 0 else 1 }
  | .nonStrict => { zero with total := 1, nonStrict := 1 }
  | .unimplemented => { zero with total := 1, unimplemented := 1 }
  | .failed => { zero with total := 1, failed := 1 }
  | .informational => { zero with total := 1, informational := 1 }
  | .other _ => { zero with total := 1, other := 1 }

def sum (parts : List Counts) : Counts := parts.foldl add zero

def toJson (c : Counts) : Json :=
  .object [("total", .nat c.total), ("passed", .nat c.passed),
    ("unclean_close", .nat c.uncleanClose), ("non_strict", .nat c.nonStrict),
    ("unimplemented", .nat c.unimplemented),
    ("failed", .nat c.failed), ("informational", .nat c.informational), ("other", .nat c.other)]

end Counts

structure CaseRow where
  id : String
  status : String
  close : Option String
  report : Option String
deriving DecidableEq

namespace CaseRow

def ofCase (id : CaseId) (c : TestCase) : CaseRow :=
  ⟨id.text, c.status.text, c.close.map Status.text, c.report⟩

def toJson (r : CaseRow) : Json :=
  .object [("id", .string r.id), ("behavior", .string r.status),
    ("behavior_close", .orNull .string r.close), ("report_file", .orNull .string r.report)]

end CaseRow

structure AgentSummary where
  agent : String
  counts : Counts
  rows : List CaseRow
deriving DecidableEq

namespace AgentSummary

def ofCases (agent : String) (cases : List (CaseId × TestCase)) : AgentSummary where
  agent := agent
  counts := .sum (cases.map fun c => .ofCase c.2)
  rows := cases.map fun c => .ofCase c.1 c.2

def toJson (a : AgentSummary) : Json :=
  .object [("agent", .string a.agent), ("counts", a.counts.toJson),
    ("cases", .array (a.rows.map CaseRow.toJson))]

end AgentSummary

/-- What is shown of a results document. -/
structure Summary where
  agents : List AgentSummary
  totals : Counts
deriving DecidableEq

namespace Summary

def ofResults (r : Results) : Summary :=
  let agents := r.agents.map fun (name, cases) => AgentSummary.ofCases name cases
  ⟨agents, .sum (agents.map (·.counts))⟩

def toJson (s : Summary) : Json :=
  .object [("agents", .array (s.agents.map AgentSummary.toJson)), ("totals", s.totals.toJson)]

end Summary
end ConformanceGate
