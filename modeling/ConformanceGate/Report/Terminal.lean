import ConformanceGate.Report.Summary
import ConformanceGate.Text.Decimal

/-!
# The summary for a terminal

One block an implementation: its counts, line by line, and the failing cases if there are any.
-/

namespace ConformanceGate.AgentSummary

def countLine (label : String) (n : Nat) : String := label ++ Text.padLeft 5 n.repr

def failingCases (a : AgentSummary) : List String :=
  (a.rows.filter fun r => r.status = "FAILED").map (·.id)

def lines (a : AgentSummary) : List String :=
  [ a.agent ++ ": " ++ a.counts.total.repr ++ " cases",
    countLine "  passed         " a.counts.passed ++
      " (" ++ a.counts.uncleanClose.repr ++ " unclean close)",
    countLine "  non-strict     " a.counts.nonStrict,
    countLine "  unimplemented  " a.counts.unimplemented,
    countLine "  failed         " a.counts.failed,
    countLine "  informational  " a.counts.informational ] ++
  (if a.counts.other = 0 then [] else [countLine "  other          " a.counts.other]) ++
  (if a.failingCases.isEmpty then [] else ["  failing cases: " ++ ", ".intercalate a.failingCases])

end ConformanceGate.AgentSummary

namespace ConformanceGate.Summary

/-- The text for a terminal; every line ends with a line break. -/
def terminalText (s : Summary) : String :=
  if s.agents.isEmpty then "no results\n"
  else String.join ((s.agents.flatMap AgentSummary.lines).map (· ++ "\n"))

end ConformanceGate.Summary
