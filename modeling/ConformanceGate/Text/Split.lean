/-!
# Taking texts apart
-/

namespace ConformanceGate.Text

/-- The rest of a text that begins with `start`. -/
def after? (start : List Char) (cs : List Char) : Option (List Char) :=
  if start.isPrefixOf cs then some (cs.drop start.length) else none

/-- The text before and after the last `sep`. -/
def splitLast? (sep : Char) (cs : List Char) : Option (List Char × List Char) :=
  let last := cs.reverse.takeWhile (· ≠ sep)
  if sep ∈ cs then some (cs.take (cs.length - last.length - 1), last.reverse) else none

end ConformanceGate.Text
