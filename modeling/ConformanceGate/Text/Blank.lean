/-!
# White space

Unicode white space, and trimming by it. A text is blank when trimming leaves nothing.
-/

namespace ConformanceGate.Text

def isBlank (c : Char) : Bool :=
  c == ' ' || ('\t' ≤ c && c ≤ '\r') || c == '\u0085' || c == '\u00a0' || c == '\u1680' ||
    ('\u2000' ≤ c && c ≤ '\u200a') || c == '\u2028' || c == '\u2029' || c == '\u202f' ||
    c == '\u205f' || c == '\u3000'

/-- A text is blank if it holds nothing but white space; the empty text is blank. -/
def blank (s : String) : Bool := s.toList.all isBlank

end ConformanceGate.Text
