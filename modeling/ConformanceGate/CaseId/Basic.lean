import ConformanceGate.Text.Decimal
import ConformanceGate.Text.Quoted

/-!
# Case identifiers

A test case is named by a dotted path of numbers such as `1.2.3`. Each identifier has one spelling:
plain decimal numbers without leading zeros, joined by single dots.
-/

namespace ConformanceGate

/-- A case identifier: at least one number, each of 32 bits. -/
structure CaseId where
  segments : List UInt32
  ne_nil : segments ≠ []
deriving DecidableEq

namespace CaseId

def segment? (cs : List Char) : Option UInt32 := do
  let n ← Text.canonicalNumeral? cs
  if n < 1 <<< 32 then some n.toUInt32 else none

/-- Reads an identifier; only the one spelling is accepted. -/
def parse? (s : String) : Option CaseId := do
  let segments ← (s.toList.splitOn '.').mapM segment?
  if h : segments ≠ [] then some ⟨segments, h⟩ else none

def toChars (id : CaseId) : List Char :=
  ['.'].intercalate (id.segments.map fun n => n.toNat.repr.toList)

def text (id : CaseId) : String := String.ofList id.toChars

/-- Identifiers are ordered by their numbers from the left; a proper beginning comes first. -/
def compare (a b : CaseId) : Ordering := Ord.compare a.segments b.segments

instance : LT CaseId := ⟨fun a b => a.segments < b.segments⟩

instance : DecidableLT CaseId := fun a b => inferInstanceAs (Decidable (a.segments < b.segments))

def refusal (s : String) : String := "invalid test case id " ++ Text.quoted s

end CaseId
end ConformanceGate
