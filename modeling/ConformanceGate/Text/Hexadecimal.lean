/-!
# Hexadecimal numerals

Readers of texts of hexadecimal digits, in either case, as numbers and as the codes of characters.
The empty text is zero; how many digits there have to be is for the formats to say.
-/

namespace ConformanceGate.Text

def hexDigit? (c : Char) : Option Nat :=
  if '0' ≤ c ∧ c ≤ '9' then some (c.toNat - '0'.toNat)
  else if 'a' ≤ c ∧ c ≤ 'f' then some (c.toNat - 'a'.toNat + 10)
  else if 'A' ≤ c ∧ c ≤ 'F' then some (c.toNat - 'A'.toNat + 10)
  else none

def isHexDigit (c : Char) : Bool := (hexDigit? c).isSome

def hexNumeral? (cs : List Char) : Option Nat :=
  cs.foldlM (fun n c => (hexDigit? c).map (n * 16 + ·)) 0

/-- The character of a code. Surrogates and what lies beyond the last code point have none. -/
def codedChar? (cs : List Char) : Option Char := do
  let n ← hexNumeral? cs
  if n.isValidChar then some (Char.ofNat n) else none

end ConformanceGate.Text
