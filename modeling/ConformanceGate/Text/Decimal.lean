/-!
# Decimal numerals

Naturals are written with `Nat.repr`, that is without sign and without leading zeros. The readers
here accept texts of ASCII digits below a bound.
-/

namespace ConformanceGate.Text

def isNumeral (cs : List Char) : Bool := !cs.isEmpty && cs.all Char.isDigit

/-- The value of a text of digits; leading zeros are allowed. -/
def numeral? (cs : List Char) : Option Nat :=
  if isNumeral cs then some (Nat.ofDigitChars 10 cs 0) else none

/-- A numeral as it is written: no zero in front of another digit. -/
def isCanonical (cs : List Char) : Bool :=
  isNumeral cs && (cs.length == 1 || cs.head? != some '0')

def canonicalNumeral? (cs : List Char) : Option Nat :=
  if isCanonical cs then some (Nat.ofDigitChars 10 cs 0) else none

/-- A port number: digits with an optional plus sign in front, below 65536. -/
def port? (cs : List Char) : Option UInt16 := do
  let n ← numeral? (match cs with | '+' :: ds => ds | ds => ds)
  if n < 65536 then some n.toUInt16 else none

/-- `s` padded with blanks on the left to `width` characters. -/
def padLeft (width : Nat) (s : String) : String :=
  String.ofList (List.replicate (width - s.length) ' ') ++ s

def zeroPadded (width n : Nat) : String :=
  String.ofList (List.replicate (width - n.repr.length) '0') ++ n.repr

end ConformanceGate.Text
