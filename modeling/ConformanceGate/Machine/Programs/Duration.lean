/-!
# Durations

The durations that programs are given: decimal numbers with a unit, or no end at all. They are
counted in microseconds.
-/

namespace ConformanceGate.Machine

def never : Nat := 1000000000000000000

def unitOf? : List Char → Option Nat
  | [] | ['s'] => some 1000000
  | ['m'] => some 60000000
  | ['h'] => some 3600000000
  | ['d'] => some 86400000000
  | _ => none

def exponentOf : List Char → Int × List Char
  | 'e' :: rest | 'E' :: rest =>
    let (negative, ds) := match rest with
      | '-' :: ds => (true, ds)
      | '+' :: ds => (false, ds)
      | ds => (false, ds)
    let digits := ds.takeWhile Char.isDigit
    let n := min (Nat.ofDigitChars 10 digits 0) 400
    (if negative then -(n : Int) else n, ds.drop digits.length)
  | rest => (0, rest)

def duration? (text : String) : Option Nat := do
  let cs := text.toList
  let cs := if cs.head? = some '+' then cs.tail else cs
  let word := String.ofList ((cs.takeWhile Char.isAlpha).map Char.toLower)
  if word = "inf" || word = "infinity" then return never
  if ["infs", "infm", "infh", "infd"].contains word then return never
  let whole := cs.takeWhile Char.isDigit
  let rest := cs.drop whole.length
  let fraction := match rest with
    | '.' :: rest => rest.takeWhile Char.isDigit
    | _ => []
  let rest := match rest with
    | '.' :: rest => rest.drop fraction.length
    | rest => rest
  if whole.isEmpty && fraction.isEmpty then none
  let (exponent, rest) := exponentOf rest
  let unit ← unitOf? rest
  let scaled := Nat.ofDigitChars 10 (whole ++ fraction) 0 * unit
  let shift := exponent - fraction.length
  return min never
    (if shift < 0 then scaled / Nat.pow 10 (-shift).toNat else scaled * Nat.pow 10 shift.toNat)

def sleepTime? (args : List String) : Option Nat :=
  if args.isEmpty then none
  else (args.mapM duration?).map fun times => min never (times.foldl (· + ·) 0)

end ConformanceGate.Machine
