import ConformanceGate.Number.Double

/-!
# Shortest decimal digits

A double is written with the fewest decimal digits that still round to it; among those, the ones
nearest to it. How the digits are laid out around the decimal point is a `Layout`.
-/

namespace ConformanceGate.Double

/-- A decimal number `digits · 10 ^ exponent`. -/
structure Decimal where
  digits : Nat
  exponent : Int
deriving DecidableEq

/-- The values that round to `d`, scaled by four over `2 ^ exponent`: the value itself, the lower
and the upper end of the interval. Below a power of two the doubles are twice as dense. -/
def bounds (d : Double) : Nat × Nat × Nat :=
  let m := d.mantissa
  (4 * m, if m = binade ∧ d.exponent ≠ -1074 then 4 * m - 1 else 4 * m - 2, 4 * m + 2)

/-- Looks on the grid of multiples of `10 ^ p` for the multiple nearest to `d` that rounds to `d`.
-/
def onGrid (d : Double) (p : Int) : Option Nat :=
  let (value, low, high) := d.bounds
  -- every point is compared after multiplying by `2 ^ a * 10 ^ b` so that all become naturals
  let e := d.exponent - 2
  let up := if e < 0 then 1 else 1 <<< e.toNat
  let down := if e < 0 then 1 <<< (-e).toNat else 1
  let step := (if p < 0 then 1 else Nat.pow 10 p.toNat) * down
  let unit := (if p < 0 then Nat.pow 10 (-p).toNat else 1) * up
  let inside (k : Nat) : Bool :=
    if d.mantissa % 2 = 0 then low * unit ≤ k * step && k * step ≤ high * unit
    else low * unit < k * step && k * step < high * unit
  let below := value * unit / step
  let toBelow := value * unit - below * step
  let toAbove := (below + 1) * step - value * unit
  match inside below, inside (below + 1) with
  | true, true =>
    if toBelow < toAbove || (toBelow == toAbove && below % 2 == 0) then some below
    else some (below + 1)
  | true, false => some below
  | false, true => some (below + 1)
  | false, false => none

/-- One more than the decimal exponent of `num / den`, or one too many. -/
def magnitude (d : Double) : Int :=
  let num := d.numerator
  let den := d.denominator
  if num ≥ den then ((num / den).repr.length : Int)
  else 1 - (((den - 1) / num + 1).repr.length : Int) + 1

/-- Tries coarser grids first; `n` grids are left. -/
def shortestFrom (d : Double) (p : Int) : Nat → Decimal
  | 0 => ⟨0, 0⟩
  | n + 1 =>
    match d.onGrid p with
    | some digits => if digits = 0 then shortestFrom d (p - 1) n else ⟨digits, p⟩
    | none => shortestFrom d (p - 1) n

/-- The trailing zeros of the digits move to the exponent. -/
def Decimal.trim (x : Decimal) : Nat → Decimal
  | 0 => x
  | n + 1 => if x.digits ≠ 0 ∧ x.digits % 10 = 0 then trim ⟨x.digits / 10, x.exponent + 1⟩ n else x

/-- The shortest decimal that rounds to the magnitude of `d`. -/
def shortest (d : Double) : Decimal :=
  if d.rank = 0 then ⟨0, 0⟩ else (shortestFrom d d.magnitude 20).trim 20

/-- Where the decimal point goes: numbers whose decimal exponent lies between `lowest` and `highest`
are written positionally, all others with an exponent. -/
structure Layout where
  lowest : Int
  highest : Int

/-- The digits around the decimal point. A whole number keeps `.0`. -/
def Layout.digits (l : Layout) (x : Decimal) : String :=
  let ds := x.digits.repr
  let n := ds.length
  let e := x.exponent + n - 1
  if l.lowest ≤ e ∧ e ≤ l.highest then
    if 0 ≤ x.exponent then ds ++ String.ofList (List.replicate x.exponent.toNat '0') ++ ".0"
    else if 0 ≤ e then
      let (whole, fraction) := ds.toList.splitAt (e + 1).toNat
      String.ofList whole ++ "." ++ String.ofList fraction
    else "0." ++ String.ofList (List.replicate (-e - 1).toNat '0') ++ ds
  else
    let head := String.ofList (ds.toList.take 1)
    let tail := if n = 1 then "" else "." ++ String.ofList (ds.toList.drop 1)
    head ++ tail ++ (if e < 0 then "e-" else "e+") ++ e.natAbs.repr

def text (l : Layout) (d : Double) : String :=
  (if d.negative then "-" else "") ++ l.digits d.shortest

end ConformanceGate.Double
