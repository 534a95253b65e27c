/-!
# Finite doubles

The finite 64-bit binary floating point numbers, as plain data. The magnitude is a position: the
nonnegative finite doubles in increasing order are numbered from zero, so two magnitudes compare as
their positions do. All operations are exact rational arithmetic followed by one rounding to the
nearest double, a tie going to the even position.
-/

namespace ConformanceGate

def Double.count : Nat := 0x7FF0000000000000

/-- A finite double: a sign and the position of its magnitude. Zero has both signs. -/
structure Double where
  negative : Bool
  rank : Nat
  finite : rank < Double.count
deriving DecidableEq

namespace Double

/-- The number of doubles from one power of two to the next, `2 ^ 52`. -/
def binade : Nat := 0x10000000000000

/-- The whole number `m` in the magnitude `m · 2 ^ exponent`; it is below `2 ^ 53`. -/
def mantissa (d : Double) : Nat :=
  if d.rank < binade then d.rank else d.rank % binade + binade

/-- The exponent over two of the magnitude. -/
def exponent (d : Double) : Int :=
  if d.rank < binade then -1074 else (d.rank / binade : Nat) - 1075

def zero (negative : Bool) : Double := ⟨negative, 0, by decide⟩

/-- Two doubles are the same number if they agree, or if both are zero. -/
def same (a b : Double) : Bool :=
  a.rank == b.rank && (a.negative == b.negative || a.rank == 0)

theorem same_refl (a : Double) : a.same a = true := by simp [same]

/-- The quotient rounded to the nearest natural number, a half going to the even one. -/
def roundDiv (num den : Nat) : Nat :=
  let q := num / den
  let twice := 2 * (num % den)
  if twice > den || (twice == den && q % 2 == 1) then q + 1 else q

/-- The fraction `num / den · 2 ^ (-shift)` as numerator and denominator. -/
def scaled (num den : Nat) (shift : Int) : Nat × Nat :=
  if shift < 0 then (num <<< (-shift).toNat, den) else (num, den <<< shift.toNat)

/-- The double nearest to `num / den`, or `none` if that is beyond the largest one. -/
def round (negative : Bool) (num den : Nat) : Option Double :=
  let guess : Int := max ((num.log2 : Int) - (den.log2 : Int) - 53) (-1074)
  let first := scaled num den guess
  let shift := if 2 * binade ≤ first.1 / first.2 then guess + 1 else guess
  let final := scaled num den shift
  let rank := (shift + 1074).toNat * binade + roundDiv final.1 final.2
  if num = 0 then some (zero negative)
  else if h : rank < count then some ⟨negative, rank, h⟩ else none

def numerator (d : Double) : Nat :=
  if d.exponent < 0 then d.mantissa else d.mantissa <<< d.exponent.toNat

def denominator (d : Double) : Nat := if d.exponent < 0 then 1 <<< (-d.exponent).toNat else 1

/-- The product, rounded; `none` beyond the largest double. -/
def mul (a b : Double) : Option Double :=
  round (a.negative != b.negative) (a.numerator * b.numerator) (a.denominator * b.denominator)

/-- The quotient, rounded; `none` beyond the largest double. The divisor is taken to be nonzero. -/
def div (a b : Double) : Option Double :=
  round (a.negative != b.negative) (a.numerator * b.denominator) (a.denominator * b.numerator)

/-- The double nearest to a natural number; a number too large becomes zero. -/
def ofNat (n : Nat) : Double := (round false n 1).getD (zero false)

def neg (d : Double) : Double := { d with negative := !d.negative }

end Double
end ConformanceGate
