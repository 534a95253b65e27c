/-!
# Fractions

Exact numbers as quotients, and their decimal texts: with a number of places, with an exponent, or
in the shorter of these forms. A half is rounded to the even neighbour.
-/

namespace ConformanceGate.Machine

/-- A quotient; the denominator is not zero. -/
structure Fraction where
  num : Int
  den : Nat
deriving DecidableEq

namespace Fraction

def make (num : Int) (den : Nat) : Fraction :=
  let divisor := max 1 (Nat.gcd num.natAbs den)
  ⟨num.tdiv divisor, den / divisor⟩

def ofInt (n : Int) : Fraction := ⟨n, 1⟩

def isWhole (x : Fraction) : Bool := x.den == 1

def isZero (x : Fraction) : Bool := x.num == 0

def add (x y : Fraction) : Fraction := make (x.num * y.den + y.num * x.den) (x.den * y.den)

def neg (x : Fraction) : Fraction := ⟨-x.num, x.den⟩

def mul (x y : Fraction) : Fraction := make (x.num * y.num) (x.den * y.den)

def div? (x y : Fraction) : Option Fraction :=
  if y.num = 0 then none
  else some (make (x.num * y.den * y.num.sign) (x.den * y.num.natAbs))

def trunc (x : Fraction) : Int := x.num.tdiv x.den

/-- The remainder of a division with a whole quotient, unless the divisor is zero. -/
def mod? (x y : Fraction) : Option Fraction :=
  (x.div? y).map fun q => x.add (y.mul (ofInt q.trunc)).neg

/-- Whether a number is less than another one. -/
def less (x y : Fraction) : Bool := x.num * y.den < y.num * x.den

def pow (x : Fraction) (n : Nat) : Fraction :=
  ⟨(List.replicate n x.num).foldl (· * ·) 1, Nat.pow x.den n⟩

/-! ## Decimal texts -/

def rounded (num den : Nat) : Nat :=
  let quotient := num / den
  let twice := 2 * (num % den)
  if den < twice || (twice = den && quotient % 2 = 1) then quotient + 1 else quotient

def placesText (places : Nat) (x : Fraction) : List Char :=
  let text := Nat.toDigits 10 (rounded (x.num.natAbs * Nat.pow 10 places) x.den)
  let padded := List.replicate (places + 1 - text.length) '0' ++ text
  let cut := padded.length - places
  padded.take cut ++ if places = 0 then [] else '.' :: padded.drop cut

def scaled (x : Fraction) (power : Int) : Nat :=
  if 0 ≤ power then rounded (x.num.natAbs * Nat.pow 10 power.toNat) x.den
  else rounded x.num.natAbs (x.den * Nat.pow 10 (-power).toNat)

/-- The first digits of the absolute value after rounding, one more than `places`, and the exponent
of the first one. -/
def leading (places : Nat) (x : Fraction) : Nat × Int :=
  if x.num = 0 then (0, 0)
  else
    let guess : Int := ((Nat.toDigits 10 x.num.natAbs).length : Int) - (Nat.toDigits 10 x.den).length
    let bound := Nat.pow 10 (places + 1)
    let at? (e : Int) : Option (Nat × Int) :=
      let n := x.scaled (places - e)
      if n < bound && bound ≤ 10 * n then some (n, e)
      else if n = bound then some (n / 10, e + 1) else none
    (at? guess <|> at? (guess - 1) <|> at? (guess + 1)).getD (0, 0)

def exponentText (digits : List Char) (exponent : Int) (mark : Char) : List Char :=
  let power := Nat.toDigits 10 exponent.natAbs
  digits.take 1 ++ (if digits.length = 1 then [] else '.' :: digits.drop 1) ++
    [mark, if exponent < 0 then '-' else '+'] ++ List.replicate (2 - power.length) '0' ++ power

def scientificText (places : Nat) (mark : Char) (x : Fraction) : List Char :=
  let (n, e) := x.leading places
  let digits := Nat.toDigits 10 n
  exponentText (List.replicate (places + 1 - digits.length) '0' ++ digits) e mark

/-- Digits without the zeros at their end, and without a point that nothing follows. -/
def withoutZeros (text : List Char) : List Char :=
  if '.' ∈ text then
    let cut := (text.reverse.dropWhile (· == '0')).reverse
    if cut.getLast? = some '.' then cut.dropLast else cut
  else text

def generalText (digits : Nat) (mark : Char) (x : Fraction) : List Char :=
  let digits := max 1 digits
  let (n, e) := x.leading (digits - 1)
  if e < -4 || (digits : Int) ≤ e then
    let all := Nat.toDigits 10 n
    let kept := (all.reverse.dropWhile (· == '0')).reverse
    exponentText (if kept.isEmpty then all.take 1 else kept) e mark
  else withoutZeros (x.placesText ((digits : Int) - 1 - e).toNat)

/-- A number as text: whole numbers as they are, others with six digits. -/
def text (x : Fraction) : String :=
  if x.isWhole then toString x.num
  else (if x.num < 0 then "-" else "") ++ String.ofList (x.generalText 6 'e')

/-! ## Reading -/

def take? (cs : List Char) : Option (Fraction × List Char) :=
  let (negative, rest) := match cs with
    | '-' :: rest => (true, rest)
    | '+' :: rest => (false, rest)
    | rest => (false, rest)
  let whole := rest.takeWhile Char.isDigit
  let rest := rest.drop whole.length
  let (fraction, rest) := match rest with
    | '.' :: rest => (rest.takeWhile Char.isDigit, rest.dropWhile Char.isDigit)
    | rest => ([], rest)
  if whole.isEmpty && fraction.isEmpty then none
  else
    let n : Int := Nat.ofDigitChars 10 (whole ++ fraction) 0
    let n := if negative then -n else n
    let x := make n (Nat.pow 10 fraction.length)
    let exponent? : Option (Bool × List Char × List Char) := match rest with
      | c :: rest =>
        if c = 'e' || c = 'E' then
          let (down, ds) := match rest with
            | '-' :: ds => (true, ds)
            | '+' :: ds => (false, ds)
            | ds => (false, ds)
          let digits := ds.takeWhile Char.isDigit
          if digits.isEmpty then none else some (down, digits, ds.drop digits.length)
        else none
      | [] => none
    match exponent? with
    | some (down, digits, rest) =>
      let power := Nat.pow 10 (min 400 (Nat.ofDigitChars 10 digits 0))
      some (if down then make x.num (x.den * power) else make (x.num * power) x.den, rest)
    | none => some (x, rest)

end Fraction
end ConformanceGate.Machine
