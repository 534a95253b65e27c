import ConformanceGate.Machine.Programs.Format

/-!
# Values of programs over records

A value is a number or a text. A text from the input counts as a number where it looks like one, and
what was never set is both zero and the empty text.
-/

namespace ConformanceGate.Machine.Programs.Awk

inductive Value
  | unset
  | number (x : Fraction)
  | text (s : Octets)
  /-- A text that comes from the input. -/
  | input (s : Octets)

namespace Value

def ofNat (n : Nat) : Value := .number (.ofInt n)

def ofBool (b : Bool) : Value := ofNat (if b then 1 else 0)

def isBlank (c : Char) : Bool := c == ' ' || c == '\t' || c == '\n'

/-- The number that a text looks like as a whole, blanks around it left out. -/
def lookingNumber? (s : Octets) : Option Fraction :=
  match Fraction.take? (s.dropWhile isBlank) with
  | some (x, rest) => if rest.all isBlank then some x else none
  | none => none

/-- The number of a value: that at the front of a text, or zero. -/
def toNumber : Value → Fraction
  | .unset => .ofInt 0
  | .number x => x
  | .text s | .input s =>
    match Fraction.take? (s.dropWhile isBlank) with
    | some (x, _) => x
    | none => .ofInt 0

/-- The number of a value that counts as one. -/
def asNumber? : Value → Option Fraction
  | .unset => some (.ofInt 0)
  | .number x => some x
  | .text _ => none
  | .input s => lookingNumber? s

def holds : Value → Bool
  | .unset => false
  | .number x => !x.isZero
  | .text s => !s.isEmpty
  | .input s => match lookingNumber? s with
    | some x => !x.isZero
    | none => !s.isEmpty

def formattedText (format : Octets) (x : Fraction) : Octets :=
  match format with
  | '%' :: rest =>
    match readSlot rest [] with
    | some (slot, rest, _) =>
      (if slot.kind ∈ ['d', 'i'] then slot.fillWhole x.trunc else slot.fillNumber x) ++ rest
    | none => x.text.toList
  | _ => x.text.toList

/-- The text of a value; the format is for numbers that are not whole or take more than 64 bits. -/
def toText (format : Octets) : Value → Octets
  | .unset => []
  | .number x =>
    if x.isWhole && x.num.natAbs < 1 <<< 63 then (toString x.num).toList
    else formattedText format x
  | .text s | .input s => s

/-- Holds two values against each other: as numbers if both count as numbers, else as texts. The
first result is "less", the second one "equal". -/
def order (format : Octets) (a b : Value) : Bool × Bool :=
  match a.asNumber?, b.asNumber? with
  | some x, some y => (x.less y, !x.less y && !y.less x)
  | _, _ =>
    let s := a.toText format
    let t := b.toText format
    (octetsLe s t && s != t, s == t)

def fill (format : Octets) (slot : Slot) (v : Value) : Octets :=
  if slot.kind ∈ ['d', 'i', 'u', 'o', 'x', 'X'] then slot.fillWhole v.toNumber.trunc
  else if slot.kind ∈ ['f', 'F', 'e', 'E', 'g', 'G'] then slot.fillNumber v.toNumber
  else if slot.kind = 'c' then
    match v with
    | .number x => slot.fit [Char.ofNat (x.trunc % 256).toNat]
    | v => slot.fit ((v.toText format).take 1)
  else slot.fillText (v.toText format)

/-- Fills a format with values; `none` if it has more slots than there are values. The fuel is above
the length of the format. -/
def fillFormat (numbers : Octets) : Nat → Octets → List Value → Option Octets
  | 0, _, _ => some []
  | _, [], _ => some []
  | fuel + 1, '%' :: rest, values =>
    match rest with
    | '%' :: rest => (fillFormat numbers fuel rest values).map ('%' :: ·)
    | rest =>
      let texts := values.map fun v => textOfOctets (v.toText numbers)
      match readSlot rest texts with
      | none => (fillFormat numbers fuel rest values).map ('%' :: ·)
      | some (slot, rest, left) =>
        match values.drop (values.length - left.length) with
        | [] => none
        | v :: values => (fillFormat numbers fuel rest values).map (v.fill numbers slot ++ ·)
  | fuel + 1, c :: rest, values => (fillFormat numbers fuel rest values).map (c :: ·)

end Value
end ConformanceGate.Machine.Programs.Awk
