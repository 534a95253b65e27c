import ConformanceGate.Document.Written
import ConformanceGate.Text.Hexadecimal

/-!
# Reading JSON

The reader is total on texts: it returns the tree of what is written, and where it got to. Two views
are kept side by side. The strict one is in the tree. The lenient one is the rest of the text: it
passes over a value without asking whether its number fits a double or its escapes pair up.
-/

namespace ConformanceGate.Json

abbrev Rest := Except Fault (List Char)

def Rest.stop : Rest → Option Fault
  | .ok _ => none
  | .error fault => some fault

def isBlank (c : Char) : Bool := c == ' ' || c == '\n' || c == '\t' || c == '\r'

def skipBlanks (cs : List Char) : List Char := cs.dropWhile isBlank

/-! ## Strings -/

def unit? (a b c d : Char) : Option Nat := Text.hexNumeral? [a, b, c, d]

/-- A unit that begins a pair. -/
def isHigh (n : Nat) : Bool := 0xD800 ≤ n && n ≤ 0xDBFF

/-- A unit that ends a pair. -/
def isLow (n : Nat) : Bool := 0xDC00 ≤ n && n ≤ 0xDFFF

def pair (high low : Nat) : Char := Char.ofNat (0x10000 + (high - 0xD800) * 0x400 + (low - 0xDC00))

def simpleEscape? (c : Char) : Option Char :=
  match c with
  | '"' => some '"'
  | '\\' => some '\\'
  | '/' => some '/'
  | 'b' => some '\x08'
  | 'f' => some '\x0c'
  | 'n' => some '\n'
  | 'r' => some '\r'
  | 't' => some '\t'
  | _ => none

/-- A fault in place of four hexadecimal digits: a text of fewer than four bytes is at its end. -/
def cutFault (cs : List Char) : Fault :=
  if (String.ofList cs).utf8ByteSize < 4 then .ended else .malformed

/-- After the first unit of a pair: a low unit completes it, anything else but the end of the text
or a broken escape makes the string faulty, though a lenient reader goes on. -/
inductive Completion
  | paired (low : Nat)
  | broken
  | undecided

def completion : List Char → Completion
  | [] => .undecided
  | ['\\'] => .undecided
  | '\\' :: 'u' :: a :: b :: c :: d :: _ =>
    match unit? a b c d with
    | some n => if isLow n then .paired n else .broken
    | none => .undecided
  | '\\' :: 'u' :: _ => .undecided
  | _ => .broken

/-- Reads a string after its opening quote. `acc` holds the characters so far, the last one first;
`sound` is false once an escape did not pair up. -/
def scanString (sound : Bool) (acc : List Char) : List Char → Except Fault String × Rest
  | [] => (.error (if sound then .ended else .malformed), .error .ended)
  | '"' :: rest => (if sound then .ok (String.ofList acc.reverse) else .error .malformed, .ok rest)
  | '\\' :: 'u' :: a :: b :: c :: d :: rest =>
    match unit? a b c d with
    | none => (.error .malformed, .error .malformed)
    | some n =>
      if isLow n then scanString false acc rest
      else if isHigh n then
        match completion rest, rest with
        | .paired low, _ :: _ :: _ :: _ :: _ :: _ :: rest =>
          scanString sound (pair n low :: acc) rest
        | .undecided, rest => scanString sound acc rest
        | _, rest => scanString false acc rest
      else scanString sound (Char.ofNat n :: acc) rest
  | '\\' :: 'u' :: rest =>
    (.error (if sound then cutFault rest else .malformed), .error (cutFault rest))
  | ['\\'] => (.error (if sound then .ended else .malformed), .error .ended)
  | '\\' :: c :: rest =>
    match simpleEscape? c with
    | some c => scanString sound (c :: acc) rest
    | none => (.error .malformed, .error .malformed)
  | c :: rest =>
    if c.toNat < 0x20 then (.error .malformed, .error .malformed)
    else scanString sound (c :: acc) rest

/-! ## Numbers -/

structure Numeral where
  negative : Bool
  whole : List Char
  fraction : Option (List Char)
  exponent : Option (Bool × List Char)

def digits (cs : List Char) : List Char × List Char :=
  (cs.takeWhile Char.isDigit, cs.dropWhile Char.isDigit)

/-- The digits at the front of a text, at least one. -/
def someDigits (cs : List Char) : Except Fault (List Char × List Char) :=
  match digits cs with
  | ([], []) => .error .ended
  | ([], _) => .error .malformed
  | found => .ok found

/-- The exponent at the front of a text, if there is one: whether it is negative, and its digits. -/
def scanExponent : List Char → Except Fault (Option (Bool × List Char) × List Char)
  | 'e' :: cs | 'E' :: cs =>
    let (negative, cs) := match cs with
      | '-' :: cs => (true, cs)
      | '+' :: cs => (false, cs)
      | cs => (false, cs)
    (someDigits cs).map fun (ds, rest) => (some (negative, ds), rest)
  | cs => .ok (none, cs)

def scanFraction : List Char → Except Fault (Option (List Char) × List Char)
  | '.' :: cs => (someDigits cs).map fun (ds, rest) => (some ds, rest)
  | cs => .ok (none, cs)

/-- The whole part at the front of a text: a zero stands alone. -/
def scanWhole (cs : List Char) : Except Fault (List Char × List Char) := do
  let (ds, rest) ← someDigits cs
  if ds.head? = some '0' ∧ ds.length ≠ 1 then .error .malformed else .ok (ds, rest)

def scanNumeral (cs : List Char) : Except Fault (Numeral × List Char) := do
  let (negative, cs) := match cs with
    | '-' :: cs => (true, cs)
    | cs => (false, cs)
  let (whole, cs) ← scanWhole cs
  let (fraction, cs) ← scanFraction cs
  let (exponent, cs) ← scanExponent cs
  return (⟨negative, whole, fraction, exponent⟩, cs)

def significandLimit : Nat := 1 <<< 64

/-- A significand under construction: the digits kept, and the power of ten that goes with them. -/
structure Significand where
  value : Nat
  power : Int

/-- Whole digits: once one does not fit, it and all after it only raise the power. -/
def Significand.whole : Significand → Bool → List Char → Significand
  | s, _, [] => s
  | s, full, c :: rest =>
    let next := s.value * 10 + (c.toNat - '0'.toNat)
    if full || significandLimit ≤ next then whole ⟨s.value, s.power + 1⟩ true rest
    else whole ⟨next, s.power⟩ false rest

/-- Fraction digits: once one does not fit, it and all after it are dropped. -/
def Significand.fraction : Significand → List Char → Significand
  | s, [] => s
  | s, c :: rest =>
    let next := s.value * 10 + (c.toNat - '0'.toNat)
    if significandLimit ≤ next then s else fraction ⟨next, s.power - 1⟩ rest

def exponentLimit : Nat := 1 <<< 31

/-- The double nearest to a power of ten up to the 308th. -/
def tenTo (n : Nat) : Double := Double.ofNat (Nat.pow 10 n)

/-- Multiplies or divides by a power of ten with one rounding, after as many divisions by the
largest power as a very negative exponent takes. `none` beyond the largest double. -/
def scaleBy (d : Double) (power : Int) : Option Double :=
  if power.natAbs ≤ 308 then
    if 0 ≤ power then d.mul (tenTo power.natAbs) else d.div (tenTo power.natAbs)
  else if d.rank = 0 then some d
  else if 0 ≤ power then none
  else (d.div (tenTo 308)).bind fun d => scaleBy d (power + 308)
termination_by (-power).toNat

def Significand.toDouble? (negative : Bool) (s : Significand)
    (exponent : Option (Bool × List Char)) : Option Double :=
  let signed (d : Double) : Double := if negative then d.neg else d
  match exponent with
  | none => (scaleBy (Double.ofNat s.value) s.power).map signed
  | some (below, ds) =>
    let e := Nat.ofDigitChars 10 ds 0
    if exponentLimit ≤ e then
      if s.value ≠ 0 ∧ !below then none else some (Double.zero negative)
    else (scaleBy (Double.ofNat s.value) (if below then s.power - e else s.power + e)).map signed

/-- The number that a numeral denotes: without fraction and exponent a whole number if it fits 64
bits, else a double; `none` if it is beyond the largest double. A negative zero is a double. -/
def Numeral.value? (n : Numeral) : Option Number :=
  let s := Significand.whole ⟨0, 0⟩ false n.whole
  match n.fraction, n.exponent with
  | none, none =>
    if s.power ≠ 0 then (s.toDouble? n.negative none).map .float
    else if !n.negative then some (.integer s.value)
    else if s.value = 0 ∨ 1 <<< 63 < s.value then some (.float (Double.ofNat s.value).neg)
    else some (.integer (-s.value))
  | fraction, exponent =>
    (((fraction.map fun ds => s.fraction ds).getD s).toDouble? n.negative exponent).map .float

/-- Reads a number. At the end of the text a lenient reader finds a number cut short malformed. -/
def scanNumber (cs : List Char) : Written × Rest :=
  match scanNumeral cs with
  | .error fault => (.flawed fault, .error .malformed)
  | .ok (n, rest) =>
    match n.value? with
    | some v => (.number v, .ok rest)
    | none => (.flawed .malformed, .ok rest)

/-! ## Values -/

def scanWord (value : Written) : List Char → List Char → Written × Rest
  | [], rest => (value, .ok rest)
  | _ :: _, [] => (.flawed .ended, .error .ended)
  | w :: word, c :: rest =>
    if w = c then scanWord value word rest else (.flawed .malformed, .error .malformed)

mutual

/-- Reads a value. The fuel is above twice the length of the text. -/
def scanValue : Nat → List Char → Written × Rest
  | 0, _ => (.flawed .malformed, .error .malformed)
  | fuel + 1, cs =>
    match skipBlanks cs with
    | [] => (.flawed .ended, .error .ended)
    | 'n' :: cs => scanWord .null ['u', 'l', 'l'] cs
    | 't' :: cs => scanWord (.bool true) ['r', 'u', 'e'] cs
    | 'f' :: cs => scanWord (.bool false) ['a', 'l', 's', 'e'] cs
    | '"' :: cs =>
      match scanString true [] cs with
      | (.ok s, rest) => (.string s, rest)
      | (.error fault, rest) => (.flawed fault, rest)
    | '[' :: cs =>
      match skipBlanks cs with
      | [] => (.array [] (some .ended), .error .ended)
      | ']' :: rest => (.array [] none, .ok rest)
      | cs =>
        let (items, rest) := scanItems fuel cs
        (.array items (Rest.stop rest), rest)
    | '{' :: cs =>
      match skipBlanks cs with
      | [] => (.object [] (some .ended), .error .ended)
      | '}' :: rest => (.object [] none, .ok rest)
      | '"' :: cs =>
        let (members, rest) := scanMembers fuel cs
        (.object members (Rest.stop rest), rest)
      | _ => (.object [] (some .malformed), .error .malformed)
    | c :: cs =>
      if c == '-' || c.isDigit then scanNumber (c :: cs)
      else (.flawed .malformed, .error .malformed)

/-- Reads the items of an array from the first one on, and its closing bracket. -/
def scanItems : Nat → List Char → List Written × Rest
  | 0, _ => ([.flawed .malformed], .error .malformed)
  | fuel + 1, cs =>
    match scanValue fuel cs with
    | (item, .error fault) => ([item], .error fault)
    | (item, .ok rest) =>
      match skipBlanks rest with
      | [] => ([item], .error .ended)
      | ']' :: rest => ([item], .ok rest)
      | ',' :: rest =>
        match skipBlanks rest with
        | [] => ([item, .flawed .ended], .error .ended)
        | ']' :: _ => ([item, .flawed .malformed], .error .malformed)
        | rest =>
          let (items, rest) := scanItems fuel rest
          (item :: items, rest)
      | _ => ([item], .error .malformed)

/-- Reads the members of an object after the opening quote of the first key, and its closing brace.
-/
def scanMembers : Nat → List Char → List (Except Fault String × Written) × Rest
  | 0, _ => ([(.error .malformed, .flawed .malformed)], .error .malformed)
  | fuel + 1, cs =>
    match scanString true [] cs with
    | (key, .error fault) => ([(key, .flawed fault)], .error fault)
    | (key, .ok rest) =>
      match skipBlanks rest with
      | [] => ([(key, .flawed .ended)], .error .ended)
      | ':' :: rest =>
        match scanValue fuel rest with
        | (value, .error fault) => ([(key, value)], .error fault)
        | (value, .ok rest) =>
          match skipBlanks rest with
          | [] => ([(key, value)], .error .ended)
          | '}' :: rest => ([(key, value)], .ok rest)
          | ',' :: rest =>
            match skipBlanks rest with
            | '"' :: rest =>
              let (members, rest) := scanMembers fuel rest
              ((key, value) :: members, rest)
            | [] => ([(key, value)], .error .ended)
            | _ => ([(key, value)], .error .malformed)
          | _ => ([(key, value)], .error .malformed)
      | _ => ([(key, .flawed .malformed)], .error .malformed)

end

def scan (text : String) : Written × Rest := scanValue (2 * text.length + 2) text.toList

/-- Nothing but blanks is left after the value. -/
def finished : Rest → Except Fault Unit
  | .ok rest => if (skipBlanks rest).isEmpty then .ok () else .error .malformed
  | .error fault => .error fault

def parse (text : String) : Except Fault Json := do
  let (tree, rest) := scan text
  let value ← tree.toJson Written.depthLimit
  finished rest
  return value

end ConformanceGate.Json
