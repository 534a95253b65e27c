import ConformanceGate.Document.Written
import ConformanceGate.Text.Decimal
import ConformanceGate.Text.Hexadecimal

/-!
# Scalars of configuration texts

Strings in their four forms, numbers, truth values, dates and times. A scalar that is no string is
one word of a few characters, which is read as a whole.
-/

namespace ConformanceGate.Toml

/-- A control character, which may stand neither in strings nor in comments. -/
def isControl (c : Char) : Bool := (c.toNat < 0x20 && c != '\t') || c.toNat == 0x7f

def isSpace (c : Char) : Bool := c == ' ' || c == '\t'

def skipSpaces (cs : List Char) : List Char := cs.dropWhile isSpace

/-- Passes over blanks, line breaks and comments; a comment may not hold control characters. -/
def skipTrivia (inComment : Bool) : List Char → Option (List Char)
  | [] => some []
  | '\r' :: '\n' :: rest => skipTrivia false rest
  | '\n' :: rest => skipTrivia false rest
  | c :: rest =>
    if inComment then if isControl c then none else skipTrivia true rest
    else if isSpace c then skipTrivia false rest
    else if c = '#' then skipTrivia true rest
    else some (c :: rest)

/-! ## Strings -/

/-- The character of an escape without a code. -/
def plainEscape? (c : Char) : Option Char :=
  match c with
  | '"' => some '"'
  | '\\' => some '\\'
  | 'b' => some '\x08'
  | 'e' => some '\x1b'
  | 'f' => some '\x0c'
  | 'n' => some '\n'
  | 'r' => some '\r'
  | 't' => some '\t'
  | _ => none

structure Quoting where
  /-- The quote in use. -/
  quote : Char
  /-- Three quotes begin and end the string, and it may hold line breaks. -/
  multiline : Bool

def Quoting.escapes (q : Quoting) : Bool := q.quote == '"'

/-- What stands between the quotes of a string, the last character first, and the text after it;
`none` in the first place if no quotes close it. The string of one line ends with its line in any
case. -/
def cutString (q : Quoting) (body : List Char) : List Char → Option (List Char) × List Char
  | [] => (none, [])
  | '\\' :: c :: rest =>
    if q.escapes && (c == '"' || c == '\\') then cutString q (c :: '\\' :: body) rest
    else cutString q ('\\' :: body) (c :: rest)
  | c :: rest =>
    if c = q.quote then
      if !q.multiline then (some body, rest)
      else
        match rest with
        | c₂ :: c₃ :: rest' =>
          if c₂ = q.quote ∧ c₃ = q.quote then
            -- up to two quotes right before the closing ones belong to the string
            match rest' with
            | c₄ :: rest₄ =>
              if c₄ = q.quote then
                match rest₄ with
                | c₅ :: rest₅ =>
                  if c₅ = q.quote then (some (c :: c :: body), rest₅)
                  else (some (c :: body), rest₄)
                | [] => (some (c :: body), rest₄)
              else (some body, rest')
            | [] => (some body, rest')
          else cutString q (c :: body) rest
        | _ => cutString q (c :: body) rest
    else if c = '\n' && !q.multiline then (none, c :: rest)
    else cutString q (c :: body) rest

/-- The text that stands for what is between the quotes. `acc` holds the characters so far, the last
one first; `folding` means that a backslash ended a line and blanks are passed over. -/
def decodeString (q : Quoting) (acc : List Char) (folding : Bool) : List Char → Option String
  | [] => some (String.ofList acc.reverse)
  | '\r' :: '\n' :: rest =>
    if !q.multiline then none
    else decodeString q (if folding then acc else '\n' :: '\r' :: acc) folding rest
  | '\n' :: rest =>
    if !q.multiline then none
    else decodeString q (if folding then acc else '\n' :: acc) folding rest
  | '\\' :: rest =>
    if !q.escapes then decodeString q ('\\' :: acc) false rest
    else match rest with
      | 'x' :: a :: b :: rest =>
        (Text.codedChar? [a, b]).bind fun c => decodeString q (c :: acc) false rest
      | 'u' :: a :: b :: c :: d :: rest =>
        (Text.codedChar? [a, b, c, d]).bind fun c => decodeString q (c :: acc) false rest
      | 'U' :: a :: b :: c :: d :: e :: f :: g :: h :: rest =>
        (Text.codedChar? [a, b, c, d, e, f, g, h]).bind fun c =>
          decodeString q (c :: acc) false rest
      | c :: rest =>
        match plainEscape? c with
        | some c => decodeString q (c :: acc) false rest
        | none =>
          let left := skipSpaces (c :: rest)
          if q.multiline && (left.head? == some '\n' || left.take 2 == ['\r', '\n']) then
            decodeString q acc true rest
          else none
      | [] => none
  | c :: rest =>
    if folding && isSpace c then decodeString q acc true rest
    else if isControl c then none
    else decodeString q (c :: acc) false rest

/-- A line break right after three opening quotes does not belong to the string. -/
def dropLineBreak : List Char → List Char
  | '\n' :: rest => rest
  | '\r' :: '\n' :: rest => rest
  | rest => rest

/-- Reads a string after its opening quotes: its text, unless it is malformed, and the rest. -/
def readQuoted (q : Quoting) (cs : List Char) : Option String × List Char :=
  let (body, rest) := cutString q [] cs
  let decode (body : List Char) : Option String :=
    decodeString q [] false (if q.multiline then dropLineBreak body.reverse else body.reverse)
  (body.bind decode, rest)

def readString (cs : List Char) : Option String × List Char :=
  match cs with
  | '"' :: '"' :: '"' :: rest => readQuoted ⟨'"', true⟩ rest
  | '\'' :: '\'' :: '\'' :: rest => readQuoted ⟨'\'', true⟩ rest
  | '"' :: rest => readQuoted ⟨'"', false⟩ rest
  | '\'' :: rest => readQuoted ⟨'\'', false⟩ rest
  | cs => (none, cs)

/-! ## Numbers -/

def digitRun? (isDigit : Char → Bool) (cs : List Char) : Option (List Char) :=
  let groups := cs.splitOn '_'
  if groups.all fun g => !g.isEmpty && g.all isDigit then some groups.flatten else none

/-- Digits without needless zeros in front. -/
def wholeRun? (cs : List Char) : Option (List Char) := do
  let ds ← digitRun? Char.isDigit cs
  if ds.head? = some '0' ∧ cs.length ≠ 1 then none else some ds

/-- The value of digits in a base of ten at most. -/
def valueIn (base : Nat) (ds : List Char) : Nat :=
  ds.foldl (fun n c => n * base + (c.toNat - '0'.toNat)) 0

def signed : List Char → Bool × List Char
  | '-' :: cs => (true, cs)
  | '+' :: cs => (false, cs)
  | cs => (false, cs)

/-- A whole number: decimal with a sign or none, or in another base without a sign. -/
def integer? (cs : List Char) : Option Int :=
  match cs with
  | '0' :: 'x' :: ds => ((digitRun? Text.isHexDigit ds).bind Text.hexNumeral?).map Int.ofNat
  | '0' :: 'o' :: ds =>
    (digitRun? (fun c => '0' ≤ c && c ≤ '7') ds).map fun ds => (valueIn 8 ds : Int)
  | '0' :: 'b' :: ds =>
    (digitRun? (fun c => c == '0' || c == '1') ds).map fun ds => (valueIn 2 ds : Int)
  | cs =>
    let (negative, ds) := signed cs
    (wholeRun? ds).map fun ds => if negative then -(valueIn 10 ds : Int) else valueIn 10 ds

/-- The double nearest to `digits · 10 ^ exponent`. -/
def decimal? (negative : Bool) (digits : Nat) (exponent : Int) : Option Double :=
  if exponent < 0 then Double.round negative digits (Nat.pow 10 (-exponent).toNat)
  else Double.round negative (digits * Nat.pow 10 exponent.toNat) 1

def exponentBound : Nat := 100000

def float? (cs : List Char) : Option Double := do
  let (negative, cs) := signed cs
  let isMark (c : Char) : Bool := c == 'e' || c == 'E'
  let significand := cs.takeWhile fun c => !isMark c
  let marked := cs.dropWhile fun c => !isMark c
  let exponent : Int ← match marked with
    | [] => some 0
    | _ :: e =>
      let (below, ds) := signed e
      (digitRun? Char.isDigit ds).map fun ds =>
        let n := min (valueIn 10 ds) exponentBound
        if below then -(n : Int) else n
  let whole ← wholeRun? (significand.takeWhile (· ≠ '.'))
  match significand.dropWhile (· ≠ '.') with
  | [] => if marked.isEmpty then none else decimal? negative (valueIn 10 whole) exponent
  | _ :: f =>
    let fraction ← digitRun? Char.isDigit f
    decimal? negative (valueIn 10 (whole ++ fraction)) (exponent - fraction.length)

/-! ## Dates and times -/

/-- The value of exactly `n` digits that is at most `bound`. -/
def field? (n least bound : Nat) (cs : List Char) : Option Nat :=
  if cs.length = n ∧ cs.all Char.isDigit ∧ least ≤ valueIn 10 cs ∧ valueIn 10 cs ≤ bound
  then some (valueIn 10 cs) else none

def daysIn (year month : Nat) : Nat :=
  if month = 2 then if year % 4 = 0 ∧ (year % 100 ≠ 0 ∨ year % 400 = 0) then 29 else 28
  else if month = 4 ∨ month = 6 ∨ month = 9 ∨ month = 11 then 30 else 31

def isDate (cs : List Char) : Bool :=
  match cs.splitOn '-' with
  | [y, m, d] =>
    match field? 4 0 9999 y, field? 2 1 12 m with
    | some year, some month => (field? 2 1 (daysIn year month) d).isSome
    | _, _ => false
  | _ => false

def isSeconds (cs : List Char) : Bool :=
  (field? 2 0 60 (cs.takeWhile (· ≠ '.'))).isSome &&
    match cs.dropWhile (· ≠ '.') with
    | [] => true
    | _ :: fraction => !fraction.isEmpty && fraction.all Char.isDigit

/-- A time such as `07:32` or `07:32:00.5`. -/
def isTime (cs : List Char) : Bool :=
  match cs.splitOn ':' with
  | [h, m] => (field? 2 0 23 h).isSome && (field? 2 0 59 m).isSome
  | [h, m, s] => (field? 2 0 23 h).isSome && (field? 2 0 59 m).isSome && isSeconds s
  | _ => false

/-- A time with an offset or without one. -/
def isZonedTime (cs : List Char) : Bool :=
  match cs.getLast? with
  | some 'Z' | some 'z' => isTime cs.dropLast
  | _ =>
    let time := cs.takeWhile fun c => c != '+' && c != '-'
    match cs.dropWhile fun c => c != '+' && c != '-' with
    | [] => isTime time
    | _ :: offset =>
      match offset.splitOn ':' with
      | [h, m] => isTime time && (field? 2 0 23 h).isSome && (field? 2 0 59 m).isSome
      | _ => false

def isMoment (cs : List Char) : Bool :=
  isDate cs || isTime cs ||
    (isDate (cs.take 10) && (cs.drop 10).head?.any (fun c => c == 'T' || c == 't' || c == ' ') &&
      isZonedTime (cs.drop 11))

/-- A date or time shows as a map with this key. -/
def momentKey : String := "$__toml_private_datetime"

/-! ## Words -/

def endsWord (c : Char) : Bool := isSpace c || c ∈ ['=', ',', '[', ']', '{', '}', '#', '\n', '\r']

/-- The word at the front of a text. A blank may stand between a date and a time. -/
def takeWord (cs : List Char) : List Char × List Char :=
  let inWord (c : Char) : Bool := !endsWord c
  let word := cs.takeWhile inWord
  let rest := cs.dropWhile inWord
  match rest with
  | ' ' :: c :: more =>
    if isDate word && c.isDigit then
      (word ++ ' ' :: (c :: more).takeWhile inWord, (c :: more).dropWhile inWord)
    else (word, rest)
  | _ => (word, rest)

/-- The value of a word. Whole numbers have 64 bits, with or without a sign. -/
def ofWord? (word : List Char) : Option Written :=
  if word = "true".toList then some (.bool true)
  else if word = "false".toList then some (.bool false)
  else if (signed word).2 = "inf".toList then
    some (.nonfinite (if (signed word).1 then "-inf" else "inf"))
  else if (signed word).2 = "nan".toList then some (.nonfinite "NaN")
  else if isMoment word then some (.object [(.ok momentKey, .string (String.ofList word))] none)
  else
    match integer? word with
    | some n =>
      if -Int.ofNat (1 <<< 63) ≤ n ∧ n < Int.ofNat (1 <<< 64) then some (.number (.integer n))
      else none
    | none => (float? word).map fun d => .number (.float d)

end ConformanceGate.Toml
