import ConformanceGate.Machine.Programs.Condition
import ConformanceGate.Machine.Programs.Outcome
import ConformanceGate.Machine.Regular

/-!
# Evaluating arguments

Expressions whose operands and operators are the arguments of a program. All values are texts, some
of which are numbers.
-/

namespace ConformanceGate.Machine.Programs

namespace Evaluate

/-- The number that a text is: digits, perhaps after a dash. -/
def number? (text : String) : Option Int :=
  let digits (ds : List Char) : Option Int :=
    if ds.isEmpty || !ds.all Char.isDigit then none else some (Nat.ofDigitChars 10 ds 0 : Nat)
  match text.toList with
  | '-' :: ds => (digits ds).map (- ·)
  | ds => digits ds

/-- Whether a value counts as false: an empty text or a zero. -/
def isNull (text : String) : Bool :=
  match text.toList with
  | [] => true
  | '-' :: ds => !ds.isEmpty && ds.all (· == '0')
  | ds => ds.all (· == '0')

/-- One for what holds, zero for what does not. -/
def truth (b : Bool) : String := if b then "1" else "0"

/-- What an expression finds at the front of a text: its first group if it has one, else the length
of the match. -/
def matched? (text expression : String) : Option String := do
  let cs := octetsOf expression
  let e ← Regular.read false cs
  let grouped := (cs.zip cs.tail).any fun (a, b) => a == '\\' && b == '('
  let s : Regular.Subject := ⟨(octetsOf text).toArray, false⟩
  match Regular.matchAt? e s 0 with
  | some f => if grouped then some (textOfOctets (f.group s 1)) else some f.stop.repr
  | none => some (if grouped then "" else "0")

def compare (op left right : String) : Bool :=
  let (less, same) : Bool × Bool := match number? left, number? right with
    | some a, some b => (a < b, a == b)
    | _, _ => (left < right, left == right)
  match op with
  | "<" => less
  | "<=" => less || same
  | "=" | "==" => same
  | "!=" => !same
  | ">=" => !less
  | _ => !(less || same)

def apply (op left right : String) : Option String :=
  let whole (f : Int → Int → Option Int) : Option String := do
    return toString (← f (← number? left) (← number? right))
  match op with
  | "|" => some (if !isNull left then left else if !isNull right then right else "0")
  | "&" => some (if isNull left || isNull right then "0" else left)
  | ":" => matched? left right
  | "+" => whole fun a b => some (a + b)
  | "-" => whole fun a b => some (a - b)
  | "*" => whole fun a b => some (a * b)
  | "/" => whole fun a b => if b = 0 then none else some (a.tdiv b)
  | "%" => whole fun a b => if b = 0 then none else some (a.tmod b)
  | op => some (truth (compare op left right))

def levels : List (List String) :=
  [["|"], ["&"], ["<", "<=", "=", "==", "!=", ">=", ">"], ["+", "-"], ["*", "/", "%"], [":"]]

mutual

/-- The value of operands joined by the operators of the given levels, and the rest of the words.
The fuel is above a few times their number. -/
def level : Nat → List (List String) → List String → Option (String × List String)
  | 0, _, _ => none
  | fuel + 1, [], words => primary fuel words
  | fuel + 1, ops :: tighter, words => do
    let (first, rest) ← level fuel tighter words
    more fuel ops tighter first rest

def more : Nat → List String → List (List String) → String → List String →
    Option (String × List String)
  | 0, _, _, _, _ => none
  | fuel + 1, ops, tighter, first, words =>
    match words with
    | op :: rest =>
      if op ∈ ops then do
        let (second, rest) ← level fuel tighter rest
        more fuel ops tighter (← apply op first second) rest
      else some (first, words)
    | [] => some (first, [])

def primary : Nat → List String → Option (String × List String)
  | 0, _ => none
  | fuel + 1, words =>
    match words with
    | [] => none
    | "(" :: rest => do
      let (value, rest) ← level fuel levels rest
      match rest with
      | ")" :: rest => return (value, rest)
      | _ => none
    | "+" :: word :: rest => some (word, rest)
    | "length" :: rest => do
      let (text, rest) ← primary fuel rest
      return (text.length.repr, rest)
    | "match" :: rest => do
      let (text, rest) ← primary fuel rest
      let (expression, rest) ← primary fuel rest
      return (← matched? text expression, rest)
    | "index" :: rest => do
      let (text, rest) ← primary fuel rest
      let (chars, rest) ← primary fuel rest
      let before := text.toList.takeWhile fun c => !(c ∈ chars.toList)
      return ((if before.length = text.length then 0 else before.length + 1).repr, rest)
    | "substr" :: rest => do
      let (text, rest) ← primary fuel rest
      let (place, rest) ← primary fuel rest
      let (length, rest) ← primary fuel rest
      match number? place, number? length with
      | some place, some length =>
        if place < 1 || length < 1 then return ("", rest)
        else return (String.ofList ((text.toList.drop (place - 1).toNat).take length.toNat), rest)
      | _, _ => return ("", rest)
    | word :: rest => if word = ")" then none else some (word, rest)

end

def value? (words : List String) : Option String := do
  let (value, rest) ← level (16 * words.length + 32) levels words
  if rest.isEmpty then some value else none

end Evaluate

/-- Prints the value of an expression. The status tells whether it counts as false. -/
def expr (c : Call) : Outcome :=
  let words := if c.args.head? = some "--" then c.args.tail else c.args
  match Evaluate.value? words with
  | some value => { c.printLine value with status := if Evaluate.isNull value then 1 else 0 }
  | none => c.quit 2

end ConformanceGate.Machine.Programs
