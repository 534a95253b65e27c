import ConformanceGate.Json.Basic
import ConformanceGate.Number.Shortest

/-!
# JSON text

A value has a compact text without blanks and a pretty text with one item or member on a line, set
in by two blanks a level. Members are written in the order in which they stand. Strings escape only
what they have to; doubles are written with their shortest digits.
-/

namespace ConformanceGate.Json

/-- A control character is written by its code in four lower case hexadecimal digits. -/
def controlEscape (c : Char) : List Char :=
  ['\\', 'u', '0', '0', (Nat.digitChar (c.toNat / 16)), (Nat.digitChar (c.toNat % 16))]

def escape (c : Char) : List Char :=
  match c with
  | '"' => ['\\', '"']
  | '\\' => ['\\', '\\']
  | '\x08' => ['\\', 'b']
  | '\t' => ['\\', 't']
  | '\n' => ['\\', 'n']
  | '\x0c' => ['\\', 'f']
  | '\r' => ['\\', 'r']
  | c => if c.toNat < 0x20 then controlEscape c else [c]

def quote (s : String) : List Char := '"' :: s.toList.flatMap escape ++ ['"']

/-- Doubles are written positionally from a hundred-thousandth up to below ten to the sixteenth. -/
def numberLayout : Double.Layout := ⟨-5, 15⟩

/-- A number: a whole number in decimal, a double with its shortest digits. -/
def numeral : Number → List Char
  | .integer (.ofNat n) => n.repr.toList
  | .integer (.negSucc n) => '-' :: (n + 1).repr.toList
  | .float d => (d.text numberLayout).toList

/-- A new line, set in by `depth` levels. -/
def newline (depth : Nat) : List Char := '\n' :: List.replicate (2 * depth) ' '

mutual

def compactChars : Json → List Char
  | .null => ['n', 'u', 'l', 'l']
  | .bool true => ['t', 'r', 'u', 'e']
  | .bool false => ['f', 'a', 'l', 's', 'e']
  | .number n => numeral n
  | .string s => quote s
  | .array [] => ['[', ']']
  | .array (item :: rest) => '[' :: compactChars item ++ compactItems rest
  | .object [] => ['{', '}']
  | .object ((key, value) :: rest) =>
    '{' :: quote key ++ ':' :: compactChars value ++ compactMembers rest

def compactItems : List Json → List Char
  | [] => [']']
  | item :: rest => ',' :: compactChars item ++ compactItems rest

def compactMembers : List (String × Json) → List Char
  | [] => ['}']
  | (key, value) :: rest => ',' :: quote key ++ ':' :: compactChars value ++ compactMembers rest

end

mutual

/-- The text over several lines; the value starts at `depth` levels. -/
def prettyChars (depth : Nat) : Json → List Char
  | .null => ['n', 'u', 'l', 'l']
  | .bool true => ['t', 'r', 'u', 'e']
  | .bool false => ['f', 'a', 'l', 's', 'e']
  | .number n => numeral n
  | .string s => quote s
  | .array [] => ['[', ']']
  | .array (item :: rest) =>
    '[' :: newline (depth + 1) ++ prettyChars (depth + 1) item ++ prettyItems depth rest
  | .object [] => ['{', '}']
  | .object ((key, value) :: rest) =>
    '{' :: newline (depth + 1) ++ quote key ++ ':' :: ' ' :: prettyChars (depth + 1) value ++
      prettyMembers depth rest

/-- The items after the first, and the closing bracket on a line of its own. -/
def prettyItems (depth : Nat) : List Json → List Char
  | [] => newline depth ++ [']']
  | item :: rest =>
    ',' :: newline (depth + 1) ++ prettyChars (depth + 1) item ++ prettyItems depth rest

/-- The members after the first, and the closing brace on a line of its own. -/
def prettyMembers (depth : Nat) : List (String × Json) → List Char
  | [] => newline depth ++ ['}']
  | (key, value) :: rest =>
    ',' :: newline (depth + 1) ++ quote key ++ ':' :: ' ' :: prettyChars (depth + 1) value ++
      prettyMembers depth rest

end

def compact (v : Json) : String := String.ofList v.compactChars

def pretty (v : Json) : String := String.ofList (v.prettyChars 0)

end ConformanceGate.Json
