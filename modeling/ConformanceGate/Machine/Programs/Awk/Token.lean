import ConformanceGate.Machine.Programs.Awk.Basic
import ConformanceGate.Machine.Programs.Format

/-!
# Tokens of programs over records

The words and signs of a program. A slash divides after a value, and begins a regular expression
anywhere else.
-/

namespace ConformanceGate.Machine.Programs.Awk

inductive Token
  | number (value : Fraction)
  | text (value : Octets)
  | regular (source : Octets)
  | name (name : String)
  /-- A name right before an opening parenthesis. -/
  | called (name : String)
  /-- A word of the language. -/
  | word (word : String)
  /-- A function of the language. -/
  | function (name : String)
  | sign (sign : String)
  | line
deriving DecidableEq

namespace Token

def words : List String :=
  ["BEGIN", "END", "if", "else", "while", "for", "do", "break", "continue", "next", "nextfile",
    "exit", "delete", "in", "getline", "print", "printf", "function", "func", "return"]

def functions : List String :=
  ["length", "substr", "index", "split", "sub", "gsub", "match", "sprintf", "int", "sqrt",
    "tolower", "toupper", "close", "fflush"]

def refused : List String :=
  ["system", "rand", "srand", "exp", "log", "sin", "cos", "atan2", "systime", "strftime", "mktime"]

def longSigns : List String :=
  ["&&", "||", "==", "!=", "<=", ">=", "++", "--", "+=", "-=", "*=", "/=", "%=", "^=", ">>", "!~"]

def shortSigns : List Char :=
  ['\x7b', '\x7d', '(', ')', '[', ']', ';', ',', '+', '-', '*', '/', '%', '^', '!', '>', '<', '|',
    '?', ':', '~', '$', '=']

def endsValue : Token → Bool
  | .number _ | .text _ | .regular _ | .name _ => true
  | .function f => f = "length"
  | .sign s => s = ")" || s = "]" || s = "++" || s = "--"
  | _ => false

/-- Reads a text up to its closing quote; backslashes that mean nothing stay. The fuel is above the
length of the text. -/
def readText : Nat → List Char → Option (Octets × List Char)
  | 0, _ => none
  | fuel + 1, cs =>
    let put (c : Char) (rest : List Char) : Option (Octets × List Char) :=
      (readText fuel rest).map fun (taken, rest) => (c :: taken, rest)
    match cs with
    | '"' :: rest => some ([], rest)
    | '\\' :: '\n' :: rest => readText fuel rest
    | '\\' :: c :: rest =>
      if c = '"' || c = '/' then put c rest
      else if isOctal c then
        let (code, rest) := octalCode (c :: rest)
        put code rest
      else match letterEscape? c with
        | some d => put d rest
        | none => (put c rest).map fun (taken, rest) => ('\\' :: taken, rest)
    | '\n' :: _ => none
    | c :: rest => put c rest
    | [] => none

/-- Reads a regular expression up to its closing slash. The fuel is above the length of the text. -/
def readRegular : Nat → Bool → List Char → Option (Octets × List Char)
  | 0, _, _ => none
  | fuel + 1, bracketed, cs =>
    let put (c : Char) (bracketed : Bool) (rest : List Char) : Option (Octets × List Char) :=
      (readRegular fuel bracketed rest).map fun (taken, rest) => (c :: taken, rest)
    match cs with
    | '/' :: rest => if bracketed then put '/' true rest else some ([], rest)
    | '\\' :: '/' :: rest => put '/' bracketed rest
    | '\\' :: '"' :: rest => put '"' bracketed rest
    | '\\' :: c :: rest =>
      (put c bracketed rest).map fun (taken, rest) => ('\\' :: taken, rest)
    | '\n' :: _ => none
    | '[' :: ']' :: rest =>
      (put ']' true rest).map fun (taken, rest) => ('[' :: taken, rest)
    | '[' :: '^' :: ']' :: rest =>
      (put ']' true rest).map fun (taken, rest) => ('[' :: '^' :: taken, rest)
    | '[' :: ':' :: rest => put '[' bracketed (':' :: rest)
    | '[' :: rest => put '[' true rest
    | ':' :: ']' :: rest =>
      if bracketed then (put ']' true rest).map fun (taken, rest) => (':' :: taken, rest)
      else put ':' false (']' :: rest)
    | ']' :: rest => put ']' false rest
    | c :: rest => put c bracketed rest
    | [] => none

def ofWord (spelling : String) (rest : List Char) : Option Token :=
  if spelling ∈ words then some (.word spelling)
  else if spelling ∈ functions then some (.function spelling)
  else if spelling ∈ refused then none
  else if rest.head? = some '(' then some (.called spelling) else some (.name spelling)

def readSign (cs : List Char) : Option (Token × List Char) :=
  match longSigns.find? fun s => s.toList == cs.take 2 with
  | some s => some (.sign s, cs.drop 2)
  | none =>
    match cs with
    | c :: rest => if c ∈ shortSigns then some (.sign c.toString, rest) else none
    | [] => none

/-- The token at the front of a text without blanks there, and what follows it. -/
def readOne (afterValue : Bool) (cs : List Char) : Option (Token × List Char) :=
  match cs with
  | [] => none
  | '\n' :: rest => some (.line, rest)
  | '"' :: rest => (readText (rest.length + 1) rest).map fun (taken, rest) => (.text taken, rest)
  | c :: rest =>
    if c.isDigit || (c = '.' && rest.head?.any Char.isDigit) then
      (Fraction.take? cs).map fun (x, rest) => (.number x, rest)
    else if c.isAlpha || c = '_' then
      let spelling := cs.takeWhile fun c => c.isAlphanum || c == '_'
      let rest := cs.drop spelling.length
      (ofWord (String.ofList spelling) rest).map fun token => (token, rest)
    else if c = '/' && !afterValue then
      (readRegular (rest.length + 1) false rest).map fun (e, rest) => (.regular e, rest)
    else readSign cs

/-- The tokens of a text. The fuel is above its length. -/
def readAll : Nat → Bool → List Char → Option (List Token)
  | 0, _, _ => none
  | fuel + 1, afterValue, cs =>
    match cs with
    | [] => some []
    | '\\' :: '\n' :: rest => readAll fuel afterValue rest
    | '#' :: rest => readAll fuel afterValue (rest.dropWhile (· ≠ '\n'))
    | c :: rest =>
      if c = ' ' || c = '\t' || c = '\r' then readAll fuel afterValue rest
      else do
        let (token, rest) ← readOne afterValue (c :: rest)
        return token :: (← readAll fuel token.endsValue rest)

def ofOctets? (source : Octets) : Option (List Token) := readAll (source.length + 1) false source

end Token
end ConformanceGate.Machine.Programs.Awk
