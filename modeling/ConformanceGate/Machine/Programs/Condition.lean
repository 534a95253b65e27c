import ConformanceGate.Machine.Files

/-!
# Conditions

The conditions that scripts test: of files, texts and numbers, joined by negation, conjunction and
disjunction. A condition is read from its words while it is tested.
-/

namespace ConformanceGate.Machine

/-- What a word of a condition is. -/
inductive Sign
  | ended
  | operand
  | unary (op : String)
  | binary (op : String)
  | negation
  | conjunction
  | disjunction
  | opening
  | closing
deriving DecidableEq

namespace Condition

def unary : List String :=
  ["-r", "-w", "-x", "-e", "-f", "-d", "-c", "-b", "-p", "-u", "-g", "-k", "-s", "-t", "-z", "-n",
    "-h", "-L", "-O", "-G", "-S"]

def binary : List String :=
  ["=", "!=", "<", ">", "-eq", "-ne", "-ge", "-gt", "-le", "-lt", "-nt", "-ot", "-ef"]

def signOf (word : String) : Sign :=
  if word ∈ unary then .unary word
  else if word ∈ binary then .binary word
  else match word with
    | "!" => .negation
    | "-a" => .conjunction
    | "-o" => .disjunction
    | "(" => .opening
    | ")" => .closing
    | _ => .operand

/-- What the first of the words is in its place: an operator without anything to work on is an
operand. -/
def next (words : List String) : Sign :=
  match words with
  | [] => .ended
  | word :: rest =>
    match signOf word, rest with
    | .unary _, [] | .opening, [] => .operand
    | .unary op, second :: _ :: _ => if second ∈ binary then .operand else .unary op
    | sign, _ => sign

/-- A whole number with a sign or none. -/
def number? (text : String) : Option Int :=
  let isBlank (c : Char) : Bool := c == ' ' || c == '\t' || c == '\n'
  let cs := ((text.toList.dropWhile isBlank).reverse.dropWhile isBlank).reverse
  let digits (ds : List Char) : Option Int :=
    if ds.isEmpty || !ds.all Char.isDigit then none else some (Nat.ofDigitChars 10 ds 0 : Nat)
  match cs with
  | '-' :: ds => (digits ds).map (- ·)
  | '+' :: ds => digits ds
  | ds => digits ds

def ofUnary (fs : Files) (cwd : List String) (op operand : String) : Bool :=
  let entry := fs.find? cwd operand
  match op with
  | "-e" | "-r" | "-w" | "-O" | "-G" => entry.isSome
  | "-f" => fs.leadsToFile cwd operand
  | "-d" => fs.leadsToDir cwd operand
  | "-x" =>
    match entry with
    | some .directory | some (.program _) | some (.file _ true) => true
    | _ => false
  | "-s" =>
    match entry with
    | some (.file bytes _) => !bytes.isEmpty
    | some (.device _) | none => false
    | some _ => true
  | "-c" => (entry matches some (.device _))
  | "-h" | "-L" => (fs.named? cwd operand matches some (.link _))
  | "-n" => !operand.isEmpty
  | "-z" => operand.isEmpty
  | _ => false

/-- The value of an operator between operands, unless these are no numbers where they have to be. -/
def ofBinary (fs : Files) (cwd : List String) (left op right : String) : Option Bool :=
  let compare (f : Int → Int → Bool) : Option Bool := do return f (← number? left) (← number? right)
  match op with
  | "=" => some (left == right)
  | "!=" => some (left != right)
  | "<" => some (left < right)
  | ">" => some (right < left)
  | "-eq" => compare (· == ·)
  | "-ne" => compare (· != ·)
  | "-lt" => compare (· < ·)
  | "-le" => compare (· ≤ ·)
  | "-gt" => compare (· > ·)
  | "-ge" => compare (· ≥ ·)
  | "-ef" =>
    match fs.locate cwd left, fs.locate cwd right with
    | .ok a, .ok b => some (a == b && (fs.at? a).isSome)
    | _, _ => some false
  | _ => some false

mutual

/-- Tests alternatives; the words that are returned begin with the last one that was used. The fuel
is above a few times the number of words. -/
def alternatives (fs : Files) (cwd : List String) :
    Nat → Sign → List String → Option (Bool × List String)
  | 0, _, _ => none
  | fuel + 1, sign, words => do
    let (first, words) ← conjunctions fs cwd fuel sign words
    if next words.tail = .disjunction then
      let rest := words.drop 2
      let (second, words) ← alternatives fs cwd fuel (next rest) rest
      return (first || second, words)
    else return (first, words)

def conjunctions (fs : Files) (cwd : List String) :
    Nat → Sign → List String → Option (Bool × List String)
  | 0, _, _ => none
  | fuel + 1, sign, words => do
    let (first, words) ← negations fs cwd fuel sign words
    if next words.tail = .conjunction then
      let rest := words.drop 2
      let (second, words) ← conjunctions fs cwd fuel (next rest) rest
      return (first && second, words)
    else return (first, words)

def negations (fs : Files) (cwd : List String) :
    Nat → Sign → List String → Option (Bool × List String)
  | 0, _, _ => none
  | fuel + 1, sign, words =>
    if sign = .negation then do
      let rest := if words.tail.isEmpty then words else words.tail
      let (value, words) ← negations fs cwd fuel (next words.tail) rest
      return (!value, words)
    else primary fs cwd fuel sign words

def primary (fs : Files) (cwd : List String) :
    Nat → Sign → List String → Option (Bool × List String)
  | 0, _, _ => none
  | fuel + 1, sign, words =>
    match sign, words with
    | .ended, words => some (false, words)
    | .opening, _ :: rest =>
      if next rest = .closing then some (false, rest)
      else do
        let (value, words) ← alternatives fs cwd fuel (next rest) rest
        if next words.tail = .closing then return (value, words.tail) else none
    | .unary op, _ :: operand :: rest => some (ofUnary fs cwd op operand, operand :: rest)
    | .unary _, _ => none
    | _, left :: op :: right :: rest =>
      match next (op :: right :: rest) with
      | .binary op => (ofBinary fs cwd left op right).map (·, right :: rest)
      | _ => some (!left.isEmpty, left :: op :: right :: rest)
    | _, [left, op] =>
      match next [op] with
      | .binary _ => none
      | _ => some (!left.isEmpty, [left, op])
    | _, left :: rest => some (!left.isEmpty, left :: rest)
    | _, [] => some (false, [])

end

def ofWords (fs : Files) (cwd : List String) (sign : Sign) (words : List String) : Option Bool := do
  let (value, left) ← alternatives fs cwd (8 * words.length + 16) sign words
  if 2 ≤ left.length then none else return value

/-- The value of a condition, unless it is malformed. Up to four words are looked at as a whole. -/
def test? (fs : Files) (cwd : List String) : List String → Option Bool
  | [] => some false
  | [left, op, right] =>
    match signOf op with
    | .binary _ => ofWords fs cwd .operand [left, op, right]
    | _ =>
      if left = "(" && right = ")" then ofWords fs cwd (next [op]) [op]
      else if left = "!" then (test? fs cwd [op, right]).map (!·)
      else ofWords fs cwd (next [left, op, right]) [left, op, right]
  | [a, b, c, d] =>
    if a = "(" && d = ")" then ofWords fs cwd (next [b, c]) [b, c]
    else if a = "!" then (test? fs cwd [b, c, d]).map (!·)
    else ofWords fs cwd (next [a, b, c, d]) [a, b, c, d]
  | words => ofWords fs cwd (next words) words

def status (fs : Files) (cwd : List String) (words : List String) : Nat :=
  match test? fs cwd words with
  | some true => 0
  | some false => 1
  | none => 2

def bracketStatus (fs : Files) (cwd : List String) (words : List String) : Nat :=
  if words.getLast? = some "]" then status fs cwd words.dropLast else 2

end Condition
end ConformanceGate.Machine
