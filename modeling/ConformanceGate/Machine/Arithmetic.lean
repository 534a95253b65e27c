import ConformanceGate.Machine.Script.Basic

/-!
# Arithmetic of scripts

Expressions over signed words of 64 bits, with the operators of C but for steps up and down. A name
stands for the number that the variable of this name holds.
-/

namespace ConformanceGate.Machine

inductive Sum
  | number (n : Int)
  | variable (name : String)
  | prefixed (op : Char) (operand : Sum)
  | infixed (op : String) (left right : Sum)
  | choice (condition yes no : Sum)
  /-- Gives a variable a value, perhaps the result of an operator on its old value. -/
  | assign (name op : String) (operand : Sum)

namespace Sum

/-! ## Numbers -/

def wrap (n : Int) : Int := n.bmod 18446744073709551616

/-- The value of a digit in any base up to 36. -/
def digit (c : Char) : Nat :=
  if c.isDigit then c.toNat - '0'.toNat else c.toLower.toNat - 'a'.toNat + 10

/-- The value of digits in a base. Numbers beyond the range count as the last one in it. -/
def valueIn? (base : Nat) (ds : List Char) : Option Int :=
  if ds.isEmpty || !ds.all (fun c => c.isAlphanum && digit c < base) then none
  else
    let n := ds.foldl (fun n c => n * base + digit c) 0
    some (min n 9223372036854775807 : Nat)

/-- A numeral without a sign: hexadecimal, octal after a zero, or decimal. -/
def numeral? : List Char → Option Int
  | '0' :: 'x' :: ds | '0' :: 'X' :: ds => valueIn? 16 ds
  | '0' :: ds => if ds.isEmpty then some 0 else valueIn? 8 ds
  | ds => valueIn? 10 ds

/-- The number that a text holds: blanks, perhaps a sign, and a numeral. -/
def ofText? (text : String) : Option Int :=
  let isBlank (c : Char) : Bool := c == ' ' || c == '\t' || c == '\n'
  let cs := (text.toList.dropWhile isBlank).reverse.dropWhile isBlank |>.reverse
  match cs with
  | [] => some 0
  | '-' :: ds => (numeral? ds).map (- ·)
  | '+' :: ds => numeral? ds
  | ds => numeral? ds

/-! ## Reading -/

def skip (cs : List Char) : List Char :=
  cs.dropWhile fun c => c == ' ' || c == '\t' || c == '\n'

def levels : List (List String) :=
  [["||"], ["&&"], ["|"], ["^"], ["&"], ["==", "!="], ["<=", ">=", "<", ">"], ["<<", ">>"],
    ["+", "-"], ["*", "/", "%"]]

def signs : List String :=
  ["<<=", ">>=", "||", "&&", "==", "!=", "<=", ">=", "<<", ">>", "+=", "-=", "*=", "/=", "%=", "&=",
    "|=", "^=", "|", "^", "&", "<", ">", "+", "-", "*", "/", "%", "=", "?", ":", "(", ")", "!", "~"]

def takeSign? (cs : List Char) : Option (String × List Char) :=
  let cs := skip cs
  (signs.find? fun sign => sign.toList.isPrefixOf cs).map fun sign => (sign, cs.drop sign.length)

def assigning : List (String × String) :=
  [("=", ""), ("<<=", "<<"), (">>=", ">>"), ("+=", "+"), ("-=", "-"), ("*=", "*"), ("/=", "/"),
    ("%=", "%"), ("&=", "&"), ("|=", "|"), ("^=", "^")]

mutual

/-- Reads an expression that may assign. The fuel is above a few times the length of the text. -/
def readSum : Nat → List Char → Option (Sum × List Char)
  | 0, _ => none
  | fuel + 1, cs => do
    let start := skip cs
    let name := String.ofList (start.takeWhile isNameChar)
    let assigned? : Option (String × String × List Char) := do
      if !isName name then none
      let (sign, rest) ← takeSign? (start.drop name.length)
      let op ← assigning.lookup sign
      return (name, op, rest)
    match assigned? with
    | some (name, op, rest) => do
      let (operand, rest) ← readSum fuel rest
      return (.assign name op operand, rest)
    | none => do
      let (condition, rest) ← readLevel fuel levels start
      match takeSign? rest with
      | some ("?", rest) => do
        let (yes, rest) ← readSum fuel rest
        match takeSign? rest with
        | some (":", rest) => do
          let (no, rest) ← readSum fuel rest
          return (.choice condition yes no, rest)
        | _ => none
      | _ => return (condition, rest)

def readLevel : Nat → List (List String) → List Char → Option (Sum × List Char)
  | 0, _, _ => none
  | fuel + 1, [], cs =>
    match takeSign? cs with
    | some ("(", rest) => do
      let (inner, rest) ← readSum fuel rest
      match takeSign? rest with
      | some (")", rest) => return (inner, rest)
      | _ => none
    | some (sign, rest) => do
      if sign ∈ ["-", "+", "!", "~"] then
        let (operand, rest) ← readLevel fuel [] rest
        return (.prefixed (sign.toList.headD '+') operand, rest)
      else none
    | none => do
      let cs := skip cs
      let word := cs.takeWhile isNameChar
      let rest := cs.drop word.length
      let name := String.ofList word
      if isName name then return (.variable name, rest)
      else return (.number (← numeral? word), rest)
  | fuel + 1, ops :: tighter, cs => do
    let (first, rest) ← readLevel fuel tighter cs
    readMore fuel ops tighter first rest

def readMore : Nat → List String → List (List String) → Sum → List Char →
    Option (Sum × List Char)
  | 0, _, _, _, _ => none
  | fuel + 1, ops, tighter, first, cs =>
    match takeSign? cs with
    | some (sign, rest) =>
      if sign ∈ ops then do
        let (second, rest) ← readLevel fuel tighter rest
        readMore fuel ops tighter (.infixed sign first second) rest
      else some (first, cs)
    | none => some (first, cs)

end

/-- The expression of a text; an empty text stands for zero. -/
def read (text : String) : Option Sum := do
  let cs := skip text.toList
  if cs.isEmpty then return .number 0
  let (found, rest) ← readSum (16 * cs.length + 64) cs
  if (skip rest).isEmpty then some found else none

/-! ## Values -/

/-- One for what holds, zero for what does not. -/
def truth (b : Bool) : Int := if b then 1 else 0

def bits (n : Int) : Nat := (n % 18446744073709551616).toNat

/-- The result of an operator between operands; nothing can be divided by zero. -/
def apply (op : String) (a b : Int) : Option Int :=
  match op with
  | "+" => some (wrap (a + b))
  | "-" => some (wrap (a - b))
  | "*" => some (wrap (a * b))
  | "/" => if b = 0 then none else some (wrap (a.tdiv b))
  | "%" => if b = 0 then none else some (a.tmod b)
  | "<<" => some (wrap (bits a <<< (bits b % 64) : Nat))
  | ">>" => some (a >>> (bits b % 64))
  | "<" => some (truth (a < b))
  | ">" => some (truth (b < a))
  | "<=" => some (truth (a ≤ b))
  | ">=" => some (truth (b ≤ a))
  | "==" => some (truth (a == b))
  | "!=" => some (truth (a != b))
  | "&" => some (wrap (bits a &&& bits b : Nat))
  | "|" => some (wrap (bits a ||| bits b : Nat))
  | "^" => some (wrap (bits a ^^^ bits b : Nat))
  | _ => none

/-- The variables that an expression gives values to, the last one first, and how the others are
looked up. -/
structure Setting where
  lookup : String → Option Int
  changed : List (String × Int)

def Setting.value (s : Setting) (name : String) : Option Int :=
  match s.changed.lookup name with
  | some n => some n
  | none => s.lookup name

def eval (s : Setting) : Sum → Option (Int × Setting)
  | .number n => some (n, s)
  | .variable name => (s.value name).map (·, s)
  | .prefixed op operand => do
    let (n, s) ← operand.eval s
    match op with
    | '-' => return (wrap (-n), s)
    | '!' => return (truth (n == 0), s)
    | '~' => return (wrap (-n - 1), s)
    | _ => return (n, s)
  | .infixed op left right => do
    let (a, s) ← left.eval s
    if op = "&&" then
      if a = 0 then return (0, s)
      let (b, s) ← right.eval s
      return (truth (b != 0), s)
    else if op = "||" then
      if a ≠ 0 then return (1, s)
      let (b, s) ← right.eval s
      return (truth (b != 0), s)
    else
      let (b, s) ← right.eval s
      return (← apply op a b, s)
  | .choice condition yes no => do
    let (n, s) ← condition.eval s
    if n ≠ 0 then yes.eval s else no.eval s
  | .assign name op operand => do
    let (b, s) ← operand.eval s
    let n ← if op.isEmpty then some b else do apply op (← s.value name) b
    return (n, { s with changed := (name, n) :: s.changed })

end Sum
end ConformanceGate.Machine
