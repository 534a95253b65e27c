import ConformanceGate.Machine.Programs.Awk.Token

/-!
# Option (programs × List Token) over records

The rules of a program are read from its tokens, or the program is refused as a whole.
-/

namespace ConformanceGate.Machine.Programs.Awk

/-- Where an expression stands: some signs belong to what is around it. -/
structure Around where
  /-- The sign `>` names a file. -/
  redirected : Bool
  /-- The word `in` belongs to a loop. -/
  looped : Bool

def Around.nothing : Around := ⟨false, false⟩

def skipLines (ts : List Token) : List Token := ts.dropWhile (· == .line)

def skipEnds (ts : List Token) : List Token :=
  ts.dropWhile fun t => t == .line || t == .sign ";"

def expect (sign : String) : List Token → Option (List Token)
  | .sign s :: rest => if s = sign then some rest else none
  | _ => none

/-! ## Operators -/

def calculation? (sign : String) : Option Calculation :=
  [("+", Calculation.sum), ("-", .difference), ("*", .product), ("/", .quotient),
    ("%", .remainder), ("^", .power)].lookup sign

def order? (sign : String) : Option Order :=
  [("<", Order.less), ("<=", .atMost), ("==", .equal), ("!=", .unequal), (">=", .atLeast),
    (">", .more)].lookup sign

def updating? (sign : String) : Option Calculation :=
  match sign.toList with
  | [c, '='] => calculation? c.toString
  | _ => none

def memberLevel : Nat := 2

def joinLevel : Nat := 5

/-- The level above those of operators between operands. -/
def signedLevel : Nat := 8

/-- The operator of a sign at a level; a higher level binds tighter. -/
def operator? (a : Around) (level : Nat) (sign : String) : Option (Expr → Expr → Expr) :=
  match level with
  | 0 => if sign = "||" then some .either else none
  | 1 => if sign = "&&" then some .both else none
  | 3 => if sign = "~" then some (.fits false) else if sign = "!~" then some (.fits true) else none
  | 4 => if a.redirected && sign = ">" then none else (order? sign).map .compare
  | 6 => if sign = "+" || sign = "-" then (calculation? sign).map .calculate else none
  | 7 =>
    if sign = "*" || sign = "/" || sign = "%" then (calculation? sign).map .calculate else none
  | _ => none

def beginsOperand : Token → Bool
  | .number _ | .text _ | .regular _ | .name _ | .function _ => true
  | .sign s => s = "$" || s = "("
  | _ => false

/-! ## Expressions -/

mutual

/-- Reads an expression. The fuel is above a few dozen times the number of tokens. -/
def readExpr : Nat → Around → List Token → Option (Expr × List Token)
  | 0, _, _ => none
  | fuel + 1, a, ts => do
    let (condition, rest) ← readLevel fuel a 0 ts
    match rest with
    | .sign "?" :: rest => do
      let (yes, rest) ← readExpr fuel a (skipLines rest)
      let rest ← expect ":" (skipLines rest)
      let (no, rest) ← readExpr fuel a (skipLines rest)
      return (.choose condition yes no, rest)
    | rest => return (condition, rest)

def readLevel : Nat → Around → Nat → List Token → Option (Expr × List Token)
  | 0, _, _, _ => none
  | fuel + 1, a, level, ts =>
    if level = signedLevel then readSigned fuel a ts
    else do
      let (first, rest) ← readLevel fuel a (level + 1) ts
      readMore fuel a level first rest

def readMore : Nat → Around → Nat → Expr → List Token → Option (Expr × List Token)
  | 0, _, _, _, _ => none
  | fuel + 1, a, level, first, ts =>
    match ts with
    | .sign s :: rest =>
      match operator? a level s with
      | some make => do
        let rest := if level < memberLevel then skipLines rest else rest
        let (second, rest) ← readLevel fuel a (level + 1) rest
        readMore fuel a level (make first second) rest
      | none => readBeside fuel a level first ts
    | .word "in" :: .name array :: rest =>
      if level = memberLevel && !a.looped then readMore fuel a level (.member [first] array) rest
      else some (first, ts)
    | ts => readBeside fuel a level first ts

def readBeside : Nat → Around → Nat → Expr → List Token → Option (Expr × List Token)
  | 0, _, _, _, _ => none
  | fuel + 1, a, level, first, ts =>
    if level = joinLevel && ts.head?.any beginsOperand then do
      let (second, rest) ← readLevel fuel a (level + 1) ts
      readMore fuel a level (.join first second) rest
    else some (first, ts)

def readSigned : Nat → Around → List Token → Option (Expr × List Token)
  | 0, _, _ => none
  | fuel + 1, a, ts =>
    match ts with
    | .sign "!" :: rest => (readSigned fuel a rest).map fun (e, rest) => (.no e, rest)
    | .sign "-" :: rest => (readSigned fuel a rest).map fun (e, rest) => (.negative e, rest)
    | .sign "+" :: rest =>
      (readSigned fuel a rest).map fun (e, rest) => (.negative (.negative e), rest)
    | ts => do
      let (base, rest) ← readCounted fuel a ts
      match rest with
      | .sign "^" :: rest => do
        let (exponent, rest) ← readSigned fuel a rest
        return (.calculate .power base exponent, rest)
      | rest => return (base, rest)

/-- Reads an operand; what can be assigned to may be counted up or down, or assigned to. -/
def readCounted : Nat → Around → List Token → Option (Expr × List Token)
  | 0, _, _ => none
  | fuel + 1, a, ts =>
    let counted (up : Bool) (rest : List Token) : Option (Expr × List Token) := do
      let (e, rest) ← readOperand fuel a rest
      match e with
      | .place p => return (.count p up true, rest)
      | _ => none
    match ts with
    | .sign "++" :: rest => counted true rest
    | .sign "--" :: rest => counted false rest
    | ts => do
      let (e, rest) ← readOperand fuel a ts
      match e, rest with
      | .place p, .sign "++" :: rest => return (.count p true false, rest)
      | .place p, .sign "--" :: rest => return (.count p false false, rest)
      | .place p, .sign "=" :: rest => do
        let (value, rest) ← readExpr fuel a (skipLines rest)
        return (.assign p value, rest)
      | .place p, .sign s :: tail =>
        match updating? s with
        | some how => do
          let (value, rest) ← readExpr fuel a (skipLines tail)
          return (.update how p value, rest)
        | none => return (e, rest)
      | e, rest => return (e, rest)

def readOperand : Nat → Around → List Token → Option (Expr × List Token)
  | 0, _, _ => none
  | fuel + 1, a, ts =>
    match ts with
    | .number x :: rest => some (.number x, rest)
    | .text s :: rest => some (.text s, rest)
    | .regular source :: rest => (Regular.read true source).map fun e => (.regular e, rest)
    | .name array :: .sign "[" :: rest => do
      let (keys, rest) ← readList fuel .nothing rest
      return (.place (.element array keys), ← expect "]" rest)
    | .name name :: rest => some (.place (.named name), rest)
    | .sign "$" :: .sign "-" :: rest => do
      let (e, rest) ← readOperand fuel a rest
      return (.place (.field (.negative e)), rest)
    | .sign "$" :: .sign "++" :: rest => do
      let (e, rest) ← readCounted fuel a (.sign "++" :: rest)
      return (.place (.field e), rest)
    | .sign "$" :: rest => do
      let (e, rest) ← readOperand fuel a rest
      return (.place (.field e), rest)
    | .sign "(" :: rest => do
      let (inner, rest) ← readList fuel .nothing (skipLines rest)
      let rest ← expect ")" (skipLines rest)
      match inner, rest with
      | [e], rest => return (e, rest)
      | keys, .word "in" :: .name array :: rest => return (.member keys array, rest)
      | _, _ => none
    | .function name :: .sign "(" :: rest =>
      match skipLines rest with
      | .sign ")" :: rest => some (.call name [], rest)
      | rest => do
        let (args, rest) ← readList fuel .nothing rest
        return (.call name args, ← expect ")" (skipLines rest))
    | .function "length" :: rest => some (.call "length" [], rest)
    | .word "getline" :: rest => do
      let (into, rest) ← match rest with
        | .name _ :: _ | .sign "$" :: _ => do
          let (e, rest) ← readOperand fuel a rest
          match e with
          | .place p => some (some p, rest)
          | _ => none
        | rest => some (none, rest)
      match rest with
      | .sign "<" :: rest => do
        let (path, rest) ← readOperand fuel a rest
        return (.getLine into (some path), rest)
      | rest => return (.getLine into none, rest)
    | _ => none

def readList : Nat → Around → List Token → Option (List Expr × List Token)
  | 0, _, _ => none
  | fuel + 1, a, ts => do
    let (first, rest) ← readExpr fuel a ts
    match rest with
    | .sign "," :: rest => do
      let (others, rest) ← readList fuel a (skipLines rest)
      return (first :: others, rest)
    | rest => return ([first], rest)

end

/-! ## Statements -/

def atEnd : List Token → Bool
  | [] | .line :: _ => true
  | .sign s :: _ => s = ";" || s = "\x7d"
  | _ => false

def atPrintEnd (ts : List Token) : Bool :=
  atEnd ts || ts.head? == some (.sign ">") || ts.head? == some (.sign ">>")

def readEnd (ts : List Token) : Option (List Token) :=
  match ts with
  | .sign "\x7d" :: _ => some ts
  | ts => if atEnd ts then some (skipEnds ts) else none

def readPrint (fuel : Nat) (ts : List Token) : Option ((List Expr × Target) × List Token) := do
  let inParentheses : Option (List Expr × List Token) := do
    let rest ← expect "(" ts
    let (args, rest) ← readList fuel .nothing (skipLines rest)
    let rest ← expect ")" (skipLines rest)
    if atPrintEnd rest then some (args, rest) else none
  let (args, rest) ←
    if atPrintEnd ts then some ([], ts)
    else inParentheses <|> readList fuel ⟨true, false⟩ ts
  match rest with
  | .sign ">" :: rest => do
    let (path, rest) ← readLevel fuel ⟨true, false⟩ joinLevel rest
    return ((args, .file path false), rest)
  | .sign ">>" :: rest => do
    let (path, rest) ← readLevel fuel ⟨true, false⟩ joinLevel rest
    return ((args, .file path true), rest)
  | rest => return ((args, .output), rest)

def readSimple (fuel : Nat) (a : Around) (ts : List Token) : Option (Statement × List Token) :=
  match ts with
  | .word "print" :: rest => do
    let ((args, target), rest) ← readPrint fuel rest
    return (.print args target, rest)
  | .word "printf" :: rest => do
    let ((args, target), rest) ← readPrint fuel rest
    if args.isEmpty then none else return (.printFormat args target, rest)
  | .word "break" :: rest => some (.leaveLoop, rest)
  | .word "continue" :: rest => some (.nextRound, rest)
  | .word "next" :: rest => some (.nextRecord, rest)
  | .word "nextfile" :: rest => some (.nextFile, rest)
  | .word "exit" :: rest =>
    if atEnd rest then some (.quit none, rest)
    else (readExpr fuel .nothing rest).map fun (e, rest) => (.quit (some e), rest)
  | .word "delete" :: .name array :: .sign "[" :: rest => do
    let (keys, rest) ← readList fuel .nothing rest
    return (.delete array keys, ← expect "]" rest)
  | .word "delete" :: .name array :: rest => some (.delete array [], rest)
  | ts => (readExpr fuel a ts).map fun (e, rest) => (.expression e, rest)

mutual

def readStatement : Nat → List Token → Option (Statement × List Token)
  | 0, _ => none
  | fuel + 1, ts =>
    let condition (rest : List Token) : Option (Expr × List Token) := do
      let (e, rest) ← readExpr fuel .nothing (← expect "(" rest)
      return (e, ← expect ")" (skipLines rest))
    match ts with
    | .sign "\x7b" :: rest => do
      let (body, rest) ← readStatements fuel (skipEnds rest)
      return (.block body, skipEnds rest)
    | .sign ";" :: rest => some (.block [], skipEnds rest)
    | .word "if" :: rest => do
      let (c, rest) ← condition rest
      let (yes, rest) ← readStatement fuel (skipLines rest)
      match rest with
      | .word "else" :: rest => do
        let (no, rest) ← readStatement fuel (skipLines rest)
        return (.branch c yes no, rest)
      | rest => return (.branch c yes (.block []), rest)
    | .word "while" :: rest => do
      let (c, rest) ← condition rest
      let (body, rest) ← readStatement fuel (skipLines rest)
      return (.loop true c body (.block []), rest)
    | .word "do" :: rest => do
      let (body, rest) ← readStatement fuel (skipLines rest)
      match rest with
      | .word "while" :: rest => do
        let (c, rest) ← condition rest
        return (.loop false c body (.block []), ← readEnd rest)
      | _ => none
    | .word "for" :: .sign "(" :: .name name :: .word "in" :: .name array :: .sign ")" :: rest => do
      let (body, rest) ← readStatement fuel (skipLines rest)
      return (.each name array body, rest)
    | .word "for" :: .sign "(" :: rest => do
      let part (sign : String) (rest : List Token) : Option (Statement × List Token) :=
        match expect sign rest with
        | some rest => some (.block [], rest)
        | none => do
          let (s, rest) ← readSimple fuel .nothing rest
          return (s, ← expect sign rest)
      let test (rest : List Token) : Option (Expr × List Token) :=
        match expect ";" rest with
        | some rest => some (.number (.ofInt 1), rest)
        | none => do
          let (e, rest) ← readExpr fuel .nothing rest
          return (e, ← expect ";" rest)
      let (first, rest) ← part ";" rest
      let (c, rest) ← test (skipLines rest)
      let (step, rest) ← part ")" (skipLines rest)
      let (body, rest) ← readStatement fuel (skipLines rest)
      return (.block [first, .loop true c body step], rest)
    | ts => do
      let (s, rest) ← readSimple fuel .nothing ts
      return (s, ← readEnd rest)

def readStatements : Nat → List Token → Option (List Statement × List Token)
  | 0, _ => none
  | fuel + 1, ts =>
    match ts with
    | .sign "\x7d" :: rest => some ([], rest)
    | ts => do
      let (first, rest) ← readStatement fuel ts
      let (others, rest) ← readStatements fuel rest
      return (first :: others, rest)

end

/-! ## Rules -/

def readTrigger (fuel : Nat) (ts : List Token) : Option (Trigger × List Token) :=
  match ts with
  | .word "BEGIN" :: rest => some (.start, rest)
  | .word "END" :: rest => some (.finish, rest)
  | .sign "\x7b" :: _ => some (.always, ts)
  | ts => do
    let (first, rest) ← readExpr fuel .nothing ts
    match rest with
    | .sign "," :: rest => do
      let (last, rest) ← readExpr fuel .nothing (skipLines rest)
      return (.span first last, rest)
    | rest => return (.when first, rest)

/-- Reads rules. The fuel is above their number. -/
def readRules (depth : Nat) : Nat → List Token → Option (List Rule)
  | 0, _ => none
  | fuel + 1, ts =>
    match skipEnds ts with
    | [] => some []
    | ts => do
      let (trigger, rest) ← readTrigger depth ts
      match trigger, rest with
      | trigger, .sign "\x7b" :: rest => do
        let (body, rest) ← readStatements depth (skipEnds rest)
        return ⟨trigger, .block body⟩ :: (← readRules depth fuel rest)
      | .start, _ | .finish, _ => none
      | trigger, rest => do
        let rest ← if atEnd rest then some rest else none
        return ⟨trigger, .print [] .output⟩ :: (← readRules depth fuel rest)

def rulesOf? (source : Octets) : Option (List Rule) := do
  let ts ← Token.ofOctets? source
  readRules (40 * ts.length + 40) (ts.length + 1) ts

end ConformanceGate.Machine.Programs.Awk
