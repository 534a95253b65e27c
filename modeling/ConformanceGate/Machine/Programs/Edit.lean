import ConformanceGate.Machine.Programs.Lines
import ConformanceGate.Machine.Regular

/-!
# Editing lines

A short program is run for each line of a text: its instructions apply to some of the lines, and
replace, print, drop or collect them.
-/

namespace ConformanceGate.Machine.Programs

namespace Edit

/-! ## Instructions -/

/-- An expression to match, or the one that was used last. -/
structure Expression where
  expression : Option Regular
  anyCase : Bool

/-- The lines that an address means. -/
inductive Address
  | line (n : Nat)
  | last
  | every (first step : Nat)
  | matching (e : Expression)

/-- The end of a range of lines. -/
inductive Stop
  | at (a : Address)
  /-- A number of lines later. -/
  | after (n : Nat)
  /-- The next multiple of a number. -/
  | multiple (n : Nat)

/-- The lines that an instruction applies to. -/
inductive Scope
  | all
  | only (a : Address)
  /-- The lines from the address on; those from the very beginning if there is none. -/
  | range (start : Option Address) (stop : Stop)

/-- A piece of the text that takes the place of a match. -/
inductive Piece
  | char (c : Char)
  | group (index : Nat)
  /-- A sign that changes the case of what follows. -/
  | letters (sign : Char)

structure Replacement where
  expression : Expression
  pieces : List Piece
  /-- The first match that is replaced. -/
  first : Nat
  all : Bool
  prints : Bool
  file : Option String

inductive Action
  | opening
  | closing
  | replace (r : Replacement)
  | transliterate (table : List (Char × Char))
  | append (text : Octets)
  | insert (text : Octets)
  | change (text : Octets)
  /-- Goes on at a label: always, or if something was replaced, or if nothing was. -/
  | branch (condition : Option Bool) (label : Octets)
  | label (name : Octets)
  | read (path : String)
  | write (path : String)
  | quit (prints : Bool) (status : Nat)
  /-- An action of a single letter. -/
  | letter (c : Char)

structure Instruction where
  scope : Scope
  /-- Whether it applies to all other lines. -/
  inverted : Bool
  action : Action

/-! ## Reading -/

def bracketRest : Nat → List Char → Option (List Char × List Char)
  | 0, _ => none
  | _, [] => none
  | _, ']' :: rest => some ([']'], rest)
  | fuel + 1, '[' :: ':' :: rest =>
    let name := rest.takeWhile Char.isAlpha
    match rest.drop name.length with
    | ':' :: ']' :: rest =>
      (bracketRest fuel rest).map fun (text, rest) =>
        ('[' :: ':' :: name ++ [':', ']'] ++ text, rest)
    | _ => (bracketRest fuel (':' :: rest)).map fun (text, rest) => ('[' :: text, rest)
  | fuel + 1, '\\' :: 'n' :: rest =>
    (bracketRest fuel rest).map fun (text, rest) => ('\n' :: text, rest)
  | fuel + 1, c :: rest => (bracketRest fuel rest).map fun (text, rest) => (c :: text, rest)

def bracket (cs : List Char) : Option (List Char × List Char) :=
  let (negation, rest) := match cs with
    | '^' :: rest => (['^'], rest)
    | rest => ([], rest)
  let (first, rest) := match rest with
    | ']' :: rest => ([']'], rest)
    | rest => ([], rest)
  (bracketRest (rest.length + 1) rest).map fun (text, rest) =>
    ('[' :: negation ++ first ++ text, rest)

/-- The text up to a sign that ends it. A backslash takes the meaning of that sign away. Within an
expression the sign may stand between brackets. The fuel is above the length of the text. -/
def readTo (sign : Char) (isExpression : Bool) : Nat → List Char → Option (List Char × List Char)
  | 0, _ => none
  | _, [] => none
  | fuel + 1, '\\' :: c :: rest =>
    let start := if c = sign then [c] else if c = 'n' && isExpression then ['\n'] else ['\\', c]
    (readTo sign isExpression fuel rest).map fun (text, rest) => (start ++ text, rest)
  | fuel + 1, c :: rest =>
    if c = sign then some ([], rest)
    else match (if c = '[' && isExpression then bracket rest else none) with
      | some (start, rest) =>
        (readTo sign isExpression fuel rest).map fun (text, rest) => (start ++ text, rest)
      | none => (readTo sign isExpression fuel rest).map fun (text, rest) => (c :: text, rest)

/-- The expression of a text; an empty text stands for the one that was used last. -/
def expressionOf? (extended : Bool) (text : List Char) (anyCase : Bool) : Option Expression :=
  if text.isEmpty then some ⟨none, anyCase⟩
  else (Regular.read extended text).map fun e => ⟨some e, anyCase⟩

def takeNumber (cs : List Char) : Option Nat × List Char :=
  let ds := cs.takeWhile Char.isDigit
  (if ds.isEmpty then none else some (Nat.ofDigitChars 10 ds 0), cs.drop ds.length)

def skipSpace (cs : List Char) : List Char := cs.dropWhile fun c => c == ' ' || c == '\t'

def readAddress (extended : Bool) (cs : List Char) : Option (Option Address × List Char) :=
  let matching (sign : Char) (rest : List Char) : Option (Option Address × List Char) := do
    let (text, rest) ← readTo sign true (rest.length + 1) rest
    let flags := rest.takeWhile fun c => c == 'I' || c == 'M'
    let e ← expressionOf? extended text ('I' ∈ flags)
    return (some (.matching e), rest.drop flags.length)
  match cs with
  | '$' :: rest => some (some .last, rest)
  | '/' :: rest => matching '/' rest
  | '\\' :: sign :: rest => matching sign rest
  | cs =>
    match takeNumber cs with
    | (some n, '~' :: rest) =>
      let (step, rest) := takeNumber rest
      some (some (.every n (step.getD 0)), rest)
    | (some n, rest) => some (some (.line n), rest)
    | (none, rest) => some (none, rest)

def readScope (extended : Bool) (cs : List Char) : Option (Scope × List Char) := do
  let (first, rest) ← readAddress extended cs
  match first with
  | none => return (.all, rest)
  | some first =>
    match skipSpace rest with
    | ',' :: rest =>
      let rest := skipSpace rest
      let start := if first matches .line 0 then none else some first
      match rest with
      | '+' :: rest => do
        let (n, rest) := takeNumber rest
        return (.range start (.after (← n)), rest)
      | '~' :: rest => do
        let (n, rest) := takeNumber rest
        return (.range start (.multiple (← n)), rest)
      | rest => do
        let (last, rest) ← readAddress extended rest
        return (.range start (.at (← last)), rest)
    | rest => if first matches .line 0 then none else return (.only first, rest)

def readText (cs : List Char) : List Char × List Char :=
  match skipSpace cs with
  | '\\' :: rest =>
    match skipSpace rest with
    | '\n' :: rest => upToLine (rest.length + 1) rest
    | _ => upToLine (rest.length + 1) rest
  | rest => upToLine (rest.length + 1) rest
where
  /-- The text up to a line break without a backslash. -/
  upToLine : Nat → List Char → List Char × List Char
    | 0, rest => ([], rest)
    | _, [] => ([], [])
    | _, '\n' :: rest => ([], rest)
    | fuel + 1, '\\' :: c :: rest =>
      let (text, rest) := upToLine fuel rest
      ((if c = 't' then '\t' else if c = 'n' then '\n' else c) :: text, rest)
    | fuel + 1, c :: rest => let (text, rest) := upToLine fuel rest; (c :: text, rest)

def piecesOf : List Char → List Piece
  | '\\' :: c :: rest =>
    let piece := if c.isDigit then .group (c.toNat - '0'.toNat)
      else if c ∈ ['U', 'L', 'u', 'l', 'E'] then .letters c
      else .char (if c = 'n' then '\n' else if c = 't' then '\t' else c)
    piece :: piecesOf rest
  | '&' :: rest => .group 0 :: piecesOf rest
  | c :: rest => .char c :: piecesOf rest
  | [] => []

def readFileName (cs : List Char) : String × List Char :=
  let cs := skipSpace cs
  (textOfOctets (cs.takeWhile (· ≠ '\n')), cs.dropWhile (· ≠ '\n'))

def readLabel (cs : List Char) : List Char × List Char :=
  let cs := skipSpace cs
  let name := cs.takeWhile fun c => !(c ∈ [' ', '\t', '\n', ';', '\x7d'])
  (name, cs.drop name.length)

def readSigns : Nat → Replacement → List Char → Option (Replacement × List Char)
  | 0, r, cs => some (r, cs)
  | fuel + 1, r, cs =>
    match cs with
    | 'g' :: rest => readSigns fuel { r with all := true } rest
    | 'p' :: rest => readSigns fuel { r with prints := true } rest
    | 'i' :: rest | 'I' :: rest =>
      readSigns fuel { r with expression := { r.expression with anyCase := true } } rest
    | 'm' :: rest | 'M' :: rest => readSigns fuel r rest
    | 'w' :: rest =>
      let (path, rest) := readFileName rest
      some ({ r with file := some path }, rest)
    | c :: rest =>
      if c.isDigit then
        match takeNumber (c :: rest) with
        | (some 0, _) | (none, _) => none
        | (some n, rest) => readSigns fuel { r with first := n } rest
      else some (r, cs)
    | [] => some (r, [])

def plainChars : List Char → List Char
  | '\\' :: 'n' :: rest => '\n' :: plainChars rest
  | '\\' :: '\\' :: rest => '\\' :: plainChars rest
  | c :: rest => c :: plainChars rest
  | [] => []

def readEnd (cs : List Char) : Option (List Char) :=
  match skipSpace cs with
  | [] => some []
  | ';' :: rest | '\n' :: rest => some rest
  | '\x7d' :: rest => some ('\x7d' :: rest)
  | '#' :: rest => some (rest.dropWhile (· ≠ '\n'))
  | _ => none

def readAction (extended : Bool) (cs : List Char) : Option (Action × List Char) :=
  match cs with
  | '\x7b' :: rest => some (.opening, rest)
  | '\x7d' :: rest => (readEnd rest).map (.closing, ·)
  | ':' :: rest => let (name, rest) := readLabel rest; (readEnd rest).map (.label name, ·)
  | 's' :: sign :: rest => do
    let (text, rest) ← readTo sign true (rest.length + 1) rest
    let (replacement, rest) ← readTo sign false (rest.length + 1) rest
    let e ← expressionOf? extended text false
    let r : Replacement := ⟨e, piecesOf replacement, 1, false, false, none⟩
    let (r, rest) ← readSigns (rest.length + 1) r rest
    return (.replace r, ← readEnd rest)
  | 'y' :: sign :: rest => do
    let (old, rest) ← readTo sign false (rest.length + 1) rest
    let (new, rest) ← readTo sign false (rest.length + 1) rest
    let (old, new) := (plainChars old, plainChars new)
    if old.length ≠ new.length then none
    return (.transliterate (old.zip new), ← readEnd rest)
  | 'a' :: rest => text .append rest
  | 'i' :: rest => text .insert rest
  | 'c' :: rest => text .change rest
  | 'b' :: rest => branch none rest
  | 't' :: rest => branch (some true) rest
  | 'T' :: rest => branch (some false) rest
  | 'r' :: rest => let (path, rest) := readFileName rest; some (.read path, rest)
  | 'w' :: rest => let (path, rest) := readFileName rest; some (.write path, rest)
  | 'q' :: rest => quit true rest
  | 'Q' :: rest => quit false rest
  | c :: rest =>
    if c ∈ ['d', 'D', 'g', 'G', 'h', 'H', 'n', 'N', 'p', 'P', 'x', '='] then
      (readEnd rest).map (.letter c, ·)
    else none
  | [] => none
where
  /-- An action with lines of text. -/
  text (action : Octets → Action) (rest : List Char) : Option (Action × List Char) :=
    let (text, rest) := readText rest
    if text.isEmpty then none else some (action (text ++ ['\n']), rest)
  /-- An action that goes to a label. -/
  branch (condition : Option Bool) (rest : List Char) : Option (Action × List Char) :=
    let (name, rest) := readLabel rest
    (readEnd rest).map (.branch condition name, ·)
  /-- An action that ends all. -/
  quit (prints : Bool) (rest : List Char) : Option (Action × List Char) :=
    let (status, rest) := takeNumber (skipSpace rest)
    (readEnd rest).map (.quit prints (status.getD 0), ·)

/-- Reads instructions; `depth` is the number of open braces. The fuel is above the length of the
text. -/
def readInstructions (extended : Bool) : Nat → Nat → List Char → Option (List Instruction)
  | 0, _, _ => none
  | fuel + 1, depth, cs => do
    match cs.dropWhile fun c => c ∈ [' ', '\t', '\n', ';'] with
    | [] => if depth = 0 then some [] else none
    | '#' :: rest => readInstructions extended fuel depth (rest.dropWhile (· ≠ '\n'))
    | cs => do
      let (scope, rest) ← readScope extended cs
      let rest := skipSpace rest
      let inverted := rest.head? == some '!'
      let rest := rest.dropWhile fun c => c == '!' || c == ' ' || c == '\t'
      let (action, rest) ← readAction extended rest
      let depth ← match action with
        | .opening => some (depth + 1)
        | .closing => if depth = 0 then none else some (depth - 1)
        | _ => some depth
      return ⟨scope, inverted, action⟩ :: (← readInstructions extended fuel depth rest)

def labelled (program : List Instruction) : Bool :=
  let names := program.filterMap fun i =>
    match i.action with
    | .label name => some name
    | _ => none
  program.all fun i =>
    match i.action with
    | .branch _ name => name.isEmpty || names.contains name
    | _ => true

def read? (extended : Bool) (text : Octets) : Option (List Instruction) :=
  (readInstructions extended (text.length + 2) 0 text).filter labelled

/-! ## Running -/

structure State where
  files : Files
  /-- The lines to come. -/
  input : List Octets
  /-- Whether the last line has a line break. -/
  complete : Bool
  number : Nat
  line : Octets
  kept : Octets
  /-- The pieces of the output, the last one first. -/
  output : List Octets
  /-- Whether the output lacks a line break at its end. -/
  owed : Bool
  /-- What follows the current line. -/
  appended : List Octets
  /-- The ranges that have begun, with the line at which they end if that is known. -/
  ranges : List (Nat × Option Nat)
  /-- The expression that was used last. -/
  used : Option Regular
  replaced : Bool
  written : List (String × Octets)

namespace State

def isLast (s : State) : Bool := s.input.isEmpty

def emit (s : State) (text : Octets) : State :=
  { s with output := (if s.owed then '\n' :: text else text) :: s.output, owed := false }

/-- Adds a line to the output; the last one has a line break only if the input has. -/
def emitLine (s : State) (text : Octets) : State :=
  if s.isLast && !s.complete then { s.emit text with owed := true } else s.emit (text ++ ['\n'])

def flush (s : State) : State :=
  { s.appended.foldl emit s with appended := [] }

def next? (s : State) : Option (Octets × State) :=
  match s.input with
  | [] => none
  | line :: rest => some (line, { s.flush with input := rest, number := s.number + 1 })

def writeLine (s : State) (path : String) (text : Octets) : State :=
  { s with written := s.written ++ [(path, text ++ ['\n'])] }

def meant (s : State) (e : Expression) : Regular :=
  match e.expression with
  | some e => e
  | none => s.used.getD .nothing

def isAt (s : State) (a : Address) : State × Bool :=
  match a with
  | .line n => (s, s.number == n)
  | .last => (s, s.isLast)
  | .every first step =>
    (s, if step = 0 then s.number == first
      else first ≤ s.number && (s.number - first) % step == 0)
  | .matching e =>
    let r := s.meant e
    ({ s with used := some r }, r.occurs e.anyCase s.line)

def applies (s : State) (index : Nat) (scope : Scope) : State × Bool :=
  let without : List (Nat × Option Nat) := s.ranges.filter (·.1 ≠ index)
  match scope with
  | .all => (s, true)
  | .only a => s.isAt a
  | .range start stop =>
    let inside (s : State) : State × Bool :=
      match stop with
      | .at (.line n) => ({ s with ranges := if n ≤ s.number then without else s.ranges },
          s.number ≤ n)
      | .at a =>
        let (s, ends) := s.isAt a
        ({ s with ranges := if ends then without else s.ranges }, true)
      | _ =>
        let last := ((s.ranges.lookup index).bind id).getD 0
        ({ s with ranges := if last ≤ s.number then without else s.ranges }, s.number ≤ last)
    if (s.ranges.lookup index).isSome then
      match inside s with
      | (s, true) => (s, true)
      -- a range whose end is over may begin again
      | (s, false) => begins s start stop without
    else begins s start stop without
where
  /-- Whether a range begins at the current line. -/
  begins (s : State) (start : Option Address) (stop : Stop) (without : List (Nat × Option Nat)) :
      State × Bool :=
    match start with
    | none => (s, false)
    | some a =>
      let (s, starts) := s.isAt a
      let last? : Option (Option Nat) := match stop with
        | .at (.line n) => if n ≤ s.number then none else some (some n)
        | .at _ => some none
        | .after n => if n = 0 then none else some (some (s.number + n))
        | .multiple n =>
          if n = 0 || s.number % n = 0 then none else some (some ((s.number / n + 1) * n))
      match starts, last? with
      | true, some last => ({ s with ranges := (index, last) :: without }, true)
      | starts, _ => ({ s with ranges := without }, starts)

end State

/-- The text of pieces for a match. `whole` is the sign for all that follows, `once` the one for the
next character. -/
def fillPieces (s : Regular.Subject) (f : Regular.Found) (whole once : Option Char) :
    List Piece → Octets
  | [] => []
  | .char c :: rest =>
    let (text, once) := cased whole once [c]
    text ++ fillPieces s f whole once rest
  | .group index :: rest =>
    let (text, once) := cased whole once (f.group s index)
    text ++ fillPieces s f whole once rest
  | .letters sign :: rest =>
    if sign = 'E' then fillPieces s f none none rest
    else if sign = 'U' || sign = 'L' then fillPieces s f (some sign) once rest
    else fillPieces s f whole (some sign) rest
where
  /-- A text with its letters changed. -/
  cased (whole once : Option Char) (text : Octets) : Octets × Option Char :=
    let all (c : Char) : Char :=
      match whole with
      | some 'U' => c.toUpper
      | some 'L' => c.toLower
      | _ => c
    match text, once with
    | c :: rest, some 'u' => (c.toUpper :: rest.map all, none)
    | c :: rest, some _ => (c.toLower :: rest.map all, none)
    | text, once => (text.map all, once)

/-- Replaces the matches from a place on: the text, and whether there was any to replace. `count` is
the number of matches so far, and `last` the end of the last one. -/
def replaceFrom (r : Replacement) (e : Regular) (s : Regular.Subject) :
    Nat → Nat → Nat → Option Nat → Octets × Bool
  | 0, _, place, _ => (s.between place s.text.size, false)
  | fuel + 1, count, place, last =>
    match e.find? s place with
    | none => (s.between place s.text.size, false)
    | some f =>
      let before := s.between place f.start
      let goOn (text : Octets) (hit : Bool) (count : Nat) : Octets × Bool :=
        if f.start = f.stop then
          let (rest, more) :=
            if f.stop < s.text.size then replaceFrom r e s fuel count (f.stop + 1) (some f.stop)
            else ([], false)
          (before ++ text ++ s.between f.stop (f.stop + 1) ++ rest, hit || more)
        else
          let (rest, more) := replaceFrom r e s fuel count f.stop (some f.stop)
          (before ++ text ++ rest, hit || more)
      if f.start = f.stop && last = some f.start then goOn [] false count
      else if count + 1 < r.first then goOn (s.between f.start f.stop) false (count + 1)
      else
        let text := fillPieces s f none none r.pieces
        if r.all then goOn text true (count + 1)
        else (before ++ text ++ s.between f.stop s.text.size, true)

inductive Next
  | goOn
  | jump (index : Nat)
  /-- The end of the program for this line. -/
  | finish
  /-- The same without printing the line. -/
  | drop
  /-- The program begins again without a new line. -/
  | restart
  | quit (prints : Bool) (status : Nat)
  /-- The end for want of a line to come. -/
  | starved

/-- The index of the first instruction after the brace that closes the one at `index`. -/
def afterClosing (program : Array Instruction) : Nat → Nat → Nat → Nat
  | 0, _, index => index
  | fuel + 1, depth, index =>
    match (program[index]?).map Instruction.action with
    | none => index
    | some .opening => afterClosing program fuel (depth + 1) (index + 1)
    | some .closing =>
      if depth = 1 then index + 1 else afterClosing program fuel (depth - 1) (index + 1)
    | some _ => afterClosing program fuel depth (index + 1)

def indexOf (program : Array Instruction) (name : Octets) : Nat :=
  let found := (List.range program.size).find? fun i =>
    match (program[i]?).map Instruction.action with
    | some (.label n) => n == name
    | _ => false
  if name.isEmpty then program.size else found.getD program.size

def actLetter (quiet : Bool) (s : State) (c : Char) : State × Next :=
  match c with
  | 'd' => (s, .drop)
  | 'D' =>
    match s.line.dropWhile (· ≠ '\n') with
    | _ :: rest => ({ s with line := rest }, .restart)
    | [] => (s, .drop)
  | 'g' => ({ s with line := s.kept }, .goOn)
  | 'G' => ({ s with line := s.line ++ '\n' :: s.kept }, .goOn)
  | 'h' => ({ s with kept := s.line }, .goOn)
  | 'H' => ({ s with kept := s.kept ++ '\n' :: s.line }, .goOn)
  | 'x' => ({ s with line := s.kept, kept := s.line }, .goOn)
  | 'p' => (s.emitLine s.line, .goOn)
  | 'P' => (s.emit (s.line.takeWhile (· ≠ '\n') ++ ['\n']), .goOn)
  | '=' => (s.emit (octetsOf (s.number.repr ++ "\n")), .goOn)
  | 'n' =>
    if s.isLast then (s, .starved)
    else match (if quiet then s else s.emitLine s.line).next? with
      | some (line, s) => ({ s with line := line }, .goOn)
      | none => (s, .finish)
  | _ =>
    match s.next? with
    | some (line, t) => ({ t with line := s.line ++ '\n' :: line }, .goOn)
    | none => (s, .starved)

def act (quiet : Bool) (cwd : List String) (program : Array Instruction) (index : Nat) (s : State)
    (i : Instruction) : State × Next :=
  match i.action with
  | .opening | .closing | .label _ => (s, .goOn)
  | .replace r =>
    let e := s.meant r.expression
    let subject : Regular.Subject := ⟨s.line.toArray, r.expression.anyCase⟩
    let (line, hit) := replaceFrom r e subject (2 * s.line.length + 4) 0 0 none
    let s := { s with used := some e }
    if !hit then (s, .goOn)
    else
      let s := { s with line := line, replaced := true }
      let s := if r.prints then s.emitLine line else s
      (r.file.elim s fun path => s.writeLine path line, .goOn)
  | .transliterate table =>
    ({ s with line := s.line.map fun c => (table.lookup c).getD c }, .goOn)
  | .append text => ({ s with appended := s.appended ++ [text] }, .goOn)
  | .insert text => (s.emit text, .goOn)
  | .change text =>
    let inside := !i.inverted && (s.ranges.lookup index).isSome
    (if inside then s else s.emit text, .drop)
  | .branch condition name =>
    let goes := match condition with
      | none => true
      | some b => s.replaced == b
    let s := if condition.isSome then { s with replaced := false } else s
    (s, if goes then .jump (indexOf program name) else .goOn)
  | .read path =>
    let text := ((s.files.readBytes cwd path).toOption.map octets).getD []
    ({ s with appended := if text.isEmpty then s.appended else s.appended ++ [text] }, .goOn)
  | .write path => (s.writeLine path s.line, .goOn)
  | .quit prints status => (s, .quit prints status)
  | .letter c => actLetter quiet s c

/-- Runs a program from an index on, line after line: the state, the status, and whether the work
ended before the input. The fuel bounds the number of actions. -/
def run (quiet : Bool) (cwd : List String) (program : Array Instruction) :
    Nat → Nat → State → State × Nat × Bool
  | 0, _, s => (s, 4, true)
  | fuel + 1, index, s =>
    let shown (s : State) (prints : Bool) : State :=
      (if prints && !quiet then s.emitLine s.line else s).flush
    let nextLine (s : State) : State × Nat × Bool :=
      match s.next? with
      | none => (s, 0, false)
      | some (line, s) => run quiet cwd program fuel 0 { s with line := line, replaced := false }
    match program[index]? with
    | none => nextLine (shown s true)
    | some i =>
      let (s, hit) := s.applies index i.scope
      if hit = i.inverted then
        let after := if i.action matches .opening then
            afterClosing program (program.size + 1) 0 index
          else index + 1
        run quiet cwd program fuel after s
      else
        match act quiet cwd program index s i with
        | (s, .goOn) => run quiet cwd program fuel (index + 1) s
        | (s, .jump index) => run quiet cwd program fuel index s
        | (s, .finish) => nextLine (shown s true)
        | (s, .drop) => nextLine (shown s false)
        | (s, .restart) => run quiet cwd program fuel 0 (shown s false)
        | (s, .quit prints status) => (shown s prints, status, true)
        | (s, .starved) => (shown s true, 0, false)

def limit : Nat := 1000000

/-- Runs a program on a text: the state after it, the status, and whether the work ended before the
input. -/
def ofText (quiet : Bool) (c : Call) (program : List Instruction) (text : Octets) :
    State × Nat × Bool :=
  let (lines, complete) := if text.isEmpty then ([], true) else linesOf text
  let open? (i : Nat × Instruction) : Option (Nat × Option Nat) :=
    match i.2.scope with
    | .range none _ => some (i.1, none)
    | _ => none
  let ranges := ((List.range program.length).zip program).filterMap open?
  match lines with
  | [] => (⟨c.files, [], true, 0, [], [], [], false, [], [], none, false, []⟩, 0, false)
  | line :: rest =>
    run quiet c.cwd program.toArray limit 0
      ⟨c.files, rest, complete, 1, line, [], [], false, [], ranges, none, false, []⟩

def State.text (s : State) : Octets := s.output.reverse.flatten

end Edit

/-! ## The program -/

def editOptions : OptionTable :=
  .of "nErsiuz" "ef" [("quiet", 'n'), ("silent", 'n'), ("regexp-extended", 'E'),
    ("expression", 'e'), ("file", 'f'), ("in-place", 'i'), ("separate", 's'), ("unbuffered", 'u')]

/-- Arguments in which an option to edit files is spelled out, as a text may follow it at once. -/
def withPlace (args : List String) : List String :=
  args.map fun arg =>
    if arg.startsWith "-i" && arg != "-i" then
      "--in-place=" ++ String.ofList (arg.toList.drop 2)
    else arg

def editProgram? (c : Call) (g : Given) : Option (List Edit.Instruction × List String) := do
  let given ← (g.options.filter fun o => o.1 = 'e' || o.1 = 'f').mapM fun (letter, value) =>
    if letter = 'e' then some (octetsOf value)
    else (c.read? value).map fun text => if text.getLast? = some '\n' then text.dropLast else text
  let (text, operands) ←
    if given.isEmpty then
      match g.operands with
      | text :: rest => some (octetsOf text, rest)
      | [] => none
    else some (['\n'].intercalate given, g.operands)
  return (← Edit.read? (g.has 'E' || g.has 'r') text, operands)

def writeAll (cwd : List String) (fs : Files) (written : List (String × Octets)) : Files :=
  let paths := (written.map (·.1)).eraseDups
  paths.foldl (fun fs path =>
    let text := (written.filter (·.1 == path)).flatMap (·.2)
    match fs.write cwd path (bytesOf text) with
    | .ok fs => fs
    | .error _ => fs) fs

/-- Edits files where they are: for each one the tree, and the worst status. -/
def editPlaces (c : Call) (g : Given) (program : List Edit.Instruction) (paths : List String) :
    Outcome :=
  let suffix := (g.value? 'i').getD ""
  let (files, output, status) := paths.foldl (fun (files, output, status) path =>
    match files.readBytes c.cwd path with
    | .error _ => (files, output, 4)
    | .ok bytes =>
      let (s, code, _) := Edit.ofText (g.has 'n') { c with files := files } program (octets bytes)
      let saved := if suffix.isEmpty then files
        else (files.write c.cwd (path ++ suffix) bytes).toOption.getD files
      let left := if code = 0 then [] else ['\n'].intercalate s.input
      let text := s.text ++ left
      let files := (saved.write c.cwd path (bytesOf text)).toOption.getD saved
      (writeAll c.cwd files s.written, output, max status code)) (c.files, [], 0)
  ⟨files, output, status⟩

def Edit.Address.isLast : Edit.Address → Bool
  | .last => true
  | _ => false

def Edit.Instruction.asksLast (i : Edit.Instruction) : Bool :=
  match i.scope with
  | .all => false
  | .only a => a.isLast
  | .range _ (.at a) => a.isLast
  | .range _ _ => false

/-- Edits lines; the flag tells whether the work is over whatever else the input holds. -/
def edit (c : Call) : Outcome × Bool :=
  match editOptions.read (withPlace c.args) with
  | none => (c.quit 1, true)
  | some g =>
    match editProgram? c g with
    | none => (c.quit 1, true)
    | some (program, operands) =>
      if g.has 'i' then (editPlaces c g program operands, true)
      else
        let (text, ok) := c.contents operands
        let (s, status, early) := Edit.ofText (g.has 'n') c program text
        let files := writeAll c.cwd c.files s.written
        (⟨files, s.text, if status = 0 && !ok then 2 else status⟩,
          (early && !program.any (·.asksLast)) || !(operands.isEmpty || "-" ∈ operands))

def sed (c : Call) : Outcome := (edit c).1

end ConformanceGate.Machine.Programs
