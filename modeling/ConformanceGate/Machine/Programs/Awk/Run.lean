import ConformanceGate.Machine.Programs.Awk.Reader
import ConformanceGate.Machine.Programs.Awk.State
import ConformanceGate.Machine.Programs.Options

/-!
# Running programs over records

Expressions are calculated, statements are carried out, and each record is taken through all rules.
A program that calculates what cannot be calculated fails as a whole; so does one that goes on for
too long.
-/

namespace ConformanceGate.Machine.Programs.Awk

/-! ## Calculating -/

def Calculation.result? (how : Calculation) (x y : Fraction) : Option Fraction :=
  match how with
  | .sum => some (x.add y)
  | .difference => some (x.add y.neg)
  | .product => some (x.mul y)
  | .quotient => x.div? y
  | .remainder => x.mod? y
  | .power =>
    if !y.isWhole || 4096 < y.num.natAbs then none
    else if y.num < 0 then (Fraction.ofInt 1).div? (x.pow y.num.natAbs)
    else some (x.pow y.num.natAbs)

/-- Whether an order holds, given whether the first value is less and whether both are equal. -/
def Order.holds (order : Order) (less equal : Bool) : Bool :=
  match order with
  | .less => less
  | .atMost => less || equal
  | .equal => equal
  | .unequal => !equal
  | .atLeast => !less
  | .more => !less && !equal

/-! ## Functions on texts -/

/-- A part of a text, from a place on and with a number of characters; both are rounded. -/
def part (s : Octets) (place : Fraction) (count : Option Fraction) : Octets :=
  let round (x : Fraction) : Int := (x.add ⟨1, 2⟩).num.fdiv (x.add ⟨1, 2⟩).den
  let start := round place
  let stop : Int := match count with
    | some n => round (place.add n)
    | none => s.length + 1
  let first := max 1 start
  (s.drop (first - 1).toNat).take (stop - first).toNat

def placeOf (wanted s : Octets) : Nat :=
  match (List.range (s.length + 1)).find? fun i => wanted.isPrefixOf (s.drop i) with
  | some i => i + 1
  | none => 0

/-- What takes the place of a match: an ampersand stands for the match itself. -/
def filledIn (found : Octets) : Octets → Octets
  | '\\' :: '&' :: rest => '&' :: filledIn found rest
  | '\\' :: '\\' :: rest => '\\' :: filledIn found rest
  | '&' :: rest => found ++ filledIn found rest
  | c :: rest => c :: filledIn found rest
  | [] => []

/-- Replaces the matches from a place on, or the first one only, and counts them. An empty match
right after another match does not count. The fuel is above the length of the text. -/
def replaced (e : Regular) (subject : Regular.Subject) (replacement : Octets) (all : Bool) :
    Nat → Nat → Bool → Octets × Nat
  | 0, _, _ => ([], 0)
  | fuel + 1, place, afterMatch =>
    let rest (place : Nat) : Octets := subject.between place subject.text.size
    match e.find? subject place with
    | none => (rest place, 0)
    | some found =>
      let before := subject.between place found.start
      let ignored := afterMatch && found.start = place && found.stop = place
      let filled :=
        if ignored then [] else filledIn (subject.between found.start found.stop) replacement
      let count := if ignored then 0 else 1
      if !all then (before ++ filled ++ rest found.stop, count)
      else if found.start < found.stop then
        let (tail, more) := replaced e subject replacement all fuel found.stop true
        (before ++ filled ++ tail, more + count)
      else if subject.text.size ≤ found.stop then (before ++ filled, count)
      else
        let next := subject.between found.stop (found.stop + 1)
        let (tail, more) := replaced e subject replacement all fuel (found.stop + 1) false
        (before ++ filled ++ next ++ tail, more + count)

/-! ## Expressions -/

/-- What can be assigned to, its keys and numbers being known. -/
inductive Spot
  | named (name : String)
  | field (n : Nat)
  | element (array : String) (key : Octets)

/-- The value at a spot; an element that was not there comes into being. -/
def valueAt (spot : Spot) : Run Value := do
  let s ← get
  match spot with
  | .named name => return s.value name
  | .field n => return s.field n
  | .element array key =>
    match (s.array array).lookup key with
    | some value => return value
    | none =>
      set (s.putArray array (s.array array ++ [(key, .unset)]))
      return .unset

def setAt (spot : Spot) (value : Value) : Run Unit := modify fun s =>
  match spot with
  | .named name => s.assign name value
  | .field n => s.setField n value
  | .element array key => s.putArray array (State.putIn key value (s.array array))

def callPlain (name : String) (args : List Value) : Run Value := do
  let s ← get
  let text (v : Value) : Octets := v.toText s.numberFormat
  match name, args with
  | "length", [] => return .ofNat (text s.record).length
  | "length", [v] => return .ofNat (text v).length
  | "substr", [v, place] => return .text (part (text v) place.toNumber none)
  | "substr", [v, place, count] =>
    return .text (part (text v) place.toNumber (some count.toNumber))
  | "index", [v, wanted] => return .ofNat (placeOf (text wanted) (text v))
  | "sprintf", format :: args =>
    let format := text format
    return .text (← orFail (Value.fillFormat s.numberFormat (format.length + 1) format args))
  | "int", [v] => return .number (.ofInt v.toNumber.trunc)
  | "sqrt", [v] =>
    let x := v.toNumber
    if x.num < 0 then throw .failed
    else
      -- exact for squares, else with 30 binary places
      let scale := 1 <<< 30
      let root := Nat.sqrt (x.num.natAbs * x.den * scale * scale)
      return .number (Fraction.make root (x.den * scale))
  | "tolower", [v] => return .text ((text v).map Char.toLower)
  | "toupper", [v] => return .text ((text v).map Char.toUpper)
  | "fflush", _ => return .ofNat 0
  | "close", [v] =>
    let wasOpen ← close (textOfOctets (text v))
    return .number (.ofInt (if wasOpen then 0 else -1))
  | _, _ => throw .failed

def splitInto (array : String) (s separator : Octets) : Run Value := do
  let pieces := State.split false separator s
  let keys := (List.range' 1 pieces.length).map fun n => (toString n).toList
  modify fun state => state.putArray array (keys.zip (pieces.map .input))
  return .ofNat pieces.length

mutual

/-- The value of an expression. The fuel bounds the depth. -/
def eval : Nat → Expr → Run Value
  | 0, _ => throw .failed
  | fuel + 1, e => do
    let truth (e : Expr) : Run Bool := do return (← eval fuel e).holds
    let number (e : Expr) : Run Fraction := do return (← eval fuel e).toNumber
    match e with
    | .number x => return .number x
    | .text s => return .text s
    | .regular e =>
      let s ← get
      return .ofBool (e.occurs false (s.record.toText s.numberFormat))
    | .place p => do valueAt (← spotOf fuel p)
    | .assign p e =>
      let value ← eval fuel e
      setAt (← spotOf fuel p) value
      return value
    | .update how p e =>
      let y ← number e
      let spot ← spotOf fuel p
      let x := (← valueAt spot).toNumber
      let value := Value.number (← orFail (how.result? x y))
      setAt spot value
      return value
    | .count p up before =>
      let spot ← spotOf fuel p
      let x := (← valueAt spot).toNumber
      let y := x.add (.ofInt (if up then 1 else -1))
      setAt spot (.number y)
      return .number (if before then y else x)
    | .calculate how a b =>
      let x ← number a
      let y ← number b
      return .number (← orFail (how.result? x y))
    | .join a b =>
      let s ← textOf fuel a
      return .text (s ++ (← textOf fuel b))
    | .compare order a b =>
      let a ← eval fuel a
      let b ← eval fuel b
      let (less, equal) := Value.order (← get).numberFormat a b
      return .ofBool (order.holds less equal)
    | .fits negated text expression =>
      let s ← textOf fuel text
      let e ← regularOf fuel expression
      return .ofBool (e.occurs false s != negated)
    | .both a b => if ← truth a then return .ofBool (← truth b) else return .ofBool false
    | .either a b => if ← truth a then return .ofBool true else return .ofBool (← truth b)
    | .no e => return .ofBool !(← truth e)
    | .negative e => return .number (← number e).neg
    | .choose c a b => if ← truth c then eval fuel a else eval fuel b
    | .member keys array =>
      let key ← keyOf fuel keys
      return .ofBool (((← get).array array).lookup key).isSome
    | .call name args => call fuel name args
    | .getLine into path => getLine fuel into path

def spotOf : Nat → Place → Run Spot
  | 0, _ => throw .failed
  | fuel + 1, p => do
    match p with
    | .named name => return .named name
    | .field e =>
      let n := (← eval fuel e).toNumber.trunc
      if n < 0 then throw .failed else return .field n.toNat
    | .element array keys => return .element array (← keyOf fuel keys)

def textOf : Nat → Expr → Run Octets
  | 0, _ => throw .failed
  | fuel + 1, e => do
    let v ← eval fuel e
    return v.toText (← get).numberFormat

def regularOf : Nat → Expr → Run Regular
  | 0, _ => throw .failed
  | fuel + 1, e => do
    match e with
    | .regular e => return e
    | e => orFail (Regular.read true (← textOf fuel e))

def keyOf : Nat → List Expr → Run Octets
  | 0, _ => throw .failed
  | fuel + 1, keys => do
    let texts ← keys.mapM (textOf fuel)
    return ((← get).text "SUBSEP").intercalate texts

def call : Nat → String → List Expr → Run Value
  | 0, _, _ => throw .failed
  | fuel + 1, name, args => do
    let replace (all : Bool) (e replacement : Expr) (p : Place) : Run Value := do
      let e ← regularOf fuel e
      let replacement ← textOf fuel replacement
      let spot ← spotOf fuel p
      let s := (← valueAt spot).toText (← get).numberFormat
      let (text, count) := replaced e ⟨s.toArray, false⟩ replacement all (s.length + 2) 0 false
      if 0 < count then setAt spot (.text text)
      return .ofNat count
    match name, args with
    | "length", [.place (.named array)] =>
      match (← get).arrays.lookup array with
      | some elements => return .ofNat elements.length
      | none => callPlain name [← eval fuel (.place (.named array))]
    | "split", [text, .place (.named array)] =>
      splitInto array (← textOf fuel text) ((← get).text "FS")
    | "split", [text, .place (.named array), .regular e] =>
      let s ← textOf fuel text
      let pieces := if s.isEmpty then [] else State.cutAt e ⟨s.toArray, false⟩ (s.length + 1) 0
      let keys := (List.range' 1 pieces.length).map fun n => (toString n).toList
      modify fun state => state.putArray array (keys.zip (pieces.map .input))
      return .ofNat pieces.length
    | "split", [text, .place (.named array), separator] =>
      let s ← textOf fuel text
      splitInto array s (← textOf fuel separator)
    | "sub", [e, replacement] => replace false e replacement (.field (.number (.ofInt 0)))
    | "sub", [e, replacement, .place p] => replace false e replacement p
    | "gsub", [e, replacement] => replace true e replacement (.field (.number (.ofInt 0)))
    | "gsub", [e, replacement, .place p] => replace true e replacement p
    | "match", [text, e] =>
      let s ← textOf fuel text
      let e ← regularOf fuel e
      let (start, length) : Int × Int := match e.find? ⟨s.toArray, false⟩ 0 with
        | some found => (found.start + 1, found.stop - found.start)
        | none => (0, -1)
      modify fun state =>
        (state.put "RSTART" (.number (.ofInt start))).put "RLENGTH" (.number (.ofInt length))
      return .number (.ofInt start)
    | name, args => callPlain name (← args.mapM (eval fuel))

/-- Reads one more record into a place, or as the record. The value tells whether there was one. -/
def getLine : Nat → Option Place → Option Expr → Run Value
  | 0, _, _ => throw .failed
  | fuel + 1, into, path => do
    let found ← match path with
      | none => do pure (some (← nextRecord?))
      | some e => do nextOf (textOfOctets (← textOf fuel e))
    match found with
    | none => return .number (.ofInt (-1))
    | some none => return .ofNat 0
    | some (some record) =>
      match into with
      | some p => setAt (← spotOf fuel p) (.input record)
      | none => modify fun s => s.setRecord (.input record)
      return .ofNat 1

end

/-! ## Statements -/

def depthLimit : Nat := 20000

def recordLimit : Nat := 1000000

/-- Carries something out; a stop in it is a result. -/
def attempt (run : Run Unit) : Run (Option Stop) := do
  try
    run
    return none
  catch stop => return some stop

def printTo (target : Target) (text : Octets) : Run Unit := do
  match target with
  | .output => emit text
  | .file path append => emitTo (textOfOctets (← textOf depthLimit path)) append text

def lineOf (values : List Value) : Run Octets := do
  let s ← get
  let texts := (if values.isEmpty then [s.record] else values).map (·.toText (s.text "OFMT"))
  return (s.text "OFS").intercalate texts ++ s.text "ORS"

/-- What becomes of a loop after its body: whether it is left. -/
def leaves (stop : Option Stop) : Run Bool :=
  match stop with
  | none | some .nextRound => return false
  | some .leaveLoop => return true
  | some stop => throw stop

mutual

/-- Carries out a statement. The fuel bounds the depth and the number of repetitions. -/
def exec : Nat → Statement → Run Unit
  | 0, _ => throw .failed
  | fuel + 1, s => do
    match s with
    | .block body => execAll fuel body
    | .expression e => do let _ ← eval fuel e
    | .print args target => do printTo target (← lineOf (← args.mapM (eval fuel)))
    | .printFormat args target =>
      let text ← callPlain "sprintf" (← args.mapM (eval fuel))
      printTo target (text.toText [])
    | .branch c yes no => if (← eval fuel c).holds then exec fuel yes else exec fuel no
    | .loop testFirst c body step =>
      let enters ← if testFirst then do pure (← eval fuel c).holds else pure true
      if enters then repeated fuel c body step
    | .each name array body =>
      eachKey fuel name body (((← get).array array).map (·.1))
    | .leaveLoop => throw .leaveLoop
    | .nextRound => throw .nextRound
    | .nextRecord => throw .nextRecord
    | .nextFile => throw .nextFile
    | .quit status =>
      match status with
      | some e =>
        let n := (← eval fuel e).toNumber.trunc
        modify fun s => { s with status := (n % 256).toNat }
        throw .quit
      | none => throw .quit
    | .delete array keys =>
      if keys.isEmpty then modify fun s => s.putArray array []
      else
        let key ← keyOf fuel keys
        modify fun s => s.putArray array ((s.array array).filter (·.1 ≠ key))

def execAll : Nat → List Statement → Run Unit
  | 0, _ => throw .failed
  | _, [] => return
  | fuel + 1, s :: rest => do
    exec fuel s
    execAll fuel rest

def repeated : Nat → Expr → Statement → Statement → Run Unit
  | 0, _, _, _ => throw .failed
  | fuel + 1, c, body, step => do
    if ← leaves (← attempt (exec fuel body)) then return
    exec fuel step
    if (← eval fuel c).holds then repeated fuel c body step

def eachKey : Nat → String → Statement → List Octets → Run Unit
  | 0, _, _, _ => throw .failed
  | _, _, _, [] => return
  | fuel + 1, name, body, key :: keys => do
    modify fun s => s.assign name (.input key)
    if ← leaves (← attempt (exec fuel body)) then return
    eachKey fuel name body keys

end

/-! ## Rules -/

/-- Whether a rule applies to the record. A rule with two conditions is known by its number. -/
def applies (number : Nat) (trigger : Trigger) : Run Bool := do
  match trigger with
  | .start | .finish => return false
  | .always => return true
  | .when c => return (← eval depthLimit c).holds
  | .span first last =>
    let enters ← if number ∈ (← get).active then pure true
      else do pure (← eval depthLimit first).holds
    if !enters then return false
    let ends := (← eval depthLimit last).holds
    modify fun s =>
      let others := s.active.filter (· ≠ number)
      { s with active := if ends then others else number :: others }
    return true

def takeThrough : Nat → List Rule → Run Unit
  | _, [] => return
  | number, rule :: rules => do
    if ← applies number rule.trigger then exec depthLimit rule.action
    takeThrough (number + 1) rules

/-- Takes all records through the rules. The fuel bounds their number. -/
def takeRecords (rules : List Rule) : Nat → Run Unit
  | 0 => return
  | fuel + 1 => do
    match ← nextRecord? with
    | none => return
    | some record =>
      modify fun s => s.setRecord (.input record)
      match ← attempt (takeThrough 0 rules) with
      | none | some .nextRecord => takeRecords rules fuel
      | some .nextFile =>
        modify fun s => { s with rest := some [] }
        takeRecords rules fuel
      | some stop => throw stop

/-- Carries out the actions of the rules that apply before all input or after it. -/
def execEdges (rules : List Rule) : Run Unit :=
  rules.forM fun rule => exec depthLimit rule.action

/-- Runs a program to its end; tells whether it gave up reading by itself. -/
def runRules (rules : List Rule) : Run Bool := do
  let starting := rules.filter (·.trigger matches .start)
  let finishing := rules.filter (·.trigger matches .finish)
  let passing := rules.filter fun rule =>
    !(rule.trigger matches .start) && !(rule.trigger matches .finish)
  let first ← attempt do
    execEdges starting
    if !passing.isEmpty || !finishing.isEmpty then takeRecords passing recordLimit
  let last ← match first with
    | none | some .quit => attempt (execEdges finishing)
    | stop => pure stop
  match last with
  | none | some .quit => return first = some .quit
  | some stop => throw stop

/-! ## The program -/

def options : OptionTable := { OptionTable.of "" "Fvf" [] with mixed := false }

def given? (c : Call) : Option (Given × Octets × List String) := do
  let g ← options.read c.args
  if g.has 'f' then
    let texts ← (g.values 'f').mapM c.read?
    return (g, ['\n'].intercalate texts, g.operands)
  else match g.operands with
    | source :: operands => return (g, octetsOf source, operands)
    | [] => none

def startValues : List (String × Value) := [
  ("FS", .text [' ']), ("OFS", .text [' ']), ("RS", .text ['\n']), ("ORS", .text ['\n']),
  ("SUBSEP", .text ['\x1c']), ("CONVFMT", .text "%.6g".toList), ("OFMT", .text "%.6g".toList),
  ("NR", .ofNat 0), ("FNR", .ofNat 0), ("NF", .ofNat 0), ("RSTART", .ofNat 0),
  ("RLENGTH", .number (.ofInt (-1)))]

/-- The state at the start; `none` if an option is malformed. -/
def start? (c : Call) (g : Given) (operands : List String) : Option State := do
  let plain (text : String) : Octets :=
    let octets := octetsOf text
    (unescape false (octets.length + 1) octets).1
  let argv := ("awk" :: operands).map fun text => Value.input (octetsOf text)
  let keys := (List.range argv.length).map fun n => (toString n).toList
  let environment := c.environment.map fun (name, value) =>
    (octetsOf name, Value.input (octetsOf value))
  let s : State := {
    files := c.files, cwd := c.cwd, input := c.input, printed := []
    values := startValues ++ [("ARGC", .ofNat argv.length)]
    arrays := [("ARGV", keys.zip argv), ("ENVIRON", environment)]
    record := .unset, fields := [], operands := operands, anyFile := false, rest := none
    written := [], readers := [], active := [], status := 0 }
  let s := match g.value? 'F' with
    | some separator => s.put "FS" (.text (plain separator))
    | none => s
  (g.values 'v').foldlM (fun s text => do
    let (name, value) ← State.assignment? text
    return s.assign name (.input value)) s

def State.outcome (s : State) (status : Nat) : Outcome :=
  ⟨s.files, s.printed.reverse.flatten, status⟩

/-- Runs the program of a call: what comes of it, and whether it gave up reading by itself. Without
a program there is nothing to do. -/
def run (c : Call) : Outcome × Bool :=
  match given? c with
  | none => (c.quit (if c.args.isEmpty then 0 else 2), false)
  | some (g, source, operands) =>
    match rulesOf? source, start? c g operands with
    | some rules, some s =>
      match (runRules rules).run.run s with
      | (.ok ended, s) => (s.outcome s.status, ended)
      | (.error _, s) => (s.outcome 2, false)
    | _, _ => (c.quit 2, false)

def readsInput (c : Call) : Bool :=
  match given? c with
  | none => false
  | some (_, source, operands) =>
    let reads := ((rulesOf? source).getD []).any fun rule => !(rule.trigger matches .start)
    let asks := ((Token.ofOctets? source).getD []).contains (.word "getline")
    (reads || asks) &&
      (operands.contains "-" || operands.contains "/dev/stdin" ||
        operands.all fun operand => (State.assignment? operand).isSome || operand.isEmpty)

end ConformanceGate.Machine.Programs.Awk

namespace ConformanceGate.Machine.Programs

def awk (c : Call) : Outcome := (Awk.run c).1

end ConformanceGate.Machine.Programs
