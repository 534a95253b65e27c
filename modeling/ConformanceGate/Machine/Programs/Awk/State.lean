import ConformanceGate.Machine.Programs.Awk.Value
import ConformanceGate.Machine.Programs.Outcome
import ConformanceGate.Machine.Regular

/-!
# What programs over records work on

Variables, arrays, the record with its fields, what is still to be read, and what was written. The
record and its fields follow each other's changes.
-/

namespace ConformanceGate.Machine.Programs.Awk

structure State where
  files : Files
  cwd : List String
  /-- All that can be read from the input. -/
  input : Octets
  /-- What was printed, the last piece first. -/
  printed : List Octets
  values : List (String × Value)
  arrays : List (String × List (Octets × Value))
  /-- The record as a whole, and its fields. -/
  record : Value
  fields : List Value
  /-- The operands that were not looked at yet, and whether one of them named a file. -/
  operands : List String
  anyFile : Bool
  /-- What is left of the file that is being read. -/
  rest : Option Octets
  /-- The files that were opened for writing. -/
  written : List String
  /-- What is left of files that are read line by line. -/
  readers : List (String × Octets)
  /-- The rules that go on from one record to another. -/
  active : List Nat
  status : Nat

/-- Why statements are left. -/
inductive Stop
  | leaveLoop
  | nextRound
  | nextRecord
  | nextFile
  | quit
  | failed
deriving DecidableEq

abbrev Run := ExceptT Stop (StateM State)

namespace State

/-! ## Variables -/

/-- Puts a value in the place of the one with the same name, or at the end. -/
def putIn [BEq κ] (key : κ) (value : α) (entries : List (κ × α)) : List (κ × α) :=
  if entries.any (·.1 == key) then entries.map fun e => if e.1 == key then (key, value) else e
  else entries ++ [(key, value)]

def value (s : State) (name : String) : Value := (s.values.lookup name).getD .unset

def numberFormat (s : State) : Octets := (s.value "CONVFMT").toText "%.6g".toList

def text (s : State) (name : String) : Octets := (s.value name).toText s.numberFormat

def array (s : State) (name : String) : List (Octets × Value) := (s.arrays.lookup name).getD []

def putArray (s : State) (name : String) (elements : List (Octets × Value)) : State :=
  { s with arrays := putIn name elements s.arrays }

def put (s : State) (name : String) (value : Value) : State :=
  { s with values := putIn name value s.values }

/-! ## Fields -/

/-- The pieces of a text between matches of an expression. The fuel is above its length. -/
def cutAt (e : Regular) (subject : Regular.Subject) : Nat → Nat → List Octets
  | 0, _ => []
  | fuel + 1, start =>
    match e.find? subject start with
    | some found =>
      if found.start < found.stop then
        subject.between start found.start :: cutAt e subject fuel found.stop
      else [subject.between start subject.text.size]
    | none => [subject.between start subject.text.size]

/-- The words of a text. The fuel is above its length. -/
def wordsOf : Nat → Octets → List Octets
  | 0, _ => []
  | fuel + 1, s =>
    let s := s.dropWhile Value.isBlank
    if s.isEmpty then []
    else s.takeWhile (fun c => !Value.isBlank c) ::
      wordsOf fuel (s.dropWhile fun c => !Value.isBlank c)

/-- The pieces of a text between separators: words between blanks for a single blank, all characters
for an empty separator, and else what is between matches. In paragraphs a line break separates too.
-/
def split (paragraphs : Bool) (separator s : Octets) : List Octets :=
  let pieces (e : Regular) : List Octets := cutAt e ⟨s.toArray, false⟩ (s.length + 1) 0
  if s.isEmpty then []
  else if separator = [' '] then wordsOf (s.length + 1) s
  else
    let separating := match separator with
      | [] => none
      | [c] => some (.char c)
      | separator => Regular.read true separator
    match separating with
    | none => if separator.isEmpty then s.map ([·]) else [s]
    | some e => pieces (if paragraphs then .either e (.char '\n') else e)

def countFields (s : State) : State := s.put "NF" (.ofNat s.fields.length)

def setRecord (s : State) (record : Value) : State :=
  let fields := split (s.text "RS").isEmpty (s.text "FS") (record.toText s.numberFormat)
  { s with record := record, fields := fields.map .input }.countFields

def joinFields (s : State) : State :=
  let texts := s.fields.map (·.toText s.numberFormat)
  { s with record := .text ((s.text "OFS").intercalate texts) }

/-- The first fields, empty ones at the end if there are not enough. -/
def padFields (count : Nat) (fields : List Value) : List Value :=
  fields.take count ++ List.replicate (count - fields.length) .unset

/-- The value of a field; field zero is the record. -/
def field (s : State) (n : Nat) : Value :=
  if n = 0 then s.record else (s.fields[n - 1]?).getD .unset

def setField (s : State) (n : Nat) (value : Value) : State :=
  if n = 0 then s.setRecord value
  else
    let fields := padFields (max n s.fields.length) s.fields
    { s with fields := fields.set (n - 1) value }.joinFields.countFields

/-- Sets a variable; the number of fields changes the record. -/
def assign (s : State) (name : String) (value : Value) : State :=
  if name = "NF" then
    { s with fields := padFields value.toNumber.trunc.toNat s.fields }.joinFields.countFields
  else s.put name value

/-! ## Reading -/

/-- The first record of a text, and what is left; `none` if there is none. An empty separator stands
for empty lines. -/
def cutRecord (separator s : Octets) : Option (Octets × Octets) :=
  let found (e : Regular) : Octets × Octets :=
    match e.find? ⟨s.toArray, false⟩ 0 with
    | some f => if f.start < f.stop then (s.take f.start, s.drop f.stop) else (s, [])
    | none => (s, [])
  match separator with
  | [] =>
    let s := s.dropWhile (· == '\n')
    if s.isEmpty then none
    else
      let breaks : Regular := .both (.char '\n') (.repeated 1 none (.char '\n'))
      match breaks.find? ⟨s.toArray, false⟩ 0 with
      | some f => some (s.take f.start, s.drop f.stop)
      | none => some (if s.getLast? = some '\n' then s.dropLast else s, [])
  | [c] =>
    if s.isEmpty then none else some (s.takeWhile (· ≠ c), (s.dropWhile (· ≠ c)).drop 1)
  | separator =>
    if s.isEmpty then none
    else match Regular.read true separator with
      | some e => some (found e)
      | none => some (s, [])

def assignment? (operand : String) : Option (String × Octets) :=
  let cs := operand.toList
  let name := cs.takeWhile fun c => c.isAlphanum || c == '_'
  match cs.drop name.length with
  | '=' :: value =>
    if name.head?.any fun c => !c.isDigit then
      let octets := octetsOf (String.ofList value)
      some (String.ofList name, (unescape false (octets.length + 1) octets).1)
    else none
  | _ => none

def contentOf? (s : State) (path : String) : Option Octets :=
  if path = "-" || path = "/dev/stdin" then some s.input
  else (s.files.readBytes s.cwd path).toOption.map octets

end State

open State

def orFail (a : Option α) : Run α :=
  match a with
  | some a => pure a
  | none => throw .failed

/-- Opens the next file to read, or the input if no file was named; tells whether there was one. The
fuel is above the number of operands. -/
def openNext : Nat → Run Bool
  | 0 => return false
  | fuel + 1 => do
    let s ← get
    match s.operands with
    | [] =>
      if s.anyFile then return false
      else
        set { s with anyFile := true, rest := some s.input }
        return true
    | operand :: operands =>
      let s := { s with operands := operands }
      match assignment? operand with
      | some (name, value) =>
        set (s.assign name (.input value))
        openNext fuel
      | none =>
        if operand.isEmpty then
          set s
          openNext fuel
        else
          let content ← orFail (s.contentOf? operand)
          let s := { s with anyFile := true, rest := some content }
          set ((s.put "FILENAME" (.text (octetsOf operand))).put "FNR" (.ofNat 0))
          return true

/-- The next record of all files, unless there is none. The fuel is above the number of files. -/
def takeRecord : Nat → Run (Option Octets)
  | 0 => return none
  | fuel + 1 => do
    let s ← get
    match s.rest.bind (cutRecord (s.text "RS")) with
    | some (record, rest) =>
      let next (name : String) : Value := .ofNat ((s.value name).toNumber.trunc.toNat + 1)
      set (({ s with rest := some rest }.put "NR" (next "NR")).put "FNR" (next "FNR"))
      return some record
    | none =>
      if ← openNext (s.operands.length + 1) then takeRecord fuel else return none

def nextRecord? : Run (Option Octets) := do takeRecord ((← get).operands.length + 2)

/-- The next record of a file that is read line by line; `none` if it cannot be read. -/
def nextOf (path : String) : Run (Option (Option Octets)) := do
  let s ← get
  match (s.readers.lookup path).orElse fun _ => s.contentOf? path with
  | none => return none
  | some content =>
    match cutRecord (s.text "RS") content with
    | some (record, rest) =>
      set { s with readers := putIn path rest s.readers }
      return some (some record)
    | none =>
      set { s with readers := putIn path [] s.readers }
      return some none

/-! ## Writing -/

def emit (text : Octets) : Run Unit := modify fun s => { s with printed := text :: s.printed }

/-- Prints to a file, which is emptied if it is opened by this, unless `append` is set. -/
def emitTo (path : String) (append : Bool) (text : Octets) : Run Unit := do
  if path = "-" || path = "/dev/stdout" then emit text
  else if path = "/dev/stderr" then return
  else
    let s ← get
    let before :=
      if append || path ∈ s.written then
        ((s.files.readBytes s.cwd path).toOption).getD .empty
      else .empty
    let files ← orFail (s.files.write s.cwd path (before ++ bytesOf text)).toOption
    set { s with files := files, written := path :: s.written.filter (· ≠ path) }

/-- Closes a file; tells whether it was open. -/
def close (path : String) : Run Bool := do
  let s ← get
  set { s with
    written := s.written.filter (· ≠ path)
    readers := s.readers.filter (·.1 ≠ path) }
  return path ∈ s.written || (s.readers.lookup path).isSome

end ConformanceGate.Machine.Programs.Awk
