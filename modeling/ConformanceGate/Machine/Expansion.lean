import ConformanceGate.Machine.Arithmetic
import ConformanceGate.Machine.Pattern
import ConformanceGate.Machine.Process

/-!
# What words stand for

A word is turned into fields: parameters give way to their values, values outside of quotes fall
apart at the separators, and patterns give way to the paths that match them. Where the output of a
command is needed that is not known yet, the work stops and names the command; it is done again from
the start when the output is there.
-/

namespace ConformanceGate.Machine

/-- Why words cannot be expanded. -/
inductive Pause
  /-- The output of this command is needed. -/
  | command (command : Command)
  /-- The script cannot go on. -/
  | failure

/-- The process whose words are expanded, and the outputs of commands that were not used yet. -/
structure Expansion where
  process : Process
  outputs : List String

abbrev Expanding := StateT Expansion (Except Pause)

/-! ## Parameters -/

/-- The letters of options in the order in which they are shown. -/
def flagOrder : List Char :=
  ['u', 'b', 'a', 'C', 'E', 'V', 'v', 'x', 's', 'n', 'm', 'i', 'I', 'f', 'e']

def Process.parameter? (p : Process) (name : String) : Option String :=
  match name with
  | "$" => some p.shell.repr
  | "?" => some p.status.repr
  | "!" => p.jobs.head?.map Nat.repr
  | "#" => some p.args.length.repr
  | "-" => some (String.ofList (flagOrder.filter (· ∈ p.flags)))
  | name =>
    match name.toNat? with
    | some 0 => some p.name
    | some n => p.args[n - 1]?
    | none =>
      match p.value? name with
      | some value => some value
      | none =>
        if name = "PPID" then some p.parent.repr
        else if name = "PWD" then some ("/" ++ "/".intercalate p.directory)
        else none

def Process.separators (p : Process) : List Char := ((p.value? "IFS").getD " \t\n").toList

/-! ## Fields -/

/-- Fields that are complete, and the one that is being put together. -/
structure Fields where
  done : List (List Mark)
  current : Option (List Mark)
  /-- Whether a blank has just ended a field. -/
  ended : Bool

namespace Fields

def empty : Fields := ⟨[], none, false⟩

def add (f : Fields) (ms : List Mark) : Fields := ⟨f.done, some (f.current.getD [] ++ ms), false⟩

def close (f : Fields) : Fields := ⟨f.done ++ f.current.toList, none, false⟩

/-- Adds a value, which falls apart at separators. Blanks among them count together. -/
def split (separators : List Char) (f : Fields) (value : List Char) : Fields :=
  value.foldl (fun f c =>
    if c ∈ separators then
      if c = ' ' || c = '\t' || c = '\n' then
        if f.current.isSome then { f.close with ended := true } else f
      else if f.current.isSome then f.close
      else if f.ended then { f with ended := false }
      else (f.add []).close
    else f.add [⟨c, false⟩]) f

def toList (f : Fields) : List (List Mark) := f.done ++ f.current.toList

def joined (f : Fields) : List Mark :=
  [(⟨' ', true⟩ : Mark)].intercalate f.toList

end Fields

/-! ## Expanding -/

namespace Expanding

def fail : Expanding α := throw .failure

/-- The output of a command, without the line breaks at its end. -/
def outputOf (command : Command) : Expanding String := do
  let s ← get
  match s.outputs with
  | [] => throw (.command command)
  | output :: outputs =>
    set { s with outputs := outputs }
    return output

/-- Gives a variable a value, unless it is fixed. -/
def assign (name value : String) : Expanding Unit := do
  let s ← get
  if s.process.isFixed name then fail
  else set { s with process := s.process.assign name value }

def evaluate (text : String) : Expanding String := do
  let p := (← get).process
  let lookup (name : String) : Option Int :=
    match p.parameter? name with
    | some value => Sum.ofText? value
    | none => if 'u' ∈ p.flags then none else some 0
  match (Sum.read text).bind (Sum.eval ⟨lookup, []⟩) with
  | none => fail
  | some (n, setting) =>
    for (name, n) in setting.changed.reverse do
      assign name (toString n)
    return toString n

/-- Adds a value to fields; it falls apart if it is not quoted and `splits` is set. -/
def addValue (splits inQuotes : Bool) (f : Fields) (value : String) : Expanding Fields := do
  if inQuotes then return f.add (marks true value)
  else if splits then return f.split (← get).process.separators value.toList
  else return f.add (marks false value)

/-- Adds all arguments to fields. Between quotes they stay apart if they were asked for one by one,
and are joined otherwise. -/
def addArgs (splits inQuotes apart : Bool) (f : Fields) : Expanding Fields := do
  let p := (← get).process
  let glue := if apart then " " else String.ofList (p.separators.take 1)
  if !splits then addValue false inQuotes f (glue.intercalate p.args)
  else if inQuotes && !apart then return f.add (marks true (glue.intercalate p.args))
  else
    match p.args with
    | [] => return f
    | first :: rest =>
      let addOne (f : Fields) (arg : String) : Expanding Fields :=
        addValue splits inQuotes f arg
      rest.foldlM (fun f arg => addOne f.close arg) (← addOne f first)

mutual

/-- Adds the parts of a word to fields. `splits` tells whether values fall apart, and `bare` whether
plain text does so as well. The fuel bounds the work. -/
def addParts : Nat → Bool → Bool → Fields → Word → Expanding Fields
  | 0, _, _, _, _ => fail
  | _, _, _, f, [] => return f
  | fuel + 1, splits, bare, f, part :: rest => do
    let f ← match part with
      | .literal text => addValue bare false f text
      | .quoted text => pure (f.add (marks true text))
      | .parameter name use inQuotes => addUse fuel splits f name use inQuotes
      | .output command inQuotes => do addValue splits inQuotes f (← outputOf command)
      | .value expression inQuotes => do
        let inner ← addParts fuel false false .empty expression
        addValue splits inQuotes f (← evaluate (textOf inner.joined))
    addParts fuel splits bare f rest

def addUse : Nat → Bool → Fields → String → Use → Bool → Expanding Fields
  | 0, _, _, _, _, _ => fail
  | fuel + 1, splits, f, name, use, inQuotes => do
    let p := (← get).process
    let isAll := name == "@" || name == "*"
    let value := if isAll then (if p.args.isEmpty then none else some (" ".intercalate p.args))
      else p.parameter? name
    let missing (emptyToo : Bool) : Bool := value.isNone || (emptyToo && value == some "")
    let checked : Expanding String :=
      match value with
      | some value => pure value
      | none => if 'u' ∈ p.flags && !isAll then fail else pure ""
    let plain : Expanding Fields := do
      if isAll then addArgs splits inQuotes (name == "@") f
      else if value.isNone && !inQuotes then do
        let _ ← checked
        return f
      else addValue splits inQuotes f (← checked)
    let word (w : Word) : Expanding Fields := do
      let f := if inQuotes then f.add [] else f
      addParts fuel splits (splits && !inQuotes) f w
    match use with
    | .plain => plain
    | .length =>
      if isAll then addValue splits inQuotes f p.args.length.repr
      else addValue splits inQuotes f (← checked).utf8ByteSize.repr
    | .fallback emptyToo w => if missing emptyToo then word w else plain
    | .alternative emptyToo w =>
      if missing emptyToo then return if inQuotes then f.add [] else f else word w
    | .demand emptyToo _ => if missing emptyToo then fail else plain
    | .assign emptyToo w =>
      if missing emptyToo then do
        if !isName name then fail
        let value := textOf (← addParts fuel false false .empty w).joined
        assign name value
        addValue splits inQuotes f value
      else plain
    | .trim fromEnd longest w => do
      let value ← checked
      let pattern := (← addParts fuel false false .empty w).joined
      addValue splits inQuotes f (trimMatch fromEnd longest (patternOf pattern) value)

end

def withHome (w : Word) : Expanding Word := do
  match w with
  | .literal text :: rest =>
    let user := String.ofList (text.toList.takeWhile (· ≠ '/'))
    if user = "~" && (user.length < text.length || rest.isEmpty) then
      match (← get).process.value? "HOME" with
      | some home => return .quoted home :: .literal (String.ofList (text.toList.drop 1)) :: rest
      | none => return w
    else return w
  | w => return w

/-- A text in which colons part pieces that may begin with a tilde. `atStart` tells that the first
piece stands at the front. -/
def withHomes (atStart : Bool) (text : String) : Expanding Word := do
  let pieces := text.splitOn ":"
  let homes ← (pieces.zipIdx).mapM fun (piece, i) => do
    let glue := if i = 0 then "" else ":"
    if i = 0 && !atStart then return [Part.literal piece]
    else
      match ← withHome [.literal piece] with
      | .quoted home :: rest => return .quoted (glue ++ home) :: rest
      | _ => return [.literal (glue ++ piece)]
  return homes.flatten

def workLimit : Nat := 1000000

def fields (fs : Files) (words : List Word) : Expanding (List String) := do
  let lists ← words.mapM fun w => do
    let f ← addParts workLimit true false .empty (← withHome w)
    let p := (← get).process
    if 'f' ∈ p.flags then return f.toList.map textOf
    else return f.toList.flatMap (pathFields fs p.directory)
  return lists.flatten

/-- The marks of a word that does not fall apart. -/
def whole (w : Word) : Expanding (List Mark) := do
  return (← addParts workLimit false false .empty (← withHome w)).joined

def text (w : Word) : Expanding String := do return textOf (← whole w)

/-- A word as the text of an assignment, in which tildes may also stand after colons. -/
def assignedText (w : Word) : Expanding String := do
  let parts ← (w.zipIdx).mapM fun (part, i) =>
    match part with
    | .literal value => if ':' ∈ value.toList then withHomes (i == 0) value else pure [part]
    | part => pure [part]
  text parts.flatten

end Expanding
end ConformanceGate.Machine
