import ConformanceGate.Document.Mismatch

/-!
# Decoding records

A decoder makes a value of a tree or refuses it. Records are described field by field; their members
are taken in the order of the tree, and the first problem met is the one reported. Fields that are
missing show only after all members were read.
-/

namespace ConformanceGate

/-- The conditions under which a document is decoded. -/
structure Terms where
  /-- How many levels of arrays and objects may still be entered. -/
  levels : Nat
  /-- Whether items beyond the last field of a record are passed over. -/
  leftovers : Bool

def Terms.enter (t : Terms) : Except Refusal Terms :=
  match t.levels with
  | 0 => .error (.fault .malformed)
  | levels + 1 => .ok { t with levels }

def Terms.json : Terms := ⟨Written.depthLimit, false⟩

/-- A way to make a value of a tree. -/
abbrev Decoder (α : Type) := Terms → Written → Except Refusal α

namespace Decoder

/-- A text; `expected` names it when something else is found. -/
def text (expected : String) : Decoder String := fun _ w =>
  match w with
  | .string s => .ok s
  | w => .error (w.refusal expected)

def string : Decoder String := text "a string"

def path : Decoder String := text "path string"

def boolean : Decoder Bool := fun _ w =>
  match w with
  | .bool b => .ok b
  | w => .error (w.refusal "a boolean")

/-- A whole number from zero to below `limit`; `expected` names the range. -/
def natBelow (limit : Nat) (expected : String) : Decoder Nat := fun _ w =>
  match w with
  | .number (.integer n) =>
    if 0 ≤ n ∧ n < limit then .ok n.toNat
    else .error (.mismatch (.wrongValue (.integer n) expected))
  | w => .error (w.refusal expected)

def nat64 : Decoder Nat := natBelow (1 <<< 64) "u64"

def nat16 : Decoder Nat := natBelow (1 <<< 16) "u16"

def optional (d : Decoder α) : Decoder (Option α) := fun t w =>
  match w with
  | .null => .ok none
  | w => (d t w).map some

def any : Decoder Json := fun t w => (w.toJson t.levels).mapError .fault

def items (d : Decoder α) (t : Terms) : List Written → Option Fault → Except Refusal (List α)
  | [], none => .ok []
  | [], some fault => .error (.fault fault)
  | item :: rest, stop => do
    let value ← d t item
    let values ← items d t rest stop
    return value :: values

def list (d : Decoder α) : Decoder (List α) := fun t w =>
  match w with
  | .array found stop => do items d (← t.enter) found stop
  | w => .error (w.refusal "a sequence")

/-- The members of an object up to its end, in the order of the tree. -/
def members (d : Decoder α) (t : Terms) :
    List (Except Fault String × Written) → Option Fault → Except Refusal (List (String × α))
  | [], none => .ok []
  | [], some fault => .error (.fault fault)
  | (key, item) :: rest, stop => do
    let key ← key.mapError .fault
    let value ← d t item
    let pairs ← members d t rest stop
    return (key, value) :: pairs

/-- An object with free keys; of equal keys the last one counts. -/
def keyed (d : Decoder α) : Decoder (List (String × α)) := fun t w =>
  match w with
  | .object found stop => do
    let pairs ← members d (← t.enter) found stop
    return Keyed.collect pairs
  | w => .error (w.refusal "a map")

end Decoder

/-! ## Records -/

/-- A field of a record, filled in a draft of type `ρ`. -/
structure Field (ρ : Type) where
  name : String
  read : Terms → Written → ρ → Except Refusal ρ

def Field.of (name : String) (d : Decoder α) (put : α → ρ → ρ) : Field ρ :=
  ⟨name, fun t w draft => (d t w).map fun value => put value draft⟩

/-- What happens to members that are no fields. -/
inductive Others
  | refuse
  | skip
  | keep

structure Shape (ρ : Type) where
  /-- How the record is named in refusals. -/
  name : String
  fields : List (Field ρ)
  others : Others
  /-- How many fields an array in place of the record has at least; `none` refuses arrays. -/
  positional : Option Nat

namespace Shape

/-- The names of the fields in their order. -/
def names (shape : Shape ρ) : List String := shape.fields.map (·.name)

/-- Fills a draft from members in the order of the tree. `seen` holds the fields filled already.
Members that are no fields are handed back if they are kept. -/
def fillMembers (shape : Shape ρ) (t : Terms) :
    List (Except Fault String × Written) → Option Fault → List String → ρ →
      Except Refusal (ρ × List (String × Written))
  | [], none, _, draft => .ok (draft, [])
  | [], some fault, _, _ => .error (.fault fault)
  | (.error fault, _) :: _, _, _, _ => .error (.fault fault)
  | (.ok key, item) :: rest, stop, seen, draft =>
    match shape.fields.find? (fun f => f.name = key) with
    | some field =>
      if key ∈ seen then .error (.mismatch (.duplicate key))
      else do fillMembers shape t rest stop (key :: seen) (← field.read t item draft)
    | none =>
      match shape.others with
      | .refuse => .error (.mismatch (.unknown key shape.names))
      | .skip => fillMembers shape t rest stop seen draft
      | .keep => do
        let _ ← Decoder.any t item
        let (draft, kept) ← fillMembers shape t rest stop seen draft
        return (draft, (key, item) :: kept)

/-- Fills a draft from items in the order of the fields. `count` items were taken already. -/
def fillItems (shape : Shape ρ) (t : Terms) (least : Nat) :
    List (Field ρ) → List Written → Option Fault → Nat → ρ → Except Refusal ρ
  | _, [], some fault, _, _ => .error (.fault fault)
  | [], [], none, _, draft => .ok draft
  | [], _ :: _, _, _, draft => if t.leftovers then .ok draft else .error (.fault .malformed)
  | _ :: _, [], none, count, draft =>
    if count < least then
      .error (.mismatch (.wrongLength count
        (shape.name ++ " with " ++ shape.fields.length.repr ++ " elements")))
    else .ok draft
  | field :: fields, item :: rest, stop, count, draft => do
    fillItems shape t least fields rest stop (count + 1) (← field.read t item draft)

def fill (shape : Shape ρ) (t : Terms) (w : Written) (draft : ρ) :
    Except Refusal (ρ × List (String × Written)) :=
  match w, shape.positional with
  | .object found stop, _ => do fillMembers shape (← t.enter) found stop [] draft
  | .array found stop, some least => do
    let draft ← fillItems shape (← t.enter) least shape.fields found stop 0 draft
    return (draft, [])
  | w, _ => .error (w.refusal shape.name)

end Shape

def required (name : String) : Option α → Except Refusal α
  | some a => .ok a
  | none => .error (.mismatch (.missing name))

end ConformanceGate
