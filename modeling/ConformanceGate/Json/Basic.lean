import ConformanceGate.Keyed
import ConformanceGate.Number.Double

/-!
# JSON values

The values that JSON documents denote. Whole numbers and doubles are kept apart, as they are told
apart when documents are compared. A value read from a text has its objects in order: the keys
strictly increase by code point (`Json.Ordered`), so each key occurs once.
-/

namespace ConformanceGate

/-- A JSON number: a whole number written without fraction and exponent, or a double. -/
inductive Number
  | integer (value : Int)
  | float (value : Double)
deriving DecidableEq

/-- Whole numbers are compared with whole numbers and doubles with doubles. -/
def Number.same : Number → Number → Bool
  | .integer a, .integer b => a == b
  | .float a, .float b => a.same b
  | _, _ => false

inductive Json
  | null
  | bool (value : Bool)
  | number (value : Number)
  | string (value : String)
  | array (items : List Json)
  | object (members : List (String × Json))
deriving Inhabited

namespace Json

def int (n : Int) : Json := .number (.integer n)

def nat (n : Nat) : Json := .int n

/-- The value of an optional member; an absent one is `null`. -/
def orNull (f : α → Json) : Option α → Json
  | none => .null
  | some a => f a

def members? : Json → Option (List (String × Json))
  | .object members => some members
  | _ => none

mutual

/-- Equality of values: numbers as `Number.same`, all else by structure. -/
def same : Json → Json → Bool
  | .null, .null => true
  | .bool a, .bool b => a == b
  | .number a, .number b => a.same b
  | .string a, .string b => a == b
  | .array a, .array b => sameItems a b
  | .object a, .object b => sameMembers a b
  | _, _ => false

def sameItems : List Json → List Json → Bool
  | [], [] => true
  | a :: as, b :: bs => same a b && sameItems as bs
  | _, _ => false

def sameMembers : List (String × Json) → List (String × Json) → Bool
  | [], [] => true
  | (k, a) :: as, (l, b) :: bs => k == l && same a b && sameMembers as bs
  | _, _ => false

end

mutual

/-- All objects of the value, at any depth, have strictly increasing keys. -/
def Ordered : Json → Prop
  | .array items => OrderedItems items
  | .object members => Keyed.Increasing members ∧ OrderedMembers members
  | _ => True

def OrderedItems : List Json → Prop
  | [] => True
  | item :: rest => Ordered item ∧ OrderedItems rest

def OrderedMembers : List (String × Json) → Prop
  | [] => True
  | (_, value) :: rest => Ordered value ∧ OrderedMembers rest

end

end Json
end ConformanceGate
