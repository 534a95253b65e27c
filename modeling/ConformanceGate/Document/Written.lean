import ConformanceGate.Json.Basic

/-!
# Documents as written

A reader turns a text into a `Written` tree before anything is made of it: members in the order of
the text, repeated keys kept. Where the text is faulty the tree says so in place and goes no
further, so whoever walks the tree in order meets the first problem of either kind first: a fault
of the text, or a value that does not fit.
-/

namespace ConformanceGate

/-- What can be wrong with a text. -/
inductive Fault
  /-- The text ends too early. -/
  | ended
  /-- Anything else. -/
  | malformed
deriving DecidableEq

/-- A document as written. -/
inductive Written
  | null
  | bool (value : Bool)
  | number (value : Number)
  /-- A number that is not finite, by its name. -/
  | nonfinite (name : String)
  | string (value : String)
  /-- The items; `stop` tells how the text fails before the array is closed. An item that was begun
  by a comma but is not there is `flawed`. -/
  | array (items : List Written) (stop : Option Fault)
  /-- The members; `stop` tells how the text fails before the object is closed. -/
  | object (members : List (Except Fault String × Written)) (stop : Option Fault)
  /-- No value can be read here. -/
  | flawed (fault : Fault)
deriving Inhabited

namespace Written

mutual

/-- The tree of a value: nothing in it is faulty. -/
def ofJson : Json → Written
  | .null => .null
  | .bool b => .bool b
  | .number n => .number n
  | .string s => .string s
  | .array items => .array (ofItems items) none
  | .object members => .object (ofMembers members) none

def ofItems : List Json → List Written
  | [] => []
  | item :: rest => ofJson item :: ofItems rest

def ofMembers : List (String × Json) → List (Except Fault String × Written)
  | [] => []
  | (key, value) :: rest => (.ok key, ofJson value) :: ofMembers rest

end

def depthLimit : Nat := 127

mutual

/-- The value of the tree, if nothing in it is faulty and it has at most `depth` levels. Of equal
keys the last one counts. -/
def toJson (depth : Nat) : Written → Except Fault Json
  | .null => .ok .null
  | .bool b => .ok (.bool b)
  | .number n => .ok (.number n)
  | .nonfinite _ => .error .malformed
  | .string s => .ok (.string s)
  | .array items stop =>
    match depth with
    | 0 => .error .malformed
    | depth + 1 => (toItems depth items stop).map .array
  | .object members stop =>
    match depth with
    | 0 => .error .malformed
    | depth + 1 => (toMembers depth members stop).map fun pairs => .object (Keyed.collect pairs)
  | .flawed fault => .error fault

def toItems (depth : Nat) : List Written → Option Fault → Except Fault (List Json)
  | [], none => .ok []
  | [], some fault => .error fault
  | item :: rest, stop => do
    let value ← toJson depth item
    let values ← toItems depth rest stop
    return value :: values

/-- The keys and values of the members up to the end of the object, in the order of the text. -/
def toMembers (depth : Nat) :
    List (Except Fault String × Written) → Option Fault → Except Fault (List (String × Json))
  | [], none => .ok []
  | [], some fault => .error fault
  | (key, item) :: rest, stop => do
    let key ← key
    let value ← toJson depth item
    let pairs ← toMembers depth rest stop
    return (key, value) :: pairs

end

end Written
end ConformanceGate
