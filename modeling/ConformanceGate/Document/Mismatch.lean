import ConformanceGate.Document.Written
import ConformanceGate.Number.Shortest
import ConformanceGate.Text.Quoted

/-!
# Values that do not fit

What can be wrong with a value where a record with known fields is expected, and how it is said.
-/

namespace ConformanceGate

/-- What was found in place of what was expected. -/
inductive Found
  | null
  | boolean (value : Bool)
  | integer (value : Int)
  | float (value : Double)
  | nonfinite (name : String)
  | string (value : String)
  | sequence
  | map

inductive Mismatch
  | wrongType (found : Found) (expected : String)
  | wrongValue (found : Found) (expected : String)
  | wrongLength (length : Nat) (expected : String)
  | missing (field : String)
  | duplicate (field : String)
  | unknown (field : String) (known : List String)
  | custom (text : String)

/-- Why a document is refused: the text is faulty, or a value does not fit. -/
inductive Refusal
  | fault (fault : Fault)
  | mismatch (mismatch : Mismatch)

/-- The names in back quotes as a phrase: one, two joined by "or", or a list after "one of". -/
def oneOf (names : List String) : String :=
  let ticked (name : String) := "`" ++ name ++ "`"
  match names with
  | [] => "there are no fields"
  | [a] => "expected " ++ ticked a
  | [a, b] => "expected " ++ ticked a ++ " or " ++ ticked b
  | names => "expected one of " ++ ", ".intercalate (names.map ticked)

/-- How a found value is named; doubles are written as the document's format does. -/
def Found.text (layout : Double.Layout) : Found → String
  | .null => "null"
  | .boolean b => "boolean `" ++ (if b then "true" else "false") ++ "`"
  | .integer n => "integer `" ++ n.repr ++ "`"
  | .float d => "floating point `" ++ d.text layout ++ "`"
  | .nonfinite name => "floating point `" ++ name ++ "`"
  | .string s => "string " ++ Text.quoted s
  | .sequence => "sequence"
  | .map => "map"

/-- The sentence about a value that does not fit. -/
def Mismatch.text (layout : Double.Layout) : Mismatch → String
  | .wrongType found expected => "invalid type: " ++ found.text layout ++ ", expected " ++ expected
  | .wrongValue found expected =>
    "invalid value: " ++ found.text layout ++ ", expected " ++ expected
  | .wrongLength n expected => "invalid length " ++ n.repr ++ ", expected " ++ expected
  | .missing field => "missing field `" ++ field ++ "`"
  | .duplicate field => "duplicate field `" ++ field ++ "`"
  | .unknown field known => "unknown field `" ++ field ++ "`, " ++ oneOf known
  | .custom text => text

/-- What a tree looks like from outside; a faulty tree shows its fault. -/
def Written.found : Written → Except Fault Found
  | .null => .ok .null
  | .bool b => .ok (.boolean b)
  | .number (.integer n) => .ok (.integer n)
  | .number (.float d) => .ok (.float d)
  | .nonfinite name => .ok (.nonfinite name)
  | .string s => .ok (.string s)
  | .array _ _ => .ok .sequence
  | .object _ _ => .ok .map
  | .flawed fault => .error fault

/-- The refusal of a tree where something else is expected. -/
def Written.refusal (expected : String) (w : Written) : Refusal :=
  match w.found with
  | .ok found => .mismatch (.wrongType found expected)
  | .error fault => .fault fault

end ConformanceGate
