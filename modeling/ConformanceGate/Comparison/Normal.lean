import ConformanceGate.Json.Printer

/-!
# Normal form of results

Before results are compared, what varies from run to run is taken out of them, and a policy may take
one status for another. Only the records of cases are touched: an implementation or a case may have
any name.
-/

namespace ConformanceGate

/-- How strictly statuses are compared. -/
structure Policy where
  /-- Whether `NON-STRICT` counts as `OK`. -/
  relaxed : Bool
deriving DecidableEq

namespace Policy

def strict : Policy := ⟨false⟩

def volatileField : String := "duration"

def isStatusField (key : String) : Bool := key == "behavior" || key == "behaviorClose"

def isNonStrict : Json → Bool
  | .string s => s == "NON-STRICT"
  | _ => false

def normalField (p : Policy) (key : String) (value : Json) : Json :=
  if p.relaxed && isStatusField key && isNonStrict value then .string "OK" else value

def normalRecord (p : Policy) (fields : List (String × Json)) : List (String × Json) :=
  (fields.filter fun f => f.1 ≠ volatileField).map fun f => (f.1, p.normalField f.1 f.2)

/-- Changes the members of an object; all else stays. -/
def onMembers (f : List (String × Json) → List (String × Json)) : Json → Json
  | .object members => .object (f members)
  | v => v

/-- The document as it is compared: every record two levels down is in normal form. -/
def normalize (p : Policy) (v : Json) : Json :=
  onMembers (List.map fun agent =>
    (agent.1, onMembers (List.map fun case => (case.1, onMembers p.normalRecord case.2)) agent.2)) v

def canonicalText (p : Policy) (v : Json) : String := (p.normalize v).pretty

end Policy
end ConformanceGate
