/-!
# Statuses

The outcome that the harness records for a case or for its closing handshake. Five statuses have a
meaning of their own; any other text is kept as it is.
-/

namespace ConformanceGate

/-- The outcome of a case or of its closing handshake. -/
inductive Status
  | ok
  | nonStrict
  | unimplemented
  | failed
  | informational
  /-- A status without a meaning of its own, such as `WRONG CODE`. -/
  | other (text : String)
deriving DecidableEq

namespace Status

/-- The status of a recorded text. -/
def ofText (s : String) : Status :=
  if s = "OK" then .ok
  else if s = "NON-STRICT" then .nonStrict
  else if s = "UNIMPLEMENTED" then .unimplemented
  else if s = "FAILED" then .failed
  else if s = "INFORMATIONAL" then .informational
  else .other s

/-- The text under which a status is recorded. -/
def text : Status → String
  | .ok => "OK"
  | .nonStrict => "NON-STRICT"
  | .unimplemented => "UNIMPLEMENTED"
  | .failed => "FAILED"
  | .informational => "INFORMATIONAL"
  | .other s => s

@[simp] theorem text_ofText (s : String) : (ofText s).text = s := by
  unfold ofText; repeat' split
  all_goals simp_all [text]

def isClean : Status → Bool
  | .ok | .informational => true
  | _ => false

end Status
end ConformanceGate
