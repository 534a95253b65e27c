import ConformanceGate.Document.Decode
import ConformanceGate.Results.Status

/-!
# Test cases

The record of one case in a results file. Only the status has to be there; members that are no
fields of the record are passed over.
-/

namespace ConformanceGate

structure TestCase where
  /-- The outcome of the case. -/
  status : Status
  /-- The outcome of its closing handshake. -/
  close : Option Status
  /-- How long it took, in milliseconds. -/
  duration : Option UInt64
  /-- The close code that the other side sent. -/
  closeCode : Option UInt16
  /-- The file with the full report of the case. -/
  report : Option String
deriving DecidableEq

namespace TestCase

/-- Only a recorded close status can make a closing handshake unclean. -/
def closedCleanly (c : TestCase) : Bool := c.close.all Status.isClean

/-- A record whose status is still to come. -/
structure Draft where
  status : Option Status
  rest : TestCase

def shape : Shape Draft where
  name := "struct TestCase"
  fields := [
    .of "behavior" Decoder.string fun s d => { d with status := some (.ofText s) },
    .of "behaviorClose" (.optional Decoder.string) fun s d =>
      { d with rest.close := s.map Status.ofText },
    .of "duration" (.optional Decoder.nat64) fun n d =>
      { d with rest.duration := n.map Nat.toUInt64 },
    .of "remoteCloseCode" (.optional Decoder.nat16) fun n d =>
      { d with rest.closeCode := n.map Nat.toUInt16 },
    .of "reportfile" (.optional Decoder.string) fun s d => { d with rest.report := s }]
  others := .skip
  positional := some 1

def decode : Decoder TestCase := fun t w => do
  let (draft, _) ← shape.fill t w ⟨none, ⟨.ok, none, none, none, none⟩⟩
  let status ← required "behavior" draft.status
  return { draft.rest with status }

/-- The members of a record; fields that are not there are left out. -/
def toMembers (c : TestCase) : List (String × Json) :=
  [("behavior", .string c.status.text)] ++
  (c.close.map fun s => ("behaviorClose", .string s.text)).toList ++
  (c.duration.map fun n => ("duration", .nat n.toNat)).toList ++
  (c.closeCode.map fun n => ("remoteCloseCode", .nat n.toNat)).toList ++
  (c.report.map fun s => ("reportfile", .string s)).toList

end TestCase
end ConformanceGate
