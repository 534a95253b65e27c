/-!
# Octets

Programs work on the octets of texts. An octet is shown as the character of its code, so that texts
of octets are lists of characters below 256.
-/

namespace ConformanceGate.Machine

abbrev Octets := List Char

def octets (bytes : ByteArray) : Octets := bytes.toList.map fun b => Char.ofNat b.toNat

def octetsOf (text : String) : Octets := octets text.toUTF8

def bytesOf (cs : Octets) : ByteArray := ⟨(cs.map fun c => c.toNat.toUInt8).toArray⟩

/-- The text of octets; each octet counts as a character if they are no text. -/
def textOfOctets (cs : Octets) : String := (String.fromUTF8? (bytesOf cs)).getD (String.ofList cs)

/-- The lines of a text without their line breaks, and whether the last one has a break. -/
def linesOf (cs : Octets) : List Octets × Bool :=
  let lines := cs.splitOn '\n'
  if lines.getLast? = some [] then (lines.dropLast, true) else (lines, false)

/-- The text of lines; the last one gets its line break only if `complete` is set. -/
def ofLines (lines : List Octets) (complete : Bool) : Octets :=
  let text := (lines.map (· ++ ['\n'])).flatten
  if complete then text else text.dropLast

def octetsLe : Octets → Octets → Bool
  | [], _ => true
  | _ :: _, [] => false
  | a :: as, b :: bs => a < b || (a == b && octetsLe as bs)

end ConformanceGate.Machine
