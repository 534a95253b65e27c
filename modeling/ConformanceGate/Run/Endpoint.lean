import ConformanceGate.System.Program
import ConformanceGate.Text.Decimal
import ConformanceGate.Text.Hexadecimal
import ConformanceGate.Text.Split

/-!
# Endpoints

An address `host:port` as the endpoints it stands for. A numeric address stands for itself; the
addresses of any other host are asked for.
-/

namespace ConformanceGate.Endpoint

def octet? (cs : List Char) : Option Nat :=
  (Text.canonicalNumeral? cs).filter (· ≤ 255)

def fourPart? (cs : List Char) : Option (List Nat) :=
  match (cs.splitOn '.').mapM octet? with
  | some [a, b, c, d] => some [a, b, c, d]
  | _ => none

def group? (cs : List Char) : Option Nat :=
  if cs.isEmpty || 4 < cs.length then none else Text.hexNumeral? cs

/-- Groups with colons between them; the last two may be written as an address in four parts. -/
def groups? : List (List Char) → Option (List Nat)
  | [] => some []
  | [last] =>
    match fourPart? last with
    | some [a, b, c, d] => some [a * 256 + b, c * 256 + d]
    | _ => (group? last).map ([·])
  | g :: rest => do return (← group? g) :: (← groups? rest)

def groupText? (cs : List Char) : Option (List Nat) :=
  if cs.isEmpty then some [] else groups? (cs.splitOn ':')

def splitDouble? : List Char → Option (List Char × List Char)
  | [] => none
  | ':' :: ':' :: rest => some ([], rest)
  | c :: rest => (splitDouble? rest).map fun (a, b) => (c :: a, b)

/-- An address in eight groups; a pair of colons stands for groups of zeros. -/
def eightGroup? (cs : List Char) : Option (List Nat) :=
  match splitDouble? cs with
  | none => (groups? (cs.splitOn ':')).filter (·.length == 8)
  | some (head, tail) => do
    let head ← groupText? head
    let tail ← groupText? tail
    if 8 ≤ head.length + tail.length then none
    else some (head ++ List.replicate (8 - head.length - tail.length) 0 ++ tail)

def zeros (groups : List Nat) : Nat := (groups.takeWhile (· == 0)).length

def longestZeros (groups : List Nat) : Nat × Nat :=
  (List.range groups.length).foldl (fun best i =>
    let n := zeros (groups.drop i)
    if best.2 < n then (i, n) else best) (0, 0)

def groupsText (groups : List Nat) : String :=
  ":".intercalate (groups.map fun g => String.ofList (Nat.toDigits 16 g))

def eightGroupText (groups : List Nat) : String :=
  match groups with
  | [0, 0, 0, 0, 0, 0xffff, a, b] =>
    "::ffff:" ++ ".".intercalate ([a / 256, a % 256, b / 256, b % 256].map Nat.repr)
  | groups =>
    let (start, length) := longestZeros groups
    if length ≤ 1 then groupsText groups
    else groupsText (groups.take start) ++ "::" ++ groupsText (groups.drop (start + length))

def ofHost (host : String) (port : Nat) : String :=
  (if ':' ∈ host.toList then "[" ++ host ++ "]" else host) ++ ":" ++ port.repr

/-- A port in a numeric address: digits below 65536. -/
def port? (cs : List Char) : Option Nat := (Text.numeral? cs).filter (· < 65536)

/-- The zone of an address in eight groups, as it is shown after the address: a percent sign and a
number of 32 bits, where zero is not shown. -/
def zone? : List Char → Option String
  | [] => some ""
  | '%' :: digits => do
    let zone ← (Text.numeral? digits).filter (· < 1 <<< 32)
    return if zone = 0 then "" else "%" ++ zone.repr
  | _ => none

def numeric? (address : List Char) : Option String := do
  let (host, port) ← Text.splitLast? ':' address
  let port ← port? port
  match host with
  | '[' :: inner =>
    if inner.getLast? = some ']' then do
      let groups ← eightGroup? (inner.dropLast.takeWhile (· ≠ '%'))
      let zone ← zone? (inner.dropLast.dropWhile (· ≠ '%'))
      return ofHost (eightGroupText groups ++ zone) port
    else none
  | host => do
    let parts ← fourPart? host
    return ofHost (".".intercalate (parts.map Nat.repr)) port

def resolve (address : String) : Program (Except Failure (List String)) :=
  match numeric? address.toList with
  | some endpoint => .done (.ok [endpoint])
  | none =>
    match Text.splitLast? ':' address.toList with
    | none => .done (.error (.config (.unresolved address "invalid socket address")))
    | some (host, port) =>
      match Text.port? port with
      | none => .done (.error (.config (.unresolved address "invalid port value")))
      | some port =>
        if '\x00' ∈ host then
          .done (.error (.config (.unresolved address SystemError.zeroInPath.text)))
        else
          .ask (.lookup (String.ofList host)) fun reply =>
            match reply with
            | .error reason => .done (.error (.config (.unresolved address reason)))
            | .ok [] => .done (.error (.config (.noAddresses address)))
            | .ok hosts => .done (.ok (hosts.map fun host => ofHost host port.toNat))

def inUse : SystemError := .number 98

/-- Every endpoint can be listened at; the first one that cannot is reported. -/
def bindAll : List String → Program (Except Failure Unit)
  | [] => .done (.ok ())
  | endpoint :: rest =>
    .ask (.bind endpoint) fun reply =>
      match reply with
      | .ok () => bindAll rest
      | .error e =>
        .done (.error (.infrastructure
          (if e = inUse then .portTaken endpoint else .cannotBind endpoint e)))

def ensureFree (address : String) : Action Unit := do
  let endpoints ← Action.ofProgram (resolve address)
  Action.ofProgram (bindAll endpoints)

/-- Whether some endpoint accepts a connection; they are tried in order. -/
def connectAny (limit : Nat) : List String → Program Bool
  | [] => .done false
  | endpoint :: rest =>
    .ask (.connect endpoint limit) fun reply =>
      match reply with
      | true => .done true
      | false => connectAny limit rest

end ConformanceGate.Endpoint
