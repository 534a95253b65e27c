import ConformanceGate.Machine.Steps
import ConformanceGate.Run.Endpoint
import ConformanceGate.Text.Hexadecimal

/-!
# The machine as a host

How the machine answers requests. A request takes a little time, and waiting takes the time asked
for; meanwhile the processes go on, each step at its time.
-/

namespace ConformanceGate.Machine

/-! ## Time -/

def nextProcess? (m : Machine) : Option Process :=
  (m.processes.filter m.isReady).foldl (fun best p =>
    match best with
    | none => some p
    | some q => if p.due < q.due then some p else some q) none

/-- Takes the steps that are due up to a time. The fuel bounds their number. -/
def runUntil : Nat → Nat → Machine → Machine
  | 0, time, m => { m with clock := max m.clock time }
  | fuel + 1, time, m =>
    match m.nextProcess? with
    | none => { m with clock := max m.clock time }
    | some p =>
      if time < p.due then { m with clock := max m.clock time }
      else runUntil fuel time (step { m with clock := max m.clock p.due } p)

def stepsIn (duration : Nat) : Nat := 1000 + duration

def elapse (m : Machine) (duration : Nat) : Machine :=
  m.runUntil (stepsIn duration) (m.clock + duration)

def requestTime : Nat := 10

/-- Takes steps until a process has ended. The fuel bounds their number. -/
def runToEnd : Nat → Nat → Machine → Machine
  | 0, _, m => m
  | fuel + 1, pid, m =>
    match m.process? pid with
    | none => m
    | some p =>
      if p.isLive then
        match m.nextProcess? with
        | none => m
        | some q => runToEnd fuel pid (step { m with clock := max m.clock q.due } q)
      else m

/-! ## Network -/

/-- What the system says of a name it cannot look up. -/
def unknownHost : String :=
  "failed to lookup address information: Temporary failure in name resolution"

def numberIn? (base : Nat) (cs : List Char) : Option Nat :=
  if cs.isEmpty then none
  else cs.foldlM (fun n c => ((Text.hexDigit? c).filter (· < base)).map (n * base + ·)) 0

/-- A number of a loosely written address: decimal, octal after a zero, or hexadecimal. -/
def looseNumber? : List Char → Option Nat
  | '0' :: 'x' :: cs | '0' :: 'X' :: cs => numberIn? 16 cs
  | '0' :: cs => if cs.isEmpty then some 0 else numberIn? 8 cs
  | cs => numberIn? 10 cs

/-- A loosely written address of up to four numbers, the last of which fills what the others leave.
-/
def looseAddress? (host : String) : Option String := do
  let numbers ← (host.toList.splitOn '.').mapM looseNumber?
  let last ← numbers.getLast?
  let width := 5 - numbers.length
  if 4 < numbers.length || numbers.dropLast.any (255 < ·) || 1 <<< (8 * width) ≤ last then none
  else
    let tail := (List.range width).reverse.map fun i => last >>> (8 * i) % 256
    some (".".intercalate ((numbers.dropLast ++ tail).map Nat.repr))

def addressesOf (host : String) : Except String (List String) :=
  if host.map Char.toLower = "localhost" then .ok ["127.0.0.1"]
  else if let some address := looseAddress? host then .ok [address]
  else match Endpoint.eightGroup? host.toList with
    | some groups => .ok [Endpoint.eightGroupText groups]
    | none => .error unknownHost

def isLocal (host : String) : Bool :=
  host.startsWith "127." || host.startsWith "[::ffff:127." || host ∈ ["0.0.0.0", "[::]", "[::1]"]

/-- Whether listening at a host excludes others from the ports of `127.0.0.1`, where the taken ones
are. -/
def coversTaken (host : String) : Bool :=
  host ∈ ["127.0.0.1", "0.0.0.0", "[::]", "[::ffff:127.0.0.1]"]

def withoutZone (host : List Char) : List Char :=
  match host.dropWhile (· ≠ '%') with
  | [] => host
  | _ => host.takeWhile (· ≠ '%') ++ [']']

def listen (m : Machine) (endpoint : String) : Except SystemError Unit :=
  match Text.splitLast? ':' endpoint.toList with
  | none => .error (.number 22)
  | some (host, port) =>
    let host := String.ofList (withoutZone host)
    if !isLocal host then .error .denied
    else match (String.ofList port).toNat? with
      | some port =>
        if port ∈ m.takenPorts && coversTaken host then .error Endpoint.inUse else .ok ()
      | none => .error (.number 22)

/-! ## Processes -/

def startDirectory (m : Machine) : Option String → Except SystemError (List String)
  | none => .ok m.directory
  | some path => do
    let place ← m.files.locate m.directory path
    match m.files.at? place with
    | some .directory => .ok place
    | some _ => .error .notDirectory
    | none => .error .notFound

def spawn (m : Machine) (l : Launch) : Except SystemError (Machine × Nat) := do
  if (l.program :: l.args ++ l.directory.toList).any fun text => '\x00' ∈ text.toList then
    throw .zeroInCommand
  let directory ← m.startDirectory l.directory
  let (name, args) ← m.program directory l.program l.args
  let process : Process := {
    pid := m.nextPid, parent := m.self, group := m.nextPid, todo := [.program name args],
    due := m.clock + startTime, waiting := none, suspended := false, ignored := [], deaf := [],
    traps := [], pending := [], shell := m.nextPid, name := l.program, args := [],
    directory := directory, bindings := startBindings, frames := [], functions := [],
    streams := [(0, 0), (1, 0), (2, 0)], jobs := [], optionPlace := none, status := 0, flags := [],
    tested := false, ended := none }
  return m.add process

def reap (m : Machine) (pid : Nat) : Machine × Option ExitStatus :=
  match (m.process? pid).bind (·.ended) with
  | some status => ({ m with reaped := pid :: m.reaped }, some status)
  | none => (m, none)

/-- Kills a process unless its end was noticed. -/
def killProcess (m : Machine) (pid : Nat) : Machine :=
  if m.reaped.contains pid then m else (m.signalOne pid 9).1

/-! ## Requests -/

def change (m : Machine) (r : Except SystemError Files) : Except SystemError Unit × Machine :=
  match r with
  | .ok files => (.ok (), { m with files := files })
  | .error e => (.error e, m)

def reply (m : Machine) : (r : Request) → r.Reply × Machine
  | .readFile path => (m.files.readText m.directory path, m)
  | .writeFile path text => m.change (m.files.write m.directory path text.toUTF8)
  | .createDirs path => m.change (m.files.createDirs m.directory path)
  | .isFile path =>
    (m.files.leadsToFile m.directory path, m)
  | .isThere path => ((m.files.find? m.directory path).isSome, m)
  | .currentDir => (m.directory, m)
  | .now => (m.clock, m)
  | .today => ((m.startDay + Int.ofNat (m.clock / 1000000) : Int), m)
  | .sleep duration => ((), m.elapse duration)
  | .handleSignal _ => (.ok (), m)
  | .interrupted => (m.interrupted, m)
  | .lookup host => (addressesOf host, m)
  | .bind endpoint => (m.listen endpoint, m)
  | .connect _ _ => (false, m)
  | .spawn launch =>
    match m.spawn launch with
    | .ok (m, pid) => (.ok pid, m)
    | .error e => (.error e, m)
  | .poll pid => let (m, status) := m.reap pid; (.ok status, m)
  | .signal pid signal => let (m, reached) := m.signalGroup pid signal.number; (reached, m)
  | .groupAlive pid => (!(m.members pid).isEmpty, m)
  | .kill pid => ((), m.killProcess pid)
  | .wait pid => let (m, status) := (m.runToEnd 1000000 pid).reap pid; (status, m)
  | .print text => ((), { m with output := m.output ++ text })
  | .warn text => ((), { m with warnings := m.warnings ++ text })

def host : Program.Host Machine := fun m r => (m.elapse requestTime).reply r

end ConformanceGate.Machine
