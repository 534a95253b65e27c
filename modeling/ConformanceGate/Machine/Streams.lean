import ConformanceGate.Machine.Basic

/-!
# Streams

Processes read and write through what they have open. A pipe passes on what is written to one end;
its reader waits while it is empty, and its writer while it is full. When nobody holds the writing
end any more the reader sees the end of the input, and a writer without a reader gets a signal.
-/

namespace ConformanceGate.Machine

/-! ## Opening -/

def opened? (m : Machine) (id : Nat) : Option Opened := m.opened.find? (·.id == id)

def heldIds (m : Machine) : List Nat :=
  m.processes.flatMap fun p => if p.isLive then p.held else []

def tidy (m : Machine) (kept : List Nat) : Machine :=
  if m.opened.length < 256 then m
  else
    let ids := kept ++ m.heldIds
    { m with opened := m.opened.filter fun o => o.id = 0 || ids.contains o.id }

def openChannel (m : Machine) (channel : Channel) (mode : OpenMode) : Machine × Nat :=
  ({ m with opened := ⟨m.nextId, channel, mode, 0⟩ :: m.opened, nextId := m.nextId + 1 }, m.nextId)

/-- Makes a pipe: its number, and what its reading and writing ends are. -/
def openPipe (m : Machine) : Machine × Nat × Nat × Nat :=
  let pipe := m.nextId
  let m := { m with pipes := (pipe, .empty) :: m.pipes, nextId := m.nextId + 1 }
  let (m, reader) := m.openChannel (.pipe pipe false) .read
  let (m, writer) := m.openChannel (.pipe pipe true) (.write false)
  (m, pipe, reader, writer)

/-- Opens a file. Unless `force` is set or the mode demands it, `guarded` keeps what is there from
being replaced. -/
def openFile (m : Machine) (cwd : List String) (guarded : Bool) (mode : OpenMode) (path : String) :
    Except SystemError (Machine × Nat) := do
  let place ← m.files.locate cwd path
  match m.files.at? place, mode with
  | some (.device full), mode => return m.openChannel (.device full) mode
  | some .directory, .read => return m.openChannel (.file place) .read
  | some .directory, _ => throw .isDirectory
  | none, .read => throw .notFound
  | some _, .read => return m.openChannel (.file place) .read
  | some (.file _ _), .write force =>
    if guarded && !force then throw .alreadyThere
    let files ← m.files.write cwd path .empty
    return { m with files := files }.openChannel (.file place) mode
  | some _, mode => return m.openChannel (.file place) mode
  | none, mode => do
    let files ← m.files.write cwd path .empty
    return { m with files := files }.openChannel (.file place) mode

/-! ## Pipes -/

def pipeBytes (m : Machine) (pipe : Nat) : ByteArray := (m.pipes.lookup pipe).getD .empty

def setPipe (m : Machine) (pipe : Nat) (bytes : ByteArray) : Machine :=
  { m with pipes := (pipe, bytes) :: m.pipes.filter (·.1 ≠ pipe) }

def dropPipe (m : Machine) (pipe : Nat) : Machine :=
  { m with pipes := m.pipes.filter (·.1 ≠ pipe) }

def hasEnd (m : Machine) (pipe : Nat) (writes : Bool) : Bool :=
  m.processes.any fun p =>
    p.isLive &&
      ((p.held.any fun id =>
        match (m.opened? id).map Opened.channel with
        | some (.pipe q w) => q == pipe && w == writes
        | _ => false) ||
      (!writes && p.todo.any fun step =>
        match step with
        | .collect q .. => q == pipe
        | _ => false))

/-- The number of bytes that a pipe holds at most. -/
def pipeSize : Nat := 65536

def isReady (m : Machine) (p : Process) : Bool :=
  p.isLive && !p.suspended &&
    match p.waiting with
    | none => true
    | some (.processes ..) => false
    | some (.input pipe) =>
      !p.pending.isEmpty || !(m.pipeBytes pipe).isEmpty || !m.hasEnd pipe true
    | some (.room pipe) =>
      !p.pending.isEmpty || (m.pipeBytes pipe).size < pipeSize || !m.hasEnd pipe false

/-! ## Reading and writing -/

/-- What comes of reading; no bytes mean the end of the input. -/
inductive Reading
  | bytes (m : Machine) (bytes : ByteArray)
  | blocked (pipe : Nat)
  | refused

def moveTo (m : Machine) (id offset : Nat) : Machine :=
  { m with opened := m.opened.map fun o => if o.id = id then { o with offset := offset } else o }

def OpenMode.reads : OpenMode → Bool
  | .read | .both => true
  | _ => false

def OpenMode.writes : OpenMode → Bool
  | .read => false
  | _ => true

def readPipe (m : Machine) (pipe limit : Nat) : Reading :=
  let there := m.pipeBytes pipe
  if !there.isEmpty then
    .bytes (m.setPipe pipe (there.extract limit there.size)) (there.extract 0 limit)
  else if m.hasEnd pipe true then .blocked pipe
  else .bytes m .empty

def readStream (m : Machine) (p : Process) (stream limit : Nat) : Reading :=
  match (p.streams.lookup stream).bind m.opened? with
  | none => .refused
  | some o =>
    let part (bytes : ByteArray) : Reading :=
      let bytes := bytes.extract o.offset (o.offset + limit)
      .bytes (m.moveTo o.id (o.offset + bytes.size)) bytes
    if !o.mode.reads then .refused
    else match o.channel with
      | .text bytes => part bytes
      | .device true => .bytes m ⟨(List.replicate limit (0 : UInt8)).toArray⟩
      | .device false => .bytes m .empty
      | .pipe pipe false => m.readPipe pipe limit
      | .pipe _ true => .refused
      | .file place =>
        match m.files.at? place with
        | some (.file bytes _) => part bytes
        | some .directory => .refused
        | _ => .bytes m .empty

inductive Writing
  | done (m : Machine)
  /-- Only a part found room in a pipe; the rest is left. -/
  | blocked (m : Machine) (rest : ByteArray) (pipe : Nat)
  /-- Nobody reads the pipe. -/
  | broken
  | refused

def overwrite (old new : ByteArray) (offset : Nat) : ByteArray :=
  let zeros : ByteArray := ⟨(List.replicate (offset - old.size) (0 : UInt8)).toArray⟩
  old.extract 0 offset ++ zeros ++ new ++ old.extract (offset + new.size) old.size

def writeOpened (m : Machine) (id : Nat) (bytes : ByteArray) : Writing :=
  match m.opened? id with
  | none => .refused
  | some o =>
    if !o.mode.writes then .refused
    else if bytes.isEmpty then .done m
    else match o.channel with
      | .text _ | .pipe _ false => .refused
      | .device full => if full then .refused else .done m
      | .pipe pipe true =>
        let there := m.pipeBytes pipe
        let room := pipeSize - there.size
        if !m.hasEnd pipe false then .broken
        else if bytes.size ≤ room then .done (m.setPipe pipe (there ++ bytes))
        else .blocked (m.setPipe pipe (there ++ bytes.extract 0 room))
          (bytes.extract room bytes.size) pipe
      | .file place =>
        match m.files.at? place with
        | some (.file old executable) =>
          let offset := if o.mode = .append then old.size else o.offset
          let files := m.files.put place (.file (overwrite old bytes offset) executable)
          .done ({ m with files := files }.moveTo id (offset + bytes.size))
        | _ => .done m

def writeStream (m : Machine) (p : Process) (stream : Nat) (bytes : ByteArray) : Writing :=
  match p.streams.lookup stream with
  | some id => m.writeOpened id bytes
  | none => .refused

end ConformanceGate.Machine
