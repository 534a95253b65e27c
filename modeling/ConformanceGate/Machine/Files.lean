import ConformanceGate.Path.Basic
import ConformanceGate.System.Error

/-!
# A file tree

Files, directories, links and devices by the parts of their paths from the root. A path is followed
part by part; everything before its last part has to be a directory, and a link on the way stands
for the path it holds.
-/

namespace ConformanceGate.Machine

/-- What stands at a place of the tree. -/
inductive Entry
  | directory
  | file (bytes : ByteArray) (executable : Bool)
  /-- A program of the system, by its name. -/
  | program (name : String)
  /-- A link to what a path leads to. -/
  | link (target : String)
  /-- A device without content; it swallows what is written, or has no room for it. -/
  | device (full : Bool)

/-- The places of the tree; the root is always there. -/
structure Files where
  entries : List (List String × Entry)

namespace Files

def at? (fs : Files) (place : List String) : Option Entry :=
  if place.isEmpty then some .directory else fs.entries.lookup place

def isDir (fs : Files) (place : List String) : Bool :=
  match fs.at? place with
  | some .directory => true
  | _ => false

def put (fs : Files) (place : List String) (entry : Entry) : Files :=
  if (fs.entries.lookup place).isSome then
    ⟨fs.entries.map fun e => if e.1 = place then (place, entry) else e⟩
  else ⟨fs.entries ++ [(place, entry)]⟩

/-- Takes away what stands at a place and below it. -/
def erase (fs : Files) (place : List String) : Files :=
  ⟨fs.entries.filter fun e => !place.isPrefixOf e.1⟩

def names (fs : Files) (place : List String) : List String :=
  let found := fs.entries.filterMap fun e =>
    match Path.below? place e.1 with
    | some [name] => some name
    | _ => none
  found.mergeSort fun a b => !(b < a)

/-! ## Following paths -/

def enter (fs : Files) (place : List String) : Except SystemError Unit :=
  match fs.at? place with
  | none => .error .notFound
  | some .directory => .ok ()
  | some _ => .error .notDirectory

def linkLimit : Nat := 40

/-- Follows the pieces of a path from a place; a link in the last piece only if `throughLast` is
set. The fuel bounds the number of pieces, those of links included. -/
def follow (fs : Files) (throughLast : Bool) :
    Nat → Nat → List String → List String → Except SystemError (List String)
  | 0, _, _, _ => .error .tooManyLinks
  | _, _, place, [] => .ok place
  | fuel + 1, links, place, piece :: rest => do
    if piece.isEmpty then
      -- a slash at the end asks for a directory only if something is there
      if rest.isEmpty then .ok place else follow fs throughLast fuel links place rest
    else
      enter fs place
      if 255 < piece.utf8ByteSize then throw .nameTooLong
      if piece = "." then follow fs throughLast fuel links place rest
      else if piece = ".." then follow fs throughLast fuel links place.dropLast rest
      else
        let next := place ++ [piece]
        match fs.entries.lookup next with
        | some (.link target) =>
          if rest.isEmpty && !throughLast then .ok next
          else
            match links with
            | 0 => throw .tooManyLinks
            | links + 1 =>
              let start := if Path.isAbsolute target then [] else place
              follow fs throughLast fuel links start (Path.pieces target ++ rest)
        | _ => follow fs throughLast fuel links next rest

def asksDirectory (path : String) : Bool := path.toList.getLast? == some '/'

/-- The place that a path leads to, through a link at its end or not. -/
def locateBy (fs : Files) (throughLast : Bool) (cwd : List String) (path : String) :
    Except SystemError (List String) := do
  if path.isEmpty then throw .notFound
  if '\x00' ∈ path.toList then throw .zeroInPath
  if 4096 ≤ path.utf8ByteSize then throw .nameTooLong
  let start := if Path.isAbsolute path then [] else cwd
  let place ← follow fs throughLast 1000000 linkLimit start (Path.pieces path)
  match fs.at? place with
  | none | some .directory | some (.link _) => return place
  | some _ => if asksDirectory path then throw .notDirectory else return place

def locate (fs : Files) (cwd : List String) (path : String) : Except SystemError (List String) :=
  fs.locateBy true cwd path

/-- The place that a path names; a link there is not followed. -/
def locateName (fs : Files) (cwd : List String) (path : String) :
    Except SystemError (List String) :=
  fs.locateBy false cwd path

def find? (fs : Files) (cwd : List String) (path : String) : Option Entry :=
  match fs.locate cwd path with
  | .ok place => fs.at? place
  | .error _ => none

def named? (fs : Files) (cwd : List String) (path : String) : Option Entry :=
  match fs.locateName cwd path with
  | .ok place => fs.at? place
  | .error _ => none

def leadsToDir (fs : Files) (cwd : List String) (path : String) : Bool :=
  match fs.find? cwd path with
  | some .directory => true
  | _ => false

def leadsToFile (fs : Files) (cwd : List String) (path : String) : Bool :=
  match fs.find? cwd path with
  | some (.file _ _) | some (.program _) => true
  | _ => false

/-! ## Reading and writing -/

def readBytes (fs : Files) (cwd : List String) (path : String) : Except SystemError ByteArray := do
  let place ← fs.locate cwd path
  match fs.at? place with
  | none | some (.link _) => .error .notFound
  | some .directory => .error .isDirectory
  | some (.file bytes _) => .ok bytes
  | some (.program _) | some (.device _) => .ok .empty

def readText (fs : Files) (cwd : List String) (path : String) : Except SystemError String := do
  let bytes ← fs.readBytes cwd path
  match String.fromUTF8? bytes with
  | some text => .ok text
  | none => .error .notText

def write (fs : Files) (cwd : List String) (path : String) (bytes : ByteArray) :
    Except SystemError Files := do
  let place ← fs.locate cwd path
  match fs.at? place with
  | some .directory => .error .isDirectory
  | some (.device full) => if full && !bytes.isEmpty then .error .noRoom else .ok fs
  | some (.file _ executable) => .ok (fs.put place (.file bytes executable))
  | some _ => .ok (fs.put place (.file bytes false))
  | none =>
    enter fs place.dropLast
    if asksDirectory path then .error .isDirectory else .ok (fs.put place (.file bytes false))

def makeDir (fs : Files) (cwd : List String) (path : String) : Except SystemError Files := do
  let place ← fs.locateName cwd path
  match fs.at? place with
  | some _ => .error .alreadyThere
  | none =>
    enter fs place.dropLast
    .ok (fs.put place .directory)

/-- Makes a directory; if that fails for want of the ones above, these are made first. The fuel
bounds their number. -/
def makeDirs (fs : Files) (cwd : List String) : Nat → String → Except SystemError Files
  | 0, _ => .error .notFound
  | fuel + 1, path =>
    if path.isEmpty then .ok fs
    else match fs.makeDir cwd path with
      | .ok fs => .ok fs
      | .error e =>
        if e = .notFound then
          match Path.parent? path with
          | none => .error e
          | some parent => do
            let fs ← makeDirs fs cwd fuel parent
            match fs.makeDir cwd path with
            | .ok fs => .ok fs
            | .error e => if fs.leadsToDir cwd path then .ok fs else .error e
        else if fs.leadsToDir cwd path then .ok fs else .error e

/-- Makes a directory and those above it as needed. -/
def createDirs (fs : Files) (cwd : List String) (path : String) : Except SystemError Files :=
  fs.makeDirs cwd (path.length + 1) path

/-! ## Listing -/

/-- The paths of what is below a place and no directory, links to directories being entered. The
fuel bounds the depth. -/
def pathsBelow (fs : Files) : Nat → List String → List (List String)
  | 0, _ => []
  | fuel + 1, place =>
    (fs.names place).flatMap fun name =>
      let inner (place : List String) : List (List String) :=
        (pathsBelow fs fuel place).map (name :: ·)
      let next := place ++ [name]
      match fs.at? next with
      | some .directory => inner next
      | some (.link target) =>
        match fs.locate place target with
        | .ok found => if fs.isDir found then inner found else [[name]]
        | .error _ => [[name]]
      | _ => [[name]]

/-- The files below a place, as paths seen from there, in order. -/
def listing (fs : Files) (place : List String) : List String :=
  let below := (fs.pathsBelow linkLimit place).map fun parts => "/".intercalate parts
  below.mergeSort fun a b => !(b < a)

end Files
end ConformanceGate.Machine
