import ConformanceGate.Machine.Basic
import ConformanceGate.Machine.Octets
import ConformanceGate.Machine.Programs.Catalog

/-!
# Finding programs

A command names a program by its path, or by a name that is searched for in directories. A file that
can be executed names in its first line the program that runs it.
-/

namespace ConformanceGate.Machine

def searched : List String :=
  ["/usr/local/sbin", "/usr/local/bin", "/usr/sbin", "/usr/bin", "/sbin", "/bin"]

def systemEntries : List (List String × Entry) :=
  [(["bin"], .directory), (["usr"], .directory), (["usr", "bin"], .directory),
    (["etc"], .directory), (["dev"], .directory), (["tmp"], .directory), (["root"], .directory),
    (["etc", "passwd"], .file "root:x:0:0:root:/root:/bin/bash\n".toUTF8 false),
    (["dev", "null"], .device false), (["dev", "full"], .device true)] ++
  Programs.names.flatMap fun name =>
    [(["bin", name], .program name), (["usr", "bin", name], .program name)]

def startBindings : Bindings :=
  [("PATH", ⟨some (":".intercalate searched), true, false⟩),
    ("HOME", ⟨some "/root", true, false⟩)]

def fresh (directory : List String) (takenPorts : List Nat) (startDay : Int) : Machine where
  files := ⟨systemEntries ++ [(directory, .directory)]⟩
  directory := directory
  self := 1000
  interrupted := false
  clock := 0
  startDay := startDay
  processes := []
  nextPid := 1001
  reaped := []
  opened := [⟨0, .device false, .both, 0⟩]
  pipes := []
  nextId := 1
  takenPorts := takenPorts
  output := ""
  warnings := ""

/-- The program that a first line names, and an argument for it; `none` if it names none. -/
def interpreter? (bytes : ByteArray) : Option (String × Option String) :=
  match octets (bytes.extract 0 256) with
  | '#' :: '!' :: rest =>
    let isBlank (c : Char) : Bool := c == ' ' || c == '\t'
    let line := (rest.takeWhile (· ≠ '\n')).dropWhile isBlank
    let path := line.takeWhile fun c => !isBlank c
    let arg := (((line.drop path.length).dropWhile isBlank).reverse.dropWhile isBlank).reverse
    if path.isEmpty then none
    else some (textOfOctets path, if arg.isEmpty then none else some (textOfOctets arg))
  | _ => none

/-- What is run for a path and its arguments: a program of the system and what it is given. A file
that names no program cannot be executed. The fuel bounds the number of files that are run by
others. -/
def execute (m : Machine) (cwd : List String) :
    Nat → String → List String → Except SystemError (String × List String)
  | 0, _, _ => .error .tooManyLinks
  | fuel + 1, path, args => do
    let place ← m.files.locate cwd path
    match m.files.at? place with
    | some (.program name) => return (name, args)
    | some (.file bytes true) =>
      match interpreter? bytes with
      | some (program, arg) => execute m cwd fuel program (arg.toList ++ path :: args)
      | none => throw (.number 8)
    | some _ => throw .denied
    | none => throw .notFound

def executeLimit : Nat := 5

/-- Searches directories for a program. What is there but cannot be run decides at the end. -/
def search (m : Machine) (cwd : List String) (name : String) (args : List String) :
    List String → Except SystemError (String × List String)
  | [] => .error .notFound
  | dir :: rest =>
    match m.execute cwd executeLimit (Path.join dir name) args with
    | .ok found => .ok found
    | .error e =>
      if e = .denied || e = .notFound || e = .notDirectory then
        match search m cwd name args rest with
        | .error later => .error (if later = .notFound && e = .denied then e else later)
        | found => found
      else .error e

/-- What is run for a command: a path if it has a slash, else a name that is searched for. -/
def program (m : Machine) (cwd : List String) (name : String) (args : List String) :
    Except SystemError (String × List String) :=
  if name.isEmpty then .error .notFound
  else if '/' ∈ name.toList then m.execute cwd executeLimit name args
  else m.search cwd name args searched

end ConformanceGate.Machine
