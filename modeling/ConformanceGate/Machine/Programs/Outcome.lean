import ConformanceGate.Machine.Files
import ConformanceGate.Machine.Octets

/-!
# Calls of programs

What a program is given, and what comes of it. Messages about errors go nowhere.
-/

namespace ConformanceGate.Machine

structure Call where
  files : Files
  cwd : List String
  args : List String
  /-- All that can be read from the input. -/
  input : Octets
  /-- The exported variables. -/
  environment : List (String × String)
  /-- The seconds since 1970. -/
  now : Int

structure Outcome where
  files : Files
  output : Octets
  status : Nat

namespace Call

def quit (c : Call) (status : Nat) : Outcome := ⟨c.files, [], status⟩

def print (c : Call) (output : Octets) : Outcome := ⟨c.files, output, 0⟩

/-- Output, and failure if some file could not be read. -/
def give (c : Call) (output : Octets) (ok : Bool) : Outcome :=
  ⟨c.files, output, if ok then 0 else 1⟩

def printLine (c : Call) (line : String) : Outcome := c.print (octetsOf line ++ ['\n'])

/-- The octets of a file; a dash stands for the input. -/
def read? (c : Call) (path : String) : Option Octets :=
  if path = "-" || path = "/dev/stdin" then some c.input
  else (c.files.readBytes c.cwd path).toOption.map octets

/-- The octets of the files named, or of the input if none are, and whether all could be read. -/
def readAll (c : Call) (paths : List String) : List (String × Octets) × Bool :=
  let paths := if paths.isEmpty then ["-"] else paths
  let found := paths.filterMap fun path => (c.read? path).map (path, ·)
  (found, found.length == paths.length)

def contents (c : Call) (paths : List String) : Octets × Bool :=
  let (found, ok) := c.readAll paths
  (found.flatMap (·.2), ok)

/-- Changes the files for each operand; the status tells whether all changes succeeded. -/
def forEach (c : Call) (operands : List String)
    (change : Files → String → Except SystemError Files) : Outcome :=
  let (files, status) := operands.foldl (fun (files, status) operand =>
    match change files operand with
    | .ok files => (files, status)
    | .error _ => (files, 1)) (c.files, 0)
  ⟨files, [], status⟩

end Call

def baseName (path : String) : String :=
  if !path.isEmpty && path.toList.all (· == '/') then "/"
  else ((Path.pieces path).filter (!·.isEmpty)).getLast?.getD ""

def dirName (path : String) : String :=
  let strip (cs : List Char) : List Char := cs.dropWhile (· == '/')
  let back := path.toList.reverse
  match strip ((strip back).dropWhile (· ≠ '/')) with
  | [] => if path.toList.head? = some '/' then "/" else "."
  | rest => String.ofList rest.reverse

end ConformanceGate.Machine
