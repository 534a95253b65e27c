/-!
# Paths

A path is a text whose parts are separated by slashes. Joining never tidies a text: empty parts and
dots stay as they are. Where a path is taken apart, empty parts and dots count for nothing, except
for a dot at the very front.
-/

namespace ConformanceGate.Path

def isAbsolute (p : String) : Bool := p.toList.head? == some '/'

/-- `p` seen from `base`: an absolute path stays as it is. -/
def join (base p : String) : String :=
  if isAbsolute p then p
  else if base.isEmpty || base.toList.getLast? == some '/' then base ++ p
  else base ++ "/" ++ p

def pieces (p : String) : List String := (p.toList.splitOn '/').map String.ofList

def isPart (i : Nat) (piece : String) : Bool := !piece.isEmpty && (piece != "." || i == 0)

def parts (p : String) : List String :=
  ((pieces p).zipIdx.filter fun (piece, i) => isPart i piece).map (·.1)

def trim (ps : List String) : List String :=
  (ps.zipIdx.reverse.dropWhile fun (piece, i) => !isPart i piece).reverse.map (·.1)

/-- The path without its last part; `none` if it has none. -/
def parent? (p : String) : Option String :=
  match trim (pieces p) with
  | [] => none
  | found =>
    match trim found.dropLast with
    | [] => some (if isAbsolute p then "/" else "")
    | left => some ("/".intercalate left)

/-- A path from the root without idle pieces. Two slashes in front are told apart from one. -/
structure Absolute where
  root : String
  parts : List String
deriving DecidableEq

namespace Absolute

def text (a : Absolute) : String := a.root ++ "/".intercalate a.parts

def parent (a : Absolute) : Absolute := { a with parts := a.parts.dropLast }

end Absolute

/-- Exactly two slashes in front. -/
def hasDoubleRoot (p : String) : Bool :=
  match p.toList with
  | '/' :: '/' :: '/' :: _ => false
  | '/' :: '/' :: _ => true
  | _ => false

/-- The path seen from the root, where `cwd` holds the parts of the current directory. Steps upwards
are kept. -/
def absolute (cwd : List String) (p : String) : Absolute :=
  let own := (parts p).filter (· ≠ ".")
  if isAbsolute p then ⟨if hasDoubleRoot p then "//" else "/", own⟩ else ⟨"/", cwd ++ own⟩

/-- The parts of `p` after those of `base`, if it lies there. -/
def below? (base p : List String) : Option (List String) :=
  if base.isPrefixOf p then some (p.drop base.length) else none

end ConformanceGate.Path
