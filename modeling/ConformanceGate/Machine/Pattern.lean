import ConformanceGate.Machine.Files

/-!
# Patterns

The patterns of file names and choices: a star for any text, a question mark for any character, and
brackets for one of several characters. A character that was quoted stands for itself.
-/

namespace ConformanceGate.Machine

/-- A character of a field, and whether it was quoted. -/
structure Mark where
  char : Char
  quoted : Bool
deriving DecidableEq

def marks (quoted : Bool) (text : String) : List Mark := text.toList.map (⟨·, quoted⟩)

def textOf (ms : List Mark) : String := String.ofList (ms.map (·.char))

def inClass (name : String) (c : Char) : Bool :=
  match name with
  | "alpha" => c.isAlpha
  | "digit" => c.isDigit
  | "alnum" => c.isAlphanum
  | "upper" => c.isUpper
  | "lower" => c.isLower
  | "space" => c == ' ' || ('\t' ≤ c && c ≤ '\r')
  | "blank" => c == ' ' || c == '\t'
  | "punct" => '!' ≤ c && c ≤ '~' && !c.isAlphanum
  | "print" => ' ' ≤ c && c ≤ '~'
  | "graph" => '!' ≤ c && c ≤ '~'
  | "cntrl" => c < ' ' || c == '\x7f'
  | "xdigit" => c.isDigit || ('a' ≤ c && c ≤ 'f') || ('A' ≤ c && c ≤ 'F')
  | _ => false

/-- What may stand between brackets. -/
inductive Member
  | range (first last : Char)
  | named (name : String)
deriving DecidableEq

def Member.has (c : Char) : Member → Bool
  | .range first last => first ≤ c && c ≤ last
  | .named name => inClass name c

/-- An element of a pattern. -/
inductive Element
  | char (c : Char)
  | any
  | text
  | among (negated : Bool) (members : List Member)

/-- Reads the members between brackets; a bracket in the first place is a member. -/
def readMembers : Nat → Bool → List Mark → List Member → Option (List Member × List Mark)
  | 0, _, _, _ => none
  | _, _, [], _ => none
  | fuel + 1, first, m :: rest, members =>
    if m.char = ']' && !m.quoted && !first then some (members, rest)
    else if m.char = '[' && !m.quoted && rest.head?.any (·.char == ':') then
      let name := rest.tail.takeWhile (·.char.isAlpha)
      match rest.tail.drop name.length with
      | ⟨':', _⟩ :: ⟨']', _⟩ :: rest =>
        readMembers fuel false rest (.named (textOf name) :: members)
      | _ => readMembers fuel false rest (.range m.char m.char :: members)
    else
      match rest with
      | ⟨'-', false⟩ :: last :: rest' =>
        if last.char = ']' && !last.quoted then
          readMembers fuel false rest (.range m.char m.char :: members)
        else readMembers fuel false rest' (.range m.char last.char :: members)
      | _ => readMembers fuel false rest (.range m.char m.char :: members)

/-- Reads a pattern. The fuel is above the number of marks. -/
def readPattern : Nat → List Mark → List Element
  | 0, _ => []
  | _, [] => []
  | fuel + 1, m :: rest =>
    if m.quoted then .char m.char :: readPattern fuel rest
    else match m.char with
      | '*' => .text :: readPattern fuel rest
      | '?' => .any :: readPattern fuel rest
      | '[' =>
        let (negated, body) := match rest with
          | ⟨'!', false⟩ :: rest | ⟨'^', false⟩ :: rest => (true, rest)
          | rest => (false, rest)
        match readMembers (body.length + 1) true body [] with
        | some (members, rest) => .among negated members :: readPattern fuel rest
        | none => .char '[' :: readPattern fuel rest
      | '\\' =>
        match rest with
        | c :: rest => .char c.char :: readPattern fuel rest
        | [] => [.char '\\']
      | c => .char c :: readPattern fuel rest

def patternOf (ms : List Mark) : List Element := readPattern (ms.length + 1) ms

def suffixes : List Char → List (List Char)
  | [] => [[]]
  | c :: rest => (c :: rest) :: suffixes rest

def isMatch : List Element → List Char → Bool
  | [], cs => cs.isEmpty
  | .text :: rest, cs => (suffixes cs).any (isMatch rest)
  | _ :: _, [] => false
  | .char d :: rest, c :: cs => c == d && isMatch rest cs
  | .any :: rest, _ :: cs => isMatch rest cs
  | .among negated members :: rest, c :: cs => (members.any (·.has c)) != negated && isMatch rest cs

def hasSigns (ms : List Mark) : Bool :=
  ms.any fun m => !m.quoted && (m.char == '*' || m.char == '?' || m.char == '[')

/-- The text without the part at its front or end that matches. -/
def trimMatch (fromEnd longest : Bool) (pattern : List Element) (text : String) : String :=
  let cs := text.toList
  let cuts := List.range (cs.length + 1)
  if fromEnd then
    let cuts := if longest then cuts else cuts.reverse
    match cuts.find? fun n => isMatch pattern (cs.drop n) with
    | some n => String.ofList (cs.take n)
    | none => text
  else
    let cuts := if longest then cuts.reverse else cuts
    match cuts.find? fun n => isMatch pattern (cs.take n) with
    | some n => String.ofList (cs.drop n)
    | none => text

/-! ## File names -/

/-- The paths that match the pieces of a pattern, from a directory on. A dot at the front of a name
has to be spelled out. -/
def pathsMatching (fs : Files) (cwd : List String) (done : String) :
    List (List Mark) → List String
  | [] => [done]
  | piece :: rest =>
    let join (name : String) : String := if rest.isEmpty then name else name ++ "/"
    let there (path : String) : Bool :=
      if rest.isEmpty then (fs.named? cwd path).isSome else fs.leadsToDir cwd path
    if !hasSigns piece then
      let path := done ++ join (textOf piece)
      if piece.isEmpty || there path then pathsMatching fs cwd path rest else []
    else
      let pattern := patternOf piece
      let dotted := piece.head?.any (·.char == '.')
      let place := fs.locate cwd (if done.isEmpty then "." else done)
      let names := match place with
        | .ok place => fs.names place
        | .error _ => []
      let names := (if dotted then [".", ".."] else []) ++ names
      let found := names.filter fun name =>
        (dotted || !name.startsWith ".") && isMatch pattern name.toList &&
          there (done ++ join name)
      found.flatMap fun name => pathsMatching fs cwd (done ++ join name) rest

/-- The fields that a field stands for: the paths that match it, or itself if there are none. -/
def pathFields (fs : Files) (cwd : List String) (field : List Mark) : List String :=
  if hasSigns field then
    match pathsMatching fs cwd "" (field.splitOnP (·.char == '/')) with
    | [] => [textOf field]
    | paths => paths.mergeSort fun a b => !(b < a)
  else [textOf field]

end ConformanceGate.Machine
