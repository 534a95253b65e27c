import ConformanceGate.Toml.Scalar
import ConformanceGate.Toml.Table

/-!
# Reading configuration texts

The statements of a text, one a line, and from them its tree. A text is either read as a whole or
refused as a whole.
-/

namespace ConformanceGate.Toml

/-- How deep arrays and tables may nest within a value, and how many parts a key may have. -/
def nestingLimit : Nat := 80

def isKeyChar (c : Char) : Bool := c.isAlphanum || c == '_' || c == '-'

def endsKeyPart (c : Char) : Bool := endsWord c || c == '.'

/-- Reads one part of a key; the part itself may be malformed. -/
def readKeyPart (cs : List Char) : Option (Option String × List Char) :=
  match cs with
  | '"' :: rest => some (readQuoted ⟨'"', false⟩ rest)
  | '\'' :: rest => some (readQuoted ⟨'\'', false⟩ rest)
  | cs =>
    let part := cs.takeWhile fun c => !endsKeyPart c
    if part.isEmpty then none
    else some (if part.all isKeyChar then some (String.ofList part) else none,
      cs.dropWhile fun c => !endsKeyPart c)

/-- Reads the parts of a key, which have dots between them. The fuel bounds the number of parts. -/
def readParts : Nat → List Char → Option (List (Option String) × List Char)
  | 0, _ => none
  | fuel + 1, cs => do
    let (part, rest) ← readKeyPart (skipSpaces cs)
    match skipSpaces rest with
    | '.' :: rest => do
      let (parts, rest) ← readParts fuel rest
      return (part :: parts, rest)
    | rest => return ([part], rest)

/-- The key of parts, if there are not too many of them and all are well formed. -/
def keyOfParts (parts : List (Option String)) : Key := do
  let path ← (parts.take nestingLimit).mapM orMalformed
  if nestingLimit < parts.length then throw .tooDeep
  return path

def readKey (cs : List Char) : Option (Key × List Char) :=
  (readParts cs.length cs).map fun (parts, rest) => (keyOfParts parts, rest)

mutual

/-- Reads a value. The fuel is above twice the length of the text. -/
def readValue : Nat → Nat → List Char → Option (Form × List Char)
  | 0, _, _ => none
  | fuel + 1, levels, cs =>
    match cs with
    | '[' :: rest =>
      match levels with
      | 0 => none
      | levels + 1 => do
        let (items, rest) ← readItems fuel levels rest
        return (.array items, rest)
    | '{' :: rest =>
      match levels with
      | 0 => none
      | levels + 1 => do
        let (entries, rest) ← readEntries fuel levels rest
        return (.table entries, rest)
    | '"' :: _ | '\'' :: _ =>
      let (s, rest) := readString cs
      some (.scalar ((orMalformed s).map .string), rest)
    | cs =>
      let (word, rest) := takeWord cs
      if word.isEmpty then none else some (.scalar (orMalformed (ofWord? word)), rest)

/-- Reads the items of an array and its closing bracket; a comma may stand before the bracket. -/
def readItems : Nat → Nat → List Char → Option (List Form × List Char)
  | 0, _, _ => none
  | fuel + 1, levels, cs => do
    match ← skipTrivia false cs with
    | ']' :: rest => return ([], rest)
    | cs =>
      let (item, rest) ← readValue fuel levels cs
      match ← skipTrivia false rest with
      | ',' :: rest => do
        let (items, rest) ← readItems fuel levels rest
        return (item :: items, rest)
      | ']' :: rest => return ([item], rest)
      | _ => none

/-- Reads the entries of a table within a value and its closing brace. Line breaks and comments may
stand around each key, equals sign, value and comma. -/
def readEntries : Nat → Nat → List Char → Option (List (Key × Form) × List Char)
  | 0, _, _ => none
  | fuel + 1, levels, cs => do
    match ← skipTrivia false cs with
    | '}' :: rest => return ([], rest)
    | cs =>
      let (key, rest) ← readKey cs
      match ← skipTrivia false rest with
      | '=' :: rest => do
        let (value, rest) ← readValue fuel levels (← skipTrivia false rest)
        match ← skipTrivia false rest with
        | ',' :: rest => do
          let (entries, rest) ← readEntries fuel levels rest
          return ((key, value) :: entries, rest)
        | '}' :: rest => return ([(key, value)], rest)
        | _ => none
      | _ => none

end

/-- The end of a line: blanks, perhaps a comment, and a line break or the end of the text. -/
def readLineEnd (inComment : Bool) : List Char → Option (List Char)
  | [] => some []
  | '\r' :: '\n' :: rest => some rest
  | '\n' :: rest => some rest
  | c :: rest =>
    if inComment then if isControl c then none else readLineEnd true rest
    else if isSpace c then readLineEnd false rest
    else if c = '#' then readLineEnd true rest
    else none

def readStatement (cs : List Char) : Option (Statement × List Char) := do
  match cs with
  | '[' :: '[' :: rest =>
    let (path, rest) ← readKey rest
    match rest with
    | ']' :: ']' :: rest => return (.element path, rest)
    | _ => none
  | '[' :: rest =>
    let (path, rest) ← readKey rest
    match rest with
    | ']' :: rest => return (.table path, rest)
    | _ => none
  | cs =>
    let (path, rest) ← readKey cs
    match rest with
    | '=' :: rest =>
      let rest := skipSpaces rest
      let (value, rest) ← readValue (2 * rest.length + 2) nestingLimit rest
      return (.assign path value, rest)
    | _ => none

/-- Reads all statements. The fuel bounds their number. -/
def readStatements : Nat → List Char → Option (List Statement)
  | 0, _ => none
  | fuel + 1, cs => do
    match ← skipTrivia false cs with
    | [] => return []
    | cs =>
      let (statement, rest) ← readStatement cs
      let rest ← readLineEnd false rest
      return statement :: (← readStatements fuel rest)

/-- The text without the mark that may stand at its front. -/
def dropMark : List Char → List Char
  | '\ufeff' :: cs => cs
  | cs => cs

def read (text : String) : Except Flaw Written := do
  ofStatements (← orMalformed (readStatements (text.length + 1) (dropMark text.toList)))

end ConformanceGate.Toml
