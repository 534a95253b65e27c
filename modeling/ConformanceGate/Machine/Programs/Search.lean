import ConformanceGate.Machine.Programs.Lines
import ConformanceGate.Machine.Regular

/-!
# Searching lines

The lines of files that match some expression are printed, counted or only asked for.
-/

namespace ConformanceGate.Machine.Programs

/-- What is looked for in a line. -/
structure Wanted where
  expressions : List Regular
  anyCase : Bool
  /-- Whether a match has to be the whole line. -/
  wholeLine : Bool
  /-- Whether a match has to stand between characters that belong to no word. -/
  wholeWords : Bool

namespace Wanted

def endAt? (w : Wanted) (s : Regular.Subject) (i : Nat) : Option Nat :=
  let fits (j : Nat) : Bool :=
    (!w.wholeLine || (i == 0 && j == s.text.size)) &&
      (!w.wholeWords || (!(i != 0 && s.isWord (i - 1)) && !s.isWord j))
  let ends := w.expressions.flatMap fun e =>
    (Regular.ends s (4 * s.text.size + 1000) e i []).map (·.1)
  (ends.filter fits).foldl (fun best j => some (max j (best.getD 0))) none

def subject (w : Wanted) (line : Octets) : Regular.Subject := ⟨line.toArray, w.anyCase⟩

def occursIn (w : Wanted) (line : Octets) : Bool :=
  (List.range (line.length + 1)).any fun i => (w.endAt? (w.subject line) i).isSome

/-- The texts that match in a line, from a place on. The fuel is above the length of the line. -/
def matches? (w : Wanted) (s : Regular.Subject) : Nat → Nat → List Octets
  | 0, _ => []
  | fuel + 1, i =>
    if s.text.size < i then []
    else match w.endAt? s i with
      | some j =>
        if i < j then s.between i j :: w.matches? s fuel j else w.matches? s fuel (i + 1)
      | none => w.matches? s fuel (i + 1)

end Wanted

def searchOptions : OptionTable :=
  .of "qvicnolLFEGPwxshHraIRzbU" "efmABC"
    [("quiet", 'q'), ("silent", 'q'), ("invert-match", 'v'), ("ignore-case", 'i'), ("count", 'c'),
      ("line-number", 'n'), ("only-matching", 'o'), ("files-with-matches", 'l'),
      ("files-without-match", 'L'), ("fixed-strings", 'F'), ("extended-regexp", 'E'),
      ("basic-regexp", 'G'), ("word-regexp", 'w'), ("line-regexp", 'x'), ("no-messages", 's'),
      ("no-filename", 'h'), ("with-filename", 'H'), ("recursive", 'r'), ("text", 'a'),
      ("regexp", 'e'), ("file", 'f'), ("max-count", 'm')]

def wantedOf? (c : Call) (g : Given) : Option (Wanted × List String) := do
  let fromFiles ← (g.values 'f').mapM fun path => (c.read? path).map fun text => (linesOf text).1
  let given := (g.values 'e').flatMap fun text => (octetsOf text).splitOn '\n'
  let (texts, operands) ←
    if g.has 'e' || g.has 'f' then some (given ++ fromFiles.flatten, g.operands)
    else match g.operands with
      | text :: rest => some ((octetsOf text).splitOn '\n', rest)
      | [] => none
  let expressions ←
    if g.has 'F' then some (texts.map Regular.exactly)
    else texts.mapM (Regular.read (g.has 'E' || g.has 'P'))
  return (⟨expressions, g.has 'i', g.has 'x', g.has 'w'⟩, operands)

/-- What a search finds in one file: the numbers and the texts of the lines. -/
def foundLines (w : Wanted) (inverted : Bool) (limit : Option Nat) (text : Octets) :
    List (Nat × Octets) :=
  let lines := (List.range' 1 (linesOf text).1.length).zip (linesOf text).1
  let found := lines.filter fun (_, line) => w.occursIn line != inverted
  match limit with
  | some n => found.take n
  | none => found

def searchOutput (g : Given) (w : Wanted) (label : Option String) (path : String)
    (found : List (Nat × Octets)) : Octets :=
  let start (n : Nat) : Octets :=
    (label.elim [] fun path => octetsOf (path ++ ":")) ++
      if g.has 'n' then octetsOf (n.repr ++ ":") else []
  let name := octetsOf (path ++ "\n")
  if g.has 'q' then []
  else if g.has 'l' then (if found.isEmpty then [] else name)
  else if g.has 'L' then (if found.isEmpty then name else [])
  else if g.has 'c' then
    (label.elim [] fun path => octetsOf (path ++ ":")) ++ octetsOf (found.length.repr ++ "\n")
  else if g.has 'o' then
    if g.has 'v' then []
    else found.flatMap fun (n, line) =>
      (w.matches? (w.subject line) (2 * line.length + 2) 0).flatMap fun text =>
        start n ++ text ++ ['\n']
  else found.flatMap fun (n, line) => start n ++ line ++ ['\n']

/-- Searches files. The status tells whether something was found. -/
def grep (c : Call) : Outcome :=
  withOptions c searchOptions 2 fun g =>
    match wantedOf? c g with
    | none => c.quit 2
    | some (w, operands) =>
      let recursive := g.has 'r' || g.has 'R'
      let operands := if operands.isEmpty && recursive then ["."] else operands
      let paths := operands.flatMap fun path =>
        match recursive, c.files.locate c.cwd path with
        | true, .ok place =>
          if c.files.isDir place then (c.files.listing place).map (Path.join path) else [path]
        | _, _ => [path]
      let (files, ok) := c.readAll paths
      let named := (1 < operands.length || recursive || g.has 'H') && !g.has 'h'
      let limit := (g.value? 'm').bind String.toNat?
      let results := files.map fun (path, text) =>
        let shown := if path = "-" then "(standard input)" else path
        (shown, foundLines w (g.has 'v') limit text)
      let output := results.flatMap fun (path, found) =>
        searchOutput g w (if named then some path else none) path found
      let hit := results.any fun (_, found) => found.isEmpty == g.has 'L'
      let status := if hit then 0 else 1
      ⟨c.files, output, if ok || (g.has 'q' && hit) then status else 2⟩

def grepIsOver (c : Call) : Bool :=
  match searchOptions.read c.args with
  | none => true
  | some g =>
    match wantedOf? c g with
    | none => true
    | some (w, operands) =>
      let limit := (g.value? 'm').bind String.toNat?
      let found := foundLines w (g.has 'v') none c.input
      !(operands.isEmpty || "-" ∈ operands) || (g.has 'q' && !found.isEmpty) ||
        limit.any (· ≤ found.length)

end ConformanceGate.Machine.Programs
