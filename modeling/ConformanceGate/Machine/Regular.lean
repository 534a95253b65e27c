import ConformanceGate.Machine.Pattern

/-!
# Regular expressions

Basic and extended regular expressions as the text programs use them. Of all matches at the first
possible place the longest counts.
-/

namespace ConformanceGate.Machine

inductive Regular
  | nothing
  | char (c : Char)
  | any
  | among (negated : Bool) (members : List Member)
  | start
  | finish
  /-- The edge of a word: its front if `front` is set, its end if `back` is set. -/
  | edge (front back : Bool)
  | group (index : Nat) (body : Regular)
  /-- What a group has matched. -/
  | again (index : Nat)
  | repeated (least : Nat) (most : Option Nat) (body : Regular)
  | both (first second : Regular)
  | either (first second : Regular)

namespace Regular

/-! ## Reading -/

def letterClass? (c : Char) : Option Regular :=
  let word : List Member := [.named "alnum", .range '_' '_']
  match c with
  | 'w' => some (.among false word)
  | 'W' => some (.among true word)
  | 's' => some (.among false [.named "space"])
  | 'S' => some (.among true [.named "space"])
  | 'b' => some (.edge true true)
  | '<' => some (.edge true false)
  | '>' => some (.edge false true)
  | 'n' => some (.char '\n')
  | 't' => some (.char '\t')
  | _ => none

def readBounds (cs : List Char) : Option (Nat × Option Nat × List Char) :=
  let number (ds : List Char) : Option Nat := (String.ofList ds).toNat?
  let first := cs.takeWhile Char.isDigit
  let rest := cs.drop first.length
  match rest with
  | ',' :: rest =>
    let second := rest.takeWhile Char.isDigit
    let after := rest.drop second.length
    let least := (number first).getD 0
    if second.isEmpty then some (least, none, after)
    else (number second).map fun most => (least, some most, after)
  | rest => (number first).map fun n => (n, some n, rest)

def readRepeat (extended : Bool) (cs : List Char) : Option (Nat × Option Nat × List Char) :=
  match extended, cs with
  | _, '*' :: rest => some (0, none, rest)
  | true, '+' :: rest | false, '\\' :: '+' :: rest => some (1, none, rest)
  | true, '?' :: rest | false, '\\' :: '?' :: rest => some (0, some 1, rest)
  | true, '\x7b' :: rest =>
    match readBounds rest with
    | some (least, most, '\x7d' :: rest) => some (least, most, rest)
    | _ => none
  | false, '\\' :: '\x7b' :: rest =>
    match readBounds rest with
    | some (least, most, '\\' :: '\x7d' :: rest) => some (least, most, rest)
    | _ => none
  | _, _ => none

/-- The sign that begins here, if it opens a group, closes one or stands between alternatives. -/
def structural? (extended : Bool) (cs : List Char) : Option (Char × List Char) :=
  match extended, cs with
  | true, c :: rest => if c = '(' || c = ')' || c = '|' then some (c, rest) else none
  | false, '\\' :: c :: rest => if c = '(' || c = ')' || c = '|' then some (c, rest) else none
  | _, _ => none

def atPartEnd (extended : Bool) (cs : List Char) : Bool :=
  match structural? extended cs with
  | some (c, _) => c != '('
  | none => cs.isEmpty

mutual

/-- Reads alternatives; `groups` is the number of groups so far. The fuel is above a few times the
length of the text. -/
def readAlternatives (extended : Bool) :
    Nat → Nat → List Char → Option (Regular × Nat × List Char)
  | 0, _, _ => none
  | fuel + 1, groups, cs => do
    let (first, groups, rest) ← readSequence extended fuel true groups cs
    match structural? extended rest with
    | some ('|', rest) => do
      let (second, groups, rest) ← readAlternatives extended fuel groups rest
      return (.either first second, groups, rest)
    | _ => return (first, groups, rest)

/-- Reads a sequence; `atStart` tells that nothing stands before it. -/
def readSequence (extended : Bool) :
    Nat → Bool → Nat → List Char → Option (Regular × Nat × List Char)
  | 0, _, _, _ => none
  | fuel + 1, atStart, groups, cs =>
    if atPartEnd extended cs then some (.nothing, groups, cs)
    else do
      let (atom, groups, rest) ← readAtom extended fuel atStart groups cs
      let (item, rest) := readSuffix extended fuel atom rest
      let (more, groups, rest) ← readSequence extended fuel false groups rest
      return (.both item more, groups, rest)

/-- Reads the repetitions after an item; at the start there is nothing to repeat. -/
def readSuffix (extended : Bool) : Nat → Regular → List Char → Regular × List Char
  | 0, atom, cs => (atom, cs)
  | fuel + 1, atom, cs =>
    if atom matches .start then (atom, cs)
    else match readRepeat extended cs with
      | some (least, most, rest) => readSuffix extended fuel (.repeated least most atom) rest
      | none => (atom, cs)

def readAtom (extended : Bool) :
    Nat → Bool → Nat → List Char → Option (Regular × Nat × List Char)
  | 0, _, _, _ => none
  | fuel + 1, atStart, groups, cs =>
    match structural? extended cs with
    | some (_, rest) => do
      let (body, inner, rest) ← readAlternatives extended fuel (groups + 1) rest
      match structural? extended rest with
      | some (')', rest) => return (.group (groups + 1) body, inner, rest)
      | _ => none
    | none =>
      match cs with
      | '.' :: rest => some (.any, groups, rest)
      | '[' :: rest =>
        let (negated, body) := match rest with
          | '^' :: rest => (true, rest)
          | rest => (false, rest)
        let ms := body.map fun c => (⟨c, false⟩ : Mark)
        (readMembers (body.length + 1) true ms []).map fun (members, rest) =>
          (.among negated members, groups, rest.map (·.char))
      | '^' :: rest => some (if extended || atStart then .start else .char '^', groups, rest)
      | '$' :: rest =>
        some (if extended || atPartEnd extended rest then .finish else .char '$', groups, rest)
      | '\\' :: c :: rest =>
        if c.isDigit && c != '0' then some (.again (c.toNat - '0'.toNat), groups, rest)
        else some ((letterClass? c).getD (.char c), groups, rest)
      | ['\\'] => none
      | c :: rest => some (.char c, groups, rest)
      | [] => none

end

def read (extended : Bool) (text : List Char) : Option Regular := do
  let (found, _, rest) ← readAlternatives extended (8 * text.length + 16) 0 text
  if rest.isEmpty then some found else none

def exactly (text : List Char) : Regular :=
  text.foldr (fun c rest => .both (.char c) rest) .nothing

/-! ## Matching -/

abbrev Groups := List (Nat × Nat × Nat)

/-- A text in which matches are looked for. -/
structure Subject where
  text : Array Char
  /-- Whether capitals and small letters are the same. -/
  anyCase : Bool

def Subject.same (s : Subject) (a b : Char) : Bool :=
  a == b || (s.anyCase && a.toLower == b.toLower)

def Subject.isWord (s : Subject) (i : Nat) : Bool :=
  (s.text[i]?).any fun c => c.isAlphanum || c == '_'

/-- The ends of all matches from a place on, the preferred ones first. The fuel bounds the depth. -/
def ends (s : Subject) : Nat → Regular → Nat → Groups → List (Nat × Groups)
  | 0, _, _, _ => []
  | fuel + 1, e, i, groups =>
    let one (p : Char → Bool) : List (Nat × Groups) :=
      if (s.text[i]?).any p then [(i + 1, groups)] else []
    let here (b : Bool) : List (Nat × Groups) := if b then [(i, groups)] else []
    match e with
    | .nothing => [(i, groups)]
    | .char c => one (s.same c)
    | .any => one fun _ => true
    | .among negated members =>
      one fun c =>
        (members.any fun m =>
          m.has c || (s.anyCase && (m.has c.toLower || m.has c.toUpper))) != negated
    | .start => here (i == 0)
    | .finish => here (i == s.text.size)
    | .edge front back =>
      let before := i != 0 && s.isWord (i - 1)
      let after := s.isWord i
      here ((front && !before && after) || (back && before && !after))
    | .group index body =>
      (ends s fuel body i groups).map fun (j, groups) => (j, (index, i, j) :: groups)
    | .again index =>
      match groups.lookup index with
      | some (first, last) =>
        let found := (List.range (last - first)).all fun k =>
          match s.text[first + k]?, s.text[i + k]? with
          | some a, some b => s.same a b
          | _, _ => false
        if found then [(i + (last - first), groups)] else []
      | none => []
    | .repeated least most body =>
      if most = some 0 then [(i, groups)]
      else
        let rest := Regular.repeated (least - 1) (most.map (· - 1)) body
        let more := (ends s fuel body i groups).flatMap fun (j, groups) =>
          if j = i && least = 0 then [] else ends s fuel rest j groups
        if least = 0 then more ++ [(i, groups)] else more
    | .both first second =>
      (ends s fuel first i groups).flatMap fun (j, groups) => ends s fuel second j groups
    | .either first second => ends s fuel first i groups ++ ends s fuel second i groups

/-- A match: its start, its end and its groups. -/
structure Found where
  start : Nat
  stop : Nat
  groups : Groups

def matchAt? (e : Regular) (s : Subject) (i : Nat) : Option Found :=
  (ends s (4 * s.text.size + 1000) e i []).foldl (fun best (stop, groups) =>
    match best with
    | some b => if b.stop < stop then some ⟨i, stop, groups⟩ else best
    | none => some ⟨i, stop, groups⟩) none

def find? (e : Regular) (s : Subject) (place : Nat) : Option Found :=
  (List.range (s.text.size + 1 - place)).findSome? fun k => matchAt? e s (place + k)

def occurs (e : Regular) (anyCase : Bool) (text : List Char) : Bool :=
  (find? e ⟨text.toArray, anyCase⟩ 0).isSome

def Subject.between (s : Subject) (start stop : Nat) : List Char :=
  (s.text.extract start stop).toList

/-- The text of a group of a match; group zero is all of it. -/
def Found.group (f : Found) (s : Subject) (index : Nat) : List Char :=
  if index = 0 then s.between f.start f.stop
  else match f.groups.lookup index with
    | some (first, last) => s.between first last
    | none => []

end Regular
end ConformanceGate.Machine
