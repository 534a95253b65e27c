import ConformanceGate.Machine.Programs.Lines
import ConformanceGate.Report.Timestamp

/-!
# Asking for places and surroundings

Names in directories, parts of paths, the places that paths lead to, and what is known about the
system.
-/

namespace ConformanceGate.Machine.Programs

/-! ## Directories -/

def pathOf (place : List String) : String := "/" ++ "/".intercalate place

def shownNames (g : Given) (fs : Files) (place : List String) : List String :=
  let names := fs.names place
  let names :=
    if g.has 'a' then "." :: ".." :: names
    else if g.has 'A' then names
    else names.filter fun name => !name.startsWith "."
  if g.has 'r' then names.reverse else names

def nameLines (g : Given) (c : Call) (base : String) (names : List String) : Octets :=
  names.flatMap fun name =>
    let path := if base.isEmpty then name else Path.join base name
    let isDir := c.files.leadsToDir c.cwd path
    octetsOf (name ++ (if (g.has 'p' || g.has 'F') && isDir then "/" else "") ++ "\n")

/-- The directories below one, itself first, as paths. The fuel bounds the depth. -/
def dirsBelow (g : Given) (c : Call) : Nat → String → List String
  | 0, path => [path]
  | fuel + 1, path =>
    match c.files.locate c.cwd path with
    | .error _ => [path]
    | .ok place =>
      let inner := (c.files.names place).filter fun name =>
        c.files.isDir (place ++ [name]) && (g.has 'a' || g.has 'A' || !name.startsWith ".")
      path :: inner.flatMap fun name => dirsBelow g c fuel (Path.join path name)

def ls (c : Call) : Outcome :=
  let t := OptionTable.of "aA1drlRtpFhSinsguokxCcqmNvX" "wIT" [("all", 'a'), ("almost-all", 'A'),
    ("reverse", 'r'), ("recursive", 'R'), ("directory", 'd'), ("classify", 'F')]
  withOptions c t 2 fun g =>
    let operands := if g.operands.isEmpty then ["."] else g.operands
    let (there, missing) := operands.partition fun path => (c.files.named? c.cwd path).isSome
    let there := there.mergeSort fun a b => !(b < a)
    let isDir (path : String) : Bool := !g.has 'd' && c.files.leadsToDir c.cwd path
    let (dirs, files) := there.partition isDir
    let dirs := if g.has 'R' then dirs.flatMap (dirsBelow g c 40) else dirs
    let sections := dirs.map fun path =>
      let place := ((c.files.locate c.cwd path).toOption).getD []
      let heading :=
        if 1 < operands.length || g.has 'R' then octetsOf (path ++ ":\n") else []
      heading ++ nameLines g c path (shownNames g c.files place)
    let plain := nameLines g c "" (if g.has 'r' then files.reverse else files)
    let all := (if files.isEmpty then [] else [plain]) ++ sections
    ⟨c.files, ['\n'].intercalate all, if missing.isEmpty then 0 else 2⟩

/-! ## Finding -/

/-- A question about a path that a search asks. -/
inductive Question
  | name (pattern : String)
  | path (pattern : String)
  | type (letter : String)
  | empty
  | not (q : Question)
  | prints
  | deletes

/-- The questions of a search, and the least and the greatest depth. -/
def questions : Nat → List String → Option (List Question × Nat × Nat)
  | 0, _ => none
  | _, [] => some ([], 0, 40)
  | fuel + 1, word :: rest => do
    let ask (q : Question) (rest : List String) : Option (List Question × Nat × Nat) := do
      let (qs, least, most) ← questions fuel rest
      return (q :: qs, least, most)
    match word, rest with
    | "-name", pattern :: rest => ask (.name pattern) rest
    | "-path", pattern :: rest => ask (.path pattern) rest
    | "-type", letter :: rest => ask (.type letter) rest
    | "-maxdepth", n :: rest => do
      let (qs, least, _) ← questions fuel rest
      return (qs, least, ← n.toNat?)
    | "-mindepth", n :: rest => do
      let (qs, _, most) ← questions fuel rest
      return (qs, ← n.toNat?, most)
    | "-empty", rest => ask .empty rest
    | "-print", rest => ask .prints rest
    | "-delete", rest => ask .deletes rest
    | "!", rest | "-not", rest => do
      let (qs, least, most) ← questions fuel rest
      match qs with
      | q :: qs => return (.not q :: qs, least, most)
      | [] => none
    | "-a", rest => questions fuel rest
    | _, _ => none

namespace Question

def holds (fs : Files) (place : List String) (path : String) : Question → Bool
  | .name pattern => isMatch (patternOf (marks false pattern)) (baseName path).toList
  | .path pattern => isMatch (patternOf (marks false pattern)) path.toList
  | .type letter =>
    match fs.at? place with
    | some .directory => letter == "d"
    | some (.link _) => letter == "l"
    | some (.device _) => letter == "c"
    | some _ => letter == "f"
    | none => false
  | .empty =>
    match fs.at? place with
    | some .directory => (fs.names place).isEmpty
    | some (.file bytes _) => bytes.isEmpty
    | _ => false
  | .not q => !q.holds fs place path
  | .prints | .deletes => true

end Question

/-- The paths below one and their places, itself first. The fuel bounds the depth. -/
def pathsUnder (fs : Files) : Nat → List String → String → List (Nat × List String × String)
  | 0, _, _ => []
  | fuel + 1, place, path =>
    let inner := (fs.names place).flatMap fun name =>
      pathsUnder fs fuel (place ++ [name]) (Path.join path name)
    (0, place, path) :: if fs.isDir place then inner.map fun (n, rest) => (n + 1, rest) else []

def find (c : Call) : Outcome :=
  let isStart (arg : String) : Bool := !(arg.startsWith "-" || arg = "!" || arg = "(")
  let starts := c.args.takeWhile isStart
  match questions (c.args.length + 1) (c.args.drop starts.length) with
  | none => c.quit 1
  | some (qs, least, most) =>
    let starts := if starts.isEmpty then ["."] else starts
    let found := starts.filterMap fun start =>
      match c.files.locateName c.cwd start with
      | .ok place => if (c.files.at? place).isSome then some (place, start) else none
      | .error _ => none
    let paths := found.flatMap fun (place, start) => pathsUnder c.files 41 place start
    let paths := paths.filter fun (depth, place, path) =>
      least ≤ depth && depth ≤ most && qs.all (·.holds c.files place path)
    let deletes := qs.any (· matches .deletes)
    let shown := if deletes && !qs.any (· matches .prints) then [] else paths
    let files := if !deletes then c.files
      else paths.reverse.foldl (fun fs (_, place, _) =>
        if (fs.names place).isEmpty then fs.erase place else fs) c.files
    ⟨files, shown.flatMap fun (_, _, path) => octetsOf (path ++ "\n"),
      if found.length = starts.length then 0 else 1⟩

/-! ## Parts of paths -/

/-- The last part of a path, without a suffix. -/
def basename (c : Call) : Outcome :=
  withOptions c (.of "az" "s" [("multiple", 'a'), ("suffix", 's')]) 1 fun g =>
    let cut (suffix path : String) : String :=
      let name := baseName path
      if name ≠ suffix && name.endsWith suffix then
        String.ofList (name.toList.take (name.length - suffix.length))
      else name
    if g.has 'a' || g.has 's' then
      if g.operands.isEmpty then c.quit 1
      else c.print (g.operands.flatMap fun path =>
        octetsOf (cut ((g.value? 's').getD "") path ++ "\n"))
    else match g.operands with
      | [path] => c.printLine (cut "" path)
      | [path, suffix] => c.printLine (cut suffix path)
      | _ => c.quit 1

def dirname (c : Call) : Outcome :=
  withOptions c (.of "z" "" []) 1 fun g =>
    if g.operands.isEmpty then c.quit 1
    else c.print (g.operands.flatMap fun path => octetsOf (dirName path ++ "\n"))

/-- The path that a path leads to. Of what is not there, only the last part may be missing, or
everything if `missing` is set. -/
def resolve? (c : Call) (mustExist missing : Bool) (path : String) : Option String :=
  match c.files.locate c.cwd path with
  | .ok place =>
    let there := (c.files.at? place).isSome
    let above := c.files.isDir place.dropLast
    if there || (!mustExist && above) then some (pathOf place)
    else if missing then some (pathOf place)
    else none
  | .error _ => if missing then some (Path.absolute c.cwd path).text else none

def readlink (c : Call) : Outcome :=
  withOptions c (.of "femnqsvz" "" [("canonicalize", 'f'), ("canonicalize-existing", 'e'),
      ("canonicalize-missing", 'm'), ("no-newline", 'n')]) 1 fun g =>
    let resolves := g.has 'f' || g.has 'e' || g.has 'm'
    let found := g.operands.filterMap fun path =>
      if resolves then resolve? c (g.has 'e') (g.has 'm') path
      else match c.files.named? c.cwd path with
        | some (.link target) => some target
        | _ => none
    let text := found.flatMap fun path => octetsOf path ++ if g.has 'n' then [] else ['\n']
    c.give text (!g.operands.isEmpty && found.length == g.operands.length)

def realpath (c : Call) : Outcome :=
  withOptions c (.of "emLPqsz" "" [("canonicalize-existing", 'e'),
      ("canonicalize-missing", 'm')]) 1 fun g =>
    let found := g.operands.filterMap (resolve? c (g.has 'e') (g.has 'm'))
    c.give (found.flatMap fun path => octetsOf (path ++ "\n"))
      (!g.operands.isEmpty && found.length == g.operands.length)

def pwd (c : Call) : Outcome := c.printLine (pathOf c.cwd)

/-- What is at a path in a format: its size, its name or its kind. -/
def statText (path : String) (entry : Entry) : List Char → List Char
  | '%' :: c :: rest =>
    let text := match c, entry with
      | 's', .file bytes _ => bytes.size.repr
      | 's', .link target => target.utf8ByteSize.repr
      | 's', .directory => "4096"
      | 's', _ => "0"
      | 'n', _ => path
      | 'F', .directory => "directory"
      | 'F', .link _ => "symbolic link"
      | 'F', .device _ => "character special file"
      | 'F', .file bytes _ => if bytes.isEmpty then "regular empty file" else "regular file"
      | 'F', .program _ => "regular file"
      | 'a', .file _ executable => if executable then "755" else "644"
      | 'a', _ => "755"
      | c, _ => String.ofList [c]
    text.toList ++ statText path entry rest
  | c :: rest => c :: statText path entry rest
  | [] => []

def stat (c : Call) : Outcome :=
  withOptions c (.of "Lft" "c" [("format", 'c'), ("printf", 'c'), ("dereference", 'L')]) 1 fun g =>
    let entryAt (path : String) : Option Entry :=
      if g.has 'L' then c.files.find? c.cwd path else c.files.named? c.cwd path
    let found := g.operands.filterMap fun path => (entryAt path).map (path, ·)
    let format := ((g.value? 'c').getD "%n").toList
    let text := found.flatMap fun (path, entry) =>
      octetsOf (String.ofList (statText path entry format) ++ "\n")
    c.give text (!g.operands.isEmpty && found.length == g.operands.length)

/-! ## Surroundings -/

def printenv (c : Call) : Outcome :=
  if c.args.isEmpty then
    c.print (c.environment.flatMap fun (name, value) => octetsOf (name ++ "=" ++ value ++ "\n"))
  else
    let found := c.args.filterMap fun name => c.environment.lookup name
    c.give (found.flatMap fun value => octetsOf (value ++ "\n")) (found.length == c.args.length)

def dateText (now : Int) : List Char → List Char
  | '%' :: c :: rest =>
    let date := Timestamp.Date.ofDays (now.fdiv 86400)
    let time := (now.fmod 86400).toNat
    let two (n : Nat) : String := Text.zeroPadded 2 n
    let year := Timestamp.yearText date.year
    let day := year ++ "-" ++ two date.month ++ "-" ++ two date.day
    let clock := two (time / 3600) ++ ":" ++ two (time / 60 % 60) ++ ":" ++ two (time % 60)
    let text := match c with
      | 's' => toString now
      | 'Y' => year
      | 'm' => two date.month
      | 'd' => two date.day
      | 'H' => two (time / 3600)
      | 'M' => two (time / 60 % 60)
      | 'S' => two (time % 60)
      | 'N' => "000000000"
      | 'F' => day
      | 'T' => clock
      | 'Z' => "UTC"
      | 'z' => "+0000"
      | 'n' => "\n"
      | '%' => "%"
      | c => String.ofList ['%', c]
    text.toList ++ dateText now rest
  | c :: rest => c :: dateText now rest
  | [] => []

def date (c : Call) : Outcome :=
  match c.args.find? (·.startsWith "+") with
  | some format => c.printLine (String.ofList (dateText c.now (format.toList.drop 1)))
  | none => c.printLine (String.ofList (dateText c.now "%F %T %Z".toList))

def id (c : Call) : Outcome :=
  withOptions c (.of "ugGnr" "" [("user", 'u'), ("group", 'g'), ("name", 'n')]) 1 fun g =>
    if g.has 'u' || g.has 'g' || g.has 'G' then
      c.printLine (if g.has 'n' then "root" else "0")
    else c.printLine "uid=0(root) gid=0(root) groups=0(root)"

def uname (c : Call) : Outcome :=
  withOptions c (.of "amnrspvio" "" []) 1 fun g =>
    let parts := (if g.has 's' || g.has 'a' || g.options.isEmpty then ["Linux"] else []) ++
      (if g.has 'm' || g.has 'a' then ["x86_64"] else []) ++
      (if g.has 'o' || g.has 'a' then ["GNU/Linux"] else [])
    c.printLine (" ".intercalate parts)

end ConformanceGate.Machine.Programs
