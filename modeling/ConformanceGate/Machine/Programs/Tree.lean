import ConformanceGate.Machine.Programs.Options
import ConformanceGate.Machine.Programs.Outcome

/-!
# Programs that change the file tree

Making, copying, moving, linking and removing files and directories.
-/

namespace ConformanceGate.Machine.Programs

/-! ## Making -/

def mkdir (c : Call) : Outcome :=
  match (OptionTable.of "pv" "m" [("parents", 'p'), ("mode", 'm'), ("verbose", 'v')]).read
      c.args with
  | some g =>
    if g.operands.isEmpty then c.quit 1
    else if g.has 'p' then c.forEach g.operands fun fs => fs.createDirs c.cwd
    else c.forEach g.operands fun fs => fs.makeDir c.cwd
  | none => c.quit 1

def touchFile (create : Bool) (cwd : List String) (fs : Files) (path : String) :
    Except SystemError Files :=
  match fs.find? cwd path with
  | some _ => .ok fs
  | none => if create then fs.write cwd path .empty else .ok fs

def touch (c : Call) : Outcome :=
  match (OptionTable.of "acmhf" "dtr" [("no-create", 'c'), ("date", 'd'), ("reference", 'r')]).read
      c.args with
  | some g =>
    if g.operands.isEmpty then c.quit 1
    else c.forEach g.operands (touchFile (!g.has 'c') c.cwd)
  | none => c.quit 1

/-! ## Removing -/

/-- Whether a path names a place that is never removed. -/
def isHeld (path : String) : Bool := baseName path ∈ [".", "..", "/"]

/-- Removes a file, or a whole directory if `below` is set, or an empty one if `bare` is set. -/
def removeEntry (below bare : Bool) (cwd : List String) (fs : Files) (path : String) :
    Except SystemError Files := do
  let place ← fs.locateName cwd path
  match fs.at? place with
  | none => throw .notFound
  | some .directory =>
    if below || (bare && (fs.names place).isEmpty) then return fs.erase place
    else throw .isDirectory
  | some _ => return fs.erase place

def rm (c : Call) : Outcome :=
  match (OptionTable.of "rRfdiIv" "" [("recursive", 'r'), ("force", 'f'), ("dir", 'd'),
      ("verbose", 'v')]).read c.args with
  | some g =>
    let below := g.has 'r' || g.has 'R'
    if g.operands.isEmpty then c.quit (if g.has 'f' then 0 else 1)
    else c.forEach g.operands fun fs path =>
      if below && isHeld path then .error .denied
      else match removeEntry below (g.has 'd') c.cwd fs path with
        | .error e =>
          if g.has 'f' && (e = .notFound || e = .notDirectory) then .ok fs else .error e
        | .ok fs => .ok fs
  | none => c.quit 1

def removeDir (cwd : List String) (fs : Files) (path : String) : Except SystemError Files := do
  let place ← fs.locateName cwd path
  match fs.at? place with
  | some .directory =>
    if place.isEmpty || !(fs.names place).isEmpty then throw (.number 39) else return fs.erase place
  | some _ => throw .notDirectory
  | none => throw .notFound

/-- The paths of the directories above a path and the path itself, the innermost first. -/
def chain (path : String) : List String :=
  let parts := (Path.pieces path).filter (!·.isEmpty)
  let root := if Path.isAbsolute path then "/" else ""
  ((List.range parts.length).reverse.map fun n => root ++ "/".intercalate (parts.take (n + 1)))

def rmdir (c : Call) : Outcome :=
  match (OptionTable.of "pv" "" [("parents", 'p'), ("ignore-fail-on-non-empty", 'i')]).read
      c.args with
  | some g =>
    if g.operands.isEmpty then c.quit 1
    else if g.has 'p' then c.forEach (g.operands.flatMap chain) (removeDir c.cwd)
    else c.forEach g.operands (removeDir c.cwd)
  | none => c.quit 1

/-! ## Copying -/

/-- The path of something that is put at `target`, or into it if it is a directory. -/
def destination (fs : Files) (cwd : List String) (target source : String) : String :=
  let name := baseName source
  if !fs.leadsToDir cwd target then target
  else if name = "." || name = ".." then target
  else Path.join target name

/-- Copies a file to a path. A new file is executable if the old one is. -/
def copyFile (cwd : List String) (fs : Files) (source path : String) :
    Except SystemError Files := do
  let bytes ← fs.readBytes cwd source
  let origin ← fs.locate cwd source
  let goal ← fs.locate cwd path
  if origin = goal then throw .alreadyThere
  let new ← fs.write cwd path bytes
  match fs.at? origin, fs.at? goal with
  | some (.file _ true), none => return fs.put goal (.file bytes true)
  | some (.program name), none => return fs.put goal (.program name)
  | _, _ => return new

/-- Copies what is at a place and below it to another place, over what is there. -/
def copyBelow (fs : Files) (origin goal : List String) : Except SystemError Files := do
  if origin.isPrefixOf goal then throw (.number 22)
  match fs.at? goal with
  | some .directory => pure ()
  | some _ => throw .notDirectory
  | none => fs.enter goal.dropLast
  let start := if (fs.at? goal).isSome then fs else fs.put goal .directory
  return fs.entries.foldl (fun copy e =>
    match Path.below? origin e.1 with
    | none | some [] => copy
    | some rest =>
      match e.2, copy.at? (goal ++ rest) with
      | .directory, some .directory => copy
      | entry, _ => copy.put (goal ++ rest) entry) start

/-- Copies a file, a link as a link, or a directory with all that is below it. -/
def copyEntry (below follow : Bool) (cwd : List String) (fs : Files) (source path : String) :
    Except SystemError Files := do
  let origin ← if below && !follow then fs.locateName cwd source else fs.locate cwd source
  match fs.at? origin with
  | some .directory =>
    if below then copyBelow fs origin (← fs.locate cwd path) else throw .isDirectory
  | some (.link target) => do
    let goal ← fs.locateName cwd path
    fs.enter goal.dropLast
    return fs.put goal (.link target)
  | _ => copyFile cwd fs source path

/-- Carries out a change that takes sources to a target: the last operand, or the one that an option
names. Of several sources each is put into the target, which has to be a directory. -/
def toTarget (c : Call) (g : Given)
    (change : Files → String → String → Except SystemError Files) : Outcome :=
  let (sources, target?) := match g.value? 't' with
    | some dir => (g.operands, some dir)
    | none => (g.operands.dropLast, g.operands.getLast?)
  match target? with
  | none => c.quit 1
  | some target =>
    if sources.isEmpty then c.quit 1
    else if g.has 'T' then
      match sources with
      | [source] => c.forEach [source] fun fs source => change fs source target
      | _ => c.quit 1
    else if (1 < sources.length || g.has 't') && !c.files.leadsToDir c.cwd target then c.quit 1
    else c.forEach sources fun fs source => change fs source (destination fs c.cwd target source)

def cp (c : Call) : Outcome :=
  match (OptionTable.of "rRapfnvuidLPHTlsx" "t" [("recursive", 'r'), ("archive", 'a'),
      ("force", 'f'), ("no-clobber", 'n'), ("verbose", 'v'), ("target-directory", 't'),
      ("no-target-directory", 'T'), ("dereference", 'L'), ("preserve", 'p')]).read c.args with
  | some g =>
    let below := g.has 'r' || g.has 'R' || g.has 'a'
    let asLinks := below || g.has 'd' || g.has 'P'
    toTarget c g fun fs source path =>
      if g.has 'n' && (fs.find? c.cwd path).isSome then .ok fs
      else if asLinks then
        match fs.named? c.cwd source, below with
        | some .directory, false => .error .isDirectory
        | _, _ => copyEntry true (g.has 'L') c.cwd fs source path
      else copyEntry false true c.cwd fs source path
  | none => c.quit 1

/-! ## Moving and linking -/

def moveEntry (cwd : List String) (fs : Files) (source path : String) :
    Except SystemError Files := do
  let origin ← fs.locateName cwd source
  let goal ← fs.locateName cwd path
  match fs.at? origin, fs.at? goal with
  | none, _ => throw .notFound
  | some .directory, some .directory =>
    if !(fs.names goal).isEmpty then throw (.number 39)
  | some .directory, some _ => throw .notDirectory
  | some _, some .directory => throw .isDirectory
  | _, _ => pure ()
  if origin.isPrefixOf goal then throw (.number 22)
  fs.enter goal.dropLast
  let moved := fs.entries.filterMap fun e =>
    (Path.below? origin e.1).map fun rest => (goal ++ rest, e.2)
  return ⟨((fs.erase goal).erase origin).entries ++ moved⟩

def mv (c : Call) : Outcome :=
  match (OptionTable.of "fnviuT" "t" [("force", 'f'), ("no-clobber", 'n'), ("verbose", 'v'),
      ("target-directory", 't'), ("no-target-directory", 'T')]).read c.args with
  | some g =>
    toTarget c g fun fs source path =>
      if g.has 'n' && (fs.named? c.cwd path).isSome then .ok fs
      else moveEntry c.cwd fs source path
  | none => c.quit 1

/-- Makes a link at a path. A link that is not symbolic gets what its target holds. -/
def makeLink (symbolic force : Bool) (cwd : List String) (fs : Files) (target path : String) :
    Except SystemError Files := do
  let place ← fs.locateName cwd path
  match fs.at? place with
  | some .directory => throw .alreadyThere
  | some _ => if !force then throw .alreadyThere
  | none => fs.enter place.dropLast
  if symbolic then return fs.put place (.link target)
  else
    let origin ← fs.locateName cwd target
    match fs.at? origin with
    | none => throw .notFound
    | some .directory => throw .denied
    | some entry => return fs.put place entry

/-- Makes links. A single operand is linked under its own name. -/
def ln (c : Call) : Outcome :=
  match (OptionTable.of "sfnvirLPT" "t" [("symbolic", 's'), ("force", 'f'), ("no-dereference", 'n'),
      ("target-directory", 't'), ("no-target-directory", 'T'), ("verbose", 'v')]).read c.args with
  | some g =>
    let g := match g.operands with
      | [only] => if g.has 't' then g else { g with operands := [only, "."] }
      | _ => g
    let isLink (fs : Files) (path : String) : Bool :=
      (fs.named? c.cwd path matches some (.link _))
    let target := g.operands.getLast?.getD ""
    let g := if g.has 'n' && isLink c.files target then g.addOption 'T' "" else g
    toTarget c g (makeLink (g.has 's') (g.has 'f') c.cwd)
  | none => c.quit 1

/-! ## Permissions -/

/-- Whether a file can be executed after a change of its mode, if the change is well formed. -/
def executableAfter? (mode : String) (old : Bool) : Option Bool :=
  match mode.toList with
  | [] => none
  | c :: rest =>
    if c.isDigit then
      if (c :: rest).all (fun c => '0' ≤ c && c ≤ '7') then
        some ((((c :: rest).reverse.take 3).any fun c => c.toNat % 2 == 1))
      else none
    else
      (mode.toList.splitOn ',').foldlM (fun old clause =>
        let rest := clause.dropWhile (· ∈ ['u', 'g', 'o', 'a'])
        match rest with
        | op :: letters =>
          let x := letters.any (· == 'x') || (letters.any (· == 'X') && old)
          if !letters.all (· ∈ ['r', 'w', 'x', 'X', 's', 't', 'u', 'g', 'o']) then none
          else match op with
            | '+' => some (old || x)
            | '-' => some (old && !x)
            | '=' => some x
            | _ => none
        | [] => none) old

def changeMode (mode : String) (cwd : List String) (fs : Files) (path : String) :
    Except SystemError Files := do
  let place ← fs.locate cwd path
  match fs.at? place with
  | none => throw .notFound
  | some (.file bytes old) =>
    match executableAfter? mode old with
    | some new => return fs.put place (.file bytes new)
    | none => throw (.number 22)
  | some _ => return fs

def chmod (c : Call) : Outcome :=
  let isMode (arg : String) : Bool :=
    match arg.toList with
    | '-' :: rest => !rest.isEmpty && rest.all (· ∈ ['r', 'w', 'x', 'X', 's', 't'])
    | _ => false
  let flags := c.args.filter fun arg => arg.startsWith "-" && !isMode arg
  let recursive := flags.any (· ∈ ["-R", "--recursive", "-Rf", "-fR"])
  match c.args.filter fun arg => !(arg.startsWith "-" && !isMode arg) with
  | mode :: paths =>
    if paths.isEmpty || (executableAfter? mode false).isNone then c.quit 1
    else
      let below (path : String) : List String :=
        match recursive, c.files.locate c.cwd path with
        | true, .ok place => (c.files.listing place).map (Path.join path)
        | _, _ => []
      c.forEach (paths.flatMap fun path => path :: below path) (changeMode mode c.cwd)
  | [] => c.quit 1

/-! ## Other ways to make files -/

def install (c : Call) : Outcome :=
  match (OptionTable.of "dDvcpsT" "mtog" [("directory", 'd'), ("mode", 'm'),
      ("target-directory", 't')]).read c.args with
  | some g =>
    if g.has 'd' then c.forEach g.operands fun fs => fs.createDirs c.cwd
    else
      let target := (g.value? 't').getD (g.operands.getLast?.getD "")
      let files := if g.has 'D' then
          (c.files.createDirs c.cwd (if g.has 't' then target else dirName target)).toOption
        else some c.files
      match files with
      | none => c.quit 1
      | some files =>
        toTarget { c with files := files } g fun fs source path => do
          let fs ← copyFile c.cwd fs source path
          changeMode ((g.value? 'm').getD "755") c.cwd fs path
  | none => c.quit 1

def byteCount? (text : String) : Option Nat :=
  let ds := text.toList.takeWhile Char.isDigit
  let unit := String.ofList (text.toList.drop ds.length)
  let factor := [("", 1), ("c", 1), ("b", 512), ("k", 1024), ("K", 1024), ("KB", 1000),
    ("kB", 1000), ("M", 1048576), ("MB", 1000000)].lookup unit
  if ds.isEmpty then none else factor.map (Nat.ofDigitChars 10 ds 0 * ·)

def truncate (c : Call) : Outcome :=
  match (OptionTable.of "co" "s" [("size", 's'), ("no-create", 'c')]).read c.args with
  | some g =>
    match (g.value? 's').bind byteCount? with
    | some size =>
      c.forEach g.operands fun fs path =>
        if g.has 'c' && (fs.find? c.cwd path).isNone then .ok fs
        else
          let old := (fs.readBytes c.cwd path).toOption.getD .empty
          let kept := old.extract 0 size
          let zeros : ByteArray := ⟨(List.replicate (size - kept.size) (0 : UInt8)).toArray⟩
          fs.write c.cwd path (kept ++ zeros)
    | none => c.quit 1
  | none => c.quit 1

/-- A name like the template that is not taken. The fuel bounds the search. -/
def freeName (fs : Files) (cwd : List String) (start finish : String) (width : Nat) :
    Nat → Nat → String
  | 0, n => start ++ n.repr ++ finish
  | fuel + 1, n =>
    let digits := n.repr
    let letters := String.ofList (List.replicate (width - digits.length) 'a')
    let path := start ++ letters ++ digits ++ finish
    if (fs.named? cwd path).isSome then freeName fs cwd start finish width fuel (n + 1) else path

/-- Makes a file or a directory with a name that was not taken, and prints it. -/
def mktemp (c : Call) : Outcome :=
  match (OptionTable.of "duqt" "p" [("directory", 'd'), ("dry-run", 'u'), ("quiet", 'q'),
      ("tmpdir", 'p')]).read c.args with
  | some g =>
    let template := g.operands.headD "tmp.XXXXXXXXXX"
    let inTemp := g.operands.isEmpty || g.has 't' || g.has 'p'
    let template := if inTemp then Path.join ((g.value? 'p').getD "/tmp") template else template
    let back := template.toList.reverse
    let finish := back.takeWhile (· ≠ 'X')
    let holes := (back.drop finish.length).takeWhile (· == 'X')
    if holes.length < 3 then c.quit 1
    else
      let start := String.ofList (back.drop (finish.length + holes.length)).reverse
      let path :=
        freeName c.files c.cwd start (String.ofList finish.reverse) holes.length 10000 1
      let made := if g.has 'u' then .ok c.files
        else if g.has 'd' then c.files.makeDir c.cwd path
        else c.files.write c.cwd path .empty
      match made with
      | .ok files => { c.printLine path with files := files }
      | .error _ => c.quit 1
  | none => c.quit 1

def dd (c : Call) : Outcome :=
  let value (key : String) : Option String :=
    c.args.reverse.findSome? fun arg =>
      let start := key.toList ++ ['=']
      if start.isPrefixOf arg.toList then some (String.ofList (arg.toList.drop start.length))
      else none
  let size := ((value "bs" <|> value "ibs").bind byteCount?).getD 512
  match c.read? ((value "if").getD "-") with
  | none => c.quit 1
  | some input =>
    let input := input.drop (size * ((value "skip").bind byteCount?).getD 0)
    let input := match (value "count").bind byteCount? with
      | some n => input.take (size * n)
      | none => input
    match value "of" with
    | none => c.print input
    | some path => c.forEach [path] fun fs path => fs.write c.cwd path (bytesOf input)

end ConformanceGate.Machine.Programs
