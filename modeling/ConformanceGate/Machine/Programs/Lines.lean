import ConformanceGate.Machine.Pattern
import ConformanceGate.Machine.Programs.Condition
import ConformanceGate.Machine.Programs.Options
import ConformanceGate.Machine.Programs.Outcome

/-!
# Programs that work on lines

Joining, cutting, counting, sorting and comparing texts.
-/

namespace ConformanceGate.Machine.Programs

/-- Reads the options of a program that ends with a status if they are not known. -/
def withOptions (c : Call) (t : OptionTable) (failure : Nat) (run : Given → Outcome) : Outcome :=
  match t.read c.args with
  | some g => run g
  | none => c.quit failure

def mapLines (f : Octets → Octets) (text : Octets) : Octets :=
  let (lines, complete) := linesOf text
  ofLines (lines.map f) complete

def rightAligned (width n : Nat) : Octets :=
  List.replicate (width - n.repr.length) ' ' ++ n.repr.toList

/-! ## Joining -/

/-- The lines with their numbers in front; empty ones are left out of the count if asked for. -/
def numbered (skipEmpty : Bool) : Nat → List Octets → List Octets
  | _, [] => []
  | n, line :: rest =>
    if skipEmpty && line.isEmpty then line :: numbered skipEmpty n rest
    else (rightAligned 6 n ++ '\t' :: line) :: numbered skipEmpty (n + 1) rest

def squeezed : List Octets → List Octets
  | [] :: [] :: rest => squeezed ([] :: rest)
  | line :: rest => line :: squeezed rest
  | [] => []

def cat (c : Call) : Outcome :=
  withOptions c (.of "AbeEnstTuv" "" [("number", 'n'), ("show-ends", 'E')]) 1 fun g =>
    let (text, ok) := c.contents g.operands
    if !(g.has 'n' || g.has 'b' || g.has 's' || g.has 'E' || g.has 'e' || g.has 'A') then
      c.give text ok
    else
      let (lines, complete) := linesOf text
      let lines := if g.has 's' then squeezed lines else lines
      let ends := g.has 'E' || g.has 'e' || g.has 'A'
      let lines := if ends then lines.map (· ++ ['$']) else lines
      let lines := if g.has 'n' || g.has 'b' then numbered (g.has 'b') 1 lines else lines
      c.give (ofLines lines complete) ok

def underHeadings (g : Given) (found : List (String × Octets)) (f : Octets → Octets) : Octets :=
  if (found.length ≤ 1 && !g.has 'v') || g.has 'q' then found.flatMap fun (_, text) => f text
  else
    let sections := found.map fun (path, text) =>
      let shown := if path = "-" then "standard input" else path
      octetsOf ("==> " ++ shown ++ " <==\n") ++ f text
    ['\n'].intercalate sections

/-- Arguments in which a dash and a number in the first place are turned into an option. -/
def withCount (args : List String) : List String :=
  match args with
  | first :: rest =>
    match first.toList with
    | '-' :: d :: ds => if (d :: ds).all Char.isDigit then
        "-n" :: String.ofList (d :: ds) :: rest else args
    | _ => args
  | [] => []

def signedCount? (text : String) : Option (Option Char × Nat) :=
  match text.toList with
  | '-' :: ds => (byteCountOf? ds).map (some '-', ·)
  | '+' :: ds => (byteCountOf? ds).map (some '+', ·)
  | ds => (byteCountOf? ds).map (none, ·)
where
  /-- A number of bytes or lines with a unit. -/
  byteCountOf? (cs : List Char) : Option Nat :=
    let ds := cs.takeWhile Char.isDigit
    let unit := String.ofList (cs.drop ds.length)
    let factor := [("", 1), ("b", 512), ("k", 1024), ("K", 1024), ("kB", 1000), ("M", 1048576),
      ("MB", 1000000)].lookup unit
    if ds.isEmpty then none else factor.map (Nat.ofDigitChars 10 ds 0 * ·)

def wholeLines (text : Octets) : List Octets :=
  let (lines, complete) := linesOf text
  if complete then lines.map (· ++ ['\n'])
  else lines.dropLast.map (· ++ ['\n']) ++ lines.getLast?.toList

def head (c : Call) : Outcome :=
  let t := OptionTable.of "qvz" "nc" [("lines", 'n'), ("bytes", 'c'), ("quiet", 'q')]
  withOptions { c with args := withCount c.args } t 1 fun g =>
    let (found, ok) := c.readAll g.operands
    let part (count : String) (bytes : Bool) (text : Octets) : Option Octets := do
      let (sign, n) ← signedCount? count
      let lines := wholeLines text
      match sign, bytes with
      | some '-', true => return text.take (text.length - n)
      | _, true => return text.take n
      | some '-', false => return (lines.take (lines.length - n)).flatten
      | _, false => return (lines.take n).flatten
    let (count, bytes) := match g.value? 'c' with
      | some count => (count, true)
      | none => ((g.value? 'n').getD "10", false)
    if (part count bytes []).isNone then c.quit 1
    else c.give (underHeadings g found fun text => (part count bytes text).getD []) ok

/-- Whether the first lines or bytes are there, so that the rest of the input does not matter. -/
def headIsOver (c : Call) : Bool :=
  match (OptionTable.of "qvz" "nc" [("lines", 'n'), ("bytes", 'c'), ("quiet", 'q')]).read
      (withCount c.args) with
  | none => true
  | some g =>
    let enough (count : String) (there : Nat) : Bool :=
      match signedCount? count with
      | some (some '-', _) => false
      | some (_, n) => n ≤ there
      | none => true
    match g.value? 'c' with
    | some count => enough count c.input.length
    | none => enough ((g.value? 'n').getD "10") (c.input.count '\n')

def tail (c : Call) : Outcome :=
  let t := OptionTable.of "qvfFz" "ncs" [("lines", 'n'), ("bytes", 'c'), ("quiet", 'q'),
    ("follow", 'f')]
  withOptions { c with args := withCount c.args } t 1 fun g =>
    let (found, ok) := c.readAll g.operands
    let part (count : String) (bytes : Bool) (text : Octets) : Option Octets := do
      let (sign, n) ← signedCount? count
      let lines := wholeLines text
      match sign, bytes with
      | some '+', true => return text.drop (n - 1)
      | _, true => return text.drop (text.length - n)
      | some '+', false => return (lines.drop (n - 1)).flatten
      | _, false => return (lines.drop (lines.length - n)).flatten
    let (count, bytes) := match g.value? 'c' with
      | some count => (count, true)
      | none => ((g.value? 'n').getD "10", false)
    if (part count bytes []).isNone then c.quit 1
    else c.give (underHeadings g found fun text => (part count bytes text).getD []) ok

def tee (c : Call) : Outcome :=
  withOptions c (.of "aip" "" [("append", 'a'), ("ignore-interrupts", 'i')]) 1 fun g =>
    let written := c.forEach g.operands fun fs path => do
      let old := if g.has 'a' then (fs.readBytes c.cwd path).toOption.getD .empty else .empty
      fs.write c.cwd path (old ++ bytesOf c.input)
    { written with output := c.input }

/-! ## Counting -/

def isSpaceOctet (c : Char) : Bool := c == ' ' || ('\t' ≤ c && c ≤ '\r')

def wordsOf (text : Octets) : List Octets := (text.splitOnP isSpaceOctet).filter (!·.isEmpty)

def wc (c : Call) : Outcome :=
  withOptions c (.of "lwcmL" "" [("lines", 'l'), ("words", 'w'), ("bytes", 'c'), ("chars", 'm')]) 1
    fun g =>
      let (found, ok) := c.readAll g.operands
      let all := g.options.isEmpty
      let counts (text : Octets) : List Nat :=
        (if all || g.has 'l' then [text.count '\n'] else []) ++
        (if all || g.has 'w' then [(wordsOf text).length] else []) ++
        (if g.has 'm' then [text.length] else []) ++
        (if all || g.has 'c' then [text.length] else []) ++
        (if g.has 'L' then [((linesOf text).1.map List.length).foldl max 0] else [])
      let rows := found.map fun (path, text) => (path, counts text)
      let size := (found.map fun (_, text) => text.length).foldl (· + ·) 0
      let columns := (counts []).length
      let width := if found.length ≤ 1 && columns = 1 then 1
        else if g.operands.isEmpty || "-" ∈ g.operands then 7 else size.repr.length
      let line (label : String) (row : List Nat) : Octets :=
        [' '].intercalate (row.map (rightAligned width)) ++
          (if label.isEmpty then [] else ' ' :: octetsOf label) ++ ['\n']
      let totals := rows.foldl (fun sums (_, row) => sums.zipWith (· + ·) row)
        (List.replicate columns 0)
      let body := rows.flatMap fun (path, row) => line (if g.operands.isEmpty then "" else path) row
      c.give (body ++ if 1 < g.operands.length then line "total" totals else []) ok

/-! ## Sorting -/

/-- A field of a line from which sorting starts, and the one with which it ends. -/
structure SortKey where
  first : Nat
  last : Option Nat
  flags : List Char

def sortKey? (text : String) : Option SortKey := do
  let number (cs : List Char) : Option Nat × List Char :=
    let ds := cs.takeWhile Char.isDigit
    let rest := cs.drop ds.length
    -- places within a field are passed over
    let rest := match rest with
      | '.' :: more => more.dropWhile Char.isDigit
      | rest => rest
    (if ds.isEmpty then none else some (Nat.ofDigitChars 10 ds 0), rest)
  let (first, rest) := number text.toList
  let flags := rest.takeWhile Char.isAlpha
  match rest.drop flags.length with
  | [] => return ⟨← first, none, flags⟩
  | ',' :: rest =>
    let (last, rest) := number rest
    return ⟨← first, last, flags ++ rest⟩
  | _ => none

/-- The fields of a line: between separators, or words with the blanks in front of them. -/
def sortFields (separator : Option Char) (line : Octets) : List Octets :=
  match separator with
  | some c => line.splitOn c
  | none => blanks line.length line
where
  /-- Cuts a line before the blanks in front of words. -/
  blanks : Nat → Octets → List Octets
    | 0, _ => []
    | _, [] => []
    | fuel + 1, line =>
      let gap := line.takeWhile fun c => c == ' ' || c == '\t'
      let rest := line.drop gap.length
      let word := rest.takeWhile fun c => !(c == ' ' || c == '\t')
      (gap ++ word) :: blanks fuel (rest.drop word.length)

def leadingNumber (line : Octets) : Int :=
  let line := line.dropWhile fun c => c == ' ' || c == '\t'
  let (negative, rest) := match line with
    | '-' :: rest => (true, rest)
    | rest => (false, rest)
  let whole := rest.takeWhile Char.isDigit
  let fraction := match rest.drop whole.length with
    | '.' :: more => (more.takeWhile Char.isDigit).take 6
    | _ => []
  let n := Nat.ofDigitChars 10 (whole ++ fraction) 0 * Nat.pow 10 (6 - fraction.length)
  if negative then -(n : Int) else n

def compareBy (flags : List Char) (a b : Octets) : Ordering :=
  let trim (cs : Octets) : Octets :=
    if 'b' ∈ flags then cs.dropWhile fun c => c == ' ' || c == '\t' else cs
  let fold (cs : Octets) : Octets := if 'f' ∈ flags then cs.map Char.toUpper else cs
  let a := trim (fold a)
  let b := trim (fold b)
  let order := if 'n' ∈ flags || 'g' ∈ flags then
      compare (leadingNumber a) (leadingNumber b)
    else if a = b then .eq else if octetsLe a b then .lt else .gt
  if 'r' ∈ flags then order.swap else order

def sort (c : Call) : Outcome :=
  withOptions c (.of "nrufbscgdiz" "kto" [("reverse", 'r'), ("unique", 'u'), ("numeric-sort", 'n'),
      ("key", 'k'), ("field-separator", 't'), ("output", 'o'), ("check", 'c'), ("stable", 's'),
      ("ignore-case", 'f')]) 2 fun g =>
    let (found, ok) := c.readAll g.operands
    let lines := found.flatMap fun (_, text) => (linesOf text).1
    let flags := g.options.map (·.1)
    match (g.values 'k').mapM sortKey? with
    | none => c.quit 2
    | some keys =>
      let separator := (g.value? 't').bind fun t => t.toList.head?
      let part (key : SortKey) (line : Octets) : Octets :=
        let fields := (sortFields separator line).drop (key.first - 1)
        let fields := match key.last with
          | some last => fields.take (last + 1 - key.first)
          | none => fields
        match separator with
        | some s => [s].intercalate fields
        | none => fields.flatten
      let byKeys (a b : Octets) : Ordering :=
        if keys.isEmpty then compareBy flags a b
        else keys.foldl (fun order key =>
          order.then (compareBy (if key.flags.isEmpty then flags else key.flags) (part key a)
            (part key b))) .eq
      let lastResort (a b : Octets) : Ordering :=
        if g.has 's' || g.has 'u' then .eq
        else compareBy (flags.filter (· == 'r')) a b
      let le (a b : Octets) : Bool := ((byKeys a b).then (lastResort a b)) != .gt
      let sorted := lines.mergeSort le
      let sorted := if g.has 'u' then
          sorted.foldr (fun line rest =>
            match rest with
            | next :: _ => if byKeys line next = .eq then line :: rest.tail else line :: rest
            | [] => [line]) []
        else sorted
      if g.has 'c' then c.quit (if sorted = lines then 0 else 1)
      else
        let text := ofLines sorted true
        match g.value? 'o' with
        | none => ⟨c.files, text, if ok then 0 else 2⟩
        | some path => c.forEach [path] fun fs path => fs.write c.cwd path (bytesOf text)

/-- Groups equal lines that follow each other: the first of each, and their number. -/
def runsOf (same : Octets → Octets → Bool) : List Octets → List (Octets × Nat)
  | [] => []
  | line :: rest =>
    match runsOf same rest with
    | (next, n) :: more =>
      if same line next then (line, n + 1) :: more else (line, 1) :: (next, n) :: more
    | [] => [(line, 1)]

def uniq (c : Call) : Outcome :=
  withOptions c (.of "cdui" "fsw" [("count", 'c'), ("repeated", 'd'), ("unique", 'u'),
      ("ignore-case", 'i')]) 1 fun g =>
    let (text, ok) := c.contents (g.operands.take 1)
    let key (line : Octets) : Octets := if g.has 'i' then line.map Char.toLower else line
    let runs := runsOf (fun a b => key a == key b) (linesOf text).1
    let runs := runs.filter fun (_, n) => (!g.has 'd' || 1 < n) && (!g.has 'u' || n = 1)
    let lines := runs.map fun (line, n) =>
      if g.has 'c' then rightAligned 7 n ++ ' ' :: line else line
    let text := ofLines lines true
    match g.operands.drop 1 with
    | path :: _ => c.forEach [path] fun fs path => fs.write c.cwd path (bytesOf text)
    | [] => c.give text ok

/-! ## Cutting -/

/-- Reads a list of ranges such as `1,3-5,7-`. -/
def ranges? (text : String) : Option (List (Nat × Option Nat)) :=
  (text.toList.splitOn ',').mapM fun part =>
    let number (ds : List Char) : Option Nat :=
      if ds.isEmpty || !ds.all Char.isDigit then none else some (Nat.ofDigitChars 10 ds 0)
    match part.splitOn '-' with
    | [n] => (number n).map fun n => (n, some n)
    | [a, b] =>
      if a.isEmpty && b.isEmpty then none
      else if a.isEmpty then (number b).map fun b => (1, some b)
      else if b.isEmpty then (number a).map fun a => (a, none)
      else do return (← number a, some (← number b))
    | _ => none

def pick (ranges : List (Nat × Option Nat)) (items : List α) : List α :=
  (items.zipIdx 1).filterMap fun (item, i) =>
    if ranges.any fun (a, b) => a ≤ i && b.all (i ≤ ·) then some item else none

def cut (c : Call) : Outcome :=
  withOptions c (.of "sn" "dfcbO" [("delimiter", 'd'), ("fields", 'f'), ("characters", 'c'),
      ("bytes", 'b'), ("only-delimited", 's'), ("output-delimiter", 'O')]) 1 fun g =>
    let (text, ok) := c.contents g.operands
    let delimiter := ((g.value? 'd').bind fun d => d.toList.head?).getD '\t'
    let glue := (g.value? 'O').elim [delimiter] octetsOf
    match (g.value? 'c' <|> g.value? 'b').map ranges?, (g.value? 'f').map ranges? with
    | some (some ranges), none => c.give (mapLines (pick ranges) text) ok
    | none, some (some ranges) =>
      let (lines, complete) := linesOf text
      let lines := lines.filterMap fun line =>
        if delimiter ∈ line then some (glue.intercalate (pick ranges (line.splitOn delimiter)))
        else if g.has 's' then none else some line
      c.give (ofLines lines (complete || lines.length < 1)) ok
    | _, _ => c.quit 1

/-! ## Replacing characters -/

def lettersOf (name : String) : List Char :=
  ((List.range 256).map Char.ofNat).filter (inClass name)

/-- The characters of a set: escapes, ranges and named classes. The fuel is its length. -/
def setOf : Nat → List Char → List Char
  | 0, _ => []
  | _, [] => []
  | fuel + 1, '[' :: ':' :: rest =>
    let name := rest.takeWhile Char.isAlpha
    match rest.drop name.length with
    | ':' :: ']' :: rest => lettersOf (String.ofList name) ++ setOf fuel rest
    | _ => '[' :: setOf fuel (':' :: rest)
  | fuel + 1, c :: rest =>
    let (c, rest) := match c, rest with
      | '\\', d :: more =>
        if '0' ≤ d && d ≤ '7' then
          let ds := ((d :: more).take 3).takeWhile fun c => '0' ≤ c && c ≤ '7'
          (Char.ofNat (ds.foldl (fun n c => n * 8 + (c.toNat - '0'.toNat)) 0 % 256),
            (d :: more).drop ds.length)
        else ((([('n', '\n'), ('t', '\t'), ('r', '\r'), ('a', '\x07'), ('b', '\x08'),
          ('f', '\x0c'), ('v', '\x0b')] : List (Char × Char)).lookup d).getD d, more)
      | c, rest => (c, rest)
    match rest with
    | '-' :: last :: rest =>
      if c ≤ last then
        ((List.range (last.toNat + 1 - c.toNat)).map fun i => Char.ofNat (c.toNat + i)) ++
          setOf fuel rest
      else c :: setOf fuel ('-' :: last :: rest)
    | rest => c :: setOf fuel rest

/-- Characters of a set that follow themselves are written once. -/
def squeeze (set : List Char) : Octets → Octets
  | a :: b :: rest =>
    if a = b && a ∈ set then squeeze set (b :: rest) else a :: squeeze set (b :: rest)
  | rest => rest

def tr (c : Call) : Outcome :=
  withOptions c (.of "cCdst" "" [("delete", 'd'), ("squeeze-repeats", 's'), ("complement", 'c')]) 1
    fun g =>
      let sets := g.operands.map fun text =>
        let cs := octetsOf text
        setOf cs.length cs
      let complement := g.has 'c' || g.has 'C'
      match sets with
      | [] => c.quit 1
      | first :: more =>
        let inFirst (d : Char) : Bool := (d ∈ first) != complement
        let members := if complement then ((List.range 256).map Char.ofNat).filter inFirst
          else first
        match more with
        | [] =>
          if g.has 'd' then c.print (c.input.filter fun d => !inFirst d)
          else if g.has 's' then c.print (squeeze members c.input)
          else c.quit 1
        | [second] =>
          if g.has 'd' then
            if g.has 's' then c.print (squeeze second (c.input.filter fun d => !inFirst d))
            else c.quit 1
          else
            match second.getLast? with
            | none => c.quit 1
            | some last =>
              let replace (d : Char) : Char :=
                if inFirst d then
                  let i := (members.length - 1) - (members.reverse.idxOf d)
                  (second[i]?).getD last
                else d
              let out := c.input.map replace
              c.print (if g.has 's' then squeeze second out else out)
        | _ => c.quit 1

/-! ## Other orders -/

def tac (c : Call) : Outcome :=
  withOptions c (.of "" "" []) 1 fun g =>
    let (found, ok) := c.readAll g.operands
    c.give (found.flatMap fun (_, text) => (wholeLines text).reverse.flatten) ok

def rev (c : Call) : Outcome :=
  withOptions c (.of "" "" []) 1 fun g =>
    let (text, ok) := c.contents g.operands
    c.give (mapLines List.reverse text) ok

/-- The lines with numbers in front, empty ones without. -/
def nl (c : Call) : Outcome :=
  withOptions c (.of "" "bwsn" []) 1 fun g =>
    let (text, ok) := c.contents g.operands
    let (lines, _) := linesOf text
    let all := g.value? 'b' = some "a"
    let lines := (numbered (!all) 1 lines).map fun line =>
      if line.isEmpty then List.replicate 7 ' ' else line
    c.give (ofLines lines true) ok

def paste (c : Call) : Outcome :=
  withOptions c (.of "s" "d" [("serial", 's'), ("delimiters", 'd')]) 1 fun g =>
    let (found, ok) := c.readAll g.operands
    let columns := found.map fun (_, text) => (linesOf text).1
    let glue : Octets := (g.value? 'd').elim ['\t'] fun d =>
      let cs := octetsOf d
      (setOf cs.length cs).take 1
    let rows := if g.has 's' then columns.map glue.intercalate
      else
        let height := (columns.map List.length).foldl max 0
        (List.range height).map fun i => glue.intercalate (columns.map fun col => (col[i]?).getD [])
    c.give (ofLines rows true) ok

def fold (c : Call) : Outcome :=
  withOptions c (.of "bs" "w" [("width", 'w')]) 1 fun g =>
    let (text, ok) := c.contents g.operands
    let width := max 1 (((g.value? 'w').bind String.toNat?).getD 80)
    let cutLine (line : Octets) : Octets :=
      let pieces := (line.length + width - 1) / width
      ['\n'].intercalate ((List.range pieces).map fun i => (line.drop (i * width)).take width)
    c.give (mapLines cutLine text) ok

def seq (c : Call) : Outcome :=
  let (separator, args) := match c.args with
    | "-s" :: s :: rest => (s, rest)
    | args => ("\n", args)
  let (equal, args) := match args with
    | "-w" :: rest => (true, rest)
    | args => (false, args)
  match args.mapM Condition.number? with
  | some numbers =>
    let bounds : Option (Int × Int × Int) := match numbers with
      | [last] => some (1, 1, last)
      | [first, last] => some (first, 1, last)
      | [first, step, last] => some (first, step, last)
      | _ => none
    match bounds with
    | none => c.quit 1
    | some (first, step, last) =>
      if step = 0 then c.quit 1
      else
        let count := ((last - first) / step + 1).toNat
        let values := (List.range count).map fun i => first + step * (i : Nat)
        let texts := values.map fun n => (toString n).toList
        let width := (texts.map List.length).foldl max 0
        let texts := if equal then texts.map fun t => List.replicate (width - t.length) '0' ++ t
          else texts
        if texts.isEmpty then c.print []
        else c.print ((octetsOf separator).intercalate texts ++ ['\n'])
  | none => c.quit 1

/-! ## Comparing -/

/-- The place of the first difference of two texts and the number of its line. -/
def firstDifference (a b : Octets) : Nat × Nat :=
  let common := ((a.zip b).takeWhile fun (x, y) => x == y).map (·.1)
  (common.length + 1, common.count '\n' + 1)

def cmp (c : Call) : Outcome :=
  withOptions c (.of "slb" "nNi" [("silent", 's'), ("quiet", 's'), ("verbose", 'l')]) 2 fun g =>
    match g.operands.take 2 with
    | [] => c.quit 2
    | first :: more =>
      match c.read? first, c.read? (more.headD "-") with
      | some a, some b =>
        if a = b then c.quit 0
        else
          let (place, line) := firstDifference a b
          let isShort := a.length < place || b.length < place
          let text := if g.has 's' || isShort then [] else
            octetsOf (first ++ " " ++ more.headD "-" ++ " differ: char " ++ place.repr ++
              ", line " ++ line.repr ++ "\n")
          ⟨c.files, text, 1⟩
      | _, _ => c.quit 2

def diff (c : Call) : Outcome :=
  withOptions c (.of "qsuwbBirNaEcZt" "UCI" [("brief", 'q'), ("unified", 'u'),
      ("report-identical-files", 's'), ("ignore-all-space", 'w'), ("recursive", 'r')]) 2 fun g =>
    match g.operands with
    | [first, second] =>
      let beside (path other : String) : String :=
        if path != "-" && c.files.leadsToDir c.cwd path && !c.files.leadsToDir c.cwd other then
          Path.join path (baseName other) else path
      match c.read? (beside first second), c.read? (beside second first) with
      | some a, some b =>
        let key (text : Octets) : Octets :=
          if g.has 'w' then text.filter fun c => !(c == ' ' || c == '\t') else text
        let key (text : Octets) : Octets :=
          if g.has 'i' then (key text).map Char.toLower else key text
        if key a = key b then c.quit 0
        else
          let text := "Files " ++ first ++ " and " ++ second ++ " differ\n"
          ⟨c.files, if g.has 'q' then octetsOf text else [], 1⟩
      | _, _ => c.quit 2
    | _ => c.quit 2

end ConformanceGate.Machine.Programs
