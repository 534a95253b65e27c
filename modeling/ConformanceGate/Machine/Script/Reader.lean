import ConformanceGate.Machine.Script.Basic

/-!
# Reading scripts

A script is read line by line, so that its first lines can be carried out even if a later one is
malformed. A command that is open at the end of a line goes on in the next one. All readers return
what they read and the rest of the text.
-/

namespace ConformanceGate.Machine

/-! ## Texts -/

def isBlank (c : Char) : Bool := c == ' ' || c == '\t'

def endsWord (c : Char) : Bool := c ∈ [' ', '\t', '\n', ';', '&', '|', '(', ')', '<', '>']

def skipBlanks : List Char → List Char
  | '\\' :: '\n' :: rest => skipBlanks rest
  | c :: rest =>
    if isBlank c then skipBlanks rest
    else if c = '#' then rest.dropWhile (· ≠ '\n')
    else c :: rest
  | [] => []

def skipLines : List Char → List Char
  | '\\' :: '\n' :: rest => skipLines rest
  | '#' :: rest => skipComment rest
  | c :: rest => if isBlank c || c = '\n' then skipLines rest else c :: rest
  | [] => []
where
  /-- Passes over a comment and what follows it. -/
  skipComment : List Char → List Char
    | '\n' :: rest => skipLines rest
    | _ :: rest => skipComment rest
    | [] => []

def addText (inQuotes : Bool) (text : String) : List Part → List Part
  | .literal s :: parts =>
    if inQuotes then .quoted text :: .literal s :: parts else .literal (s ++ text) :: parts
  | .quoted s :: parts =>
    if inQuotes then .quoted (s ++ text) :: parts else .literal text :: .quoted s :: parts
  | parts => (if inQuotes then .quoted text else .literal text) :: parts

/-- The surroundings in which the parts of a word are read. -/
inductive Surroundings
  | bare
  | quotes
  /-- The word of a parameter form, which ends at a closing brace. -/
  | braces (inQuotes : Bool)
  /-- A text of the script that follows a command. -/
  | document
  /-- An arithmetic expression, with the number of its open parentheses. -/
  | expression (depth : Nat)

def Surroundings.inQuotes : Surroundings → Bool
  | .bare | .braces false => false
  | _ => true

def Surroundings.escapes (s : Surroundings) (c : Char) : Bool :=
  match s with
  | .bare | .braces false => true
  | .braces true => c ∈ ['$', '\x60', '"', '\\', '\x7d']
  | .document => c ∈ ['$', '\x60', '\\']
  | .quotes | .expression _ => c ∈ ['$', '\x60', '"', '\\']

def cutBackquoted (inQuotes : Bool) (text : List Char) : List Char → Option (List Char × List Char)
  | '\\' :: c :: rest =>
    if c ∈ ['\x60', '\\', '$'] || (inQuotes && c = '"') then
      cutBackquoted inQuotes (c :: text) rest
    else cutBackquoted inQuotes (c :: '\\' :: text) rest
  | c :: rest =>
    if c = '\x60' then some (text.reverse, rest) else cutBackquoted inQuotes (c :: text) rest
  | [] => none

/-- The name of a parameter: a name, digits, or one special character. -/
def takeParameter (cs : List Char) : Option (String × List Char) :=
  match cs with
  | c :: rest =>
    if isNameStart c then
      some (String.ofList (c :: rest.takeWhile isNameChar), rest.dropWhile isNameChar)
    else if c.isDigit then
      some (String.ofList (c :: rest.takeWhile Char.isDigit), rest.dropWhile Char.isDigit)
    else if c ∈ ['@', '*', '#', '?', '-', '$', '!'] then some (String.ofList [c], rest)
    else none
  | [] => none

/-! ## Texts that follow a command -/

/-- The rest of a line, up to a line break outside of quotes, and what follows that. -/
def splitLine (quote : Option Char) (line : List Char) : List Char → List Char × List Char
  | [] => (line.reverse, [])
  | '\\' :: c :: rest =>
    if quote = some '\'' then splitLine quote ('\\' :: line) (c :: rest)
    else splitLine quote (c :: '\\' :: line) rest
  | c :: rest =>
    match quote with
    | some q => splitLine (if c = q then none else quote) (c :: line) rest
    | none =>
      if c = '\n' then (line.reverse, rest)
      else splitLine (if c = '"' || c = '\'' then some c else none) (c :: line) rest

/-- The word that ends a text, without its quotes, and whether it has any. -/
def takeMark (mark : List Char) (marked : Bool) : List Char → List Char × Bool × List Char
  | '\\' :: c :: rest => takeMark (c :: mark) true rest
  | c :: rest =>
    if c = '"' || c = '\'' then takeQuoted c mark rest
    else if endsWord c then (mark.reverse, marked, c :: rest)
    else takeMark (c :: mark) marked rest
  | [] => (mark.reverse, marked, [])
where
  /-- The part of the word between quotes. -/
  takeQuoted (quote : Char) (mark : List Char) : List Char → List Char × Bool × List Char
    | c :: rest =>
      if c = quote then takeMark mark true rest else takeQuoted quote (c :: mark) rest
    | [] => (mark.reverse, true, [])

/-- The text of the lines up to one that is the mark, and the lines after it. A last line has no
line break of its own. -/
def linesTo (mark : List Char) : List (List Char) → List Char × List (List Char)
  | [] => ([], [])
  | [line] => (if line = mark then [] else line, [])
  | line :: rest =>
    if line = mark then ([], rest)
    else let (text, rest) := linesTo mark rest; (line ++ '\n' :: text, rest)

/-- Cuts a text out that begins after the current line and ends with a line that is the mark: the
text, and what is left without it. Tabs in front of lines are dropped if `strip` is set. -/
def cutDocument (strip : Bool) (mark cs : List Char) : List Char × List Char :=
  let (line, after) := splitLine none [] cs
  let tidy (line : List Char) : List Char := if strip then line.dropWhile (· == '\t') else line
  let (body, rest) := linesTo mark ((after.splitOn '\n').map tidy)
  (body, line ++ '\n' :: ['\n'].intercalate rest)

/-! ## Words and commands -/

/-- The letters up to the end of a word, which are a reserved word perhaps. -/
def wordAhead (cs : List Char) : String := String.ofList (cs.takeWhile fun c => !endsWord c)

def closers : List String := ["do", "done", "then", "elif", "else", "fi", "esac", "\x7d"]

def atListEnd (cs : List Char) : Bool :=
  match cs with
  | [] | ')' :: _ | ';' :: ';' :: _ => true
  | cs => wordAhead cs ∈ closers

def expect (keyword : String) (cs : List Char) : Option (List Char) :=
  let cs := skipLines cs
  if wordAhead cs = keyword then some (cs.drop keyword.length) else none

def takeRedirection? (cs : List Char) : Option (Option Nat × List Char × List Char) :=
  let (stream, rest) := match cs with
    | c :: rest => if c.isDigit then (some (c.toNat - '0'.toNat), rest) else (none, cs)
    | [] => (none, cs)
  let signs := ["<<-", "<<", "<&", "<>", "<", ">>", ">&", ">|", ">"]
  (signs.find? fun sign => sign.toList.isPrefixOf rest).map fun sign =>
    (stream, sign.toList, rest.drop sign.length)

def takeAssignment? (cs : List Char) : Option (String × List Char) :=
  let name := String.ofList (cs.takeWhile isNameChar)
  match cs.dropWhile isNameChar with
  | '=' :: rest => if isName name then some (name, rest) else none
  | _ => none

mutual

/-- Reads the parts of a word; `parts` holds the ones so far, the last one first. The fuel is above
the length of the text. -/
def readParts : Nat → Surroundings → List Part → List Char → Option (Word × List Char)
  | 0, _, _, _ => none
  | fuel + 1, s, parts, cs =>
    let plain (c : Char) (rest : List Char) : Option (Word × List Char) :=
      readParts fuel s (addText s.inQuotes (String.ofList [c]) parts) rest
    match cs with
    | [] =>
      match s with
      | .bare | .document => some (parts.reverse, [])
      | _ => none
    | '\\' :: '\n' :: rest => readParts fuel s parts rest
    | '\\' :: c :: rest =>
      if s.escapes c then readParts fuel s (addText true (String.ofList [c]) parts) rest
      else readParts fuel s (addText s.inQuotes (String.ofList ['\\', c]) parts) rest
    | '$' :: rest => do
      let (part, rest) ← readDollar fuel s.inQuotes rest
      match part with
      | some part => readParts fuel s (part :: parts) rest
      | none => readParts fuel s (addText s.inQuotes "$" parts) rest
    | '\x60' :: rest => do
      let (text, rest) ← cutBackquoted s.inQuotes [] rest
      let (commands, left) ← readList fuel text
      if !left.isEmpty then none
      else readParts fuel s (.output (.sequence commands) s.inQuotes :: parts) rest
    | '"' :: rest =>
      match s with
      | .quotes => some (parts.reverse, rest)
      | .braces true => readParts fuel s parts rest
      | .document | .expression _ => plain '"' rest
      | .bare | .braces false => do
        let (inner, rest) ← readParts fuel .quotes [] rest
        let inner := if inner.isEmpty then [.quoted ""] else inner
        readParts fuel s (inner.reverse ++ parts) rest
    | '\'' :: rest =>
      if s.inQuotes then plain '\'' rest
      else
        match rest.dropWhile (· ≠ '\'') with
        | [] => none
        | _ :: after =>
          let inner := String.ofList (rest.takeWhile (· ≠ '\''))
          readParts fuel s (addText true inner parts) after
    | c :: rest =>
      match s with
      | .bare => if endsWord c then some (parts.reverse, c :: rest) else plain c rest
      | .braces _ => if c = '\x7d' then some (parts.reverse, rest) else plain c rest
      | .expression depth =>
        if c = '(' then
          readParts fuel (.expression (depth + 1)) (addText true "(" parts) rest
        else if c = ')' then
          match depth with
          | 0 =>
            match rest with
            | ')' :: rest => some (parts.reverse, rest)
            | _ => none
          | depth + 1 => readParts fuel (.expression depth) (addText true ")" parts) rest
        else plain c rest
      | _ => plain c rest

/-- Reads what a dollar sign begins; the sign may stand for itself. -/
def readDollar : Nat → Bool → List Char → Option (Option Part × List Char)
  | 0, _, _ => none
  | fuel + 1, inQuotes, cs =>
    match cs with
    | '(' :: '(' :: rest => do
      let (parts, rest) ← readParts fuel (.expression 0) [] rest
      return (some (.value parts inQuotes), rest)
    | '(' :: rest => do
      let (commands, rest) ← readList fuel rest
      match rest with
      | ')' :: rest => return (some (.output (.sequence commands) inQuotes), rest)
      | _ => none
    | '\x7b' :: rest => do
      let (part, rest) ← readBraced fuel inQuotes rest
      return (some part, rest)
    | c :: rest =>
      if c.isDigit then some (some (.parameter (String.ofList [c]) .plain inQuotes), rest)
      else
        match takeParameter (c :: rest) with
        | some (name, rest) => some (some (.parameter name .plain inQuotes), rest)
        | none => some (none, c :: rest)
    | [] => some (none, [])

def readBraced : Nat → Bool → List Char → Option (Part × List Char)
  | 0, _, _ => none
  | fuel + 1, inQuotes, cs => do
    let length? : Option (Part × List Char) := match cs with
      | '#' :: rest =>
        match takeParameter rest with
        | some (name, '\x7d' :: rest) => some (.parameter name .length inQuotes, rest)
        | _ => none
      | _ => none
    match length? with
    | some found => return found
    | none =>
      let (name, rest) ← takeParameter cs
      let (emptyToo, rest) := match rest with
        | ':' :: rest => (true, rest)
        | rest => (false, rest)
      let word (use : Word → Use) (rest : List Char) (asPattern : Bool) :
          Option (Part × List Char) := do
        let (parts, rest) ← readParts fuel (.braces (inQuotes && !asPattern)) [] rest
        return (.parameter name (use parts) inQuotes, rest)
      match rest with
      | '-' :: rest => word (.fallback emptyToo) rest false
      | '=' :: rest => word (.assign emptyToo) rest false
      | '?' :: rest => word (.demand emptyToo) rest false
      | '+' :: rest => word (.alternative emptyToo) rest false
      | _ =>
        if emptyToo then none
        else match rest with
          | '\x7d' :: rest => return (.parameter name .plain inQuotes, rest)
          | '#' :: '#' :: rest => word (.trim false true) rest true
          | '#' :: rest => word (.trim false false) rest true
          | '%' :: '%' :: rest => word (.trim true true) rest true
          | '%' :: rest => word (.trim true false) rest true
          | _ => none

/-- Reads a word that must not be empty. -/
def readWord : Nat → List Char → Option (Word × List Char)
  | 0, _ => none
  | fuel + 1, cs =>
    match skipBlanks cs with
    | [] => none
    | c :: rest => if endsWord c then none else readParts fuel .bare [] (c :: rest)

def readRedirection : Nat → Option Nat → List Char → List Char →
    Option (Redirection × List Char)
  | 0, _, _, _ => none
  | fuel + 1, stream, sign, cs => do
    let input := stream.getD 0
    let output := stream.getD 1
    match sign with
    | '<' :: '<' :: strip =>
      let (mark, marked, rest) := takeMark [] false (skipBlanks cs)
      if mark.isEmpty && !marked then none
      else
        let (body, rest) := cutDocument (!strip.isEmpty) mark rest
        if marked then return (.text input [.quoted (String.ofList body)], rest)
        else
          let (parts, _) ← readParts fuel .document [] body
          return (.text input parts, rest)
    | ['<', '&'] => do
      let (word, rest) ← readWord fuel cs
      return (.copy input word, rest)
    | ['>', '&'] => do
      let (word, rest) ← readWord fuel cs
      return (.copy output word, rest)
    | sign => do
      let (word, rest) ← readWord fuel cs
      let file := match sign with
        | ['<'] => Redirection.file input .read word
        | ['<', '>'] => .file input .both word
        | ['>', '>'] => .file output .append word
        | ['>', '|'] => .file output (.write true) word
        | _ => .file output (.write false) word
      return (file, rest)

def readRedirections : Nat → List Char → Option (List Redirection × List Char)
  | 0, _ => none
  | fuel + 1, cs => do
    let cs := skipBlanks cs
    match takeRedirection? cs with
    | none => return ([], cs)
    | some (stream, sign, rest) => do
      let (r, rest) ← readRedirection fuel stream sign rest
      let (rs, rest) ← readRedirections fuel rest
      return (r :: rs, rest)

/-- Reads the assignments, words and redirections of a simple command, or the definition of a
function. The lists hold the ones so far, the last one first. -/
def readSimple : Nat → List (String × Word) → List Word → List Redirection → List Char →
    Option (Command × List Char)
  | 0, _, _, _, _ => none
  | fuel + 1, assignments, words, rs, cs => do
    let cs := skipBlanks cs
    match takeRedirection? cs with
    | some (stream, sign, rest) => do
      let (r, rest) ← readRedirection fuel stream sign rest
      readSimple fuel assignments words (r :: rs) rest
    | none =>
      match cs with
      | '(' :: rest =>
        match words, assignments.isEmpty && rs.isEmpty, skipBlanks rest with
        | [[.literal name]], true, ')' :: rest =>
          if isName name && !(name ∈ special) then do
            let (body, rest) ← readCommand fuel (skipLines rest)
            return (.define name body, rest)
          else none
        | _, _, _ => none
      | cs =>
        if cs.isEmpty || cs.head?.any endsWord then
          if assignments.isEmpty && words.isEmpty && rs.isEmpty then none
          else return (.simple assignments.reverse words.reverse rs.reverse, cs)
        else
          match if words.isEmpty then takeAssignment? cs else none with
          | some (name, rest) => do
            let (value, rest) ← readParts fuel .bare [] rest
            readSimple fuel ((name, value) :: assignments) words rs rest
          | none => do
            let (word, rest) ← readParts fuel .bare [] cs
            readSimple fuel assignments (word :: words) rs rest

def readWords : Nat → List Char → Option (List Word × List Char)
  | 0, _ => none
  | fuel + 1, cs =>
    match skipBlanks cs with
    | '\n' :: rest | ';' :: rest => some ([], rest)
    | cs => do
      let (word, rest) ← readWord fuel cs
      let (words, rest) ← readWords fuel rest
      return (word :: words, rest)

/-- Reads the patterns of an arm with bars between them, and the parenthesis that closes them. -/
def readPatterns : Nat → List Char → Option (List Word × List Char)
  | 0, _ => none
  | fuel + 1, cs => do
    let (pattern, rest) ← readWord fuel cs
    match skipBlanks rest with
    | '|' :: rest => do
      let (patterns, rest) ← readPatterns fuel rest
      return (pattern :: patterns, rest)
    | ')' :: rest => return ([pattern], rest)
    | _ => none

def readArms : Nat → List Char → Option (List (List Word × Command) × List Char)
  | 0, _ => none
  | fuel + 1, cs => do
    let cs := skipLines cs
    if wordAhead cs = "esac" then return ([], cs.drop 4)
    else
      let cs := match cs with
        | '(' :: rest => rest
        | cs => cs
      let (patterns, rest) ← readPatterns fuel cs
      let (body, rest) ← readList fuel rest
      match rest with
      | ';' :: ';' :: rest => do
        let (arms, rest) ← readArms fuel rest
        return ((patterns, .sequence body) :: arms, rest)
      | rest => do
        let rest ← expect "esac" rest
        return ([(patterns, .sequence body)], rest)

/-- Reads commands up to the end of the list, which is left in the text. -/
def readList : Nat → List Char → Option (List Command × List Char)
  | 0, _ => none
  | fuel + 1, cs =>
    let cs := skipLines cs
    if atListEnd cs then some ([], cs)
    else do
      let (c, rest) ← readChain fuel cs
      match skipBlanks rest with
      | ';' :: ';' :: rest => return ([c], ';' :: ';' :: rest)
      | ';' :: rest | '\n' :: rest => do
        let (cs, rest) ← readList fuel rest
        return (c :: cs, rest)
      | '&' :: rest => do
        let (cs, rest) ← readList fuel rest
        return (.background c :: cs, rest)
      | rest => if atListEnd rest then return ([c], rest) else none

/-- Reads a list of at least one command. -/
def readBlock : Nat → List Char → Option (Command × List Char)
  | 0, _ => none
  | fuel + 1, cs => do
    let (commands, rest) ← readList fuel cs
    if commands.isEmpty then none else return (.sequence commands, rest)

def readChain : Nat → List Char → Option (Command × List Char)
  | 0, _ => none
  | fuel + 1, cs => do
    let (c, rest) ← readPipeline fuel cs
    readJoined fuel c rest

def readJoined : Nat → Command → List Char → Option (Command × List Char)
  | 0, _, _ => none
  | fuel + 1, first, cs =>
    match skipBlanks cs with
    | '&' :: '&' :: rest => do
      let (second, rest) ← readPipeline fuel (skipLines rest)
      readJoined fuel (.both first second) rest
    | '|' :: '|' :: rest => do
      let (second, rest) ← readPipeline fuel (skipLines rest)
      readJoined fuel (.either first second) rest
    | rest => some (first, rest)

def readPipeline : Nat → List Char → Option (Command × List Char)
  | 0, _ => none
  | fuel + 1, cs =>
    let cs := skipBlanks cs
    let negated := wordAhead cs == "!"
    do
      let (c, rest) ← readCommand fuel (if negated then cs.drop 1 else cs)
      let (more, rest) ← readPiped fuel rest
      let c := if more.isEmpty then c else .pipeline (c :: more)
      return (if negated then .negate c else c, rest)

def readPiped : Nat → List Char → Option (List Command × List Char)
  | 0, _ => none
  | fuel + 1, cs =>
    match skipBlanks cs with
    | '|' :: '|' :: rest => some ([], '|' :: '|' :: rest)
    | '|' :: rest => do
      let (c, rest) ← readCommand fuel (skipLines rest)
      let (more, rest) ← readPiped fuel rest
      return (c :: more, rest)
    | rest => some ([], rest)

def readCommand : Nat → List Char → Option (Command × List Char)
  | 0, _ => none
  | fuel + 1, cs => do
    let cs := skipBlanks cs
    let finish (c : Command) (rest : List Char) : Option (Command × List Char) := do
      let (rs, rest) ← readRedirections fuel rest
      return (if rs.isEmpty then c else .redirected c rs, rest)
    let keyword := wordAhead cs
    let after := cs.drop keyword.length
    match cs with
    | '(' :: rest => do
      let (c, rest) ← readBlock fuel rest
      match rest with
      | ')' :: rest => finish (.group c) rest
      | _ => none
    | cs =>
      if keyword = "\x7b" then do
        let (c, rest) ← readBlock fuel after
        finish c (← expect "\x7d" rest)
      else if keyword = "while" || keyword = "until" then do
        let (condition, rest) ← readBlock fuel after
        let (body, rest) ← readBlock fuel (← expect "do" rest)
        finish (.loop (keyword == "until") condition body) (← expect "done" rest)
      else if keyword = "if" then do
        let (c, rest) ← readBranch fuel after
        finish c rest
      else if keyword = "for" then do
        let after := skipBlanks after
        let name := wordAhead after
        if !isName name then none
        let rest := skipLines (after.drop name.length)
        let (words, rest) ←
          if wordAhead rest = "in" then readWords fuel (rest.drop 2)
          else match rest with
            | ';' :: rest => some ([[.parameter "@" .plain true]], rest)
            | rest => some ([[.parameter "@" .plain true]], rest)
        let (body, rest) ← readBlock fuel (← expect "do" rest)
        finish (.each name words body) (← expect "done" rest)
      else if keyword = "case" then do
        let (subject, rest) ← readWord fuel after
        let (arms, rest) ← readArms fuel (← expect "in" rest)
        finish (.choice subject arms) rest
      else if keyword ∈ closers || keyword = "!" then none
      else readSimple fuel [] [] [] cs

def readBranch : Nat → List Char → Option (Command × List Char)
  | 0, _ => none
  | fuel + 1, cs => do
    let (condition, rest) ← readBlock fuel cs
    let (yes, rest) ← readBlock fuel (← expect "then" rest)
    let rest := skipLines rest
    let keyword := wordAhead rest
    let after := rest.drop keyword.length
    if keyword = "fi" then return (.branch condition yes (.sequence []), after)
    else if keyword = "elif" then do
      let (no, rest) ← readBranch fuel after
      return (.branch condition yes no, rest)
    else if keyword = "else" then do
      let (no, rest) ← readBlock fuel after
      return (.branch condition yes no, ← expect "fi" rest)
    else none

end

/-! ## Lines -/

/-- What stands at the front of a script. -/
inductive Line
  | finished
  | malformed
  /-- The commands of a line and the rest; `isLast` tells that the text ends right after them. -/
  | commands (command : Command) (rest : List Char) (isLast : Bool)

def readCommands : Nat → Nat → List Command → List Char → Line
  | 0, _, _, _ => .malformed
  | fuel + 1, limit, done, cs =>
    match readChain limit cs with
    | none => .malformed
    | some (c, rest) =>
      let stop (c : Command) (rest : List Char) (isLast : Bool) : Line :=
        .commands (.sequence (c :: done).reverse) rest isLast
      let goOn (c : Command) (rest : List Char) : Line :=
        match skipBlanks rest with
        | [] => stop c [] true
        | '\n' :: rest => stop c rest false
        | rest => readCommands fuel limit (c :: done) rest
      match skipBlanks rest with
      | [] => stop c [] true
      | '\n' :: rest => stop c rest false
      | ';' :: ';' :: _ => .malformed
      | ';' :: rest => goOn c rest
      | '&' :: rest => goOn (.background c) rest
      | _ => .malformed

def readLine (cs : List Char) : Line :=
  match skipLines cs with
  | [] => .finished
  | cs => readCommands (cs.length + 1) (16 * cs.length + 64) [] cs

end ConformanceGate.Machine
