import ConformanceGate.Machine.Shell.Preparation

/-!
# Commands on variables

The commands of scripts that set variables, arguments and options, or read lines into variables.
-/

namespace ConformanceGate.Machine.Shell

abbrev Builtin := Machine → Process → List String → Machine

/-! ## Declaring -/

/-- The name and the value of an argument such as `name=value`. -/
def assignmentOf (arg : String) : String × Option String :=
  let name := arg.toList.takeWhile (· ≠ '=')
  (String.ofList name,
    if name.length < arg.length then some (String.ofList (arg.toList.drop (name.length + 1)))
    else none)

/-- Declares variables; `change` tells what becomes of each one. Bad names end the script, and so
does a value for a variable that is fixed. -/
def declare (change : Variable → Variable) : Builtin := fun m p args =>
  let args := if args.head? = some "--" then args.tail else args
  let declared := args.foldlM (fun p arg =>
    let (name, value) := assignmentOf arg
    let old : Variable := (p.bindings.lookup name).getD ⟨none, false, false⟩
    if !isName name || (value.isSome && old.fixed) then none
    else some (p.putVariable name (change { old with value := value <|> old.value }))) p
  match declared with
  | some p => proceed m p 0
  | none => abandon m p 2

def makeLocal : Builtin := fun m p args =>
  match p.frames with
  | [] => abandon m p 2
  | frame :: frames =>
    let args := args.filter (· ≠ "-")
    let made := args.foldlM (fun ((p : Process), frame) arg =>
      let (name, value) := assignmentOf arg
      if !isName name || (value.isSome && p.isFixed name) then none
      else
        let frame : List (String × Option Variable) :=
          if frame.any (·.1 == name) then frame else (name, p.bindings.lookup name) :: frame
        some ((value.elim p (p.assign name), frame))) (p, frame)
    match made with
    | some (p, frame) => proceed m { p with frames := frame :: frames } 0
    | none => abandon m p 2

def unset : Builtin := fun m p args =>
  let functions := args.head? = some "-f"
  let names := if functions || args.head? = some "-v" then args.tail else args
  if functions then
    proceed m { p with functions := p.functions.filter fun f => !names.contains f.1 } 0
  else if names.any p.isFixed then abandon m p 2
  else proceed m { p with bindings := p.bindings.filter fun v => !names.contains v.1 } 0

/-! ## Arguments and options -/

/-- The number that comes first among the arguments, if it is not too large. -/
def numberOr (default : Nat) : List String → Option Nat
  | [] => some default
  | text :: _ => text.toNat?.filter (· < 1 <<< 31)

def shift : Builtin := fun m p args =>
  match numberOr 1 args with
  | some n =>
    if p.args.length < n then abandon m p 2
    else proceed m { p with args := p.args.drop n } 0
  | none => abandon m p 2

def optionNames : List (String × Char) := [
  ("errexit", 'e'), ("noglob", 'f'), ("ignoreeof", 'I'), ("interactive", 'i'), ("monitor", 'm'),
  ("noexec", 'n'), ("stdin", 's'), ("xtrace", 'x'), ("verbose", 'v'), ("vi", 'V'), ("emacs", 'E'),
  ("noclobber", 'C'), ("allexport", 'a'), ("notify", 'b'), ("nounset", 'u')]

def optionLetters : List Char := optionNames.map (·.2)

def setFlag (on : Bool) (flags : List Char) (letter : Char) : List Char :=
  let others := flags.filter (· ≠ letter)
  if on then letter :: others else others

/-- Reads options: the flags, and the other arguments if there are any. Letters in `extra` are set
like options. -/
def readFlags (extra : List Char) :
    List Char → List String → Option (List Char × Option (List String))
  | flags, [] => some (flags, none)
  | flags, arg :: rest =>
    match arg.toList with
    | ['-', '-'] => some (flags, some rest)
    | ['-'] =>
      some (flags.filter fun c => c ≠ 'x' && c ≠ 'v', if rest.isEmpty then none else some rest)
    | sign :: c :: letters =>
      if sign ≠ '-' && sign ≠ '+' then some (flags, some (arg :: rest))
      else
        let known := (c :: letters).all fun c => c = 'o' || c ∈ optionLetters || c ∈ extra
        let plain := (c :: letters).filter (· ≠ 'o')
        let flags := plain.foldl (setFlag (sign == '-')) flags
        if !known then none
        else if 'o' ∈ c :: letters then
          match rest with
          | [] => some (flags, none)
          | name :: rest =>
            match optionNames.lookup name with
            | some letter => readFlags extra (setFlag (sign == '-') flags letter) rest
            | none => none
        else readFlags extra flags rest
    | _ => some (flags, some (arg :: rest))
termination_by _ args => args.length

def set : Builtin := fun m p args =>
  match readFlags [] p.flags args with
  | some (flags, args) => proceed m { p with flags := flags, args := args.getD p.args } 0
  | none => abandon m p 2

/-! ## Options of scripts -/

/-- Where the next option is looked for: the index of the next argument, and what is left of the
current one. -/
def optionText? (p : Process) (args : List String) : Option (Nat × List Char) :=
  let index := (((p.value? "OPTIND").bind String.toNat?).getD 1) - 1
  let left := match p.optionPlace, args[index - 1]? with
    | some place, some arg => if index = 0 then [] else arg.toList.drop place
    | _, _ => []
  if !left.isEmpty then some (index, left)
  else match (args[index]?).map String.toList with
    | some ('-' :: c :: letters) =>
      if c = '-' && letters.isEmpty then none else some (index + 1, c :: letters)
    | _ => none

def getopts : Builtin := fun m p args =>
  match args with
  | known :: name :: rest =>
    let args := if rest.isEmpty then p.args else rest
    let quiet := known.startsWith ":"
    let finish (p : Process) (place : Option Nat) (index : Nat) (sign : String) (status : Nat) :
        Machine :=
      let p := { p with optionPlace := place }
      proceed m ((p.assign "OPTIND" (index + 1).repr).assign name sign) status
    let without (p : Process) : Process :=
      { p with bindings := p.bindings.filter (·.1 != "OPTARG") }
    match optionText? p args with
    | none =>
      let index := (((p.value? "OPTIND").bind String.toNat?).getD 1) - 1
      let index := if args[index]? = some "--" then index + 1 else index
      finish p none index "?" 1
    | some (_, []) => finish p none 0 "?" 1
    | some (index, c :: left) =>
      let letter := String.ofList [c]
      let length := ((args[index - 1]?).getD "").length
      let place := some (length - left.length)
      match (known.toList.dropWhile (· ≠ c)).drop 1, c ∈ known.toList && c != ':' with
      | _, false =>
        if quiet then finish (p.assign "OPTARG" letter) place index "?" 0
        else finish (without p) place index "?" 0
      | ':' :: _, true =>
        if !left.isEmpty then finish (p.assign "OPTARG" (String.ofList left)) none index letter 0
        else match args[index]? with
          | some value => finish (p.assign "OPTARG" value) none (index + 1) letter 0
          | none =>
            if quiet then finish (p.assign "OPTARG" letter) none index ":" 0
            else finish (without p) none index "?" 0
      | _, true => finish (p.assign "OPTARG" "") place index letter 0
  | _ => proceed m p 2

/-! ## Reading lines -/

/-- The marks of a line. A backslash takes the meaning of what follows away, unless `raw` is set. -/
def lineMarks (raw : Bool) : List Char → List Mark
  | '\\' :: c :: rest =>
    if raw then ⟨'\\', false⟩ :: lineMarks raw (c :: rest)
    else if c = '\n' then lineMarks raw rest
    else ⟨c, true⟩ :: lineMarks raw rest
  | c :: rest => if c = '\\' && !raw then [] else ⟨c, false⟩ :: lineMarks raw rest
  | [] => []

/-- The values of variables that a line is split into; the last one takes all that is left. -/
def lineFields (separators : List Char) : Nat → List Mark → List String
  | 0, _ => []
  | count + 1, ms =>
    let separates (m : Mark) : Bool := !m.quoted && m.char ∈ separators
    let isSpace (m : Mark) : Bool := separates m && m.char ∈ [' ', '\t', '\n']
    let ms := ms.dropWhile isSpace
    if count = 0 then
      let tidy := (ms.reverse.dropWhile isSpace).reverse
      -- a single separator at the end of a field is not part of it
      let plain := tidy.dropLast
      let isCut := (tidy.getLast?).any separates && !plain.any separates
      [textOf (if isCut then plain else tidy)]
    else
      let field := ms.takeWhile fun m => !separates m
      let rest := (ms.drop field.length).dropWhile isSpace
      let rest := if rest.head?.any separates then rest.tail else rest
      textOf field :: lineFields separators count rest

def assignLine (m : Machine) (p : Process) (raw : Bool) (names : List String) (line : List Char)
    (status : Nat) : Machine :=
  let text := (textOfOctets line.reverse).toList
  let values := lineFields p.separators names.length (lineMarks raw text)
  if names.any p.isFixed then proceed m p 2
  else proceed m ((names.zip values).foldl (fun p (name, value) => p.assign name value) p) status

/-- Whether a backslash at the end of a line, which is given in reverse, makes it go on. -/
def isContinued (line : List Char) : Bool := (line.takeWhile (· == '\\')).length % 2 == 1

/-- Reads octets up to the end of a line. The fuel bounds their number. -/
def readOctets (raw : Bool) (names : List String) : Nat → Machine → Process → List Char → Machine
  | 0, m, p, line => goOn m p [.input raw names line]
  | fuel + 1, m, p, line =>
    match m.readStream p 0 1 with
    | .refused => assignLine m p raw names line 1
    | .blocked pipe =>
      m.put { p with todo := .input raw names line :: p.todo, waiting := some (.input pipe) }
    | .bytes m bytes =>
      match (octets bytes).head? with
      | none => assignLine m p raw names line 1
      | some '\n' =>
        if !raw && isContinued line then readOctets raw names fuel m p ('\n' :: line)
        else assignLine m p raw names line 0
      | some c => readOctets raw names fuel m p (c :: line)

def read : Builtin := fun m p args =>
  match (OptionTable.of "r" "p" []).read args with
  | some g =>
    if g.operands.isEmpty || !g.operands.all isName then proceed m p 2
    else goOn m p [.input (g.has 'r') g.operands []]
  | none => proceed m p 2

end ConformanceGate.Machine.Shell
