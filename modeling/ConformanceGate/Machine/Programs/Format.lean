import ConformanceGate.Machine.Fraction
import ConformanceGate.Machine.Octets
import ConformanceGate.Machine.Programs.Condition

/-!
# Formatted output

The texts that scripts print: arguments as they are, or filled into a format.
-/

namespace ConformanceGate.Machine

/-! ## Escapes -/

def isOctal (c : Char) : Bool := '0' ≤ c && c ≤ '7'

def octalCode (cs : List Char) : Char × List Char :=
  let ds := (cs.take 3).takeWhile isOctal
  (Char.ofNat ((ds.foldl (fun n c => n * 8 + (c.toNat - '0'.toNat)) 0) % 256), cs.drop ds.length)

def letterEscape? (c : Char) : Option Char :=
  [('a', '\x07'), ('b', '\x08'), ('e', '\x1b'), ('f', '\x0c'), ('n', '\n'), ('r', '\r'),
    ('t', '\t'), ('v', '\x0b'), ('\\', '\\')].lookup c

/-- Replaces what backslashes begin. Octal codes may have a zero in front if `zero` is set, and then
`\c` ends the output, which the second value tells. The fuel is above the length of the text. -/
def unescape (zero : Bool) : Nat → List Char → List Char × Bool
  | 0, _ => ([], false)
  | _, [] => ([], false)
  | fuel + 1, c :: rest =>
    let put (c : Char) (rest : List Char) : List Char × Bool :=
      let (out, stop) := unescape zero fuel rest
      (c :: out, stop)
    if c ≠ '\\' then put c rest
    else match rest with
      | [] => put '\\' []
      | d :: more =>
        if zero && d = 'c' then ([], true)
        else if isOctal d then
          let digits := if zero && d = '0' && more.head?.any isOctal then more else rest
          let (code, rest) := octalCode digits
          put code rest
        else
          match letterEscape? d with
          | some e => put e more
          | none => put '\\' rest

/-- The arguments with blanks between them, and a line break unless `-n` comes first. -/
def echoText (args : List String) : Octets :=
  let (args, line) := match args with
    | "-n" :: rest => (rest, false)
    | args => (args, true)
  let text := octetsOf (" ".intercalate args)
  let (out, stop) := unescape true (text.length + 1) text
  out ++ if line && !stop then ['\n'] else []

/-! ## Formats -/

/-- How a value is filled into a format. -/
structure Slot where
  left : Bool
  zero : Bool
  plus : Bool
  space : Bool
  alternate : Bool
  width : Nat
  precision : Option Nat
  kind : Char

def Slot.fit (s : Slot) (text : Octets) : Octets :=
  let blanks := List.replicate (s.width - text.length) ' '
  if s.left then text ++ blanks else blanks ++ text

/-- A number that fills a width: a sign and digits. -/
def Slot.fitNumber (s : Slot) (sign digits : List Char) : Octets :=
  let digits := match s.precision with
    | some n => List.replicate (n - digits.length) '0' ++ digits
    | none => digits
  if s.zero && !s.left && s.precision.isNone then
    sign ++ List.replicate (s.width - sign.length - digits.length) '0' ++ digits
  else s.fit (sign ++ digits)

def Slot.sign (s : Slot) (negative : Bool) : List Char :=
  if negative then ['-'] else if s.plus then ['+'] else if s.space then [' '] else []

def codeIn? (base : Nat) (ds : List Char) : Option Nat :=
  let digit? (c : Char) : Option Nat :=
    let n := if c.isDigit then c.toNat - '0'.toNat else (c.toLower.toNat - 'a'.toNat) + 10
    if c.isAlphanum && n < base then some n else none
  if ds.isEmpty then none else ds.foldlM (fun n c => (digit? c).map (n * base + ·)) 0

def wholeArgument (text : String) : Int × Bool :=
  match text.toList with
  | [] => (0, true)
  | '"' :: c :: _ | '\'' :: c :: _ => (c.toNat, true)
  | cs =>
    let (negative, ds) := match cs with
      | '-' :: ds => (true, ds)
      | '+' :: ds => (false, ds)
      | ds => (false, ds)
    let found := match ds with
      | '0' :: 'x' :: hex | '0' :: 'X' :: hex => codeIn? 16 hex
      | '0' :: octal => if octal.isEmpty then some 0 else codeIn? 8 octal
      | ds => codeIn? 10 ds
    match found with
    | some n => (if negative then -(n : Int) else n, true)
    | none =>
      let n := Nat.ofDigitChars 10 (ds.takeWhile Char.isDigit) 0
      (if negative then -(n : Int) else n, false)

def numberArgument (text : String) : Fraction × Bool :=
  match text.toList with
  | [] => (.ofInt 0, true)
  | '"' :: c :: _ | '\'' :: c :: _ => (.ofInt c.toNat, true)
  | cs =>
    match Fraction.take? cs with
    | some (x, rest) => (x, rest.isEmpty)
    | none => (.ofInt 0, false)

/-- Fills a slot with a number that is not whole. -/
def Slot.fillNumber (s : Slot) (x : Fraction) : Octets :=
  let places := s.precision.getD 6
  let mark := if s.kind.isUpper then 'E' else 'e'
  let digits := match s.kind with
    | 'f' | 'F' => x.placesText places
    | 'e' | 'E' => x.scientificText places mark
    | _ => x.generalText places mark
  { s with precision := none }.fitNumber (s.sign (x.num < 0)) digits

/-- Fills a slot with a whole number. Without a sign it counts as one of 64 bits. -/
def Slot.fillWhole (s : Slot) (n : Int) : Octets :=
  let unsigned (base : Nat) (mark : List Char) : Octets :=
    let n := (n % 18446744073709551616).toNat
    let digits := Nat.toDigits base n
    let digits := if s.kind = 'X' then digits.map Char.toUpper else digits
    s.fitNumber (if s.alternate && n ≠ 0 then mark else []) digits
  match s.kind with
  | 'u' => unsigned 10 []
  | 'o' => unsigned 8 ['0']
  | 'x' => unsigned 16 ['0', 'x']
  | 'X' => unsigned 16 ['0', 'X']
  | _ => s.fitNumber (s.sign (n < 0)) (Nat.toDigits 10 n.natAbs)

def Slot.fillText (s : Slot) (text : Octets) : Octets :=
  s.fit (match s.precision with | some n => text.take n | none => text)

/-- Fills a slot with an argument: the text, whether the argument fits, and whether the output ends.
-/
def Slot.fill (s : Slot) (arg : String) : Octets × Bool × Bool :=
  match s.kind with
  | 'd' | 'i' | 'u' | 'o' | 'x' | 'X' =>
    let (n, ok) := wholeArgument arg
    (s.fillWhole n, ok, false)
  | 'f' | 'F' | 'e' | 'E' | 'g' | 'G' =>
    let (x, ok) := numberArgument arg
    (s.fillNumber x, ok, false)
  | 'c' => (s.fit ((octetsOf arg).take 1), true, false)
  | 'b' =>
    let text := octetsOf arg
    let (out, stop) := unescape true (text.length + 1) text
    (s.fit out, true, stop)
  | _ => (s.fillText (octetsOf arg), true, false)

def conversions : List Char :=
  ['d', 'i', 'u', 'o', 'x', 'X', 'f', 'F', 'e', 'E', 'g', 'G', 'c', 'b', 's']

def readWidth (cs : List Char) (args : List String) : Option Nat × List Char × List String :=
  match cs with
  | '*' :: rest => (some (wholeArgument (args.headD "")).1.toNat, rest, args.tail)
  | cs =>
    let ds := cs.takeWhile Char.isDigit
    (if ds.isEmpty then none else some (Nat.ofDigitChars 10 ds 0), cs.drop ds.length, args)

def readSlot (cs : List Char) (args : List String) : Option (Slot × List Char × List String) :=
  let flags := cs.takeWhile (· ∈ ['-', '0', '+', ' ', '#'])
  let (width, rest, args) := readWidth (cs.drop flags.length) args
  let (precision, rest, args) := match rest with
    | '.' :: rest =>
      let (precision, rest, args) := readWidth rest args
      (some (precision.getD 0), rest, args)
    | rest => (none, rest, args)
  match rest with
  | kind :: rest =>
    if kind ∈ conversions then
      some (⟨'-' ∈ flags, '0' ∈ flags, '+' ∈ flags, ' ' ∈ flags, '#' ∈ flags, width.getD 0,
        precision, kind⟩, rest, args)
    else none
  | [] => none

/-- What came of filling a format. -/
structure Filled where
  out : Octets
  args : List String
  /-- Whether all arguments fitted. -/
  ok : Bool
  /-- Whether the output ends here. -/
  stop : Bool

def Filled.after (f : Filled) (out : Octets) : Filled := { f with out := out ++ f.out }

/-- Fills a format once; the rest of the arguments is left. The fuel is above its length. -/
def fillOnce : Nat → List Char → List String → Filled
  | 0, _, args => ⟨[], args, true, false⟩
  | _, [], args => ⟨[], args, true, false⟩
  | fuel + 1, c :: rest, args =>
    if c = '%' then
      match rest with
      | '%' :: rest => (fillOnce fuel rest args).after ['%']
      | rest =>
        match readSlot rest args with
        | none => ⟨[], [], false, true⟩
        | some (slot, rest, args) =>
          let (out, ok, stop) := slot.fill (args.headD "")
          if stop then ⟨out, [], ok, true⟩
          else
            let f := (fillOnce fuel rest args.tail).after out
            { f with ok := f.ok && ok }
    else if c = '\\' then
      match rest with
      | 'c' :: _ => ⟨[], [], true, true⟩
      | d :: more =>
        if isOctal d then
          let (code, rest) := octalCode rest
          (fillOnce fuel rest args).after [code]
        else match letterEscape? d with
          | some e => (fillOnce fuel more args).after [e]
          | none => (fillOnce fuel rest args).after ['\\']
      | [] => ⟨['\\'], args, true, false⟩
    else (fillOnce fuel rest args).after [c]

/-- Fills a format until no arguments are left. The fuel is above their number. -/
def fillAll : Nat → List Char → List String → Octets × Bool
  | 0, _, _ => ([], true)
  | fuel + 1, format, args =>
    let f := fillOnce (format.length + 1) format args
    if f.stop || f.args.isEmpty || f.args.length = args.length then (f.out, f.ok)
    else
      let (out, ok) := fillAll fuel format f.args
      (f.out ++ out, f.ok && ok)

def printfText (args : List String) : Octets × Nat :=
  let args := if args.head? = some "--" then args.tail else args
  match args with
  | [] => ([], 2)
  | format :: args =>
    let (out, ok) := fillAll (args.length + 1) (octetsOf format) args
    (out, if ok then 0 else 1)

end ConformanceGate.Machine
