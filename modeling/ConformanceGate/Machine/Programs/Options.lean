/-!
# Options of programs

Arguments that begin with a dash are options: letters, each perhaps with a value, or long names. All
other arguments are operands, and so is all that follows two dashes.
-/

namespace ConformanceGate.Machine

structure Given where
  options : List (Char × String)
  operands : List String

namespace Given

def has (g : Given) (letter : Char) : Bool := g.options.any (·.1 == letter)

/-- The value of an option; the last one counts. -/
def value? (g : Given) (letter : Char) : Option String := g.options.reverse.lookup letter

def values (g : Given) (letter : Char) : List String :=
  g.options.filterMap fun o => if o.1 = letter then some o.2 else none

def addOption (g : Given) (letter : Char) (value : String) : Given :=
  { g with options := (letter, value) :: g.options }

end Given

/-- The options that a program knows. -/
structure OptionTable where
  /-- The letters without values. -/
  plain : List Char
  /-- The letters with values. -/
  valued : List Char
  /-- The long names and the letters that they stand for. -/
  long : List (String × Char)
  /-- Whether options may stand after operands. -/
  mixed : Bool

namespace OptionTable

def of (plain valued : String) (long : List (String × Char)) : OptionTable :=
  ⟨plain.toList, valued.toList, long, true⟩

mutual

/-- Reads arguments. The fuel is above their total length. -/
def readArgs (t : OptionTable) : Nat → List String → Option Given
  | 0, _ => none
  | _, [] => some ⟨[], []⟩
  | fuel + 1, arg :: rest =>
    if arg = "--" then some ⟨[], rest⟩
    else
      match arg.toList with
      | '-' :: '-' :: long =>
        let name := String.ofList (long.takeWhile (· ≠ '='))
        match t.long.lookup name with
        | none => none
        | some letter =>
          match long.dropWhile (· ≠ '='), rest with
          | '=' :: value, rest =>
            (readArgs t fuel rest).map (·.addOption letter (String.ofList value))
          | _, rest =>
            if letter ∈ t.valued then
              match rest with
              | value :: rest => (readArgs t fuel rest).map (·.addOption letter value)
              | [] => none
            else (readArgs t fuel rest).map (·.addOption letter "")
      | '-' :: c :: letters => readLetters t fuel (c :: letters) rest
      | _ =>
        if t.mixed then
          (readArgs t fuel rest).map fun g => { g with operands := arg :: g.operands }
        else some ⟨[], arg :: rest⟩

def readLetters (t : OptionTable) : Nat → List Char → List String → Option Given
  | 0, _, _ => none
  | fuel + 1, [], rest => readArgs t fuel rest
  | fuel + 1, c :: letters, rest =>
    if c ∈ t.plain then (readLetters t fuel letters rest).map (·.addOption c "")
    else if c ∈ t.valued then
      match letters, rest with
      | [], value :: rest => (readArgs t fuel rest).map (·.addOption c value)
      | [], [] => none
      | letters, rest => (readArgs t fuel rest).map (·.addOption c (String.ofList letters))
    else none

end

/-- What the arguments give, unless some option is not known. -/
def read (t : OptionTable) (args : List String) : Option Given :=
  readArgs t (args.foldl (fun n arg => n + arg.length + 1) 4) args

end OptionTable
end ConformanceGate.Machine
