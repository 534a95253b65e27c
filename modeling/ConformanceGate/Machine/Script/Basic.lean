/-!
# Scripts

Commands and the words they are made of, as a script spells them. What a word stands for is found
out only when its command is carried out.
-/

namespace ConformanceGate.Machine

/-- How a file is opened for a stream. -/
inductive OpenMode
  | read
  /-- What is there is replaced, unless that is held back; `force` does it in any case. -/
  | write (force : Bool)
  | append
  | both
deriving DecidableEq

mutual

inductive Part
  /-- Text outside of quotes, in which the signs of patterns count. -/
  | literal (text : String)
  | quoted (text : String)
  /-- The value of a parameter such as `$PPID`. -/
  | parameter (name : String) (use : Use) (inQuotes : Bool)
  /-- The output of a command. -/
  | output (command : Command) (inQuotes : Bool)
  /-- The value of an arithmetic expression. -/
  | value (expression : List Part) (inQuotes : Bool)

/-- What is made of the value of a parameter. In the forms with a word, `emptyToo` tells that an
empty value counts as none. -/
inductive Use
  | plain
  | length
  /-- The word takes the place of a missing value. -/
  | fallback (emptyToo : Bool) (word : List Part)
  /-- The word becomes the value if there is none. -/
  | assign (emptyToo : Bool) (word : List Part)
  /-- The script ends if there is no value. -/
  | demand (emptyToo : Bool) (word : List Part)
  /-- The word takes the place of a value. -/
  | alternative (emptyToo : Bool) (word : List Part)
  /-- What matches a pattern is cut off. -/
  | trim (fromEnd longest : Bool) (pattern : List Part)

/-- What becomes of a stream of a command. -/
inductive Redirection
  | file (stream : Nat) (mode : OpenMode) (target : List Part)
  /-- The stream goes where another one goes, or is closed by a dash. -/
  | copy (stream : Nat) (source : List Part)
  /-- The stream reads a text of the script. -/
  | text (stream : Nat) (body : List Part)

inductive Command
  | simple (assignments : List (String × List Part)) (words : List (List Part))
      (redirections : List Redirection)
  | sequence (commands : List Command)
  | both (first second : Command)
  | either (first second : Command)
  | negate (command : Command)
  /-- Each command reads what the one before writes. -/
  | pipeline (commands : List Command)
  /-- Runs the body as long as the condition succeeds, or until it does. -/
  | loop (stopOnSuccess : Bool) (condition body : Command)
  | branch (condition yes no : Command)
  /-- Runs the body for each field of the words, as the value of a variable. -/
  | each (name : String) (words : List (List Part)) (body : Command)
  /-- Runs the first arm of which a pattern matches the subject. -/
  | choice (subject : List Part) (arms : List (List (List Part) × Command))
  | group (command : Command)
  | redirected (command : Command) (redirections : List Redirection)
  | background (command : Command)
  | define (name : String) (body : Command)

end

abbrev Word := List Part

instance : Inhabited Command := ⟨.sequence []⟩

/-- The commands whose errors end a script and whose assignments last. No function can have one of
their names. -/
def special : List String :=
  [".", ":", "break", "continue", "eval", "exec", "exit", "export", "local", "readonly", "return",
    "set", "shift", "times", "trap", "unset"]

def isNameStart (c : Char) : Bool := c.isAlpha || c == '_'

def isNameChar (c : Char) : Bool := c.isAlphanum || c == '_'

def isName (text : String) : Bool :=
  match text.toList with
  | c :: rest => isNameStart c && rest.all isNameChar
  | [] => false

end ConformanceGate.Machine
