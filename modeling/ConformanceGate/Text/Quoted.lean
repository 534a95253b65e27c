import ConformanceGate.Text.Hidden

/-!
# Quoted texts

Messages show a text between double quotes, so that a reader sees where it begins and ends and what
it holds. Quotes, backslashes and the characters that do not show are written as escapes.
-/

namespace ConformanceGate.Text

/-- The lower case hexadecimal digits of `n`, without leading zeros. -/
def hex (n : Nat) : List Char := Nat.toDigits 16 n

def escaped (c : Char) : List Char :=
  match c with
  | '"' => ['\\', '"']
  | '\\' => ['\\', '\\']
  | '\n' => ['\\', 'n']
  | '\r' => ['\\', 'r']
  | '\t' => ['\\', 't']
  | '\x00' => ['\\', '0']
  | c => if isHidden c then ['\\', 'u', '{'] ++ hex c.toNat ++ ['}'] else [c]

def quoted (s : String) : String :=
  String.ofList ('"' :: s.toList.flatMap escaped ++ ['"'])

end ConformanceGate.Text
