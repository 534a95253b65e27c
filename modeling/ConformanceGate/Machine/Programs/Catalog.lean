import ConformanceGate.Machine.Programs.Awk.Run
import ConformanceGate.Machine.Programs.Edit
import ConformanceGate.Machine.Programs.Evaluate
import ConformanceGate.Machine.Programs.Format
import ConformanceGate.Machine.Programs.Places
import ConformanceGate.Machine.Programs.Search
import ConformanceGate.Machine.Programs.Tree

/-!
# The programs of the system

The programs that do their work at once by their names, and which of them read the input.
-/

namespace ConformanceGate.Machine.Programs

/-- The programs that do their work at once. -/
def all : List (String × (Call → Outcome)) := [
  ("true", fun c => c.quit 0), ("false", fun c => c.quit 1), ("sync", fun c => c.quit 0),
  ("echo", fun c => c.print (echoText c.args)),
  ("printf", fun c =>
    let (text, status) := printfText c.args
    ⟨c.files, text, min status 1⟩),
  ("test", fun c => c.quit (Condition.status c.files c.cwd c.args)),
  ("[", fun c => c.quit (Condition.bracketStatus c.files c.cwd c.args)),
  ("mkdir", mkdir), ("touch", touch), ("rm", rm), ("rmdir", rmdir), ("cp", cp), ("mv", mv),
  ("ln", ln), ("link", ln), ("unlink", rm), ("chmod", chmod), ("install", install),
  ("truncate", truncate), ("mktemp", mktemp), ("dd", dd),
  ("chown", fun c => c.quit 0), ("chgrp", fun c => c.quit 0),
  ("cat", cat), ("head", head), ("tail", tail), ("tee", tee), ("wc", wc), ("sort", sort),
  ("uniq", uniq), ("cut", cut), ("tr", tr), ("tac", tac), ("rev", rev), ("nl", nl),
  ("paste", paste), ("fold", fold), ("seq", seq), ("cmp", cmp), ("diff", diff),
  ("grep", grep),
  ("egrep", fun c => grep { c with args := "-E" :: c.args }),
  ("fgrep", fun c => grep { c with args := "-F" :: c.args }),
  ("sed", sed), ("awk", awk), ("mawk", awk), ("expr", expr),
  ("ls", ls), ("dir", ls), ("find", find), ("basename", basename), ("dirname", dirname),
  ("readlink", readlink), ("realpath", realpath), ("pwd", pwd), ("stat", stat),
  ("printenv", printenv), ("date", date), ("id", id), ("uname", uname),
  ("whoami", fun c => c.printLine "root"), ("hostname", fun c => c.printLine "localhost"),
  ("nproc", fun c => c.printLine "1"), ("arch", fun c => c.printLine "x86_64"),
  ("tty", fun c => { c.printLine "not a tty" with status := 1 })]

def names : List String :=
  ["sh", "dash", "bash", "sleep", "env", "nohup", "setsid", "nice", "stdbuf", "timeout", "xargs",
    "yes", "kill", "which"] ++ all.map (·.1)

/-! ## Input -/

/-- The programs that read the input if they are given no file: their options with values, and the
number of operands that are no files. -/
def readers : List (String × String × Nat) := [
  ("cat", "", 0), ("head", "nc", 0), ("tail", "ncs", 0), ("wc", "", 0), ("sort", "ktoST", 0),
  ("uniq", "fsw", 0), ("cut", "dfbc", 0), ("tac", "s", 0), ("rev", "", 0), ("nl", "bdfhilnsvw", 0),
  ("paste", "d", 0), ("fold", "w", 0), ("cmp", "nNi", 1), ("diff", "UCI", 2),
  ("grep", "efmABC", 1), ("egrep", "efmABC", 1), ("fgrep", "efmABC", 1), ("sed", "ef", 1)]

/-- The operands among arguments, and whether some option takes the place of one. The first argument
tells the letters that have values. -/
def operandsOf (valued : List Char) : List String → List String × Bool
  | [] => ([], false)
  | "--" :: rest => (rest, false)
  | arg :: rest =>
    match arg.toList with
    | '-' :: '-' :: long =>
      let (operands, replaced) := operandsOf valued rest
      let name := String.ofList (long.takeWhile (· ≠ '='))
      (operands, replaced || name ∈ ["expression", "regexp", "file"])
    | '-' :: c :: letters =>
      let flags := (c :: letters).takeWhile fun c => !(c ∈ valued)
      match (c :: letters).drop flags.length with
      | [] => operandsOf valued rest
      | [letter] =>
        let (operands, replaced) := operandsOf valued rest.tail
        (operands, replaced || letter = 'e' || letter = 'f')
      | letter :: _ =>
        let (operands, replaced) := operandsOf valued rest
        (operands, replaced || letter = 'e' || letter = 'f')
    | _ =>
      let (operands, replaced) := operandsOf valued rest
      (arg :: operands, replaced)
termination_by args => args.length

def readsInput (name : String) (c : Call) : Bool :=
  match readers.lookup name with
  | some (valued, plain) =>
    let (operands, replaced) := operandsOf valued.toList c.args
    let recursive := c.args.any fun arg => arg = "-r" || arg = "-R" || arg.startsWith "-r"
    let files := operands.drop (if replaced && name ≠ "cut" then 0 else plain)
    operands.contains "-" || operands.contains "/dev/stdin" ||
      (files.isEmpty && !(recursive && name = "grep") && name ≠ "diff")
  | none =>
    match name with
    | "tr" | "tee" => true
    | "dd" => !c.args.any (·.startsWith "if=")
    | "awk" | "mawk" => Awk.readsInput c
    | _ => false

/-- Whether the work of a program is over whatever else the input holds. -/
def isOver (name : String) (c : Call) : Bool :=
  match name with
  | "head" => headIsOver c
  | "grep" => grepIsOver c
  | "egrep" => grepIsOver { c with args := "-E" :: c.args }
  | "fgrep" => grepIsOver { c with args := "-F" :: c.args }
  | "sed" => (edit c).2
  | "awk" | "mawk" => (Awk.run c).2
  | _ => false

end ConformanceGate.Machine.Programs
