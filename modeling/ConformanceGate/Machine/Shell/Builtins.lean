import ConformanceGate.Machine.Shell.Control

/-!
# Commands that scripts carry out themselves

The commands that need no process of their own, by their names.
-/

namespace ConformanceGate.Machine.Shell

/-! ## Places -/

/-- Changes the directory. A dash goes back to the one before, which is then printed. -/
def changeDirectory : Builtin := fun m p args =>
  let args := args.filter fun arg => !(arg ∈ ["-L", "-P", "--"])
  let back := args.head? = some "-"
  let target := match args with
    | [] => p.value? "HOME"
    | "-" :: _ => some ((p.value? "OLDPWD").getD (Programs.pathOf p.directory))
    | path :: _ => some (if path.isEmpty then "." else path)
  match target with
  | none => proceed m p 2
  | some path =>
    match m.files.locate p.directory path with
    | .ok place =>
      if m.files.isDir place then
        let old := Programs.pathOf p.directory
        let q := { p with
          directory := place, bindings := p.bindings.filter fun v => v.1 != "PWD" }
        let q := q.assign "OLDPWD" old
        if back then emitLine m q (Programs.pathOf place) else proceed m q 0
      else proceed m p 2
    | .error _ => proceed m p 2

/-! ## Kinds of commands -/

def keywords : List String :=
  ["!", "\x7b", "\x7d", "case", "do", "done", "elif", "else", "esac", "fi", "for", "if", "in",
    "then", "until", "while"]

def ordinary : List String :=
  ["[", "alias", "bg", "cd", "chdir", "command", "echo", "false", "fc", "fg", "getopts", "hash",
    "jobs", "kill", "printf", "pwd", "read", "test", "true", "type", "ulimit", "umask",
    "unalias", "wait"]

/-- Tells how commands are found: by their names or paths, or in a sentence each. -/
def describe (sentences : Bool) : Builtin := fun m p args =>
  let found := args.map fun name =>
    if name ∈ keywords then some (if sentences then name ++ " is a shell keyword" else name)
    else if p.functions.any (·.1 == name) then
      some (if sentences then name ++ " is a shell function" else name)
    else if name ∈ special then
      some (if sentences then name ++ " is a special shell builtin" else name)
    else if name ∈ ordinary then
      some (if sentences then name ++ " is a shell builtin" else name)
    else (m.pathOf? p name).map fun path =>
      if sentences then name ++ " is " ++ path else path
  let shown := found.zip args |>.filterMap fun (text, name) =>
    match text with
    | some text => some text
    | none => if sentences then some (name ++ ": not found") else none
  let text := String.join (shown.map (· ++ "\n"))
  emit m p text.toUTF8 (if found.all (·.isSome) then 0 else 127)

/-! ## Texts as commands -/

def runText (m : Machine) (p : Process) (text : List Char) (isWhole : Bool) (border : Step) :
    Machine :=
  match readLine text with
  | .finished => proceed m p 0
  | _ => goOn m p [.read text isWhole, border]

def eval : Builtin := fun m p args =>
  let args := if args.head? = some "--" then args.tail else args
  runText m p (" ".intercalate args).toList true .endText

def source : Builtin := fun m p args =>
  let args := if args.head? = some "--" then args.tail else args
  match args with
  | [] => abandon m p 2
  | name :: _ =>
    let path? := if '/' ∈ name.toList then some name else
      (p.searched.map fun dir => Path.join dir name).find? fun path =>
        m.files.leadsToFile p.directory path
    match path?.map (m.files.readBytes p.directory) with
    | some (.ok bytes) => runText m p (textOfOctets (octets bytes)).toList false .endFile
    | _ => abandon m p 2

/-! ## The table -/

def succeed : Builtin := fun m p _ => proceed m p 0

def builtins : List (String × Builtin) := [
  (":", succeed), ("true", succeed), ("false", fun m p _ => proceed m p 1),
  ("alias", succeed), ("unalias", succeed), ("jobs", succeed), ("fg", succeed), ("bg", succeed),
  ("fc", succeed), ("ulimit", succeed), ("times", fun m p _ =>
    emitLine m p "0m0.000000s 0m0.000000s\n0m0.000000s 0m0.000000s"),
  ("umask", fun m p args => if args.isEmpty then emitLine m p "0022" else proceed m p 0),
  ("hash", fun m p args =>
    let names := args.filter fun arg => !arg.startsWith "-"
    proceed m p (if names.all fun name => (m.pathOf? p name).isSome then 0 else 1)),
  ("echo", fun m p args => emit m p (bytesOf (echoText args)) 0),
  ("printf", fun m p args =>
    let (text, status) := printfText args
    if args.isEmpty then proceed m p 2 else emit m p (bytesOf text) status),
  ("test", fun m p args => proceed m p (Condition.status m.files p.directory args)),
  ("[", fun m p args => proceed m p (Condition.bracketStatus m.files p.directory args)),
  ("pwd", fun m p _ => emitLine m p (Programs.pathOf p.directory)),
  ("cd", changeDirectory), ("chdir", changeDirectory), ("type", describe true),
  ("export", declare fun v => { v with exported := true }),
  ("readonly", declare fun v => { v with fixed := true }),
  ("local", makeLocal), ("unset", unset), ("shift", shift), ("set", set), ("getopts", getopts),
  ("read", read), ("exit", exit), ("return", «return»), ("break", leaveLoops true),
  ("continue", leaveLoops false), ("kill", kill), ("trap", trap), ("wait", await), ("eval", eval),
  (".", source)]

end ConformanceGate.Machine.Shell
