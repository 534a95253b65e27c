import ConformanceGate.Machine.Programs.Duration
import ConformanceGate.Machine.Shell.Basic
import ConformanceGate.Machine.Shell.Variables

/-!
# Running programs

What a process does when it has become a program: most programs do their work at once, some read
their input before, and a few take time, start other programs or run scripts.
-/

namespace ConformanceGate.Machine

/-! ## Scripts -/

def inherited (bindings : Bindings) : Bindings :=
  bindings.filterMap fun (name, v) =>
    if v.exported && v.value.isSome && name != "PWD" && name != "OPTIND" then
      some (name, { v with fixed := false })
    else none

def becomeShell (p : Process) (text : List Char) (isWhole : Bool) (name : String)
    (args : List String) (flags : List Char) (due : Nat) : Process :=
  { p with
    todo := [.read text isWhole], due := due, waiting := none, traps := [], shell := p.pid,
    name := name, args := args, bindings := inherited p.bindings, frames := [], functions := [],
    jobs := [], optionPlace := none, status := 0, flags := flags, tested := false,
    deaf := p.ignored }

/-- Starts a script interpreter with its arguments: options, then a text after `-c`, a file, or
nothing if the script is the input. `missing` is the status if the file cannot be read. -/
def startShell (m : Machine) (p : Process) (missing : Nat) (args : List String) : Machine :=
  let finish (status : Nat) : Machine := goOn m { p with todo := [] } [.finish status]
  let due := m.clock + stepTime
  let args := args.filter fun arg => !(arg ∈ ["--norc", "--noprofile", "--posix"])
  match Shell.readFlags ['c', 'l'] [] args with
  | none => finish 2
  | some (flags, rest) =>
    let rest := rest.getD []
    let kept := flags.filter fun c => c ≠ 'c' && c ≠ 'l'
    if 'c' ∈ flags then
      match rest with
      | [] => finish 2
      | text :: rest =>
        m.put (becomeShell p text.toList true (rest.headD p.name) rest.tail kept due)
    else if rest.isEmpty || 's' ∈ flags then
      m.put { p with todo := [.gather "sh" (String.ofList kept :: rest) .empty], due := due }
    else
      let path := rest.headD ""
      match m.files.readBytes p.directory path with
      | .ok bytes =>
        let text := (textOfOctets (octets bytes)).toList
        m.put (becomeShell p text false path rest.tail kept due)
      | .error _ => finish missing

/-! ## Batches -/

def inputWords (current : Option (List Char)) (quote : Option Char) : List Char → List String
  | [] => (current.map String.ofList).toList
  | c :: rest =>
    let add (c : Char) : Option (List Char) := some (current.getD [] ++ [c])
    match quote with
    | some q =>
      if c = q then inputWords (some (current.getD [])) none rest
      else inputWords (add c) quote rest
    | none =>
      if c = '"' || c = '\'' then inputWords (some (current.getD [])) (some c) rest
      else if c = '\\' then
        match rest with
        | d :: rest => inputWords (add d) none rest
        | [] => inputWords current none []
      else if c = ' ' || c = '\t' || c = '\n' then
        (current.map String.ofList).toList ++ inputWords none none rest
      else inputWords (add c) none rest

/-- Lists of up to a number of items. The fuel is above the number of items. -/
def chunks (count : Nat) : Nat → List α → List (List α)
  | 0, _ => []
  | _, [] => []
  | fuel + 1, items => items.take count :: chunks count fuel (items.drop count)

def fillMark (mark item arg : String) : String := item.intercalate (arg.splitOn mark)

def batchCalls (args : List String) (input : Octets) : Option (List (String × List String)) := do
  let t : OptionTable := { OptionTable.of "0rtxp" "nILPdsa" [("null", '0'),
    ("no-run-if-empty", 'r'), ("max-args", 'n'), ("max-lines", 'L'), ("max-procs", 'P'),
    ("delimiter", 'd')] with mixed := false }
  let g ← t.read args
  let (name, fixed) := match g.operands with
    | name :: fixed => (name, fixed)
    | [] => ("echo", [])
  let lines := ((linesOf input).1.filter (!·.isEmpty)).map textOfOctets
  let cutAt (c : Char) : List String :=
    let parts := input.splitOn c
    (if parts.getLast? = some [] then parts.dropLast else parts).map textOfOctets
  match g.value? 'I' with
  | some mark =>
    let items := lines.map fun line =>
      String.ofList (line.toList.dropWhile fun c => c == ' ' || c == '\t')
    return items.map fun item => (name, fixed.map (fillMark mark item))
  | none =>
    let words := if g.has '0' then cutAt '\x00'
      else match (g.value? 'd').map String.toList with
        | some ['\\', 'n'] => cutAt '\n'
        | some [c] => cutAt c
        | _ => inputWords none none (textOfOctets input).toList
    let groups :=
      if g.has 'L' then
        (chunks (max 1 (((g.value? 'L').bind String.toNat?).getD 1)) (lines.length + 1) lines).map
          fun lines => inputWords none none ("\n".intercalate lines).toList
      else match (g.value? 'n').bind String.toNat? with
        | some n => chunks (max 1 n) (words.length + 1) words
        | none => if words.isEmpty then [] else [words]
    let groups := if groups.isEmpty && !g.has 'r' then [[]] else groups
    return groups.map fun words => (name, fixed ++ words)

/-! ## Calls -/

def callOf (m : Machine) (p : Process) (args : List String) (input : ByteArray) : Call where
  files := m.files
  cwd := p.directory
  args := args
  input := octets input
  environment := p.bindings.filterMap fun (name, v) =>
    if v.exported then v.value.map (name, ·) else none
  now := m.startDay + (m.clock / 1000000 : Nat)

/-- Runs a program that does its work at once. -/
def runAtOnce (m : Machine) (p : Process) (name : String) (args : List String)
    (input : ByteArray) : Machine :=
  match Programs.all.lookup name with
  | none => goOn m { p with todo := [] } [.finish 127]
  | some run =>
    let o := run (m.callOf p args input)
    print { m with files := o.files } p (bytesOf o.output) o.status

def wholeLines (input : ByteArray) : ByteArray :=
  let cs := octets input
  bytesOf (cs.reverse.dropWhile (· ≠ '\n')).reverse

/-- Reads more of the input for a program, and runs it when there is nothing more to read, or when
the rest does not matter. -/
def gather (m : Machine) (p : Process) (name : String) (args : List String) (input : ByteArray) :
    Machine :=
  let start (m : Machine) (input : ByteArray) : Machine :=
    if name = "sh" then
      let text := (textOfOctets (octets input)).toList
      let flags := (args.headD "").toList
      m.put (becomeShell p text false p.name args.tail flags (m.clock + stepTime))
    else if name = "xargs" then
      match batchCalls args (octets input) with
      | some calls => goOn m { p with todo := [], status := 0 } [.batch calls false]
      | none => goOn m { p with todo := [] } [.finish 1]
    else m.runAtOnce p name args input
  match m.readStream p 0 pipeSize with
  | .refused => start m input
  | .blocked pipe =>
    m.put { p with todo := [.gather name args input], waiting := some (.input pipe) }
  | .bytes m bytes =>
    if bytes.isEmpty then start m input
    else
      let input := input ++ bytes
      let there := wholeLines input
      if Programs.isOver name (m.callOf p args (if name = "head" then input else there)) then
        start m (if name = "head" then input else there)
      else goOn m { p with todo := [] } [.gather name args input]

def pass (m : Machine) (p : Process) (others : List Nat) (status : Nat) : Machine :=
  match m.readStream p 0 pipeSize with
  | .refused => goOn m { p with todo := [] } [.finish 1]
  | .blocked pipe =>
    m.put { p with todo := [.pass others status], waiting := some (.input pipe) }
  | .bytes m bytes =>
    if bytes.isEmpty then goOn m { p with todo := [] } [.finish status]
    else
      let m := others.foldl (fun m stream =>
        match m.writeStream p stream bytes with
        | .done m => m
        | _ => m) m
      let p := { p with todo := [.pass others status] }
      match m.write p bytes fun rest => .emit rest 0 with
      | .done m => goOn m p []
      | .waiting m => m
      | .failed m p => if p.isLive then goOn m { p with todo := [] } [.finish 1] else m.put p

def startTee (m : Machine) (p : Process) (args : List String) : Machine :=
  match (OptionTable.of "aip" "" [("append", 'a'), ("ignore-interrupts", 'i')]).read args with
  | none => goOn m { p with todo := [] } [.finish 1]
  | some g =>
    let mode : OpenMode := if g.has 'a' then .append else .write true
    let (m, streams, status) := g.operands.foldl (fun (m, streams, status) path =>
      match m.openFile p.directory false mode path with
      | .ok (m, id) => (m, streams ++ [(100 + streams.length, id)], status)
      | .error _ => (m, streams, 1)) (m, ([] : List (Nat × Nat)), 0)
    goOn m { p with todo := [], streams := p.streams ++ streams }
      [.pass (streams.map (·.1)) status]

/-! ## Programs that start others -/

/-- Sets variables as an argument list asks for, and finds the command after it. The fuel is above
the number of arguments. -/
def readEnv : Nat → Process → List String → Option (Process × List String)
  | 0, _, _ => none
  | fuel + 1, p, args =>
    match args with
    | [] => some (p, [])
    | "-i" :: rest | "-" :: rest | "--ignore-environment" :: rest =>
      readEnv fuel { p with bindings := [] } rest
    | "-u" :: name :: rest =>
      readEnv fuel { p with bindings := p.bindings.filter (·.1 != name) } rest
    | "--" :: rest => readEnv fuel p rest
    | arg :: rest =>
      let name := arg.toList.takeWhile (· ≠ '=')
      if name.length < arg.length && !arg.startsWith "-" then
        let value := String.ofList (arg.toList.drop (name.length + 1))
        readEnv fuel (p.putVariable (String.ofList name) ⟨some value, true, false⟩) rest
      else if arg.startsWith "-" then none
      else some (p, arg :: rest)

/-- What a guard was told: the signal, whether it keeps the status of a late command and the group,
and the time after which it kills. -/
structure GuardOptions where
  signal : Nat
  keeps : Bool
  foreground : Bool
  killAfter : Option Nat

def readGuard (args : List String) : Option (GuardOptions × List String) := do
  let t : OptionTable := { OptionTable.of "v" "sk" [("signal", 's'), ("kill-after", 'k'),
    ("preserve-status", 'p'), ("foreground", 'f'), ("verbose", 'v')] with mixed := false }
  let g ← t.read args
  let signal ← match g.value? 's' with
    | some name => Process.signalOfName? (plainName name)
    | none => some 15
  let killAfter ← match g.value? 'k' with
    | some text => (duration? text).map some
    | none => some none
  return (⟨signal, g.has 'p', g.has 'f', killAfter.filter (0 < ·)⟩, g.operands)
where
  /-- The name of a signal without its usual beginning. -/
  plainName (name : String) : String :=
    let upper := name.map Char.toUpper
    if upper.startsWith "SIG" then String.ofList (upper.toList.drop 3) else upper

def startGuard (m : Machine) (p : Process) (args : List String) : Machine :=
  let finish (status : Nat) : Machine := goOn m { p with todo := [] } [.finish status]
  match readGuard args with
  | some (o, time :: name :: args) =>
    match duration? time with
    | none => finish 125
    | some time =>
      let p := if o.foreground then p else { p with group := p.pid }
      let (m, child) := match m.commandOf p name args with
        | .ok (found, args) =>
          let start := m.clock + forkTime + startTime
          m.add (fork { p with name := name } [.program found args] start)
        | .error e => m.add (fork p [.finish (statusOf e)] (m.clock + forkTime))
      let deadline := if time = 0 then none else some (m.clock + time)
      m.put { p with
        todo := [.guard child o.signal deadline o.killAfter false o.keeps]
        due := deadline.getD (m.clock + never) }
  | _ => finish 125

/-- Looks after a command: passes signals on to it, ends it when its time is over, and ends as it
has ended. -/
def guard (m : Machine) (p : Process) (child signal : Nat) (deadline killAfter : Option Nat)
    (late keeps : Bool) : Machine :=
  let ended := match m.process? child with
    | some q => q.ended
    | none => some (.exited 0)
  match ended with
  | some status =>
    let m := { m with processes := m.processes.filter (·.pid ≠ child) }
    match late, status with
    | true, .signaled 9 => goOn m { p with todo := [] } [.finish 137]
    | true, status =>
      goOn m { p with todo := [] } [.finish (if keeps then codeOf status else 124)]
    | false, status => m.put (p.close status)
  | none =>
    let again (deadline : Option Nat) (signal : Nat) (killAfter : Option Nat) (late : Bool)
        (p : Process) : Process :=
      { p with
        todo := [.guard child signal deadline killAfter late keeps]
        due := deadline.getD (m.clock + never) }
    let others (m : Machine) (p : Process) (signal : Nat) : Machine :=
      let m := (m.signalOne child signal).1
      if p.group ≠ p.pid then m
      else (m.members p.group).foldl (fun m q =>
        if q.pid = p.pid || q.pid = child then m else (m.signalOne q.pid signal).1) m
    match p.pending with
    | s :: pending =>
      let p := { p with pending := pending }
      others (m.put (again deadline signal killAfter late p)) p s
    | [] =>
      if deadline.all (m.clock < ·) then m.put (again deadline signal killAfter late p)
      else
        let next := killAfter.map (m.clock + ·)
        let m := others (m.put (again next 9 none true p)) p signal
        if signal = 9 || signal = 18 then m else others m p 18

/-- Runs the next command of a batch, unless the status of the one before ends it. -/
def batch (m : Machine) (p : Process) (calls : List (String × List String)) (failed : Bool) :
    Machine :=
  let finish (status : Nat) : Machine := goOn m { p with todo := [] } [.finish status]
  let failed := failed || p.status ≠ 0
  if 125 < p.status && p.status ≠ 128 then
    finish (if p.status = 255 then 124 else if 128 < p.status then 125 else p.status)
  else match calls with
    | [] => finish (if failed then 123 else 0)
    | (name, args) :: calls =>
      let p := { p with todo := [.batch calls failed] }
      let child := { p with name := name, streams := (0, 0) :: p.streams.filter (·.1 ≠ 0) }
      match m.commandOf p name args with
      | .ok (name, args) => m.delegate p child [.program name args]
      | .error e => finish (statusOf e)

/-! ## Programs -/

def becomeRest (m : Machine) (p : Process) (missing : Nat) (args : List String) : Machine :=
  match args with
  | [] => goOn m { p with todo := [] } [.finish missing]
  | name :: args => become m p name args

def dropOptions (valued : List String) : List String → List String
  | "--" :: rest => rest
  | arg :: rest =>
    if arg ∈ valued then dropOptions valued rest.tail
    else if arg.startsWith "-" then dropOptions valued rest
    else arg :: rest
  | [] => []
termination_by args => args.length

/-- The arguments of a search that runs a command for what it finds: those of the search, the
command, and whether it is run once for all paths. -/
def callsOf (args : List String) : Option (List String × List String × Bool) :=
  let search := args.takeWhile (· ≠ "-exec")
  match args.drop search.length with
  | [] => none
  | _ :: rest =>
    let command := rest.takeWhile fun arg => arg ≠ ";" && arg ≠ "+"
    match rest.drop command.length with
    | "+" :: after => some (search ++ after, command, true)
    | _ :: after => some (search ++ after, command, false)
    | [] => none

def follows (args : List String) : Bool :=
  args.any fun arg => arg ∈ ["-f", "-F", "--follow", "-fn"] ||
    (arg.startsWith "-" && !arg.startsWith "--" && 'f' ∈ arg.toList)

def runProgram (m : Machine) (p : Process) (name : String) (args : List String) : Machine :=
  let p := { p with todo := [], flags := [], functions := [], pending := [], tested := false }
  let finish (status : Nat) : Machine := goOn m p [.finish status]
  match name with
  | "sh" | "dash" => startShell m p 2 args
  | "bash" => startShell m p 127 args
  | "sleep" =>
    match sleepTime? args with
    | some duration => m.put { p with todo := [.finish 0], due := m.clock + duration }
    | none => finish 1
  | "yes" =>
    let line := (if args.isEmpty then "y" else " ".intercalate args) ++ "\n"
    let text := line.toUTF8
    goOn m p [.flood ((List.range (8192 / text.size + 1)).foldl (fun t _ => t ++ text) .empty)]
  | "env" =>
    match readEnv (args.length + 1) p args with
    | none => finish 125
    | some (q, []) => m.runAtOnce q "printenv" [] .empty
    | some (q, name :: args) => become m q name args
  | "nohup" => becomeRest m { p with ignored := 1 :: p.ignored } 125 args
  | "nice" => becomeRest m p 0 (dropOptions ["-n"] args)
  | "stdbuf" => becomeRest m p 125 (dropOptions ["-i", "-o", "-e"] args)
  | "setsid" =>
    let rest := dropOptions [] args
    if rest.isEmpty then finish 1
    else if p.group = p.pid then
      let child := fork p [] (m.clock + forkTime)
      let (m, pid) := m.add child
      let m := match m.process? pid with
        | some q => becomeRest m { q with group := pid } 1 rest
        | none => m
      if args.any (· ∈ ["-w", "--wait"]) then m.awaitAll { p with todo := [] } [pid]
      else goOn m p [.finish 0]
    else becomeRest m { p with group := p.pid } 1 rest
  | "timeout" => startGuard m p args
  | "xargs" => goOn m p [.gather "xargs" args .empty]
  | "which" =>
    let names := args.filter fun arg => !arg.startsWith "-"
    let found := names.filterMap fun name =>
      match m.commandOf p name [] with
      | .ok _ => m.pathOf? p name
      | .error _ => none
    let text := String.join (found.map (· ++ "\n"))
    print m p text.toUTF8 (if !names.isEmpty && found.length = names.length then 0 else 1)
  | "find" =>
    match callsOf args with
    | none => m.runAtOnce p name args .empty
    | some (search, command, together) =>
      let o := Programs.find (m.callOf p search .empty)
      let paths := ((linesOf o.output).1).map textOfOctets
      let calls := if together then (if paths.isEmpty then [] else [paths]) else paths.map ([·])
      let filled (paths : List String) : List Word :=
        command.flatMap fun word =>
          if together then (if word = "\x7b\x7d" then paths.map fun path => [.quoted path]
            else [[.quoted word]])
          else [[.quoted (paths.foldl (fun word path => fillMark "\x7b\x7d" path word) word)]]
      let run (paths : List String) : Step := .run (.simple [] (filled paths) []) .none
      goOn m p (calls.map run ++ if together then [.flip, .flip] else [.finish o.status])
  | "kill" =>
    let words := [.literal "kill"] :: args.map fun arg => [.quoted arg]
    goOn m p [.run (.simple [] words []) .none]
  | "tee" => startTee m p args
  | "tail" =>
    if follows args then
      let o := Programs.tail (m.callOf p args .empty)
      if o.status ≠ 0 && o.output.isEmpty then finish o.status
      else
        let forever : Step := .program "sleep" ["infinity"]
        let p := { p with todo := [forever] }
        match m.write p (bytesOf o.output) fun rest => .emit rest 0 with
        | .done m => goOn m p []
        | .waiting m => m
        | .failed m p => m.put p
    else if Programs.readsInput name (m.callOf p args .empty) then goOn m p [.gather name args .empty]
    else m.runAtOnce p name args .empty
  | "cat" =>
    if args.all (· ∈ ["-", "-u"]) then goOn m p [.pass [] 0]
    else if Programs.readsInput name (m.callOf p args .empty) then goOn m p [.gather name args .empty]
    else m.runAtOnce p name args .empty
  | name =>
    if Programs.readsInput name (m.callOf p args .empty) then goOn m p [.gather name args .empty]
    else m.runAtOnce p name args .empty

end ConformanceGate.Machine
