import ConformanceGate.Failure
import ConformanceGate.Text.Decimal

/-!
# Arguments

A command line has two levels: options of the program, then the name of a command, then options of
the command. Some options belong to both levels. An option is given at most once a level. Its value
follows an equals sign or is the next argument, which then must not look like an option.
-/

namespace ConformanceGate.CommandLine

inductive Command
  /-- Runs a role and compares its results. -/
  | gate (role : Role) (relaxed skipPortCheck : Bool)
  /-- Compares results on disk: two files, or those of a role. -/
  | verify (role : Option Role) (files : Option (String × String)) (relaxed : Bool)
  /-- Summarizes results: a file, or those of a role. -/
  | render (role : Option Role) (input html : Option String) (title : String)
  /-- Makes the results of a role its baseline. -/
  | bless (role : Role)
  /-- Writes the usual specs. -/
  | init (agent : String) (subjectPort harnessPort : UInt16) (force : Bool)
deriving DecidableEq

structure Invocation where
  /-- The configuration file. -/
  config : Option String
  /-- Whether values are printed instead of text. -/
  json : Bool
  command : Command
deriving DecidableEq

inductive Parsed
  | run (invocation : Invocation)
  | help
  | version
  /-- The command line cannot be understood. -/
  | misuse
deriving DecidableEq

structure Switch where
  name : String
  /-- A single letter that stands for it. -/
  letter : Option Char
  /-- The values it takes; `none` if it takes none. -/
  value : Option (String → Bool)

def Switch.flag (name : String) : Switch := ⟨name, none, none⟩

def isPath (s : String) : Bool := !s.isEmpty

def role? (s : String) : Option Role :=
  if s = Role.server.name then some .server
  else if s = Role.client.name then some .client
  else none

/-- A port on the command line: a number below 65536, perhaps with a sign. -/
def port? (s : String) : Option UInt16 :=
  let (negative, ds) := match s.toList with
    | '-' :: ds => (true, ds)
    | '+' :: ds => (false, ds)
    | ds => (false, ds)
  (Text.numeral? ds).bind fun n =>
    if n < 65536 ∧ (!negative ∨ n = 0) then some n.toUInt16 else none

def sharedSwitches : List Switch :=
  [⟨"config", none, some isPath⟩, .flag "json", ⟨"verbose", some 'v', none⟩]

def gateSwitches : List Switch := [.flag "relax-non-strict", .flag "no-port-check"]

def roleSwitch : Switch := ⟨"role", none, some fun s => (role? s).isSome⟩

def switchesOf? (command : String) : Option (List Switch) :=
  match command with
  | "server" | "client" => some gateSwitches
  | "verify" => some [roleSwitch, ⟨"baseline", none, some isPath⟩, ⟨"fresh", none, some isPath⟩,
      .flag "relax-non-strict"]
  | "render" => some [roleSwitch, ⟨"input", none, some isPath⟩, ⟨"html", none, some isPath⟩,
      ⟨"title", none, some fun _ => true⟩]
  | "bless" => some [roleSwitch]
  | "init" => some [⟨"agent", none, some fun _ => true⟩,
      ⟨"subject-port", none, some fun s => (port? s).isSome⟩,
      ⟨"harness-port", none, some fun s => (port? s).isSome⟩, .flag "force"]
  | _ => none

abbrev Settings := List (String × String)

def Settings.has (s : Settings) (name : String) : Bool := (s.lookup name).isSome

inductive Level
  | finished (found : Settings)
  /-- An argument that is no option, and those after it. -/
  | word (found : Settings) (word : String) (rest : List String)
  | help
  | version
  | misuse

/-- Adds an option that was not found before. -/
def add? (found : Settings) (name value : String) : Option Settings :=
  if found.has name then none else some ((name, value) :: found)

def readLetters (switches : List Switch) (top : Bool) (found : Settings) : List Char → Level
  | [] => .finished found
  | c :: rest =>
    if c = 'h' then .help
    else if top ∧ c = 'V' then .version
    else match switches.find? fun s => s.letter = some c with
      | none => .misuse
      | some s =>
        match add? found s.name "" with
        | none => .misuse
        | some found => readLetters switches top found rest

/-- Whether an argument looks like an option; a lone dash does not. -/
def looksLikeSwitch (s : String) : Bool :=
  match s.toList with
  | '-' :: _ :: _ => true
  | _ => false

/-- Reads the options of a level. `top` tells that it is the level of the program. -/
def readLevel (switches : List Switch) (top : Bool) (found : Settings) : List String → Level
  | [] => .finished found
  | arg :: rest =>
    match arg.toList with
    | ['-', '-'] => if rest.isEmpty then .finished found else .misuse
    | '-' :: '-' :: cs =>
      let name := String.ofList (cs.takeWhile (· ≠ '='))
      let attached := match cs.dropWhile (· ≠ '=') with
        | [] => none
        | _ :: value => some (String.ofList value)
      if name = "help" then if attached.isSome then .misuse else .help
      else if top ∧ name = "version" then if attached.isSome then .misuse else .version
      else match switches.find? fun s => s.name = name with
        | none => .misuse
        | some ⟨_, _, none⟩ =>
          if attached.isSome then .misuse
          else match add? found name "" with
            | none => .misuse
            | some found => readLevel switches top found rest
        | some ⟨_, _, some valid⟩ =>
          match attached, rest with
          | some value, rest =>
            if valid value then
              match add? found name value with
              | none => .misuse
              | some found => readLevel switches top found rest
            else .misuse
          | none, value :: rest =>
            if !looksLikeSwitch value && valid value then
              match add? found name value with
              | none => .misuse
              | some found => readLevel switches top found rest
            else .misuse
          | none, [] => .misuse
    | '-' :: c :: cs =>
      match readLetters switches top found (c :: cs) with
      | .finished found => readLevel switches top found rest
      | other => other
    | _ => .word found arg rest

def roleIn (s : Settings) : Option Role := (s.lookup "role").bind role?

/-- The command of a name with its options, unless they contradict each other or one is missing. -/
def commandOf? (name : String) (s : Settings) : Option Command :=
  let relaxed := s.has "relax-non-strict"
  match name with
  | "server" => some (.gate .server relaxed (s.has "no-port-check"))
  | "client" => some (.gate .client relaxed (s.has "no-port-check"))
  | "verify" =>
    match s.lookup "baseline", s.lookup "fresh" with
    | some baseline, some fresh =>
      if s.has "role" then none else some (.verify none (some (baseline, fresh)) relaxed)
    | none, none => some (.verify (roleIn s) none relaxed)
    | _, _ => none
  | "render" =>
    if s.has "role" && s.has "input" then none
    else some (.render (roleIn s) (s.lookup "input") (s.lookup "html")
      ((s.lookup "title").getD "Conformance results"))
  | "bless" => (roleIn s).map .bless
  | "init" =>
    let portOf (name : String) (usual : UInt16) : UInt16 := ((s.lookup name).bind port?).getD usual
    some (.init ((s.lookup "agent").getD "rust-websocket") (portOf "subject-port" 9002)
      (portOf "harness-port" 9001) (s.has "force"))
  | _ => none

def helpOn : List String → Parsed
  | [] => .help
  | [name] => if name = "help" ∨ (switchesOf? name).isSome then .help else .misuse
  | _ => .misuse

def parse (args : List String) : Parsed :=
  match readLevel sharedSwitches true [] args with
  | .finished _ => .misuse
  | .help => .help
  | .version => .version
  | .misuse => .misuse
  | .word outer name rest =>
    if name = "help" then helpOn rest
    else match switchesOf? name with
      | none => .misuse
      | some own =>
        match readLevel (own ++ sharedSwitches) false [] rest with
        | .help => .help
        | .finished inner =>
          match commandOf? name inner with
          | none => .misuse
          | some command =>
            .run ⟨(inner.lookup "config").or (outer.lookup "config"),
              inner.has "json" || outer.has "json", command⟩
        | _ => .misuse

end ConformanceGate.CommandLine
