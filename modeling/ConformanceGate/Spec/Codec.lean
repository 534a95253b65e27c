import ConformanceGate.Document.Decode
import ConformanceGate.Json.Reader
import ConformanceGate.Spec.Basic

/-!
# Specs as JSON

The members of the case selection stand among those of the spec. Members that are neither are passed
over, and so are members of a server under test that are not its fields.
-/

namespace ConformanceGate

namespace Selection

def toMembers (s : Selection) : List (String × Json) :=
  [("cases", .array (s.cases.map .string)), ("exclude-cases", .array (s.excluded.map .string)),
    ("exclude-agent-cases",
      .object (s.excludedByAgent.map fun (agent, cases) => (agent, .array (cases.map .string))))]

def shape : Shape Selection where
  name := "struct CaseSelection"
  fields := [
    .of "cases" (.list .string) fun cases s => { s with cases },
    .of "exclude-cases" (.list .string) fun excluded s => { s with excluded },
    .of "exclude-agent-cases" (.keyed (.list .string)) fun excludedByAgent s =>
      { s with excludedByAgent }]
  others := .skip
  positional := none

def decode (t : Terms) (members : List (String × Written)) : Except Refusal Selection := do
  let members := members.map fun (key, item) => (Except.ok key, item)
  let (selection, _) ← shape.fillMembers t members none [] .all
  return selection

end Selection

namespace Target

def toJson (target : Target) : Json :=
  .object ([("agent", .string target.agent), ("url", .string target.url)] ++
    (target.options.map fun v => ("options", v)).toList)

structure Draft where
  agent : Option String
  url : Option String
  options : Option Json

def shape : Shape Draft where
  name := "struct ServerTarget"
  fields := [
    .of "agent" .string fun agent d => { d with agent := some agent },
    .of "url" .string fun url d => { d with url := some url },
    .of "options" (.optional .any) fun options d => { d with options }]
  others := .skip
  positional := some 2

def decode : Decoder Target := fun t w => do
  let (draft, _) ← shape.fill t w ⟨none, none, none⟩
  let agent ← required "agent" draft.agent
  let url ← required "url" draft.url
  return ⟨agent, url, draft.options⟩

end Target

namespace ClientSpec

def toJson (spec : ClientSpec) : Json :=
  let options := (spec.options.map fun v => ("options", v)).toList
  .object ([("outdir", .string spec.outdir),
      ("servers", .array (spec.servers.map Target.toJson))] ++
    spec.selection.toMembers ++ options)

structure Draft where
  outdir : Option String
  servers : Option (List Target)
  options : Option Json

def shape : Shape Draft where
  name := "struct FuzzingClientSpec"
  fields := [
    .of "outdir" .string fun outdir d => { d with outdir := some outdir },
    .of "servers" (.list Target.decode) fun servers d => { d with servers := some servers },
    .of "options" (.optional .any) fun options d => { d with options }]
  others := .keep
  positional := none

def decode : Decoder ClientSpec := fun t w => do
  let (draft, kept) ← shape.fill t w ⟨none, none, none⟩
  let outdir ← required "outdir" draft.outdir
  let servers ← required "servers" draft.servers
  let selection ← Selection.decode t kept
  return ⟨outdir, servers, selection, draft.options⟩

end ClientSpec

namespace ServerSpec

def toJson (spec : ServerSpec) : Json :=
  .object ([("url", .string spec.url), ("outdir", .string spec.outdir)] ++
    spec.selection.toMembers ++ (spec.options.map fun v => ("options", v)).toList)

structure Draft where
  url : Option String
  outdir : Option String
  options : Option Json

def shape : Shape Draft where
  name := "struct FuzzingServerSpec"
  fields := [
    .of "url" .string fun url d => { d with url := some url },
    .of "outdir" .string fun outdir d => { d with outdir := some outdir },
    .of "options" (.optional .any) fun options d => { d with options }]
  others := .keep
  positional := none

def decode : Decoder ServerSpec := fun t w => do
  let (draft, kept) ← shape.fill t w ⟨none, none, none⟩
  let url ← required "url" draft.url
  let outdir ← required "outdir" draft.outdir
  let selection ← Selection.decode t kept
  return ⟨url, outdir, selection, draft.options⟩

end ServerSpec

/-- The value of a JSON text that a decoder accepts; nothing but blanks may follow it. -/
def Decoder.ofText (d : Decoder α) (text : String) : Except Refusal α := do
  let (tree, rest) := Json.scan text
  let value ← d .json tree
  (Json.finished rest).mapError .fault
  return value

namespace Spec

def toJson : Spec → Json
  | .client spec => spec.toJson
  | .server spec => spec.toJson

def text (spec : Spec) : String := spec.toJson.pretty ++ "\n"

def decode : Mode → Decoder Spec
  | .client => fun t w => (ClientSpec.decode t w).map .client
  | .server => fun t w => (ServerSpec.decode t w).map .server

/-- The usable spec of a file's text; `path` names the file in flaws. -/
def ofText (mode : Mode) (path text : String) : Except Flaw Spec := do
  let spec ← ((decode mode).ofText text).mapError fun refusal => .spec mode path refusal
  spec.validate
  return spec

end Spec
end ConformanceGate
