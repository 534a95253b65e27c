import ConformanceGate.Config.Basic
import ConformanceGate.Document.Decode
import ConformanceGate.Toml.Reader

/-!
# Reading a configuration

A document is laid over the usual settings: what it names takes the place of the usual value, and
what it does not name stays. A role is given as a whole or not at all. Nothing else may stand in a
configuration.
-/

namespace ConformanceGate

def HarnessConfig.shape : Shape HarnessConfig where
  name := "struct HarnessConfig"
  fields := [
    .of "program" .string fun program c => { c with program },
    .of "args" (.list .string) fun args c => { c with args }]
  others := .refuse
  positional := some 0

def ReadinessConfig.shape : Shape ReadinessConfig where
  name := "struct ReadinessConfig"
  fields := [
    .of "timeout_ms" .nat64 fun timeout c => { c with timeout },
    .of "interval_ms" .nat64 fun interval c => { c with interval },
    .of "fixed_delay_ms" (.optional .nat64) fun fixedDelay c => { c with fixedDelay }]
  others := .refuse
  positional := some 0

def TeardownConfig.shape : Shape TeardownConfig where
  name := "struct TeardownConfig"
  fields := [.of "grace_ms" .nat64 fun grace c => { c with grace }]
  others := .refuse
  positional := some 0

namespace RoleConfig

/-- Settings of a role that are still to come. -/
structure Draft where
  spec : Option String
  baseline : Option String
  subject : Option (List String)

def shape : Shape Draft where
  name := "struct RoleConfig"
  fields := [
    .of "spec" .path fun spec d => { d with spec := some spec },
    .of "baseline" .path fun baseline d => { d with baseline := some baseline },
    .of "subject" (.list .string) fun subject d => { d with subject := some subject }]
  others := .refuse
  positional := some 3

/-- Reads the settings of a role; all of them have to be there. -/
def decode : Decoder RoleConfig := fun t w => do
  let (draft, _) ← shape.fill t w ⟨none, none, none⟩
  let spec ← required "spec" draft.spec
  let baseline ← required "baseline" draft.baseline
  let subject ← required "subject" draft.subject
  return ⟨spec, baseline, subject⟩

end RoleConfig

def Shape.over (shape : Shape ρ) (usual : ρ) : Decoder ρ := fun t w =>
  (shape.fill t w usual).map (·.1)

namespace Config

def shape : Shape Config where
  name := "struct Config"
  fields := [
    .of "working_dir" .path fun workingDir c => { c with workingDir },
    .of "relax_non_strict" .boolean fun relaxed c => { c with relaxed },
    .of "run_timeout_secs" (.optional .nat64) fun runTimeout c => { c with runTimeout },
    .of "harness" (HarnessConfig.shape.over usual.harness) fun harness c => { c with harness },
    .of "readiness" (ReadinessConfig.shape.over usual.readiness) fun readiness c =>
      { c with readiness },
    .of "teardown" (TeardownConfig.shape.over usual.teardown) fun teardown c => { c with teardown },
    .of "server" RoleConfig.decode fun server c => { c with server },
    .of "client" RoleConfig.decode fun client c => { c with client }]
  others := .refuse
  positional := some 0

def decode : Decoder Config := shape.over usual

def ofTree (tree : Written) (levels : Nat) : Except Flaw Config := do
  let config ← (decode ⟨levels, true⟩ tree).mapError fun refusal =>
    match refusal with
    | .fault _ => .syntaxError
    | .mismatch m => .setting m
  config.validate
  return config

def ofText (text : String) : Except Flaw Config :=
  match Toml.read text with
  | .error .malformed => .error .syntaxError
  | .error .tooDeep => .error .keyTooDeep
  | .ok tree => ofTree tree (text.length + 1)

end Config
end ConformanceGate
