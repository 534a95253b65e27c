import ConformanceGate.Config.Decode
import ConformanceGate.Spec.Codec
import ConformanceGate.System.Program

/-!
# Specs and configurations on disk
-/

namespace ConformanceGate

namespace Spec

def load (mode : Mode) (path : String) : Action Spec := do
  let text ← Action.attempt ("reading harness spec " ++ path) (.readFile path)
  Action.ofFlaw (Spec.ofText mode path text)

def save (spec : Spec) (path : String) : Action Unit := do
  match (Path.parent? path).filter (fun parent => !parent.isEmpty) with
  | some parent => Action.attempt ("creating " ++ parent) (.createDirs parent)
  | none => pure ()
  Action.attempt ("writing harness spec " ++ path) (.writeFile path spec.text)

end Spec

namespace Config

/-- The configuration file that is used if it is there and no other one is named. -/
def usualFile : String := "wsconform.toml"

def loadFile (path : String) : Action Config := do
  let text ← Action.attempt ("reading config " ++ path) (.readFile path)
  Action.ofFlaw ((Config.ofText text).mapError (.within path))

/-- The settings of the named file, which has to be there, or of the usual file if it is there, or
the usual settings. -/
def load : Option String → Action Config
  | some path => loadFile path
  | none => do
    if ← Action.lift (.isFile usualFile) then loadFile usualFile else return usual

end Config
end ConformanceGate
