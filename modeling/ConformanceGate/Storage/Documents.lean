import ConformanceGate.Comparison.Verdict
import ConformanceGate.Json.Reader
import ConformanceGate.System.Program

/-!
# Results on disk

Reading results, comparing two results files, and making fresh results the new baseline. A failure
names the file as it was given.
-/

namespace ConformanceGate

def Json.load (path : String) : Action Json := do
  let text ← Action.attempt ("reading " ++ path) (.readFile path)
  Action.ofExcept ((Json.parse text).mapError (.unreadable path))

def Results.load (path : String) : Action Results := do
  let v ← Json.load path
  Action.ofExcept ((Results.ofJson v).mapError (.irregular path))

namespace Policy

def verifyFiles (p : Policy) (baseline fresh : String) : Action Verdict := do
  let left ← Json.load baseline
  let right ← Json.load fresh
  Action.ofExcept (p.verify baseline left fresh right)

end Policy

/-- Writes the normal form of fresh results as the new baseline; statuses stay as recorded. -/
def bless (fresh baseline : String) : Action Unit := do
  let v ← Json.load fresh
  Action.ofExcept (Policy.checkForm fresh v)
  Action.attempt ("writing " ++ baseline)
    (.writeFile baseline (Policy.strict.canonicalText v ++ "\n"))

end ConformanceGate
