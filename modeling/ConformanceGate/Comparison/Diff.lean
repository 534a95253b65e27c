import ConformanceGate.CaseId.Sort
import ConformanceGate.Json.Printer

/-!
# Differences between documents

`changes` walks two documents at once and lists the places where they differ, each with the keys
that lead to it and what stands there on either side. Keys of one object come in the order of case
keys. A `Diff` is what is reported: the places as paths, with the two sides.
-/

namespace ConformanceGate

/-- A place where two documents differ. A side that has nothing there is `none`. -/
structure Change where
  keys : List String
  baseline : Option Json
  fresh : Option Json

namespace Change

def under (key : String) (c : Change) : Change := { c with keys := key :: c.keys }

end Change

/-- Groups of changes by key, in the order of case keys, as one list. -/
def gather (groups : List (String × List Change)) : List Change :=
  let sorted := groups.mergeSort fun a b => (CaseId.compareKeys a.1 b.1).isLE
  sorted.flatMap fun g => g.2.map (·.under g.1)

/-- The members of `right` that `left` lacks. -/
def added (left right : List (String × Json)) : List (String × List Change) :=
  (right.filter fun m => (Keyed.lookup m.1 left).isNone).map fun m => (m.1, [⟨[], none, some m.2⟩])

mutual

/-- The changes from a document to another. -/
def changes : Json → Json → List Change
  | .object left, right =>
    match right with
    | .object right => gather (changesIn left right ++ added left right)
    | right => [⟨[], some (.object left), some right⟩]
  | left, right => if left.same right then [] else [⟨[], some left, some right⟩]

/-- The changes of the members of `left`, by key. -/
def changesIn : List (String × Json) → List (String × Json) → List (String × List Change)
  | [], _ => []
  | (key, value) :: rest, right =>
    let found := match Keyed.lookup key right with
      | some other => changes value other
      | none => [⟨[], some value, none⟩]
    (key, found) :: changesIn rest right

end

structure Difference where
  path : String
  baseline : Option Json
  fresh : Option Json

/-- The keys, each with a slash in front; the whole document is a slash. -/
def Change.path (c : Change) : String :=
  if c.keys.isEmpty then "/" else String.ofList (c.keys.flatMap fun key => '/' :: key.toList)

def Change.difference (c : Change) : Difference := ⟨c.path, c.baseline, c.fresh⟩

namespace Difference

/-- One line: what was changed, removed or added, and where. -/
def text (d : Difference) : String :=
  match d.baseline, d.fresh with
  | some b, some n => "~ " ++ d.path ++ ": " ++ b.compact ++ " -> " ++ n.compact
  | some b, none => "- " ++ d.path ++ ": " ++ b.compact
  | none, some n => "+ " ++ d.path ++ ": " ++ n.compact
  | none, none => "  " ++ d.path

/-- The first two parts of the path: the implementation and the case. -/
def subject (d : Difference) : String :=
  String.ofList (['/'].intercalate (((d.path.toList.dropWhile (· == '/')).splitOn '/').take 2))

/-- The difference as a value; a side that has nothing is `null`. -/
def toJson (d : Difference) : Json :=
  .object [("path", .string d.path), ("baseline", d.baseline.getD .null),
    ("fresh", d.fresh.getD .null)]

end Difference

structure Diff where
  entries : List Difference

namespace Diff

def between (left right : Json) : Diff := ⟨(changes left right).map Change.difference⟩

def isEmpty (d : Diff) : Bool := d.entries.isEmpty

/-- The texts without repetitions, in the order in which they first occur. -/
def distinct (texts : List String) : List String :=
  texts.foldl (fun seen s => if s ∈ seen then seen else seen ++ [s]) []

/-- The cases touched by the differences, each once. -/
def affectedCases (d : Diff) : List String := distinct (d.entries.map Difference.subject)

def text (d : Diff) : String := "\n".intercalate (d.entries.map Difference.text)

def toJson (d : Diff) : Json := .object [("entries", .array (d.entries.map Difference.toJson))]

end Diff
end ConformanceGate
