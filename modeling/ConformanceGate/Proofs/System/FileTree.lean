import ConformanceGate.Proofs.System.FileSystem

/-!
# File trees

A path may be there without leading to a file, and directories are made for files to stand in. A
host keeps its tree if nothing goes away, looking and printing change nothing, and making
directories and writing, whether they succeed or not, change no bytes but those of the file that is
written (`KeepsTree`).
-/

namespace ConformanceGate

variable {σ Place : Type} {host : Program.Host σ} {valid : σ → Prop}
  {files : σ → FileSystem Place}

/-- Whether anything is there where a path leads. -/
def Program.Host.there (host : Program.Host σ) (s : σ) (path : String) : Bool :=
  (host s (.isThere path)).1

/-- A request that looks for a path, prints, makes directories or writes a file. -/
def Request.Adds : Request → Prop
  | .isThere _ | .print _ | .createDirs _ | .writeFile _ _ => True
  | _ => False

/-- Nothing went away from one state to another: what was there still is, and paths lead to the
files they led to. -/
structure Onward (host : Program.Host σ) (valid : σ → Prop) (files : σ → FileSystem Place)
    (s s' : σ) : Prop where
  valid : valid s'
  there : ∀ path, host.there s path = true → host.there s' path = true
  kept : ∀ path place, (files s).place? path = some place → (files s').place? path = some place

/-- What stays through two stages stays through both. -/
theorem Onward.trans {s₁ s₂ s₃ : σ} (first : Onward host valid files s₁ s₂)
    (second : Onward host valid files s₂ s₃) : Onward host valid files s₁ s₃ where
  valid := second.valid
  there path h := second.there path (first.there path h)
  kept path place h := second.kept path place (first.kept path place h)

/-- In its valid states the host keeps files and the tree in which they stand. -/
structure KeepsTree (host : Program.Host σ) (valid : σ → Prop) (files : σ → FileSystem Place) : Prop
    extends KeepsFiles host valid files where
  onward : ∀ {s r}, valid s → r.Adds → Onward host valid files s (host s r).2
  there : ∀ {s path place}, valid s → (files s).place? path = some place → host.there s path = true
  files_isThere : ∀ {s path}, valid s → files (host s (.isThere path)).2 = files s
  files_print : ∀ {s text}, valid s → files (host s (.print text)).2 = files s
  bytes_createDirs : ∀ {s path}, valid s →
    (files (host s (.createDirs path)).2).bytes = (files s).bytes
  /-- Whatever the reply is, only the file that the path leads to in the end was written. -/
  bytes_writeFile : ∀ {s path text place}, valid s →
    (files (host s (.writeFile path text)).2).place? path ≠ some place →
      (files (host s (.writeFile path text)).2).bytes place = (files s).bytes place
  /-- No directories are made where something is. -/
  files_createDirs : ∀ {s path}, valid s → host.there s path = true →
    files (host s (.createDirs path)).2 = files s
  /-- A file that is new is none of those that were there. -/
  bytes_writeFile_new : ∀ {s path text path' place}, valid s → (files s).place? path = none →
    (files s).place? path' = some place →
      (files (host s (.writeFile path text)).2).bytes place = (files s).bytes place

namespace FileSystem

/-- Every path leads to the file that it led to, and no file came to harm, but for those excused. -/
structure Spares (excused : Place → Prop) (before after : FileSystem Place) : Prop where
  kept : ∀ path place, before.place? path = some place → after.place? path = some place
  bytes : ∀ path place, before.place? path = some place →
    after.bytes place = before.bytes place ∨ excused place

theorem Spares.trans {excused : Place → Prop} {fs₁ fs₂ fs₃ : FileSystem Place}
    (first : Spares excused fs₁ fs₂) (second : Spares excused fs₂ fs₃) :
    Spares excused fs₁ fs₃ := by
  refine ⟨fun path place led => second.kept path place (first.kept path place led),
    fun path place led => ?_⟩
  rcases second.bytes path place (first.kept path place led) with same | harmed
  · rw [same]
    exact first.bytes path place led
  · exact .inr harmed

theorem Spares.mono {excused excused' : Place → Prop} {before after : FileSystem Place}
    (h : Spares excused before after) (more : ∀ place, excused place → excused' place) :
    Spares excused' before after :=
  ⟨h.kept, fun path place led => (h.bytes path place led).imp_right (more place)⟩

/-- A path that led to a text leads to it still if its file was not written. -/
theorem text?_of_bytes {before after : FileSystem Place} {path text : String}
    (found : before.text? path = some text)
    (kept : ∀ place, before.place? path = some place →
      after.place? path = some place ∧ after.bytes place = before.bytes place) :
    after.text? path = some text := by
  obtain ⟨place, led, decoded⟩ := Option.bind_eq_some_iff.mp found
  obtain ⟨leads, same⟩ := kept place led
  rw [text?, leads, Option.bind_some, same, decoded]

end FileSystem
end ConformanceGate
