import ConformanceGate.Proofs.System.Traces

/-!
# File systems

A file system says which paths lead to which files, and what is in them; several paths may lead to
one file. A host keeps the files of its states if reading gives what is there and changes nothing,
and writing changes one file (`KeepsFiles`). Other requests may do anything.
-/

namespace ConformanceGate

/-- The bytes of a text are read as the text. -/
theorem fromUTF8?_toUTF8 (text : String) : String.fromUTF8? text.toUTF8 = some text :=
  dif_pos text.isValidUTF8

/-- The files of a system: where paths lead, and what is there. -/
structure FileSystem (Place : Type) where
  /-- The place of the file that a path leads to, if it leads to one. -/
  place? : String → Option Place
  bytes : Place → ByteArray

namespace FileSystem

variable {Place : Type}

/-- The text of the file that a path leads to, if there is one and it holds a text. -/
def text? (fs : FileSystem Place) (path : String) : Option String :=
  (fs.place? path).bind fun place => String.fromUTF8? (fs.bytes place)

/-- A text was written at a place, to which its path leads from then on. All other files hold what
they held, paths lead where they led, and no further path leads anywhere but to the place. -/
structure Wrote (path text : String) (place : Place) (before after : FileSystem Place) : Prop where
  leads : after.place? path = some place
  content : after.bytes place = text.toUTF8
  others : ∀ other, other ≠ place → after.bytes other = before.bytes other
  kept : ∀ {p old}, before.place? p = some old → after.place? p = some old
  only : ∀ {p new}, after.place? p = some new → new = place ∨ before.place? p = some new

variable {path text : String} {place : Place} {before after : FileSystem Place}

theorem Wrote.text?_eq (h : Wrote path text place before after) : after.text? path = some text := by
  rw [text?, h.leads, Option.bind_some, h.content, fromUTF8?_toUTF8]

/-- A path that led to a text leads to that text, or to the one that was written. -/
theorem Wrote.text?_cases (h : Wrote path text place before after) {p old : String}
    (found : before.text? p = some old) : after.text? p = some old ∨ after.text? p = some text := by
  simp only [text?, Option.bind_eq_some_iff] at found
  obtain ⟨there, leads, decoded⟩ := found
  -- Another path may lead to the file that was written.
  by_cases same : there = place
  · exact .inr (by rw [text?, h.kept leads, Option.bind_some, same, h.content, fromUTF8?_toUTF8])
  · exact .inl (by simp [text?, h.kept leads, h.others _ same, decoded])

end FileSystem

/-- In its valid states the host keeps files: reading gives the text of a file and changes none,
and writing, if it succeeds, leaves the text in the file. -/
structure KeepsFiles {σ Place : Type} (host : Program.Host σ) (valid : σ → Prop)
    (files : σ → FileSystem Place) : Prop where
  valid_read : ∀ {s path}, valid s → valid (host s (.readFile path)).2
  files_read : ∀ {s path}, valid s → files (host s (.readFile path)).2 = files s
  read : ∀ {s path} {text : String}, valid s →
    ((host s (.readFile path)).1 = Except.ok text ↔ (files s).text? path = some text)
  valid_write : ∀ {s path text}, valid s → valid (host s (.writeFile path text)).2
  write : ∀ {s path text}, valid s → (host s (.writeFile path text)).1 = Except.ok () →
    ∃ place, FileSystem.Wrote path text place (files s) (files (host s (.writeFile path text)).2)

/-! ## Running actions -/

namespace Program

variable {σ α β : Type} {host : Host σ}

theorem run_bind (p : Program α) (f : α → Program β) (s : σ) :
    (p.bind f).run host s = match p.run host s with
      | (some a, s') => (f a).run host s'
      | (none, s') => (none, s') := by
  induction p generalizing s with
  | done a => rfl
  | ask r k ih => exact ih _ _
  | exhausted => rfl

/-- A single request ends with its reply. -/
theorem run_request (host : Host σ) (r : Request) (s : σ) :
    (request r).run host s = (some (host s r).1, (host s r).2) := rfl

end Program

namespace Action

variable {σ α β : Type} {host : Program.Host σ}

theorem run_bind_ok {t : Action α} {f : α → Action β} {s s' : σ} {a : α}
    (h : t.toProgram.run host s = (some (.ok a), s')) :
    (t >>= f).toProgram.run host s = (f a).toProgram.run host s' := by
  rw [toProgram_bind, Program.run_bind, h]

theorem run_bind_error {t : Action α} {f : α → Action β} {s s' : σ} {failure : Failure}
    (h : t.toProgram.run host s = (some (.error failure), s')) :
    (t >>= f).toProgram.run host s = (some (.error failure), s') := by
  rw [toProgram_bind, Program.run_bind, h]
  rfl

/-- An action that ends well went well up to the last step. -/
theorem run_bind_eq_ok {t : Action α} {f : α → Action β} {s s' : σ} {b : β}
    (h : (t >>= f).toProgram.run host s = (some (.ok b), s')) :
    ∃ a s₁, t.toProgram.run host s = (some (.ok a), s₁) ∧
      (f a).toProgram.run host s₁ = (some (.ok b), s') := by
  rw [toProgram_bind, Program.run_bind] at h
  cases first : t.toProgram.run host s with
  | mk found s₁ =>
    rw [first] at h
    rcases found with _ | failure | a
    · cases h
    · cases h
    · exact ⟨a, s₁, rfl, h⟩

@[simp] theorem run_ofExcept (e : Except Failure α) (s : σ) :
    (ofExcept e).toProgram.run host s = (some e, s) := rfl

theorem run_lift {p : Program α} {s s' : σ} {a : α} (h : p.run host s = (some a, s')) :
    (lift p).toProgram.run host s = (some (.ok a), s') := by
  have unfolded : (lift p).toProgram = p.bind fun a => .done (.ok a) := rfl
  rw [unfolded, Program.run_bind, h]
  rfl

theorem run_attempt {context : String} {p : Program (Except SystemError α)} {s s' : σ}
    {reply : Except SystemError α} (h : p.run host s = (some reply, s')) :
    (attempt context p).toProgram.run host s =
      (some (reply.mapError (.system context)), s') := by
  have unfolded : (attempt context p).toProgram =
      p.bind fun reply => .done (reply.mapError (.system context)) := rfl
  rw [unfolded, Program.run_bind, h]
  rfl

end Action
end ConformanceGate
