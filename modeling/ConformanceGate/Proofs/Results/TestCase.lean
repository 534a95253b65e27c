import ConformanceGate.Proofs.Document.Records
import ConformanceGate.Proofs.Json.Places
import ConformanceGate.Results.TestCase

/-!
# Reading the record of a case

A record can be read if its status is a text and every other field of a case is absent, null or of
its type (`Json.IsCase`). What is read then shows every field (`TestCase.Shows`), and what cannot be
read is refused for a value that does not fit (`TestCase.decode_cases`).
-/

namespace ConformanceGate

namespace Json

/-- A text stands under the key, or null or nothing does. -/
def TextIfAny (v : Json) (key : String) : Prop :=
  ∀ found, v.get? key = some found → found = .null ∨ ∃ s, found = .string s

/-- A whole number below the limit stands under the key, or null or nothing does. -/
def CountIfAny (limit : Nat) (v : Json) (key : String) : Prop :=
  ∀ found, v.get? key = some found → found = .null ∨ ∃ n : Nat, n < limit ∧ found = .nat n

/-- The fields of a case stand in the record with their types; other members may be anything. -/
structure IsCase (record : Json) : Prop where
  behavior : ∃ s, record.get? "behavior" = some (.string s)
  behaviorClose : record.TextIfAny "behaviorClose"
  duration : CountIfAny UInt64.size record "duration"
  remoteCloseCode : CountIfAny UInt16.size record "remoteCloseCode"
  reportfile : record.TextIfAny "reportfile"

end Json

namespace TestCase

/-- The case shows what stands in the fields of the record; null counts as absent. -/
structure Shows (c : TestCase) (record : Json) : Prop where
  status : ((record.get? "behavior").bind Json.text?).map Status.ofText = some c.status
  close : ((record.get? "behaviorClose").bind Json.text?).map Status.ofText = c.close
  duration : (record.get? "duration").bind Json.count? = c.duration.map (·.toNat)
  closeCode : (record.get? "remoteCloseCode").bind Json.count? = c.closeCode.map (·.toNat)
  report : (record.get? "reportfile").bind Json.text? = c.report

/-! ## One member -/

/-- The value fits the field of its key, if there is one. -/
structure Fits (m : String × Json) : Prop where
  behavior : m.1 = "behavior" → m.2.text?.isSome
  behaviorClose : m.1 = "behaviorClose" → (m.2.ifAny Json.text?).isSome
  duration : m.1 = "duration" → (m.2.ifAny (Json.countBelow? UInt64.size)).isSome
  remoteCloseCode : m.1 = "remoteCloseCode" → (m.2.ifAny (Json.countBelow? UInt16.size)).isSome
  reportfile : m.1 = "reportfile" → (m.2.ifAny Json.text?).isSome

def Draft.after (d : Draft) (m : String × Json) : Draft where
  status := if m.1 = "behavior" then m.2.text?.map Status.ofText else d.status
  rest := { d.rest with
    close := if m.1 = "behaviorClose" then m.2.text?.map Status.ofText else d.rest.close
    duration := if m.1 = "duration" then m.2.count?.map Nat.toUInt64 else d.rest.duration
    closeCode := if m.1 = "remoteCloseCode" then m.2.count?.map Nat.toUInt16 else d.rest.closeCode
    report := if m.1 = "reportfile" then m.2.text? else d.rest.report }

theorem eq_text?_of_ifAny {v : Json} {a : Option String} (h : v.ifAny Json.text? = some a) :
    a = v.text? := Json.eq_of_ifAny rfl (fun _ _ h => h) h

theorem eq_count?_of_ifAny {limit : Nat} {v : Json} {a : Option Nat}
    (h : v.ifAny (Json.countBelow? limit) = some a) : a = v.count? :=
  Json.eq_of_ifAny rfl (fun _ _ h => Option.filter_eq_some_iff.mp h |>.1) h

/-- A member under the name of a field changes the place of the field, or is refused. -/
theorem take_field {α : Type} {name : String} {d : Decoder α} {put : α → Draft → Draft}
    (field : shape.fields.find? (fun f => f.name = name) = some (.of name d put))
    {read : Json → Option α} (reads : d.Reads read)
    (fits : ∀ v, Fits (name, v) ↔ (read v).isSome)
    (after : ∀ v a draft, read v = some a → put a draft = draft.after (name, v))
    (t : Terms) (draft : Draft) (v : Json) :
    (Fits (name, v) ∧ shape.take t draft (name, v) = .ok (draft.after (name, v))) ∨
      (¬ Fits (name, v) ∧ ∃ m, shape.take t draft (name, v) = .error (.mismatch m)) := by
  rw [fits]
  obtain ⟨a, found, ok⟩ | ⟨found, m, error⟩ := Shape.take_of_find? field reads t draft v
  · exact .inl ⟨Option.isSome_of_eq_some found, ok.trans (congrArg _ (after v a draft found))⟩
  · exact .inr ⟨Option.not_isSome_iff_eq_none.mpr found, m, error⟩

/-- A member that fits changes its place of the draft; one that does not is refused. -/
theorem take_cases (t : Terms) (d : Draft) (m : String × Json) :
    (Fits m ∧ shape.take t d m = .ok (d.after m)) ∨
      (¬ Fits m ∧ ∃ mismatch, shape.take t d m = .error (.mismatch mismatch)) := by
  obtain ⟨key, v⟩ := m
  by_cases behavior : key = "behavior"
  · subst behavior
    refine take_field rfl Decoder.string_reads (fun v => ⟨fun h => h.behavior rfl, fun h => ?_⟩)
      (fun v a draft found => by simp [Draft.after, found]) t d v
    exact ⟨fun _ => h, by simp, by simp, by simp, by simp⟩
  by_cases close : key = "behaviorClose"
  · subst close
    refine take_field rfl Decoder.string_reads.optional
      (fun v => ⟨fun h => h.behaviorClose rfl, fun h => ?_⟩)
      (fun v a draft found => by simp [Draft.after, eq_text?_of_ifAny found]) t d v
    exact ⟨by simp, fun _ => h, by simp, by simp, by simp⟩
  by_cases duration : key = "duration"
  · subst duration
    refine take_field rfl Decoder.nat64_reads.optional
      (fun v => ⟨fun h => h.duration rfl, fun h => ?_⟩)
      (fun v a draft found => by simp [Draft.after, eq_count?_of_ifAny found]) t d v
    exact ⟨by simp, by simp, fun _ => h, by simp, by simp⟩
  by_cases closeCode : key = "remoteCloseCode"
  · subst closeCode
    refine take_field rfl Decoder.nat16_reads.optional
      (fun v => ⟨fun h => h.remoteCloseCode rfl, fun h => ?_⟩)
      (fun v a draft found => by simp [Draft.after, eq_count?_of_ifAny found]) t d v
    exact ⟨by simp, by simp, by simp, fun _ => h, by simp⟩
  by_cases report : key = "reportfile"
  · subst report
    refine take_field rfl Decoder.string_reads.optional
      (fun v => ⟨fun h => h.reportfile rfl, fun h => ?_⟩)
      (fun v a draft found => by simp [Draft.after, eq_text?_of_ifAny found]) t d v
    exact ⟨by simp, by simp, by simp, by simp, fun _ => h⟩
  · -- The member is no field.
    refine .inl ⟨⟨(absurd · behavior), (absurd · close), (absurd · duration),
      (absurd · closeCode), (absurd · report)⟩, ?_⟩
    have none : shape.fields.find? (fun f => f.name = key) = none := by
      simp [shape, Ne.symm behavior, Ne.symm close, Ne.symm duration, Ne.symm closeCode,
        Ne.symm report]
    simp [Shape.take, none, Draft.after, behavior, close, duration, closeCode, report]

/-! ## The whole record -/

/-- All members fit and are taken one after the other, or the first one that does not fit is
refused. -/
theorem foldlM_take_cases (t : Terms) (members : List (String × Json)) (d : Draft) :
    ((∀ m ∈ members, Fits m) ∧
      members.foldlM (shape.take t) d = .ok (members.foldl Draft.after d)) ∨
    ((¬ ∀ m ∈ members, Fits m) ∧
      ∃ mismatch, members.foldlM (shape.take t) d = .error (.mismatch mismatch)) := by
  induction members generalizing d with
  | nil => exact .inl ⟨by simp, rfl⟩
  | cons m rest ih =>
    rw [List.foldlM_cons, List.forall_mem_cons, List.foldl_cons]
    obtain ⟨fits, ok⟩ | ⟨misfit, mismatch, error⟩ := take_cases t d m
    · rw [ok]
      simp only [fits, true_and]
      exact ih (d.after m)
    · exact .inr ⟨fun h => misfit h.1, mismatch, by rw [error]; rfl⟩

/-- A place of the draft that one field alone changes holds what this field was read as. -/
theorem foldl_after {β : Type} (place : Draft → β) (name : String) (read : Json → β)
    (changes : ∀ d m, place (Draft.after d m) = if m.1 = name then read m.2 else place d)
    {members : List (String × Json)} (distinct : (members.map (·.1)).Nodup) (d : Draft) :
    place (members.foldl Draft.after d) =
      (Keyed.lookup name members).elim (place d) read := by
  induction members generalizing d with
  | nil => rfl
  | cons m rest ih =>
    obtain ⟨key, v⟩ := m
    obtain ⟨new, distinct⟩ := List.nodup_cons.mp distinct
    rw [List.foldl_cons, ih distinct, changes]
    by_cases h : key = name
    · -- No later member has the name, so this one decides.
      subst h
      have absent : Keyed.lookup key rest = none := Keyed.lookup_eq_none_iff.mpr fun p hp e =>
        new (e ▸ List.mem_map_of_mem (f := (·.1)) hp)
      simp [absent]
    · simp [h, Keyed.lookup_cons_ne h]

/-- With distinct keys, what holds of every member of a name holds of what the name leads to. -/
theorem forall_named_iff {P : Json → Prop} {members : List (String × Json)}
    (distinct : (members.map (·.1)).Nodup) (name : String) :
    (∀ m ∈ members, m.1 = name → P m.2) ↔ ∀ v, Keyed.lookup name members = some v → P v := by
  constructor
  · intro h v found
    exact h _ (Keyed.mem_of_lookup found) rfl
  · rintro h ⟨key, v⟩ hm rfl
    exact h v ((Keyed.lookup_eq_some_iff distinct).mpr hm)

/-- All members fit exactly if each of the fields has its type, where it is there. -/
theorem forall_fits_iff {members : List (String × Json)} (distinct : (members.map (·.1)).Nodup) :
    (∀ m ∈ members, Fits m) ↔
      (∀ v, Keyed.lookup "behavior" members = some v → v.text?.isSome) ∧
      (Json.object members).TextIfAny "behaviorClose" ∧
      Json.CountIfAny UInt64.size (.object members) "duration" ∧
      Json.CountIfAny UInt16.size (.object members) "remoteCloseCode" ∧
      (Json.object members).TextIfAny "reportfile" := by
  simp only [Json.TextIfAny, Json.CountIfAny, Json.get?_object, ← Json.isSome_ifAny_text?_iff,
    ← Json.isSome_ifAny_countBelow?_iff, ← forall_named_iff distinct]
  constructor
  · intro h
    exact ⟨fun m hm => (h m hm).behavior, fun m hm => (h m hm).behaviorClose,
      fun m hm => (h m hm).duration, fun m hm => (h m hm).remoteCloseCode,
      fun m hm => (h m hm).reportfile⟩
  · rintro ⟨behavior, close, duration, closeCode, report⟩ m hm
    exact ⟨behavior m hm, close m hm, duration m hm, closeCode m hm, report m hm⟩

/-- A record is that of a case exactly if all members fit and there is a status. -/
theorem isCase_iff {members : List (String × Json)} (distinct : (members.map (·.1)).Nodup) :
    (Json.object members).IsCase ↔
      (∀ m ∈ members, Fits m) ∧ (Keyed.lookup "behavior" members).isSome := by
  rw [forall_fits_iff distinct]
  constructor
  · intro h
    obtain ⟨s, found⟩ := h.behavior
    rw [Json.get?_object] at found
    exact ⟨⟨by simp [found, Json.text?], h.behaviorClose, h.duration, h.remoteCloseCode,
      h.reportfile⟩, by simp [found]⟩
  · rintro ⟨⟨behavior, close, duration, closeCode, report⟩, there⟩
    obtain ⟨v, found⟩ := Option.isSome_iff_exists.mp there
    obtain ⟨s, rfl⟩ := Json.isSome_text?_iff.mp (behavior v found)
    exact ⟨⟨s, found⟩, close, duration, closeCode, report⟩

def Draft.blank : Draft := ⟨none, ⟨.ok, none, none, none, none⟩⟩

/-- A record is decoded by taking its members one by one, and then asking for the status. -/
theorem decode_ofJson {members : List (String × Json)} (distinct : (members.map (·.1)).Nodup) :
    decode .json (.ofJson (.object members)) =
      (members.foldlM (shape.take ⟨126, false⟩) Draft.blank).bind fun draft =>
        (required "behavior" draft.status).map fun status => { draft.rest with status } := by
  have opened : shape.fill .json (.ofJson (.object members)) Draft.blank =
      shape.fillMembers ⟨126, false⟩ (Written.ofMembers members) none [] Draft.blank := rfl
  rw [decode, ← Draft.blank, opened, Shape.fillMembers_ofMembers rfl distinct (by simp)]
  cases members.foldlM (shape.take ⟨126, false⟩) Draft.blank <;> rfl

/-- A count that fits its type is not changed by being stored in it. -/
theorem bind_count?_eq {limit : Nat} {v : Json} {key : String} (h : Json.CountIfAny limit v key)
    {β : Type} {make : Nat → β} {toNat : β → Nat} (exact : ∀ n < limit, toNat (make n) = n) :
    (v.get? key).bind Json.count? =
      ((v.get? key).elim none fun found => found.count?.map make).map toNat := by
  cases found : v.get? key with
  | none => rfl
  | some value =>
    obtain rfl | ⟨n, small, rfl⟩ := h value found
    · rfl
    · have count : (Json.nat n).count? = some n := Json.count?_eq_some_iff.mpr rfl
      simp [count, exact n small]

/-- What is made of the members of a case shows all its fields. -/
theorem shows_foldl_after {members : List (String × Json)}
    (distinct : (members.map (·.1)).Nodup) (record : (Json.object members).IsCase)
    {status : Status} (found : (members.foldl Draft.after Draft.blank).status = some status) :
    Shows { (members.foldl Draft.after Draft.blank).rest with status } (.object members) := by
  refine ⟨?_, ?_, ?_, ?_, ?_⟩
  · rw [← found, foldl_after Draft.status "behavior" (fun v => v.text?.map Status.ofText)
      (fun _ _ => rfl) distinct]
    cases h : Keyed.lookup "behavior" members <;> simp [h, Draft.blank]
  · rw [foldl_after (fun d => d.rest.close) "behaviorClose" (fun v => v.text?.map Status.ofText)
      (fun _ _ => rfl) distinct]
    cases h : Keyed.lookup "behaviorClose" members <;> simp [h, Draft.blank]
  · rw [foldl_after (fun d => d.rest.duration) "duration" (fun v => v.count?.map Nat.toUInt64)
      (fun _ _ => rfl) distinct]
    exact bind_count?_eq record.duration fun n small => UInt64.toNat_ofNat_of_lt' small
  · rw [foldl_after (fun d => d.rest.closeCode) "remoteCloseCode"
      (fun v => v.count?.map Nat.toUInt16) (fun _ _ => rfl) distinct]
    exact bind_count?_eq record.remoteCloseCode fun n small => UInt16.toNat_ofNat_of_lt' small
  · rw [foldl_after (fun d => d.rest.report) "reportfile" Json.text? (fun _ _ => rfl) distinct]
    cases h : Keyed.lookup "reportfile" members <;> simp [h, Draft.blank]

/-- The record of a case is read and shown; any other one is refused for what does not fit. -/
theorem decode_cases {members : List (String × Json)} (distinct : (members.map (·.1)).Nodup) :
    ((Json.object members).IsCase ∧
      ∃ c, decode .json (.ofJson (.object members)) = .ok c ∧ c.Shows (.object members)) ∨
    (¬ (Json.object members).IsCase ∧
      ∃ m, decode .json (.ofJson (.object members)) = .error (.mismatch m)) := by
  have status := foldl_after Draft.status "behavior" (fun v => v.text?.map Status.ofText)
    (fun _ _ => rfl) distinct Draft.blank
  rw [decode_ofJson distinct]
  obtain ⟨fits, ok⟩ | ⟨misfit, mismatch, error⟩ := foldlM_take_cases ⟨126, false⟩ members .blank
  · rw [ok]
    cases found : Keyed.lookup "behavior" members with
    | none =>
      -- All members fit, but the one that must be there is missing.
      rw [found] at status
      refine .inr ⟨fun h => ?_, .missing "behavior", ?_⟩
      · simpa [found] using ((isCase_iff distinct).mp h).2
      · simp only [Except.bind, status]
        rfl
    | some v =>
      have record : (Json.object members).IsCase :=
        (isCase_iff distinct).mpr ⟨fits, by simp [found]⟩
      obtain ⟨s, hs⟩ := record.behavior
      obtain rfl : v = .string s := Option.some.inj (found.symm.trans hs)
      rw [found] at status
      refine .inl ⟨record, _, ?_, shows_foldl_after distinct record status⟩
      simp only [Except.bind, status]
      rfl
  · rw [error]
    exact .inr ⟨fun h => misfit ((isCase_iff distinct).mp h).1, mismatch, rfl⟩

end TestCase
end ConformanceGate
