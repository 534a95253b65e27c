import ConformanceGate.Proofs.Json.RoundTrip
import ConformanceGate.Proofs.Document.Records

/-!
# Reading back what was written

A decoder undoes a way to write values if it reads back what is written, and if all that it ever
gives can be written (`Decoder.Undoes`). Texts, arrays and objects with free keys are undone by
their decoders. What the fields of a record keep about its draft holds once the record is filled
(`Shape.fill_keeps`).
-/

namespace ConformanceGate

variable {α ρ : Type}

theorem Terms.enter_eq_ok_iff {t inner : Terms} :
    t.enter = .ok inner ↔ ∃ levels, t.levels = levels + 1 ∧ inner = { t with levels } := by
  rcases t with ⟨_ | levels, leftovers⟩ <;> simp [enter, eq_comm]

theorem Terms.levels_of_enter {t inner : Terms} (h : t.enter = .ok inner) :
    t.levels = inner.levels + 1 := by
  obtain ⟨levels, heq, rfl⟩ := enter_eq_ok_iff.mp h
  exact heq

namespace Json

theorem withinItems_iff {depth : Nat} {items : List Json} :
    WithinItems depth items ↔ ∀ item ∈ items, item.Within depth := by
  induction items with
  | nil => simp [WithinItems]
  | cons item rest ih => simp [WithinItems, ih]

theorem within_array_iff {depth : Nat} {items : List Json} :
    (array items).Within depth ↔
      ∃ inner, depth = inner + 1 ∧ ∀ item ∈ items, item.Within inner := by
  cases depth <;> simp [Within, withinItems_iff]

theorem within_object_iff_exists {depth : Nat} {members : List (String × Json)} :
    (object members).Within depth ↔
      ∃ inner, depth = inner + 1 ∧ ∀ m ∈ members, m.2.Within inner := by
  cases depth <;> simp [Within, withinMembers_iff]

end Json

namespace Decoder

/-- What the decoder gives is good and can be written within the levels that it had; what is written
for a good value is read back. -/
structure Undoes (d : Decoder α) (write : α → Json) (good : α → Prop) : Prop where
  yields : ∀ {t w a}, d t w = .ok a → good a ∧ (write a).Within t.levels
  restores : ∀ {t a}, good a → (write a).Within t.levels → d t (.ofJson (write a)) = .ok a

theorem string_undoes : Decoder.string.Undoes .string fun _ => True where
  yields _ := by simp [Json.Within]
  restores _ _ := rfl

theorem any_undoes : any.Undoes id Json.Ordered where
  yields {t w v} h := by
    have found := Except.mapError_eq_ok.mp h
    exact ⟨Written.toJson_ordered found, Written.toJson_within found⟩
  restores {t v} ordered within := by
    have found := Written.toJson_ofJson.mpr ⟨within, Json.arrange_eq_self ordered⟩
    exact Except.mapError_eq_ok.mpr found

/-! ## Arrays -/

variable {d : Decoder α} {write : α → Json} {good : α → Prop} {t : Terms}

/-- Items that were read are good, and can be written within the levels that there were. -/
theorem Undoes.items_yields (h : d.Undoes write good) {found : List Written} {stop : Option Fault}
    {values : List α} (read : items d t found stop = .ok values) :
    ∀ a ∈ values, good a ∧ (write a).Within t.levels := by
  induction found generalizing values with
  | nil =>
    cases stop with
    | none =>
      cases read
      simp
    | some fault => cases read
  | cons item rest ih =>
    obtain ⟨value, first, others⟩ := Except.bind_eq_ok.mp read
    obtain ⟨tail, later, last⟩ := Except.bind_eq_ok.mp others
    cases last
    intro a ha
    rcases List.mem_cons.mp ha with rfl | ha
    · exact h.yields first
    · exact ih later a ha

/-- Items that are good and fit are read as they were written. -/
theorem Undoes.items_restores (h : d.Undoes write good) {values : List α}
    (fine : ∀ a ∈ values, good a ∧ (write a).Within t.levels) :
    items d t (Written.ofItems (values.map write)) none = .ok values := by
  induction values with
  | nil => rfl
  | cons a rest ih =>
    obtain ⟨⟨first, within⟩, later⟩ := List.forall_mem_cons.mp fine
    rw [List.map_cons, Written.ofItems, items, h.restores first within]
    simp only [ih later, bind, Except.bind]
    rfl

/-- A decoder that undoes a writer undoes it on lists. -/
theorem Undoes.list (h : d.Undoes write good) :
    (list d).Undoes (fun values => .array (values.map write)) fun values => ∀ a ∈ values, good a where
  yields {t w values} read := by
    cases w with
    | array found stop =>
      obtain ⟨inner, entered, read⟩ := Except.bind_eq_ok.mp read
      have each := h.items_yields read
      refine ⟨fun a ha => (each a ha).1, Json.within_array_iff.mpr ⟨inner.levels, ?_, ?_⟩⟩
      · exact Terms.levels_of_enter entered
      · intro item hitem
        obtain ⟨a, ha, rfl⟩ := List.mem_map.mp hitem
        exact (each a ha).2
    | _ => cases read
  restores {t values} fine within := by
    obtain ⟨levels, deep, within⟩ := Json.within_array_iff.mp within
    have entered : t.enter = .ok { t with levels } := Terms.enter_eq_ok_iff.mpr ⟨levels, deep, rfl⟩
    have read := h.items_restores (t := { t with levels }) fun a ha =>
      ⟨fine a ha, within _ (List.mem_map_of_mem ha)⟩
    simp only [Decoder.list, Written.ofJson, entered, bind, Except.bind, read]

/-! ## Objects with free keys -/

def keyedMembers (write : α → Json) (pairs : List (String × α)) : List (String × Json) :=
  pairs.map fun p => (p.1, write p.2)

theorem Undoes.members_yields (h : d.Undoes write good)
    {found : List (Except Fault String × Written)} {stop : Option Fault}
    {pairs : List (String × α)} (read : members d t found stop = .ok pairs) :
    ∀ p ∈ pairs, good p.2 ∧ (write p.2).Within t.levels := by
  induction found generalizing pairs with
  | nil =>
    cases stop with
    | none =>
      cases read
      simp
    | some fault => cases read
  | cons m rest ih =>
    obtain ⟨key, -, named⟩ := Except.bind_eq_ok.mp read
    obtain ⟨value, first, others⟩ := Except.bind_eq_ok.mp named
    obtain ⟨tail, later, last⟩ := Except.bind_eq_ok.mp others
    cases last
    intro p hp
    rcases List.mem_cons.mp hp with rfl | hp
    · exact h.yields first
    · exact ih later p hp

theorem Undoes.members_restores (h : d.Undoes write good) {pairs : List (String × α)}
    (fine : ∀ p ∈ pairs, good p.2 ∧ (write p.2).Within t.levels) :
    members d t (Written.ofMembers (keyedMembers write pairs)) none = .ok pairs := by
  induction pairs with
  | nil => rfl
  | cons p rest ih =>
    obtain ⟨⟨first, within⟩, later⟩ := List.forall_mem_cons.mp fine
    have others := ih later
    rw [keyedMembers] at others ⊢
    rw [List.map_cons, Written.ofMembers, members, h.restores first within]
    simp only [others, bind, Except.bind, Except.mapError_ok]
    rfl

/-- A decoder that undoes a writer undoes it on maps. -/
theorem Undoes.keyed (h : d.Undoes write good) :
    (keyed d).Undoes (fun pairs => .object (keyedMembers write pairs))
      fun pairs => Keyed.Increasing pairs ∧ ∀ p ∈ pairs, good p.2 where
  yields {t w pairs} read := by
    cases w with
    | object found stop =>
      obtain ⟨inner, entered, body⟩ := Except.bind_eq_ok.mp read
      obtain ⟨all, found, last⟩ := Except.bind_eq_ok.mp body
      cases last
      have each := h.members_yields found
      have kept : ∀ p ∈ Keyed.collect all, p ∈ all := Keyed.mem_of_mem_collect
      refine ⟨⟨Keyed.increasing_collect all, fun p hp => (each p (kept p hp)).1⟩, ?_⟩
      refine Json.within_object_iff_exists.mpr ⟨inner.levels, Terms.levels_of_enter entered, ?_⟩
      intro m hm
      obtain ⟨p, hp, rfl⟩ := List.mem_map.mp hm
      exact (each p (kept p hp)).2
    | _ => cases read
  restores {t pairs} fine within := by
    obtain ⟨levels, deep, within⟩ := Json.within_object_iff_exists.mp within
    have entered : t.enter = .ok { t with levels } := Terms.enter_eq_ok_iff.mpr ⟨levels, deep, rfl⟩
    have read := h.members_restores (t := { t with levels }) fun p hp =>
      ⟨fine.2 p hp, within _ (List.mem_map_of_mem hp)⟩
    have sorted : Keyed.collect pairs = pairs := Keyed.collect_eq_self fine.1
    simp only [Decoder.keyed, Written.ofJson, entered, bind, Except.bind, read]
    rw [sorted]
    rfl

end Decoder

/-! ## Records -/

/-- Whatever the field reads, the invariant of the draft stays. -/
def Field.Keeps (f : Field ρ) (t : Terms) (invariant : ρ → Prop) : Prop :=
  ∀ ⦃w draft draft'⦄, f.read t w draft = .ok draft' → invariant draft → invariant draft'

theorem Field.keeps_of {name : String} {d : Decoder α} {put : α → ρ → ρ} {t : Terms}
    {invariant : ρ → Prop}
    (h : ∀ ⦃w a draft⦄, d t w = .ok a → invariant draft → invariant (put a draft)) :
    (Field.of name d put).Keeps t invariant := by
  intro w draft draft' read before
  obtain ⟨a, found, rfl⟩ := Except.map_eq_ok.mp read
  exact h found before

namespace Shape

variable {shape : Shape ρ} {t : Terms} {invariant : ρ → Prop} {draft draft' : ρ}

/-- Filling a record from members keeps what each of its fields keeps. -/
theorem fillMembers_keeps (keeps : ∀ f ∈ shape.fields, f.Keeps t invariant)
    {members : List (Except Fault String × Written)} {stop : Option Fault} {seen : List String}
    {kept : List (String × Written)}
    (filled : shape.fillMembers t members stop seen draft = .ok (draft', kept))
    (before : invariant draft) : invariant draft' := by
  induction members generalizing seen draft kept with
  | nil =>
    cases stop with
    | none =>
      cases filled
      exact before
    | some fault => cases filled
  | cons m rest ih =>
    obtain ⟨key | key, item⟩ := m
    · cases filled
    · rw [fillMembers] at filled
      cases found : shape.fields.find? (fun f => f.name = key) with
      | some field =>
        simp only [found] at filled
        split_ifs at filled with new
        obtain ⟨middle, read, filled⟩ := Except.bind_eq_ok.mp filled
        exact ih filled (keeps field (List.mem_of_find?_eq_some found) read before)
      | none =>
        simp only [found] at filled
        cases others : shape.others with
        | refuse => simp [others] at filled
        | skip =>
          simp only [others] at filled
          exact ih filled before
        | keep =>
          simp only [others] at filled
          obtain ⟨_, -, passed⟩ := Except.bind_eq_ok.mp filled
          obtain ⟨⟨last, kept'⟩, later, same⟩ := Except.bind_eq_ok.mp passed
          cases same
          exact ih later before

/-- Filling a record from items keeps what each of its fields keeps. -/
theorem fillItems_keeps {least : Nat} {fields : List (Field ρ)}
    (keeps : ∀ f ∈ fields, f.Keeps t invariant) {items : List Written} {stop : Option Fault}
    {count : Nat} (filled : shape.fillItems t least fields items stop count draft = .ok draft')
    (before : invariant draft) : invariant draft' := by
  induction items generalizing fields count draft with
  | nil =>
    cases fields <;> cases stop <;> simp only [fillItems] at filled
    · cases filled
      exact before
    · cases filled
    · split_ifs at filled
      cases filled
      exact before
    · cases filled
  | cons item rest ih =>
    cases fields with
    | nil =>
      simp only [fillItems] at filled
      split_ifs at filled
      cases filled
      exact before
    | cons field fields =>
      obtain ⟨first, later⟩ := List.forall_mem_cons.mp keeps
      obtain ⟨middle, read, filled⟩ := Except.bind_eq_ok.mp filled
      exact ih later filled (first read before)

/-- A record is filled one level further in, and what all its fields keep holds in the end. -/
theorem fill_keeps {w : Written} {kept : List (String × Written)}
    (filled : shape.fill t w draft = .ok (draft', kept)) :
    ∃ inner : Terms, t.levels = inner.levels + 1 ∧ ∀ invariant : ρ → Prop,
      (∀ f ∈ shape.fields, f.Keeps inner invariant) → invariant draft → invariant draft' := by
  unfold fill at filled
  split at filled
  · obtain ⟨inner, entered, filled⟩ := Except.bind_eq_ok.mp filled
    exact ⟨inner, Terms.levels_of_enter entered, fun _ keeps => fillMembers_keeps keeps filled⟩
  · obtain ⟨inner, entered, listed⟩ := Except.bind_eq_ok.mp filled
    obtain ⟨last, found, same⟩ := Except.bind_eq_ok.mp listed
    cases same
    exact ⟨inner, Terms.levels_of_enter entered, fun _ keeps => fillItems_keeps keeps found⟩
  · cases filled

def foreign (shape : Shape ρ) (members : List (String × Json)) : List (String × Written) :=
  (members.filter fun m => (shape.fields.find? fun f => f.name = m.1).isNone).map fun m =>
    (m.1, .ofJson m.2)

/-- Members with distinct keys are taken one after the other where others are kept; the others are
handed back. -/
theorem fillMembers_ofMembers_of_keep (keeps : shape.others = .keep)
    {members : List (String × Json)} (distinct : (members.map (·.1)).Nodup)
    (shallow : ∀ m ∈ members, m.2.Within t.levels) {seen : List String}
    (unseen : ∀ m ∈ members, m.1 ∉ seen) (draft : ρ) :
    shape.fillMembers t (Written.ofMembers members) none seen draft =
      (members.foldlM (shape.take t) draft).map fun draft => (draft, shape.foreign members) := by
  induction members generalizing seen draft with
  | nil => rfl
  | cons m rest ih =>
    obtain ⟨key, value⟩ := m
    simp only [List.map_cons, List.nodup_cons, List.forall_mem_cons] at distinct unseen shallow
    have later : ∀ m ∈ rest, m.1 ∉ key :: seen := by
      intro m hm
      have other : m.1 ≠ key := fun e => distinct.1 (e ▸ List.mem_map_of_mem (f := (·.1)) hm)
      simp [other, unseen.2 m hm]
    rw [Written.ofMembers, fillMembers, List.foldlM_cons, take, foreign, List.filter_cons]
    cases shape.fields.find? (fun f => f.name = key) with
    | none =>
      have passed : Decoder.any t (.ofJson value) = .ok value.arrange :=
        Except.mapError_eq_ok.mpr (Written.toJson_ofJson.mpr ⟨shallow.1, rfl⟩)
      have others := ih distinct.2 shallow.2 unseen.2 draft
      simp only [keeps, passed, others, bind, Except.bind]
      cases rest.foldlM (shape.take t) draft <;> rfl
    | some field =>
      simp only [unseen.1, if_false]
      cases field.read t (.ofJson value) draft with
      | error e => rfl
      | ok draft => exact ih distinct.2 shallow.2 later draft

/-- A record of members with distinct keys is filled one level further in. -/
theorem fill_ofJson_of_keep (keeps : shape.others = .keep) {members : List (String × Json)}
    (distinct : (members.map (·.1)).Nodup) {levels : Nat} (deep : t.levels = levels + 1)
    (shallow : ∀ m ∈ members, m.2.Within levels) (draft : ρ) :
    shape.fill t (.ofJson (.object members)) draft =
      (members.foldlM (shape.take { t with levels }) draft).map fun draft =>
        (draft, shape.foreign members) := by
  have entered : t.enter = .ok { t with levels } := Terms.enter_eq_ok_iff.mpr ⟨levels, deep, rfl⟩
  rw [Written.ofJson, fill]
  simp only [entered, bind, Except.bind]
  exact fillMembers_ofMembers_of_keep keeps distinct shallow (by simp) draft

end Shape
end ConformanceGate
