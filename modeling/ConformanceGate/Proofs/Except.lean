import Mathlib.Data.List.Forall2

/-!
# Results that may be failures

Which steps a result went through, read off the result.
-/

namespace ConformanceGate

/-- Every item of a list has a partner in a list that goes with it item by item. -/
theorem exists_of_forall₂ {α β : Type} {R : α → β → Prop} {items : List α} {others : List β}
    (h : List.Forall₂ R items others) {a : α} (ha : a ∈ items) : ∃ b ∈ others, R a b := by
  induction h with
  | nil => simp at ha
  | cons hab _ ih =>
    rcases List.mem_cons.mp ha with rfl | ha
    · exact ⟨_, by simp, hab⟩
    · obtain ⟨b, hb, related⟩ := ih ha
      exact ⟨b, List.mem_cons_of_mem _ hb, related⟩

/-- What is made of two lists item by item is the same if their items go together. -/
theorem map_eq_map_iff_forall₂ {α β γ : Type} {f : α → γ} {g : β → γ} {items : List α}
    {others : List β} :
    items.map f = others.map g ↔ List.Forall₂ (fun a b => f a = g b) items others := by
  rw [← List.forall₂_eq_eq_eq, List.forall₂_map_left_iff, List.forall₂_map_right_iff]

section Rel

variable {α β γ δ : Type} {R : α → β → Prop} {S : β → γ → Prop}

theorem rel_some_left_iff {a : α} {b : Option β} :
    Option.Rel R (some a) b ↔ ∃ y, b = some y ∧ R a y := by
  cases b <;> simp

theorem rel_some_right_iff {a : Option α} {b : β} :
    Option.Rel R a (some b) ↔ ∃ x, a = some x ∧ R x b := by
  cases a <;> simp

/-- What is made of two related values is the same if it is for values that are there. -/
theorem map_eq_map_of_rel {f : α → γ} {g : β → γ} {a : Option α} {b : Option β}
    (h : Option.Rel R a b) (same : ∀ y, b = some y → ∀ x, R x y → f x = g y) :
    a.map f = b.map g := by
  cases h with
  | none => rfl
  | some hab => exact congrArg some (same _ rfl _ hab)

/-- What a value is related to determines it if this is so for values that are there. -/
theorem eq_of_rel {a a' : Option α} {b : Option β} (h : Option.Rel R a b)
    (h' : Option.Rel R a' b) (unique : ∀ x x' y, R x y → R x' y → x = x') : a = a' := by
  cases h with
  | none =>
    cases h'
    rfl
  | some hab =>
    cases h' with
    | some hab' => exact congrArg some (unique _ _ _ hab hab')

/-- What is related by way of something in between is related, or none of the three is there. -/
theorem rel_comp {T : α → γ → Prop} (step : ∀ a b c, R a b → S b c → T a c) {a : Option α}
    {b : Option β} {c : Option γ} (first : Option.Rel R a b) (second : Option.Rel S b c) :
    Option.Rel T a c := by
  cases first with
  | none =>
    cases second
    exact .none
  | some hab =>
    cases second with
    | some hbc => exact .some (step _ _ _ hab hbc)

/-- Values that are related to values that are related are related themselves, or none of them is
there. -/
theorem rel_between {T : δ → γ → Prop} {U : α → δ → Prop}
    (step : ∀ a b c d, R a b → S b c → T d c → U a d) {a : Option α} {b : Option β} {c : Option γ}
    {d : Option δ} (left : Option.Rel R a b) (middle : Option.Rel S b c)
    (right : Option.Rel T d c) : Option.Rel U a d := by
  cases left with
  | none =>
    cases middle
    cases right
    exact .none
  | some hab =>
    cases middle with
    | some hbc =>
      cases right with
      | some hdc => exact .some (step _ _ _ _ hab hbc hdc)

/-- Steps that relate what they give take what is related to what is related. -/
theorem rel_bind {T : γ → δ → Prop} {a : Option α} {b : Option β} {f : α → Option γ}
    {g : β → Option δ} (h : Option.Rel R a b) (step : ∀ a b, R a b → Option.Rel T (f a) (g b)) :
    Option.Rel T (a.bind f) (b.bind g) := by
  cases h with
  | none => exact .none
  | some hab => exact step _ _ hab

end Rel

/-- A step for every item gives nothing exactly if one of the steps gives nothing. -/
theorem Option.mapM_eq_none {α β : Type} {step : α → Option β} {items : List α} :
    items.mapM step = none ↔ ∃ item ∈ items, step item = none := by
  induction items with
  | nil => simp
  | cons item rest ih =>
    cases h : step item <;> cases hr : rest.mapM step <;>
      simp [List.mapM_cons, h, hr, ← ih]

/-- A step for every item gives what the steps give, item by item. -/
theorem Option.mapM_eq_some {α β : Type} {step : α → Option β} {items : List α} {found : List β} :
    items.mapM step = some found ↔ List.Forall₂ (fun a b => step a = some b) items found := by
  induction items generalizing found with
  | nil => simp [eq_comm]
  | cons item rest ih =>
    cases found <;> simp [List.mapM_cons, Option.bind_eq_some_iff, ih]

namespace Except

variable {ε ε' α β : Type}

/-- A result of two steps: what the first one gave, and that the second one gave the result. -/
theorem bind_eq_ok {first : Except ε α} {next : α → Except ε β} {b : β} :
    first.bind next = .ok b ↔ ∃ a, first = .ok a ∧ next a = .ok b := by
  cases first <;> simp [Except.bind]

theorem map_eq_ok {first : Except ε α} {f : α → β} {b : β} :
    first.map f = .ok b ↔ ∃ a, first = .ok a ∧ f a = b := by
  cases first <;> simp [Except.map]

@[simp] theorem mapError_ok {f : ε → ε'} {a : α} : (Except.ok a).mapError f = .ok a := rfl

@[simp] theorem mapError_error {f : ε → ε'} {e : ε} :
    (Except.error e : Except ε α).mapError f = .error (f e) := rfl

@[simp] theorem mapError_eq_ok {result : Except ε α} {f : ε → ε'} {a : α} :
    result.mapError f = .ok a ↔ result = .ok a := by
  cases result <;> simp

@[simp] theorem ok_eq_mapError {result : Except ε α} {f : ε → ε'} {a : α} :
    .ok a = result.mapError f ↔ result = .ok a := by
  rw [eq_comm, mapError_eq_ok]

/-- A step for every item gives what the steps give, item by item. -/
theorem mapM_eq_ok {step : α → Except ε β} {items : List α} {found : List β} :
    items.mapM step = .ok found ↔ List.Forall₂ (fun a b => step a = .ok b) items found := by
  induction items generalizing found with
  | nil => simp [pure, Except.pure, eq_comm]
  | cons item rest ih =>
    cases found <;> simp [List.mapM_cons, bind, bind_eq_ok, pure, Except.pure, ih]

/-- A step for every item fails as the first one of the steps that fails. -/
theorem mapM_eq_error {step : α → Except ε β} {items : List α} {e : ε} :
    items.mapM step = .error e ↔ ∃ front item back, items = front ++ item :: back ∧
      (∀ a ∈ front, ∃ b, step a = .ok b) ∧ step item = .error e := by
  induction items with
  | nil => simp [pure, Except.pure]
  | cons first rest ih =>
    cases h : step first with
    | error cause =>
      simp only [List.mapM_cons, h, bind, Except.bind, Except.error.injEq]
      constructor
      · rintro rfl
        exact ⟨[], first, rest, rfl, by simp, h⟩
      · rintro ⟨_ | ⟨a, front⟩, item, back, heq, before, failed⟩
        · simp_all
        · obtain ⟨b, hb⟩ := before a (by simp)
          simp_all
    | ok found =>
      have later : (first :: rest).mapM step = .error e ↔ rest.mapM step = .error e := by
        cases hr : rest.mapM step <;>
          simp [List.mapM_cons, h, hr, bind, Except.bind, pure, Except.pure]
      rw [later, ih]
      constructor
      · rintro ⟨front, item, back, rfl, before, failed⟩
        exact ⟨first :: front, item, back, rfl, by simpa [h] using before, failed⟩
      · rintro ⟨_ | ⟨a, front⟩, item, back, heq, before, failed⟩
        · simp_all
        · simp only [List.cons_append, List.cons.injEq] at heq
          exact ⟨front, item, back, heq.2, fun x hx => before x (by simp [hx]), failed⟩

end Except
end ConformanceGate
