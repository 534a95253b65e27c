import ConformanceGate.Json.Printer
import ConformanceGate.Json.Reader
import Mathlib.Tactic.IntervalCases

/-!
# Ways to spell a value

A value can be written in many ways: with blanks between its parts, and with characters of a string
escaped. The texts that spell a value are given by a grammar along the value (`Json.Spelled`), with
the members of an object in the order in which they stand. Numbers are whole, and spelled in one
way. The pretty text is one of the texts that spell a value (`Json.spelled_prettyChars`).
-/

namespace ConformanceGate

/-- A number as a whole number of 64 bits is read: with a sign, or without one. A zero with a sign
is a double. -/
inductive Number.Whole : Number → Prop
  | integer {n : Int} : -2 ^ 63 ≤ n → n < 2 ^ 64 → Whole (.integer n)
  | negativeZero : Whole (.float (.zero true))

theorem Number.eq_of_same {a b : Number} (ha : a.Whole) (hb : b.Whole) (h : a.same b) : a = b := by
  cases ha <;> cases hb <;> simp_all [Number.same]

namespace Json

/-! ## Blanks and strings -/

def Blanks (cs : List Char) : Prop := ∀ c ∈ cs, isBlank c

@[simp] theorem blanks_nil : Blanks [] := List.forall_mem_nil _

theorem blanks_space : Blanks [' '] := List.forall_mem_singleton.mpr rfl

theorem blanks_lineBreak : Blanks "\n".toList := List.forall_mem_singleton.mpr rfl

theorem blanks_newline (depth : Nat) : Blanks (newline depth) := by
  intro c hc
  rcases List.mem_cons.mp hc with rfl | hc
  · rfl
  · rw [List.eq_of_mem_replicate hc]
    rfl

/-- The text stands for the characters between quotes: each of them is written as itself or escaped
in one of three ways. -/
inductive Body : List Char → List Char → Prop
  | nil : Body [] []
  | plain {c : Char} {cs text : List Char} : 0x20 ≤ c.toNat → c ≠ '"' → c ≠ '\\' →
    Body cs text → Body (c :: cs) (c :: text)
  | simple {c e : Char} {cs text : List Char} : simpleEscape? e = some c →
    Body cs text → Body (c :: cs) ('\\' :: e :: text)
  | unit {a b c d : Char} {n : Nat} {cs text : List Char} : unit? a b c d = some n →
    isHigh n = false → isLow n = false →
    Body cs text → Body (Char.ofNat n :: cs) ('\\' :: 'u' :: a :: b :: c :: d :: text)
  | pair {a b c d a' b' c' d' : Char} {high low : Nat} {cs text : List Char} :
    unit? a b c d = some high → isHigh high → unit? a' b' c' d' = some low → isLow low →
    Body cs text → Body (pair high low :: cs)
      ('\\' :: 'u' :: a :: b :: c :: d :: '\\' :: 'u' :: a' :: b' :: c' :: d' :: text)

def SpelledString (s : String) (text : List Char) : Prop :=
  ∃ body, Body s.toList body ∧ text = '"' :: body ++ ['"']

/-! ## Values -/

def SpelledMember (key : String) (value : List Char → Prop) (text : List Char) : Prop :=
  ∃ name before after core, SpelledString key name ∧ Blanks before ∧ Blanks after ∧ value core ∧
    text = name ++ before ++ ':' :: after ++ core

mutual

def Spelled : Json → List Char → Prop
  | .null, text => text = ['n', 'u', 'l', 'l']
  | .bool true, text => text = ['t', 'r', 'u', 'e']
  | .bool false, text => text = ['f', 'a', 'l', 's', 'e']
  | .number n, text => n.Whole ∧ text = numeral n
  | .string s, text => SpelledString s text
  | .array [], text => ∃ gap, Blanks gap ∧ text = '[' :: gap ++ [']']
  | .array (item :: rest), text => ∃ gap core tail, Blanks gap ∧ Spelled item core ∧
    SpelledItems rest tail ∧ text = '[' :: gap ++ core ++ tail
  | .object [], text => ∃ gap, Blanks gap ∧ text = '{' :: gap ++ ['}']
  | .object ((key, value) :: rest), text => ∃ gap core tail, Blanks gap ∧
    SpelledMember key (Spelled value) core ∧ SpelledMembers rest tail ∧
    text = '{' :: gap ++ core ++ tail

def SpelledItems : List Json → List Char → Prop
  | [], text => ∃ gap, Blanks gap ∧ text = gap ++ [']']
  | item :: rest, text => ∃ before after core tail, Blanks before ∧ Blanks after ∧
    Spelled item core ∧ SpelledItems rest tail ∧ text = before ++ ',' :: after ++ core ++ tail

def SpelledMembers : List (String × Json) → List Char → Prop
  | [], text => ∃ gap, Blanks gap ∧ text = gap ++ ['}']
  | (key, value) :: rest, text => ∃ before after core tail, Blanks before ∧ Blanks after ∧
    SpelledMember key (Spelled value) core ∧ SpelledMembers rest tail ∧
    text = before ++ ',' :: after ++ core ++ tail

end

/-- The text spells the value, with blanks around it. -/
def Spells (text : String) (v : Json) : Prop :=
  ∃ before core after, Blanks before ∧ Spelled v core ∧ Blanks after ∧
    text.toList = before ++ core ++ after

/-! ## Whole numbers only -/

mutual

def Whole : Json → Prop
  | .number n => n.Whole
  | .array items => WholeItems items
  | .object members => WholeMembers members
  | _ => True

def WholeItems : List Json → Prop
  | [] => True
  | item :: rest => Whole item ∧ WholeItems rest

def WholeMembers : List (String × Json) → Prop
  | [] => True
  | (_, value) :: rest => Whole value ∧ WholeMembers rest

end

theorem wholeItems_iff {items : List Json} : WholeItems items ↔ ∀ item ∈ items, item.Whole := by
  induction items with
  | nil => simp [WholeItems]
  | cons item rest ih => simp [WholeItems, ih]

theorem whole_array_iff {items : List Json} : (array items).Whole ↔ ∀ item ∈ items, item.Whole := by
  rw [Whole, wholeItems_iff]

theorem wholeMembers_iff {members : List (String × Json)} :
    WholeMembers members ↔ ∀ m ∈ members, m.2.Whole := by
  induction members with
  | nil => simp [WholeMembers]
  | cons m rest ih => simp [WholeMembers, ih]

theorem whole_object_iff {members : List (String × Json)} :
    (object members).Whole ↔ ∀ m ∈ members, m.2.Whole := by
  rw [Whole, wholeMembers_iff]

mutual

/-- Values with whole numbers only are the same if and only if they are equal. -/
theorem eq_of_same : ∀ {v w : Json}, v.Whole → w.Whole → v.same w → v = w
  | .null, w, _, _, same | .bool _, w, _, _, same | .string _, w, _, _, same => by
    cases w <;> simp_all [Json.same]
  | .number a, w, ha, hw, same => by
    cases w with
    | number b => rw [Number.eq_of_same ha hw same]
    | _ => simp [Json.same] at same
  | .array items, w, h, hw, same => by
    cases w with
    | array others => rw [eq_of_sameItems h hw same]
    | _ => simp [Json.same] at same
  | .object members, w, h, hw, same => by
    cases w with
    | object others => rw [eq_of_sameMembers h hw same]
    | _ => simp [Json.same] at same

theorem eq_of_sameItems : ∀ {items others : List Json}, WholeItems items → WholeItems others →
    sameItems items others → items = others
  | [], others, _, _, same => by cases others <;> simp_all [sameItems]
  | item :: rest, others, h, hw, same => by
    cases others with
    | nil => simp [sameItems] at same
    | cons other others =>
      simp only [sameItems, Bool.and_eq_true] at same
      rw [eq_of_same h.1 hw.1 same.1, eq_of_sameItems h.2 hw.2 same.2]

theorem eq_of_sameMembers : ∀ {members others : List (String × Json)}, WholeMembers members →
    WholeMembers others → sameMembers members others → members = others
  | [], others, _, _, same => by cases others <;> simp_all [sameMembers]
  | (key, value) :: rest, others, h, hw, same => by
    cases others with
    | nil => simp [sameMembers] at same
    | cons other others =>
      simp only [sameMembers, Bool.and_eq_true, beq_iff_eq] at same
      obtain ⟨⟨rfl, first⟩, later⟩ := same
      rw [eq_of_same h.1 hw.1 first, eq_of_sameMembers h.2 hw.2 later]

end

/-! ## The printer -/

/-- A control character is escaped by its code, in four digits. -/
theorem unit?_controlEscape {c : Char} (h : c.toNat < 0x20) :
    ∃ a b, controlEscape c = ['\\', 'u', '0', '0', a, b] ∧ unit? '0' '0' a b = some c.toNat := by
  refine ⟨_, _, rfl, ?_⟩
  generalize c.toNat = n at h
  interval_cases n <;> rfl

/-- One character as the printer writes it, before what else is written. -/
theorem body_escape_append (c : Char) {cs text : List Char} (h : Body cs text) :
    Body (c :: cs) (escape c ++ text) := by
  unfold escape
  split
  any_goals exact .simple rfl h
  rename_i quote backslash _ _ _ _ _
  split
  · rename_i control
    obtain ⟨a, b, escaped, unit⟩ := unit?_controlEscape control
    have body := Body.unit unit (by simp [isHigh]; omega) (by simp [isLow]; omega) h
    rw [Char.ofNat_toNat] at body
    rwa [escaped]
  · exact .plain (by omega) quote backslash h

/-- A quoted text spells the text. -/
theorem spelledString_quote (s : String) : SpelledString s (quote s) := by
  refine ⟨s.toList.flatMap escape, ?_, rfl⟩
  induction s.toList with
  | nil => exact .nil
  | cons c cs ih => exact body_escape_append c ih

theorem spelledMember_quote (key : String) {value : List Char → Prop} {core : List Char}
    (h : value core) : SpelledMember key value (quote key ++ ':' :: ' ' :: core) :=
  ⟨quote key, [], [' '], core, spelledString_quote key, blanks_nil, blanks_space, h, by simp⟩

mutual

/-- The pretty text spells the value. -/
theorem spelled_prettyChars (depth : Nat) : ∀ {v : Json}, v.Whole → Spelled v (v.prettyChars depth)
  | .null, _ | .bool true, _ | .bool false, _ => by simp [Spelled, prettyChars]
  | .number n, h => by simpa [Spelled, prettyChars, Whole] using h
  | .string s, _ => by simpa [Spelled, prettyChars] using spelledString_quote s
  | .array [], _ | .object [], _ => by simp [Spelled, prettyChars]
  | .array (item :: rest), h => by
    simp only [Whole, WholeItems] at h
    rw [Spelled]
    exact ⟨newline (depth + 1), item.prettyChars (depth + 1), prettyItems depth rest,
      blanks_newline _, spelled_prettyChars _ h.1, spelledItems_prettyItems _ h.2,
      by simp [prettyChars]⟩
  | .object ((key, value) :: rest), h => by
    simp only [Whole, WholeMembers] at h
    rw [Spelled]
    exact ⟨newline (depth + 1), _, prettyMembers depth rest, blanks_newline _,
      spelledMember_quote key (spelled_prettyChars (depth + 1) h.1),
      spelledMembers_prettyMembers _ h.2, by simp [prettyChars]⟩

theorem spelledItems_prettyItems (depth : Nat) : ∀ {items : List Json}, WholeItems items →
    SpelledItems items (prettyItems depth items)
  | [], _ => ⟨newline depth, blanks_newline _, rfl⟩
  | item :: rest, h => by
    rw [SpelledItems]
    exact ⟨[], newline (depth + 1), item.prettyChars (depth + 1), prettyItems depth rest,
      blanks_nil, blanks_newline _, spelled_prettyChars _ h.1, spelledItems_prettyItems _ h.2,
      by simp [prettyItems]⟩

/-- Pretty members spell the members. -/
theorem spelledMembers_prettyMembers (depth : Nat) : ∀ {members : List (String × Json)},
    WholeMembers members → SpelledMembers members (prettyMembers depth members)
  | [], _ => ⟨newline depth, blanks_newline _, rfl⟩
  | (key, value) :: rest, h => by
    rw [SpelledMembers]
    exact ⟨[], newline (depth + 1), _, prettyMembers depth rest, blanks_nil, blanks_newline _,
      spelledMember_quote key (spelled_prettyChars (depth + 1) h.1),
      spelledMembers_prettyMembers _ h.2, by simp [prettyMembers]⟩

end

end Json
end ConformanceGate
