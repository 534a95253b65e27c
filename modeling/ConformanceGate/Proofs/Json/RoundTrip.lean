import ConformanceGate.Proofs.Json.Reading
import ConformanceGate.Proofs.Json.Scanning

/-!
# Reading what was written

The value of a text that spells a value is that value with its members arranged in the order of
their keys (`Json.parse_eq_ok_iff_of_spells`), so nothing depends on how it was spelled. In
particular the pretty text of a value in order is read as that value (`Json.parse_pretty`).
-/

namespace ConformanceGate

namespace Json

mutual

/-- The value with the members of objects in the order of their keys, at any depth. Of equal keys
the last one counts. -/
def arrange : Json → Json
  | .array items => .array (arrangeItems items)
  | .object members => .object (Keyed.collect (arrangeMembers members))
  | v => v

def arrangeItems : List Json → List Json
  | [] => []
  | item :: rest => arrange item :: arrangeItems rest

/-- The members in their order, the value of each one arranged. -/
def arrangeMembers : List (String × Json) → List (String × Json)
  | [] => []
  | (key, value) :: rest => (key, arrange value) :: arrangeMembers rest

end

mutual

/-- The value has at most `depth` levels of arrays and objects. -/
def Within (depth : Nat) : Json → Prop
  | .array items =>
    match depth with
    | 0 => False
    | depth + 1 => WithinItems depth items
  | .object members =>
    match depth with
    | 0 => False
    | depth + 1 => WithinMembers depth members
  | _ => True

def WithinItems (depth : Nat) : List Json → Prop
  | [] => True
  | item :: rest => Within depth item ∧ WithinItems depth rest

/-- The value of each member has at most `depth` levels. -/
def WithinMembers (depth : Nat) : List (String × Json) → Prop
  | [] => True
  | (_, value) :: rest => Within depth value ∧ WithinMembers depth rest

end

theorem withinMembers_iff {depth : Nat} {members : List (String × Json)} :
    WithinMembers depth members ↔ ∀ m ∈ members, m.2.Within depth := by
  induction members with
  | nil => simp [WithinMembers]
  | cons m rest ih => simp [WithinMembers, ih]

theorem within_object_iff {depth : Nat} {members : List (String × Json)} :
    (object members).Within (depth + 1) ↔ ∀ m ∈ members, m.2.Within depth := by
  rw [Within, withinMembers_iff]

theorem not_within_zero_object {members : List (String × Json)} :
    ¬ (object members).Within 0 := by simp [Within]

mutual

theorem arrange_eq_self : ∀ {v : Json}, v.Ordered → v.arrange = v
  | .null, _ | .bool _, _ | .number _, _ | .string _, _ => rfl
  | .array items, h => by rw [arrange, arrangeItems_eq_self h]
  | .object members, h => by
    rw [arrange, arrangeMembers_eq_self h.2, Keyed.collect_eq_self h.increasing]

theorem arrangeItems_eq_self : ∀ {items : List Json}, OrderedItems items →
    arrangeItems items = items
  | [], _ => rfl
  | item :: rest, h => by rw [arrangeItems, arrange_eq_self h.1, arrangeItems_eq_self h.2]

theorem arrangeMembers_eq_self : ∀ {members : List (String × Json)}, OrderedMembers members →
    arrangeMembers members = members
  | [], _ => rfl
  | (key, value) :: rest, h => by
    rw [arrangeMembers, arrange_eq_self h.1, arrangeMembers_eq_self h.2]

end

/-! ## Reordering -/

/-- The values differ only in the order in which members stand, at any depth. Members with the same
key keep their order. -/
inductive Reordered : Json → Json → Prop
  | refl (v : Json) : Reordered v v
  | trans {u v w : Json} : Reordered u v → Reordered v w → Reordered u w
  | swap (front back : List (String × Json)) {m n : String × Json} : m.1 ≠ n.1 →
    Reordered (.object (front ++ m :: n :: back)) (.object (front ++ n :: m :: back))
  | member (front back : List (String × Json)) (key : String) {v w : Json} : Reordered v w →
    Reordered (.object (front ++ (key, v) :: back)) (.object (front ++ (key, w) :: back))
  | item (front back : List Json) {v w : Json} : Reordered v w →
    Reordered (.array (front ++ v :: back)) (.array (front ++ w :: back))

theorem arrangeItems_eq_map (items : List Json) : arrangeItems items = items.map arrange := by
  induction items with
  | nil => rfl
  | cons item rest ih => rw [arrangeItems, ih, List.map_cons]

theorem arrangeMembers_eq_map (members : List (String × Json)) :
    arrangeMembers members = members.map fun m => (m.1, m.2.arrange) := by
  induction members with
  | nil => rfl
  | cons m rest ih => rw [arrangeMembers, ih, List.map_cons]

/-- The order in which members stand does not show once they are arranged. -/
theorem Reordered.arrange_eq {v w : Json} (h : Reordered v w) : v.arrange = w.arrange := by
  induction h with
  | refl v => rfl
  | trans _ _ first second => exact first.trans second
  | swap front back other =>
    simp only [arrange, arrangeMembers_eq_map, List.map_append, List.map_cons]
    exact congrArg object (Keyed.collect_swap _ _ other)
  | member front back key _ ih => simp [arrange, arrangeMembers_eq_map, ih]
  | item front back _ ih => simp [arrange, arrangeItems_eq_map, ih]

end Json

/-! ## Trees and values -/

namespace Written

mutual

/-- The tree of a value gives the value arranged, unless it is too deep. -/
theorem toJson_ofJson {depth : Nat} : ∀ {v w : Json},
    (ofJson v).toJson depth = .ok w ↔ v.Within depth ∧ v.arrange = w
  | .null, w | .bool _, w | .number _, w | .string _, w => by
    simp [ofJson, toJson, Json.Within, Json.arrange]
  | .array items, w => by
    cases depth with
    | zero => simp [ofJson, toJson, Json.Within]
    | succ depth =>
      simp only [ofJson, toJson, Except.map_eq_ok, toItems_ofItems, Json.Within, Json.arrange]
      simp
  | .object members, w => by
    cases depth with
    | zero => simp [ofJson, toJson, Json.Within]
    | succ depth =>
      simp only [ofJson, toJson, Except.map_eq_ok, toMembers_ofMembers, Json.Within, Json.arrange]
      simp

theorem toItems_ofItems {depth : Nat} : ∀ {items values : List Json},
    toItems depth (ofItems items) none = .ok values ↔
      Json.WithinItems depth items ∧ Json.arrangeItems items = values
  | [], values => by simp [ofItems, toItems, Json.WithinItems, Json.arrangeItems]
  | item :: rest, values => by
    simp only [ofItems, toItems, bind, Except.bind_eq_ok, pure, Except.pure, Except.ok.injEq,
      toJson_ofJson, toItems_ofItems, Json.WithinItems, Json.arrangeItems]
    constructor
    · rintro ⟨_, ⟨hitem, rfl⟩, _, ⟨hrest, rfl⟩, rfl⟩
      exact ⟨⟨hitem, hrest⟩, rfl⟩
    · rintro ⟨⟨hitem, hrest⟩, rfl⟩
      exact ⟨_, ⟨hitem, rfl⟩, _, ⟨hrest, rfl⟩, rfl⟩

theorem toMembers_ofMembers {depth : Nat} : ∀ {members pairs : List (String × Json)},
    toMembers depth (ofMembers members) none = .ok pairs ↔
      Json.WithinMembers depth members ∧ Json.arrangeMembers members = pairs
  | [], pairs => by simp [ofMembers, toMembers, Json.WithinMembers, Json.arrangeMembers]
  | (key, value) :: rest, pairs => by
    simp only [ofMembers, toMembers, bind, Except.bind_eq_ok, pure, Except.pure, Except.ok.injEq,
      toJson_ofJson, toMembers_ofMembers, Json.WithinMembers, Json.arrangeMembers]
    constructor
    · rintro ⟨_, rfl, _, ⟨hvalue, rfl⟩, _, ⟨hrest, rfl⟩, rfl⟩
      exact ⟨⟨hvalue, hrest⟩, rfl⟩
    · rintro ⟨⟨hvalue, hrest⟩, rfl⟩
      exact ⟨_, rfl, _, ⟨hvalue, rfl⟩, _, ⟨hrest, rfl⟩, rfl⟩

end

mutual

/-- Values with one tree are one value. -/
theorem ofJson_inj : ∀ {v w : Json}, ofJson v = ofJson w ↔ v = w
  | .null, w | .bool _, w | .number _, w | .string _, w => by cases w <;> simp [ofJson]
  | .array items, w => by cases w <;> simp [ofJson, ofItems_inj]
  | .object members, w => by cases w <;> simp [ofJson, ofMembers_inj]

theorem ofItems_inj : ∀ {items others : List Json}, ofItems items = ofItems others ↔ items = others
  | [], others => by cases others <;> simp [ofItems]
  | item :: rest, others => by cases others <;> simp [ofItems, ofJson_inj, ofItems_inj]

theorem ofMembers_inj : ∀ {members others : List (String × Json)},
    ofMembers members = ofMembers others ↔ members = others
  | [], others => by cases others <;> simp [ofMembers]
  | (key, value) :: rest, others => by
    cases others <;> simp [ofMembers, ofJson_inj, ofMembers_inj, Prod.ext_iff]

end

mutual

/-- What is made of a tree within so many levels has no more of them. -/
theorem toJson_within {depth : Nat} : ∀ {tree : Written} {v : Json},
    tree.toJson depth = .ok v → v.Within depth
  | .null, v, h | .bool _, v, h | .number _, v, h | .string _, v, h => by
    simp only [toJson, Except.ok.injEq] at h
    subst h
    simp [Json.Within]
  | .nonfinite _, v, h | .flawed _, v, h => by simp [toJson] at h
  | .array items stop, v, h => by
    cases depth with
    | zero => simp [toJson] at h
    | succ depth =>
      simp only [toJson, Except.map_eq_ok] at h
      obtain ⟨values, hitems, rfl⟩ := h
      exact toItems_within hitems
  | .object members stop, v, h => by
    cases depth with
    | zero => simp [toJson] at h
    | succ depth =>
      simp only [toJson, Except.map_eq_ok] at h
      obtain ⟨pairs, hpairs, rfl⟩ := h
      exact Json.within_object_iff.mpr fun m hm =>
        toMembers_within hpairs m (Keyed.mem_of_mem_collect m hm)

theorem toItems_within {depth : Nat} : ∀ {items : List Written} {stop : Option Fault}
    {values : List Json}, toItems depth items stop = .ok values → Json.WithinItems depth values
  | [], none, values, h => by
    simp only [toItems, Except.ok.injEq] at h
    subst h
    exact trivial
  | [], some _, values, h => by simp [toItems] at h
  | item :: rest, stop, values, h => by
    simp only [toItems, bind, Except.bind_eq_ok, pure, Except.pure, Except.ok.injEq] at h
    obtain ⟨value, hitem, values, hrest, rfl⟩ := h
    exact ⟨toJson_within hitem, toItems_within hrest⟩

theorem toMembers_within {depth : Nat} : ∀ {members : List (Except Fault String × Written)}
    {stop : Option Fault} {pairs : List (String × Json)},
    toMembers depth members stop = .ok pairs → ∀ p ∈ pairs, p.2.Within depth
  | [], none, pairs, h => by
    simp only [toMembers, Except.ok.injEq] at h
    simp [← h]
  | [], some _, pairs, h => by simp [toMembers] at h
  | (key, item) :: rest, stop, pairs, h => by
    simp only [toMembers, bind, Except.bind_eq_ok, pure, Except.pure, Except.ok.injEq] at h
    obtain ⟨name, -, value, hitem, others, hrest, rfl⟩ := h
    exact List.forall_mem_cons.mpr ⟨toJson_within hitem, toMembers_within hrest⟩

end

end Written

/-! ## Texts -/

namespace Json

/-- What is parsed is no deeper than the reader goes. -/
theorem parse_within {text : String} {v : Json} (h : parse text = .ok v) :
    v.Within Written.depthLimit := Written.toJson_within (toJson_of_parse h)

/-- The text that spells a value is taken as the tree of the value, and only blanks are left. -/
theorem scan_of_spells {text : String} {v : Json} (h : Spells text v) :
    ∃ after, scan text = (.ofJson v, .ok after) ∧ finished (.ok after) = .ok () := by
  obtain ⟨before, core, after, blanks, spelled, blanks', split⟩ := h
  refine ⟨after, ?_, by simp [finished, skipBlanks_blanks blanks']⟩
  rw [scan, split, List.append_assoc, scanValue_blanks blanks]
  refine scanValue_spelled spelled ?_ ?_
  · simp [← String.length_toList, split]
    omega
  · simpa using closed_append blanks' closed_nil

/-- The text that spells a value is read as the value arranged, unless it is too deep. -/
theorem parse_eq_ok_iff_of_spells {text : String} {v w : Json} (h : Spells text v) :
    parse text = .ok w ↔ v.Within Written.depthLimit ∧ v.arrange = w := by
  obtain ⟨after, read, ended⟩ := scan_of_spells h
  have taken : parse text = (Written.ofJson v).toJson Written.depthLimit := by
    simp only [parse, read, ended, bind, Except.bind, pure, Except.pure]
    cases (Written.ofJson v).toJson Written.depthLimit <;> rfl
  rw [taken, Written.toJson_ofJson]

/-- Texts that spell the same but for the order of members have the same value. -/
theorem parse_eq_of_reordered {text text' : String} {v v' w w' : Json} (h : Spells text v)
    (h' : Spells text' v') (reordered : v.Reordered v') (ok : parse text = .ok w)
    (ok' : parse text' = .ok w') : w = w' := by
  rw [parse_eq_ok_iff_of_spells h] at ok
  rw [parse_eq_ok_iff_of_spells h'] at ok'
  rw [← ok.2, ← ok'.2, reordered.arrange_eq]

/-- The pretty text spells the value, whatever blanks follow it. -/
theorem spells_pretty {v : Json} (whole : v.Whole) {after : String}
    (blanks : Blanks after.toList) : Spells (v.pretty ++ after) v :=
  ⟨[], v.prettyChars 0, after.toList, blanks_nil, spelled_prettyChars 0 whole, blanks,
    by simp [pretty]⟩

/-- Values of whole numbers with one pretty text are one value, in whatever order members stand. -/
theorem pretty_inj {v w : Json} (wv : v.Whole) (ww : w.Whole) : v.pretty = w.pretty ↔ v = w := by
  constructor
  · intro same
    have spelled {u : Json} (whole : u.Whole) : Spells u.pretty u := by
      simpa using spells_pretty whole (show Blanks "".toList from blanks_nil)
    obtain ⟨after, read, -⟩ := scan_of_spells (spelled wv)
    obtain ⟨after', read', -⟩ := scan_of_spells (spelled ww)
    rw [same, read', Prod.mk.injEq] at read
    exact (Written.ofJson_inj.mp read.1).symm
  · rintro rfl
    rfl

/-- The pretty text of a value in order is read as that value, whatever blanks follow it. -/
theorem parse_pretty {v : Json} (ordered : v.Ordered) (whole : v.Whole)
    (within : v.Within Written.depthLimit) {after : String} (blanks : Blanks after.toList) :
    parse (v.pretty ++ after) = .ok v :=
  (parse_eq_ok_iff_of_spells (spells_pretty whole blanks)).mpr ⟨within, arrange_eq_self ordered⟩

end Json
end ConformanceGate
