import ConformanceGate.Json.Reader
import ConformanceGate.Proofs.Except
import ConformanceGate.Proofs.Json.Places

/-!
# Values as read

Every value made of a text is in order, at any depth and however its members were written
(`Json.parse_ordered`).
-/

namespace ConformanceGate

namespace Written

mutual

/-- The value of a tree is ordered. -/
theorem toJson_ordered {depth : Nat} : ∀ {tree : Written} {v : Json},
    tree.toJson depth = .ok v → v.Ordered
  | .null, v, h | .bool _, v, h | .number _, v, h | .string _, v, h => by
    simp only [toJson, Except.ok.injEq] at h
    subst h
    simp [Json.Ordered]
  | .nonfinite _, v, h | .flawed _, v, h => by simp [toJson] at h
  | .array items stop, v, h => by
    cases depth with
    | zero => simp [toJson] at h
    | succ depth =>
      simp only [toJson, Except.map_eq_ok] at h
      obtain ⟨values, hitems, rfl⟩ := h
      exact toItems_ordered hitems
  | .object members stop, v, h => by
    cases depth with
    | zero => simp [toJson] at h
    | succ depth =>
      simp only [toJson, Except.map_eq_ok] at h
      obtain ⟨pairs, hpairs, rfl⟩ := h
      refine Json.ordered_object_iff.mpr ⟨Keyed.increasing_collect pairs, fun key value hmem => ?_⟩
      exact toMembers_ordered hpairs _ (Keyed.mem_of_mem_collect _ hmem)

/-- The values of items are ordered. -/
theorem toItems_ordered {depth : Nat} : ∀ {items : List Written} {stop : Option Fault}
    {values : List Json}, toItems depth items stop = .ok values → Json.OrderedItems values
  | [], none, values, h => by
    simp only [toItems, Except.ok.injEq] at h
    subst h
    exact trivial
  | [], some _, values, h => by simp [toItems] at h
  | item :: rest, stop, values, h => by
    simp only [toItems, bind, Except.bind_eq_ok, pure, Except.pure, Except.ok.injEq] at h
    obtain ⟨value, hitem, values, hrest, rfl⟩ := h
    exact ⟨toJson_ordered hitem, toItems_ordered hrest⟩

/-- The values of members are ordered. -/
theorem toMembers_ordered {depth : Nat} : ∀ {members : List (Except Fault String × Written)}
    {stop : Option Fault} {pairs : List (String × Json)},
    toMembers depth members stop = .ok pairs → ∀ p ∈ pairs, p.2.Ordered
  | [], none, pairs, h => by
    simp only [toMembers, Except.ok.injEq] at h
    simp [← h]
  | [], some _, pairs, h => by simp [toMembers] at h
  | (key, item) :: rest, stop, pairs, h => by
    simp only [toMembers, bind, Except.bind_eq_ok, pure, Except.pure, Except.ok.injEq] at h
    obtain ⟨name, -, value, hitem, others, hrest, rfl⟩ := h
    intro p hp
    rcases List.mem_cons.mp hp with rfl | hp
    · exact toJson_ordered hitem
    · exact toMembers_ordered hrest p hp

end
end Written

/-- The value of a text is that of its tree. -/
theorem Json.toJson_of_parse {text : String} {v : Json} (h : parse text = .ok v) :
    (scan text).1.toJson Written.depthLimit = .ok v := by
  simp only [parse, bind, Except.bind_eq_ok, pure, Except.pure, Except.ok.injEq] at h
  obtain ⟨value, made, -, -, rfl⟩ := h
  exact made

/-- The value of a text is ordered. -/
theorem Json.parse_ordered {text : String} {v : Json} (h : parse text = .ok v) : v.Ordered :=
  Written.toJson_ordered (toJson_of_parse h)

end ConformanceGate
