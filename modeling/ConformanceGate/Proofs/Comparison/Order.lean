import ConformanceGate.Proofs.CaseId.Sort
import ConformanceGate.Proofs.Comparison.Walk

/-!
# The order of what is reported

The walk over two documents goes through them from the smaller keys to the larger ones, at every
depth. So of two reported places the keys decide which one comes first, and what lies below one
place is reported in one go (`Policy.verify_documentOrder`).
-/

namespace ConformanceGate

/-! ## Lists that fork -/

section Forks

variable {α : Type} {r : α → α → Prop}

/-- Lists that fork are no prefixes of each other. -/
theorem Forks.not_prefix (irrefl : ∀ a, ¬ r a a) {xs ys : List α} (h : Forks r xs ys) :
    ¬ xs <+: ys ∧ ¬ ys <+: xs := by
  induction h with
  | here xs ys hr =>
    constructor <;> intro isPrefix <;> obtain ⟨rfl, -⟩ := List.cons_prefix_cons.mp isPrefix <;>
      exact irrefl _ hr
  | later a h ih => simpa only [List.prefix_cons_inj] using ih

/-- What comes between two lists with one beginning has this beginning, too. -/
theorem Forks.prefix_between (asymm : ∀ a b, r a b → ¬ r b a) {top xs ys zs : List α}
    (hxy : Forks r xs ys) (hyz : Forks r ys zs) (hx : top <+: xs) (hz : top <+: zs) :
    top <+: ys := by
  induction top generalizing xs ys zs with
  | nil => exact List.nil_prefix
  | cons a top ih =>
    obtain ⟨xs', rfl, hx'⟩ := List.cons_prefix_iff.mp hx
    obtain ⟨zs', rfl, hz'⟩ := List.cons_prefix_iff.mp hz
    cases ys with
    | nil => exact absurd hxy not_forks_nil_right
    | cons b ys =>
      rcases forks_cons_iff.mp hxy with hab | ⟨rfl, first⟩
      · rcases forks_cons_iff.mp hyz with hba | ⟨rfl, -⟩
        · exact absurd hba (asymm a b hab)
        · exact absurd hab (asymm b b hab)
      · rcases forks_cons_iff.mp hyz with haa | ⟨-, second⟩
        · exact absurd haa (asymm a a haa)
        · exact List.cons_prefix_cons.mpr ⟨rfl, ih first second hx' hz'⟩

/-- If all that stands between two kept items is kept, then after a kept item the kept ones come
first. -/
theorem filter_isPrefix_of_between {keep : α → Bool} {a : α} {l : List α}
    (between : ∀ b c, r a b → r b c → keep c → keep b) (h : (a :: l).Pairwise r) :
    l.filter keep <+: l := by
  induction l with
  | nil => exact List.nil_prefix
  | cons b l ih =>
    obtain ⟨first, rest⟩ := List.pairwise_cons.mp h
    obtain ⟨next, later⟩ := List.pairwise_cons.mp rest
    by_cases hb : keep b
    · rw [List.filter_cons_of_pos hb, List.prefix_cons_inj]
      exact ih (List.pairwise_cons.mpr ⟨fun c hc => first c (List.mem_cons_of_mem b hc), later⟩)
    · have dropped : (b :: l).filter keep = [] := by
        refine List.filter_eq_nil_iff.mpr fun c hc kept => hb ?_
        rcases List.mem_cons.mp hc with rfl | hc
        · exact kept
        · exact between b c (first b List.mem_cons_self) (next c hc) kept
      rw [dropped]
      exact List.nil_prefix

/-- If all that stands between two kept items is kept, the kept ones stand together. -/
theorem filter_isInfix_of_between {keep : α → Bool} {l : List α}
    (between : ∀ a b c, r a b → r b c → keep a → keep c → keep b) (h : l.Pairwise r) :
    l.filter keep <:+: l := by
  induction l with
  | nil => exact List.nil_infix
  | cons a l ih =>
    by_cases ha : keep a
    · rw [List.filter_cons_of_pos ha]
      have front := filter_isPrefix_of_between (fun b c hab hbc => between a b c hab hbc ha) h
      exact ((List.prefix_cons_inj a).mpr front).isInfix
    · rw [List.filter_cons_of_neg ha]
      exact (ih (List.pairwise_cons.mp h).2).trans (List.suffix_cons a l).isInfix

end Forks

/-! ## The walk -/

/-- Every key of two objects stands before the later ones. -/
theorem pairwise_sortKeys_allKeys {left right : List (String × Json)}
    (hl : Keyed.Increasing left) (hr : Keyed.Increasing right) :
    (CaseId.sortKeys (allKeys (left.map (·.1)) (right.map (·.1)))).Pairwise CaseId.Before := by
  have once : (CaseId.sortKeys (allKeys (left.map (·.1)) (right.map (·.1)))).Nodup := by
    rw [(CaseId.sortKeys_perm _).nodup_iff, ← map_fst_groups]
    exact nodup_groups hl hr
  refine ((CaseId.pairwise_sortKeys _).and once).imp ?_
  rintro a b ⟨same | before, other⟩
  · exact absurd same other
  · exact before

/-- Of two places that the walk finds, the one with the smaller key where they part comes first. -/
theorem pairwise_forks_places {left right : Json} (hl : left.Ordered) (hr : right.Ordered) :
    (places left right).Pairwise (Forks CaseId.Before) := by
  refine Json.pair_induction (P := fun left right => (places left right).Pairwise
    (Forks CaseId.Before)) (fun left right h => ?_) (fun left right hl hr ih => ?_) hl hr
  · rw [places_of_not_objects h]
    split_ifs <;> simp
  · rw [places_object hl hr, List.pairwise_flatMap]
    constructor
    · -- Below one key both places go on with it.
      intro key _
      refine List.pairwise_map.mpr (List.Pairwise.imp (Forks.later key) ?_)
      cases ha : Keyed.lookup key left <;> cases hb : Keyed.lookup key right <;>
        simp only [placesAt_none, placesAt_left, placesAt_right, placesAt_some, List.Pairwise.nil,
          List.pairwise_singleton]
      exact ih key _ _ ha hb
    · refine (pairwise_sortKeys_allKeys hl hr).imp fun {a b} before p hp q hq => ?_
      obtain ⟨xs, -, rfl⟩ := List.mem_map.mp hp
      obtain ⟨ys, -, rfl⟩ := List.mem_map.mp hq
      exact .here xs ys before

structure InDocumentOrder (places : List (List String)) : Prop where
  /-- Of two places none lies below the other, and where they part the first one has the smaller
  key. -/
  parted : places.Pairwise fun p q => ¬ p <+: q ∧ ¬ q <+: p ∧ Forks CaseId.Before p q
  /-- The places below one place stand together. -/
  together : ∀ top, places.filter (top <+: ·) <:+: places
  /-- Cases of one implementation stand in the order of their numbers. -/
  numeric : places.Pairwise fun p q => ∀ (agent : String) (x y : CaseId),
    [agent, x.text] <+: p → [agent, y.text] <+: q →
      x = y ∨ Earlier (· < ·) x.segments y.segments

/-- Places that fork pairwise at the smaller key are in the order of the document. -/
theorem inDocumentOrder_of_pairwise {places : List (List String)}
    (h : places.Pairwise (Forks CaseId.Before)) : InDocumentOrder places where
  parted := by
    refine h.imp fun {p q} forks => ?_
    obtain ⟨below, above⟩ := forks.not_prefix CaseId.not_before_self
    exact ⟨below, above, forks⟩
  together top := by
    refine filter_isInfix_of_between (fun p q s hpq hqs hp hs => ?_) h
    simp only [decide_eq_true_eq] at hp hs ⊢
    exact hpq.prefix_between (fun _ _ before => before.asymm) hqs hp hs
  numeric := by
    refine h.imp fun {p q} forks agent x y hp hq => ?_
    obtain ⟨p, rfl⟩ := hp
    obtain ⟨q, rfl⟩ := hq
    have self := CaseId.not_before_self agent
    rcases forks_cons_iff.mp forks with before | ⟨-, forks⟩
    · exact absurd before self
    · rcases forks_cons_iff.mp forks with before | ⟨same, -⟩
      · exact .inr (CaseId.before_ids_iff.mp before)
      · exact .inl (CaseId.text_injective same)

namespace Policy

/-- The differences of a mismatch are reported in the order of a document: of two places none lies
below the other, and the one with the smaller key where they part comes first. So all that is
reported of an implementation stands together, in it all that is reported of a case, and the cases
stand in the order of their numbers. -/
theorem verify_documentOrder (p : Policy) (baselineOrigin freshOrigin : String)
    {baseline fresh : Json} (hb : baseline.Ordered) (hf : fresh.Ordered) {diff : Diff}
    (h : p.verify baselineOrigin baseline freshOrigin fresh = .ok (.differs diff)) :
    ∃ places, Reported (p.normalize baseline) (p.normalize fresh) diff.entries places ∧
      InDocumentOrder places := by
  obtain ⟨-, -, rfl⟩ := verify_eq_differs h
  have hl := p.ordered_normalize hb
  have hr := p.ordered_normalize hf
  exact ⟨_, reported_between hl hr, inDocumentOrder_of_pairwise (pairwise_forks_places hl hr)⟩

/-- Two cases with a status, the smaller number being the larger text. -/
def numberedSample (status : String) : Json :=
  .object [("a", .object [("10", .object [("behavior", .string status)]),
    ("9", .object [("behavior", .string status)])])]

theorem numberedSample_ordered (status : String) : (numberedSample status).Ordered := by
  have cases : "10" < "9" := by decide
  simp only [numberedSample, Json.Ordered, Json.OrderedMembers, Keyed.increasing_cons,
    Keyed.increasing_nil, List.forall_mem_singleton, List.not_mem_nil, false_implies, implies_true,
    cases, and_self]

/-- The case `9` is reported before the case `10`. -/
theorem verify_documentOrder_numbered :
    ∃ diff places, strict.verify "" (numberedSample "OK") "" (numberedSample "FAILED") =
        .ok (.differs diff) ∧
      (numberedSample "OK").Ordered ∧ (numberedSample "FAILED").Ordered ∧
      Reported (strict.normalize (numberedSample "OK")) (strict.normalize (numberedSample "FAILED"))
        diff.entries places ∧
      InDocumentOrder places ∧
      diff.entries.map (·.path) = ["/a/9/behavior", "/a/10/behavior"] := by
  have differs : strict.verify "" (numberedSample "OK") "" (numberedSample "FAILED") =
      .ok (.differs ⟨[⟨"/a/9/behavior", some (.string "OK"), some (.string "FAILED")⟩,
        ⟨"/a/10/behavior", some (.string "OK"), some (.string "FAILED")⟩]⟩) := by
    change Except.ok (Verdict.differs (.between (strict.normalize _) (strict.normalize _))) = _
    cbv
  have hb := numberedSample_ordered "OK"
  have hf := numberedSample_ordered "FAILED"
  obtain ⟨places, reported, ordered⟩ := verify_documentOrder strict "" "" hb hf differs
  exact ⟨_, places, differs, hb, hf, reported, ordered, rfl⟩

end Policy
end ConformanceGate
