import ConformanceGate.Proofs.Document.Writing
import ConformanceGate.Spec.Codec

/-!
# Specs as they are written

What a spec's decoder gives is fit to be written: its options are in order and no null, and the
patterns for agents stand in the order of the agents (`ClientSpec.Fits`, `ServerSpec.Fits`). A spec
that fits is read back from its value, whichever fields it leaves out.
-/

namespace ConformanceGate

/-- Only null stands for null. -/
theorem Written.ne_null_of_toJson {depth : Nat} {w : Written} {v : Json} (present : w ≠ .null)
    (h : w.toJson depth = .ok v) : v ≠ .null := by
  rintro rfl
  cases w <;> cases depth <;> simp_all [toJson, Except.map_eq_ok]

namespace Spec

/-! ## Options -/

/-- Options as they are read: there is no null among them, and they are in order. -/
def OptionsFit (options : Option Json) : Prop := ∀ v ∈ options, v ≠ .null ∧ v.Ordered

/-- Options are written as a member after the others, if there are any. -/
theorem forall_members_iff {holds : Json → Prop} {front : List (String × Json)}
    {options : Option Json} :
    (∀ m ∈ front ++ (options.map fun v => ("options", v)).toList, holds m.2) ↔
      (∀ m ∈ front, holds m.2) ∧ ∀ v ∈ options, holds v := by
  rw [List.forall_mem_append]
  cases options <;> simp

/-- Options that were read are none, or a value that is not null. -/
theorem options_yields {t : Terms} {w : Written} {options : Option Json}
    (h : Decoder.optional .any t w = .ok options) :
    OptionsFit options ∧ ∀ v ∈ options, v.Within t.levels := by
  by_cases null : w = .null
  · subst null
    cases h
    simp [OptionsFit]
  · have present : Decoder.optional .any t w = (Decoder.any t w).map some := by
      cases w with
      | null => exact absurd rfl null
      | _ => rfl
    rw [present] at h
    obtain ⟨v, found, rfl⟩ := Except.map_eq_ok.mp h
    obtain ⟨ordered, within⟩ := Decoder.any_undoes.yields found
    have other : v ≠ .null := Written.ne_null_of_toJson null (Except.mapError_eq_ok.mp found)
    constructor
    · intro u hu
      obtain rfl := Option.some.inj hu
      exact ⟨other, ordered⟩
    · intro u hu
      obtain rfl := Option.some.inj hu
      exact within

theorem options_restores {t : Terms} {v : Json} (fits : OptionsFit (some v))
    (within : v.Within t.levels) : Decoder.optional .any t (.ofJson v) = .ok (some v) := by
  obtain ⟨other, ordered⟩ := fits v rfl
  have read : Decoder.any t (.ofJson v) = .ok v := Decoder.any_undoes.restores ordered within
  rw [Decoder.optional_ofJson _ t other, read]
  rfl

end Spec

/-! ## The case selection -/

namespace Selection

/-- The agents stand in order, each of them once. -/
def Fits (s : Selection) : Prop := Keyed.Increasing s.excludedByAgent

/-- A list of patterns is undone by its decoder. -/
theorem patterns_undoes : (Decoder.list .string).Undoes
    (fun patterns => .array (patterns.map .string)) fun patterns => ∀ p ∈ patterns, True :=
  Decoder.string_undoes.list

/-- A selection that was read can be written. -/
theorem decode_yields {t : Terms} {found : List (String × Written)} {s : Selection}
    (h : decode t found = .ok s) : s.Fits := by
  obtain ⟨⟨filled, kept⟩, read, last⟩ := Except.bind_eq_ok.mp h
  cases last
  have start : Selection.all.Fits := Keyed.increasing_nil
  refine Shape.fillMembers_keeps (fun f hf => ?_) read start
  simp only [shape, List.mem_cons, List.not_mem_nil, or_false] at hf
  rcases hf with rfl | rfl | rfl
  · exact Field.keeps_of fun _ _ _ _ before => before
  · exact Field.keeps_of fun _ _ _ _ before => before
  · exact Field.keeps_of fun _ _ _ read _ => (patterns_undoes.keyed.yields read).1.1

/-- Two levels are enough for the members of a selection. -/
theorem within_toMembers (s : Selection) {levels : Nat} (enough : 2 ≤ levels) :
    ∀ m ∈ s.toMembers, m.2.Within levels := by
  have patterns {levels : Nat} (enough : 1 ≤ levels) (patterns : List String) :
      (Json.array (patterns.map .string)).Within levels := by
    refine Json.within_array_iff.mpr ⟨levels - 1, by omega, fun item hitem => ?_⟩
    obtain ⟨p, -, rfl⟩ := List.mem_map.mp hitem
    simp [Json.Within]
  intro m hm
  simp only [toMembers, List.mem_cons, List.not_mem_nil, or_false] at hm
  rcases hm with rfl | rfl | rfl
  · exact patterns (by omega) _
  · exact patterns (by omega) _
  · refine Json.within_object_iff_exists.mpr ⟨levels - 1, by omega, fun m hm => ?_⟩
    obtain ⟨p, -, rfl⟩ := List.mem_map.mp hm
    exact patterns (by omega) _

/-- A selection is read as it was written. -/
theorem decode_restores {t : Terms} {s : Selection} (enough : 2 ≤ t.levels) (fits : s.Fits) :
    decode t (s.toMembers.map fun m => (m.1, Written.ofJson m.2)) = .ok s := by
  have within := s.within_toMembers enough
  have cases : Decoder.list .string t (.ofJson (.array (s.cases.map .string))) = .ok s.cases :=
    patterns_undoes.restores (by simp) (within ("cases", _) (by simp [toMembers]))
  have excluded :
      Decoder.list .string t (.ofJson (.array (s.excluded.map .string))) = .ok s.excluded :=
    patterns_undoes.restores (by simp) (within ("exclude-cases", _) (by simp [toMembers]))
  have byAgent : Decoder.keyed (.list .string) t (.ofJson (.object
      (Decoder.keyedMembers (fun cases => .array (cases.map .string)) s.excludedByAgent))) =
        .ok s.excludedByAgent :=
    patterns_undoes.keyed.restores ⟨fits, by simp⟩ (within ("exclude-agent-cases", _)
      (by simp [toMembers, Decoder.keyedMembers]))
  simp only [Decoder.keyedMembers] at byAgent
  simp [decode, toMembers, shape, Shape.fillMembers, Field.of, cases, excluded, byAgent, bind,
    Except.bind, Except.map, pure, Except.pure]

theorem whole_toMembers (s : Selection) : ∀ m ∈ s.toMembers, m.2.Whole := by
  have patterns (patterns : List String) : (Json.array (patterns.map .string)).Whole := by
    refine Json.whole_array_iff.mpr fun item hitem => ?_
    obtain ⟨p, -, rfl⟩ := List.mem_map.mp hitem
    simp [Json.Whole]
  intro m hm
  simp only [toMembers, List.mem_cons, List.not_mem_nil, or_false] at hm
  rcases hm with rfl | rfl | rfl
  · exact patterns _
  · exact patterns _
  · refine Json.whole_object_iff.mpr fun m hm => ?_
    obtain ⟨p, -, rfl⟩ := List.mem_map.mp hm
    exact patterns _

end Selection

/-! ## Servers under test -/

namespace Target

def Fits (target : Target) : Prop := Spec.OptionsFit target.options

/-- Targets are read as they were written. -/
theorem decode_undoes : Target.decode.Undoes Target.toJson Target.Fits where
  yields {t w target} h := by
    simp only [decode, bind, Except.bind_eq_ok, pure, Except.pure, Except.ok.injEq] at h
    obtain ⟨⟨draft, kept⟩, filled, agent, -, url, -, rfl⟩ := h
    obtain ⟨inner, deep, keeps⟩ := Shape.fill_keeps filled
    have ends : Spec.OptionsFit draft.options ∧ ∀ v ∈ draft.options, v.Within inner.levels := by
      refine keeps (fun d => Spec.OptionsFit d.options ∧ ∀ v ∈ d.options, v.Within inner.levels)
        (fun f hf => ?_) (by simp [Spec.OptionsFit])
      simp only [shape, List.mem_cons, List.not_mem_nil, or_false] at hf
      rcases hf with rfl | rfl | rfl
      · exact Field.keeps_of fun _ _ _ _ before => before
      · exact Field.keeps_of fun _ _ _ _ before => before
      · exact Field.keeps_of fun _ _ _ read _ => Spec.options_yields read
    refine ⟨ends.1, Json.within_object_iff_exists.mpr ⟨inner.levels, deep, ?_⟩⟩
    exact Spec.forall_members_iff.mpr ⟨by simp [Json.Within], ends.2⟩
  restores {t target} fits within := by
    obtain ⟨agent, url, options⟩ := target
    obtain ⟨levels, deep, within⟩ := Json.within_object_iff_exists.mp within
    have entered : t.enter = .ok { t with levels } := Terms.enter_eq_ok_iff.mpr ⟨levels, deep, rfl⟩
    cases options with
    | none =>
      simp [decode, toJson, shape, Shape.fill, Shape.fillMembers, Field.of, entered, bind,
        Except.bind, Except.map, pure, Except.pure, required, Written.ofJson, Written.ofMembers,
        Decoder.string, Decoder.text]
    | some v =>
      have read : Decoder.optional .any { t with levels } (.ofJson v) = .ok (some v) :=
        Spec.options_restores fits (within ("options", v) (by simp))
      simp [decode, toJson, shape, Shape.fill, Shape.fillMembers, Field.of, entered, bind,
        Except.bind, Except.map, pure, Except.pure, required, Written.ofJson, Written.ofMembers,
        Decoder.string, Decoder.text, read]

theorem whole_toJson {target : Target} (whole : ∀ v ∈ target.options, v.Whole) :
    target.toJson.Whole :=
  Json.whole_object_iff.mpr (Spec.forall_members_iff.mpr ⟨by simp [Json.Whole], whole⟩)

/-- The servers under test are undone by their decoder. -/
theorem servers_undoes : (Decoder.list Target.decode).Undoes
    (fun servers => .array (servers.map Target.toJson)) fun servers => ∀ a ∈ servers, a.Fits :=
  decode_undoes.list

end Target

/-! ## Both kinds of specs -/

namespace ClientSpec

structure Fits (spec : ClientSpec) : Prop where
  servers : ∀ target ∈ spec.servers, target.Fits
  selection : spec.selection.Fits
  options : Spec.OptionsFit spec.options

/-- What is filled in of a spec is fit to be written one level below it. -/
structure Draft.Fits (levels : Nat) (d : Draft) : Prop where
  servers : ∀ servers ∈ d.servers, (∀ target ∈ servers, target.Fits) ∧
    (Json.array (servers.map Target.toJson)).Within levels
  options : Spec.OptionsFit d.options ∧ ∀ v ∈ d.options, v.Within levels

theorem shape_keeps {t : Terms} : ∀ f ∈ shape.fields, f.Keeps t (Draft.Fits t.levels) := by
  intro f hf
  simp only [shape, List.mem_cons, List.not_mem_nil, or_false] at hf
  rcases hf with rfl | rfl | rfl
  · exact Field.keeps_of fun _ _ _ _ before => ⟨before.servers, before.options⟩
  · refine Field.keeps_of fun _ servers _ read before => ⟨fun others same => ?_, before.options⟩
    obtain rfl := Option.some.inj same
    exact Target.servers_undoes.yields read
  · exact Field.keeps_of fun _ _ _ read before => ⟨before.servers, Spec.options_yields read⟩

/-- A spec of a connecting harness that was read can be written. -/
theorem decode_yields {t : Terms} {w : Written} {spec : ClientSpec} (enough : 3 ≤ t.levels)
    (h : decode t w = .ok spec) : spec.Fits ∧ spec.toJson.Within t.levels := by
  simp only [decode, bind, Except.bind_eq_ok, pure, Except.pure, Except.ok.injEq,
    required_eq_ok_iff] at h
  obtain ⟨⟨draft, kept⟩, filled, outdir, -, servers, given, selection, selected, rfl⟩ := h
  obtain ⟨inner, deep, keeps⟩ := Shape.fill_keeps filled
  have ends := keeps (Draft.Fits inner.levels) shape_keeps ⟨by simp, by simp [Spec.OptionsFit]⟩
  have targets := ends.servers servers given
  refine ⟨⟨targets.1, Selection.decode_yields selected, ends.options.1⟩, ?_⟩
  refine Json.within_object_iff_exists.mpr ⟨inner.levels, deep, Spec.forall_members_iff.mpr
    ⟨List.forall_mem_append.mpr ⟨?_, selection.within_toMembers (by omega)⟩, ends.options.2⟩⟩
  exact List.forall_mem_cons.mpr ⟨by simp [Json.Within], by simpa using targets.2⟩

/-- A spec of a connecting harness is read as it was written. -/
theorem decode_restores {t : Terms} {spec : ClientSpec} (fits : spec.Fits)
    (within : spec.toJson.Within t.levels) : decode t (.ofJson spec.toJson) = .ok spec := by
  obtain ⟨outdir, servers, selection, options⟩ := spec
  obtain ⟨levels, deep, within⟩ := Json.within_object_iff_exists.mp within
  have directory : Decoder.string { t with levels } (.ofJson (.string outdir)) = .ok outdir := rfl
  have targets : Decoder.list Target.decode { t with levels }
      (.ofJson (.array (servers.map Target.toJson))) = .ok servers :=
    Target.servers_undoes.restores fits.servers (within ("servers", _) (by simp))
  have filled : shape.fill t (.ofJson (toJson ⟨outdir, servers, selection, options⟩))
      ⟨none, none, none⟩ = .ok (⟨some outdir, some servers, options⟩,
        selection.toMembers.map fun m => (m.1, .ofJson m.2)) := by
    cases options with
    | none =>
      rw [toJson, Shape.fill_ofJson_of_keep rfl (by simp [Selection.toMembers]) deep within]
      simp [Shape.take, shape, Field.of, Selection.toMembers, directory, targets, Shape.foreign,
        Except.map, bind, Except.bind, pure, Except.pure]
    | some v =>
      have read : Decoder.optional .any { t with levels } (.ofJson v) = .ok (some v) :=
        Spec.options_restores fits.options (within ("options", v) (by simp))
      rw [toJson, Shape.fill_ofJson_of_keep rfl (by simp [Selection.toMembers]) deep within]
      simp [Shape.take, shape, Field.of, Selection.toMembers, directory, targets, read,
        Shape.foreign, Except.map, bind, Except.bind, pure, Except.pure]
  obtain ⟨inner, enough, -⟩ := Json.within_array_iff.mp (within ("cases", _)
    (by simp [Selection.toMembers]; rfl))
  have selected := Selection.decode_restores (t := t) (s := selection) (by omega) fits.selection
  simp only [decode, filled, required, selected, bind, Except.bind, pure, Except.pure]

end ClientSpec

namespace ServerSpec

structure Fits (spec : ServerSpec) : Prop where
  selection : spec.selection.Fits
  options : Spec.OptionsFit spec.options

/-- What is filled in of a spec is fit to be written one level below it. -/
def Draft.Fits (levels : Nat) (d : Draft) : Prop :=
  Spec.OptionsFit d.options ∧ ∀ v ∈ d.options, v.Within levels

theorem shape_keeps {t : Terms} : ∀ f ∈ shape.fields, f.Keeps t (Draft.Fits t.levels) := by
  intro f hf
  simp only [shape, List.mem_cons, List.not_mem_nil, or_false] at hf
  rcases hf with rfl | rfl | rfl
  · exact Field.keeps_of fun _ _ _ _ before => before
  · exact Field.keeps_of fun _ _ _ _ before => before
  · exact Field.keeps_of fun _ _ _ read _ => Spec.options_yields read

/-- A spec of a listening harness that was read can be written. -/
theorem decode_yields {t : Terms} {w : Written} {spec : ServerSpec} (enough : 3 ≤ t.levels)
    (h : decode t w = .ok spec) : spec.Fits ∧ spec.toJson.Within t.levels := by
  simp only [decode, bind, Except.bind_eq_ok, pure, Except.pure, Except.ok.injEq] at h
  obtain ⟨⟨draft, kept⟩, filled, url, -, outdir, -, selection, selected, rfl⟩ := h
  obtain ⟨inner, deep, keeps⟩ := Shape.fill_keeps filled
  have ends := keeps (Draft.Fits inner.levels) shape_keeps (by simp [Draft.Fits, Spec.OptionsFit])
  refine ⟨⟨Selection.decode_yields selected, ends.1⟩, ?_⟩
  refine Json.within_object_iff_exists.mpr ⟨inner.levels, deep, Spec.forall_members_iff.mpr
    ⟨List.forall_mem_append.mpr ⟨?_, selection.within_toMembers (by omega)⟩, ends.2⟩⟩
  simp [Json.Within]

/-- A spec of a listening harness is read as it was written. -/
theorem decode_restores {t : Terms} {spec : ServerSpec} (fits : spec.Fits)
    (within : spec.toJson.Within t.levels) : decode t (.ofJson spec.toJson) = .ok spec := by
  obtain ⟨url, outdir, selection, options⟩ := spec
  obtain ⟨levels, deep, within⟩ := Json.within_object_iff_exists.mp within
  have string (s : String) : Decoder.string { t with levels } (.ofJson (.string s)) = .ok s := rfl
  have filled : shape.fill t (.ofJson (toJson ⟨url, outdir, selection, options⟩))
      ⟨none, none, none⟩ = .ok (⟨some url, some outdir, options⟩,
        selection.toMembers.map fun m => (m.1, .ofJson m.2)) := by
    cases options with
    | none =>
      rw [toJson, Shape.fill_ofJson_of_keep rfl (by simp [Selection.toMembers]) deep within]
      simp [Shape.take, shape, Field.of, Selection.toMembers, string, Shape.foreign, Except.map,
        bind, Except.bind, pure, Except.pure]
    | some v =>
      have read : Decoder.optional .any { t with levels } (.ofJson v) = .ok (some v) :=
        Spec.options_restores fits.options (within ("options", v) (by simp))
      rw [toJson, Shape.fill_ofJson_of_keep rfl (by simp [Selection.toMembers]) deep within]
      simp [Shape.take, shape, Field.of, Selection.toMembers, string, read, Shape.foreign,
        Except.map, bind, Except.bind, pure, Except.pure]
  obtain ⟨inner, enough, -⟩ := Json.within_array_iff.mp (within ("cases", _)
    (by simp [Selection.toMembers]; rfl))
  have selected := Selection.decode_restores (t := t) (s := selection) (by omega) fits.selection
  simp only [decode, filled, required, selected, bind, Except.bind, pure, Except.pure]

end ServerSpec

end ConformanceGate
