import ConformanceGate.Config.Decode
import ConformanceGate.Proofs.Document.Records
import ConformanceGate.Proofs.Toml.Trees
import ConformanceGate.Run.Child
import Mathlib

/-!
# What a configuration text says

A configuration is a table that is laid over the usual settings. A section may leave out settings, a
role may not, and nothing unknown is passed over. A text is accepted exactly if its table gives a
configuration in this way and the configuration as a whole can be used (`Config.ofText_accepts`).
-/

namespace ConformanceGate

variable {α : Type} {t : Terms} {w : Written} {table : List (String × Written)} {levels : Nat}

/-! ## Readings of values -/

namespace Written

def IsText (w : Written) (s : String) : Prop := w = .string s

def IsTruth (w : Written) (b : Bool) : Prop := w = .bool b

/-- The value is this whole number, which has 64 bits and no sign. -/
def IsCount (w : Written) (n : Nat) : Prop := n < UInt64.size ∧ w = .number (.integer n)

def IsTexts (w : Written) (texts : List String) : Prop := w = .array (texts.map .string) none

/-- The value is given, and read as if it had to be. -/
def IsSome (reads : Written → α → Prop) (w : Written) (found : Option α) : Prop :=
  ∃ a, found = some a ∧ reads w a

def IsTable (gives : List (String × Written) → α → Prop) (w : Written) (a : α) : Prop :=
  ∃ table, w = .table table ∧ gives table a

end Written

open Written

namespace Decoder

theorem text_eq_ok_iff {expected s : String} : text expected t w = .ok s ↔ w.IsText s := by
  cases w <;> simp [text, IsText]

theorem boolean_eq_ok_iff {b : Bool} : boolean t w = .ok b ↔ w.IsTruth b := by
  cases w <;> simp [boolean, IsTruth]

theorem nat64_eq_ok_iff {n : Nat} : nat64 t w = .ok n ↔ w.IsCount n := by
  have size : UInt64.size = 1 <<< 64 := rfl
  unfold nat64 natBelow IsCount
  split
  · split_ifs <;> grind
  · simp_all

/-- What is read counts as given from then on. -/
def given (d : Decoder α) : Decoder (Option α) := fun t w => (d t w).map some

theorem given_eq_ok_iff {d : Decoder α} {reads : Written → α → Prop}
    (h : ∀ a, d t w = .ok a ↔ reads w a) {found : Option α} :
    d.given t w = .ok found ↔ w.IsSome reads found := by
  rw [given, Except.map_eq_ok, IsSome]
  exact exists_congr fun a => by rw [h a, eq_comm, and_comm]

theorem optional_eq_ok_iff {d : Decoder α} {reads : Written → α → Prop}
    (h : ∀ a, d t w = .ok a ↔ reads w a) (there : w ≠ .null) {found : Option α} :
    optional d t w = .ok found ↔ w.IsSome reads found := by
  have same : optional d t w = d.given t w := by
    cases w with
    | null => exact absurd rfl there
    | _ => rfl
  rw [same, given_eq_ok_iff h]

/-- Items are read as texts exactly if they are all texts, and the list is whole. -/
theorem items_string_eq_ok_iff {found : List Written} {stop : Option Fault} {texts : List String} :
    items string t found stop = .ok texts ↔ found = texts.map .string ∧ stop = none := by
  induction found generalizing texts with
  | nil => cases stop <;> simp [items, eq_comm]
  | cons item rest ih =>
    constructor
    · intro h
      obtain ⟨s, first, h⟩ := Except.bind_eq_ok.mp h
      obtain ⟨others, later, same⟩ := Except.bind_eq_ok.mp h
      cases same
      obtain ⟨rfl, complete⟩ := ih.mp later
      exact ⟨by rw [text_eq_ok_iff.mp first, List.map_cons], complete⟩
    · rintro ⟨same, complete⟩
      cases texts with
      | nil => cases same
      | cons s others =>
        cases same
        have later := ih.mpr ⟨rfl, complete⟩
        have first : string t (.string s) = .ok s := rfl
        simp only [items, first, later, bind, Except.bind]
        rfl

theorem list_string_eq_ok_iff (deep : t.levels = levels + 1) {texts : List String} :
    list string t w = .ok texts ↔ w.IsTexts texts := by
  have entered : t.enter = .ok { t with levels } := by rw [Terms.enter, deep]
  cases w with
  | array found stop =>
    have read : list string t (.array found stop) = items string { t with levels } found stop := by
      rw [list, entered]
      rfl
    rw [read, items_string_eq_ok_iff, IsTexts, Written.array.injEq]
  | _ => simp [list, IsTexts]

end Decoder

/-! ## Settings of a table -/

def OnlyKeys (keys : List String) (table : List (String × Written)) : Prop :=
  ∀ e ∈ table, e.1 ∈ keys

/-- A setting has the value that the table gives for its key, or its usual value if the table has no
such key. -/
def Sets (table : List (String × Written)) (key : String) (reads : Written → α → Prop)
    (usual value : α) : Prop :=
  match Keyed.lookup key table with
  | none => value = usual
  | some w => reads w value

/-- A setting has the value that the table gives for its key, which is there. -/
def Gives (table : List (String × Written)) (key : String) (reads : Written → α → Prop)
    (value : α) : Prop :=
  ∃ w, Keyed.lookup key table = some w ∧ reads w value

@[mk_iff] structure HarnessConfig.Overlay (table : List (String × Written)) (c : HarnessConfig) :
    Prop where
  known : OnlyKeys ["program", "args"] table
  program : Sets table "program" IsText Config.usual.harness.program c.program
  args : Sets table "args" IsTexts Config.usual.harness.args c.args

@[mk_iff] structure ReadinessConfig.Overlay (table : List (String × Written))
    (c : ReadinessConfig) : Prop where
  known : OnlyKeys ["timeout_ms", "interval_ms", "fixed_delay_ms"] table
  timeout : Sets table "timeout_ms" IsCount Config.usual.readiness.timeout c.timeout
  interval : Sets table "interval_ms" IsCount Config.usual.readiness.interval c.interval
  fixedDelay : Sets table "fixed_delay_ms" (IsSome IsCount) Config.usual.readiness.fixedDelay
    c.fixedDelay

@[mk_iff] structure TeardownConfig.Overlay (table : List (String × Written)) (c : TeardownConfig) :
    Prop where
  known : OnlyKeys ["grace_ms"] table
  grace : Sets table "grace_ms" IsCount Config.usual.teardown.grace c.grace

/-- The settings of a role that a table gives; it leaves nothing out. -/
@[mk_iff] structure RoleConfig.Complete (table : List (String × Written)) (c : RoleConfig) :
    Prop where
  known : OnlyKeys ["spec", "baseline", "subject"] table
  spec : Gives table "spec" IsText c.spec
  baseline : Gives table "baseline" IsText c.baseline
  subject : Gives table "subject" IsTexts c.subject

/-- The settings that a table gives. -/
@[mk_iff] structure Config.Overlay (table : List (String × Written)) (c : Config) : Prop where
  known : OnlyKeys ["working_dir", "relax_non_strict", "run_timeout_secs", "harness", "readiness",
    "teardown", "server", "client"] table
  workingDir : Sets table "working_dir" IsText usual.workingDir c.workingDir
  relaxed : Sets table "relax_non_strict" IsTruth usual.relaxed c.relaxed
  runTimeout : Sets table "run_timeout_secs" (IsSome IsCount) usual.runTimeout c.runTimeout
  harness : Sets table "harness" (IsTable HarnessConfig.Overlay) usual.harness c.harness
  readiness : Sets table "readiness" (IsTable ReadinessConfig.Overlay) usual.readiness c.readiness
  teardown : Sets table "teardown" (IsTable TeardownConfig.Overlay) usual.teardown c.teardown
  server : Sets table "server" (IsTable RoleConfig.Complete) usual.server c.server
  client : Sets table "client" (IsTable RoleConfig.Complete) usual.client c.client

/-- What settings have to satisfy together to be used. -/
@[mk_iff] structure Config.Usable (c : Config) : Prop where
  harness : Text.blank c.harness.program = false
  interval : 0 < c.readiness.interval
  timeout : c.readiness.interval ≤ c.readiness.timeout
  subject : ∀ role, ∃ program args, (c.role role).subject = program :: args ∧
    Text.blank program = false

/-- The sections that are there are not given as arrays of their settings. -/
def NamedSections (table : List (String × Written)) : Prop :=
  ∀ key ∈ ["harness", "readiness", "teardown", "server", "client"], ∀ items stop,
    Keyed.lookup key table ≠ some (.array items stop)

/-! ## Records -/

section Records

variable {ρ : Type} {shape : Shape ρ} {slots : List (Slot ρ)} {before after : ρ}

/-- A place holds what its field gives exactly if the table sets it. -/
theorem Slot.holds_iff_sets {s : Slot ρ} {reads : Written → s.α → Prop}
    (h : ∀ w, Keyed.lookup s.name table = some w → ∀ a, s.decoder t w = .ok a ↔ reads w a) :
    s.Holds t table before after ↔ Sets table s.name reads (s.get before) (s.get after) := by
  cases given : Keyed.lookup s.name table with
  | none => rw [Slot.holds_of_absent given, Sets, given]
  | some w => rw [Slot.holds_of_given given, Sets, given, h w given]

/-- Of the values that are no arrays, a table alone fills a record, as its places hold what the
table gives for them. -/
theorem Slots.fill_iff (h : Slots shape slots) (value : Toml.IsValue w)
    (named : ∀ items stop, w ≠ .array items stop) (deep : t.levels = levels + 1)
    {gives : List (String × Written) → α → Prop} {a : α}
    (holds : ∀ table, (∀ e ∈ table, Toml.IsValue e.2) →
      ((OnlyKeys (slots.map Slot.name) table ∧
        ∀ s ∈ slots, s.Holds { t with levels } table before after) ↔ gives table a)) :
    (shape.fill t w before).map (·.1) = .ok after ↔ w.IsTable gives a := by
  cases value with
  | table sorted values =>
    rw [h.fill_table_iff sorted.nodup deep, IsTable]
    simp only [Written.table_inj, exists_eq_left']
    exact holds _ values
  | array _ => exact absurd rfl (named _ _)
  | _ => simp [Shape.fill, IsTable, Written.table, Except.map]

end Records

/-! ## Sections -/

def HarnessConfig.slots : List (Slot HarnessConfig) := [
  ⟨"program", .string, (·.program), fun program c => { c with program }⟩,
  ⟨"args", .list .string, (·.args), fun args c => { c with args }⟩]

def ReadinessConfig.slots : List (Slot ReadinessConfig) := [
  ⟨"timeout_ms", .nat64, (·.timeout), fun timeout c => { c with timeout }⟩,
  ⟨"interval_ms", .nat64, (·.interval), fun interval c => { c with interval }⟩,
  ⟨"fixed_delay_ms", .optional .nat64, (·.fixedDelay), fun fixedDelay c => { c with fixedDelay }⟩]

def TeardownConfig.slots : List (Slot TeardownConfig) := [
  ⟨"grace_ms", .nat64, (·.grace), fun grace c => { c with grace }⟩]

theorem Field.of_given {ρ : Type} (name : String) (d : Decoder α) (put : Option α → ρ → ρ) :
    Field.of name d.given put = Field.of name d fun a => put (some a) := by
  rw [Field.of, Field.of, Field.mk.injEq]
  refine ⟨rfl, ?_⟩
  funext t w draft
  rw [Decoder.given]
  cases d t w <;> rfl

def RoleConfig.slots : List (Slot RoleConfig.Draft) := [
  ⟨"spec", Decoder.path.given, (·.spec), fun spec d => { d with spec }⟩,
  ⟨"baseline", Decoder.path.given, (·.baseline), fun baseline d => { d with baseline }⟩,
  ⟨"subject", (Decoder.list .string).given, (·.subject), fun subject d => { d with subject }⟩]

def Config.slots : List (Slot Config) := [
  ⟨"working_dir", .path, (·.workingDir), fun workingDir c => { c with workingDir }⟩,
  ⟨"relax_non_strict", .boolean, (·.relaxed), fun relaxed c => { c with relaxed }⟩,
  ⟨"run_timeout_secs", .optional .nat64, (·.runTimeout), fun runTimeout c => { c with runTimeout }⟩,
  ⟨"harness", HarnessConfig.shape.over usual.harness, (·.harness), fun harness c =>
    { c with harness }⟩,
  ⟨"readiness", ReadinessConfig.shape.over usual.readiness, (·.readiness), fun readiness c =>
    { c with readiness }⟩,
  ⟨"teardown", TeardownConfig.shape.over usual.teardown, (·.teardown), fun teardown c =>
    { c with teardown }⟩,
  ⟨"server", RoleConfig.decode, (·.server), fun server c => { c with server }⟩,
  ⟨"client", RoleConfig.decode, (·.client), fun client c => { c with client }⟩]

theorem HarnessConfig.slots_shape : Slots shape slots where
  fields := rfl
  refuses := rfl
  distinct := by decide
  own := by simp [slots]
  apart := by simp [slots]
  all r r' same := by
    cases r
    cases r'
    simpa [slots] using same

theorem ReadinessConfig.slots_shape : Slots shape slots where
  fields := rfl
  refuses := rfl
  distinct := by decide
  own := by simp [slots]
  apart := by simp [slots]
  all r r' same := by
    cases r
    cases r'
    simpa [slots] using same

theorem TeardownConfig.slots_shape : Slots shape slots where
  fields := rfl
  refuses := rfl
  distinct := by decide
  own := by simp [slots]
  apart := by simp [slots]
  all r r' same := by
    cases r
    cases r'
    simpa [slots] using same

theorem Config.slots_shape : Slots shape slots where
  fields := rfl
  refuses := rfl
  distinct := by decide
  own := by simp [slots]
  apart := by simp [slots]
  all r r' same := by
    cases r
    cases r'
    simpa [slots] using same

theorem RoleConfig.slots_shape : Slots shape slots where
  fields := by
    simp only [slots, List.map_cons, List.map_nil, Slot.field, Field.of_given]
    rfl
  refuses := rfl
  distinct := by decide
  own := by simp [slots]
  apart := by simp [slots]
  all r r' same := by
    cases r
    cases r'
    simpa [slots] using same

/-! ## What is read -/

/-- The fields of the harness are filled exactly as the table overlays them. -/
theorem HarnessConfig.holds_iff (deep : t.levels = levels + 1) {c : HarnessConfig} :
    (OnlyKeys (slots.map Slot.name) table ∧
      ∀ s ∈ slots, s.Holds t table Config.usual.harness c) ↔ Overlay table c := by
  simp only [slots, List.forall_mem_cons, List.not_mem_nil, false_implies, implies_true, and_true,
    overlay_iff]
  exact and_congr_right fun _ => and_congr
    (Slot.holds_iff_sets fun _ _ _ => Decoder.text_eq_ok_iff (t := t))
    (Slot.holds_iff_sets fun _ _ _ => Decoder.list_string_eq_ok_iff deep)

theorem ReadinessConfig.holds_iff (values : ∀ e ∈ table, Toml.IsValue e.2) {c : ReadinessConfig} :
    (OnlyKeys (slots.map Slot.name) table ∧
      ∀ s ∈ slots, s.Holds t table Config.usual.readiness c) ↔ Overlay table c := by
  simp only [slots, List.forall_mem_cons, List.not_mem_nil, false_implies, implies_true, and_true,
    overlay_iff]
  exact and_congr_right fun _ => and_congr
    (Slot.holds_iff_sets fun _ _ _ => Decoder.nat64_eq_ok_iff (t := t)) (and_congr
    (Slot.holds_iff_sets fun _ _ _ => Decoder.nat64_eq_ok_iff (t := t))
    (Slot.holds_iff_sets fun w given _ => Decoder.optional_eq_ok_iff
      (fun _ => Decoder.nat64_eq_ok_iff (t := t))
      (values _ (Keyed.mem_of_lookup given)).ne_null))

theorem TeardownConfig.holds_iff {c : TeardownConfig} :
    (OnlyKeys (slots.map Slot.name) table ∧
      ∀ s ∈ slots, s.Holds t table Config.usual.teardown c) ↔ Overlay table c := by
  simp only [slots, List.forall_mem_cons, List.not_mem_nil, false_implies, implies_true, and_true,
    overlay_iff]
  exact and_congr_right fun _ => Slot.holds_iff_sets fun _ _ _ => Decoder.nat64_eq_ok_iff (t := t)

/-- What was to come has come exactly if the table gives it. -/
theorem sets_none_some_iff {key : String} {reads : Written → α → Prop} {a : α} :
    Sets table key (IsSome reads) none (some a) ↔ Gives table key reads a := by
  unfold Sets Gives
  cases Keyed.lookup key table <;> simp [IsSome]

/-- The fields of a role are filled exactly if the table completes them. -/
theorem RoleConfig.holds_iff (deep : t.levels = levels + 1) {c : RoleConfig} :
    (OnlyKeys (slots.map Slot.name) table ∧ ∀ s ∈ slots, s.Holds t table ⟨none, none, none⟩
      ⟨some c.spec, some c.baseline, some c.subject⟩) ↔ Complete table c := by
  simp only [slots, List.forall_mem_cons, List.not_mem_nil, false_implies, implies_true, and_true,
    complete_iff]
  have path : ∀ (w : Written) s, Decoder.path.given t w = .ok s ↔ w.IsSome IsText s := fun _ _ =>
    Decoder.given_eq_ok_iff fun _ => Decoder.text_eq_ok_iff
  exact and_congr_right fun _ => and_congr
    ((Slot.holds_iff_sets fun w _ => path w).trans sets_none_some_iff) (and_congr
    ((Slot.holds_iff_sets fun w _ => path w).trans sets_none_some_iff)
    ((Slot.holds_iff_sets fun _ _ _ => Decoder.given_eq_ok_iff fun _ =>
      Decoder.list_string_eq_ok_iff deep).trans sets_none_some_iff))

section Sections

variable (value : Toml.IsValue w) (named : ∀ items stop, w ≠ .array items stop)
  (deep : t.levels = levels + 2)
include value named deep

theorem HarnessConfig.over_iff (c : HarnessConfig) :
    shape.over Config.usual.harness t w = .ok c ↔ w.IsTable Overlay c :=
  slots_shape.fill_iff value named deep fun _ _ => holds_iff rfl

theorem ReadinessConfig.over_iff (c : ReadinessConfig) :
    shape.over Config.usual.readiness t w = .ok c ↔ w.IsTable Overlay c :=
  slots_shape.fill_iff value named deep fun _ values => holds_iff values

theorem TeardownConfig.over_iff (c : TeardownConfig) :
    shape.over Config.usual.teardown t w = .ok c ↔ w.IsTable Overlay c :=
  slots_shape.fill_iff value named deep fun _ _ => holds_iff

omit value named deep in
/-- The settings of a role are read once none of them is still to come. -/
theorem RoleConfig.decode_eq_ok_iff {c : RoleConfig} :
    decode t w = .ok c ↔ (shape.fill t w ⟨none, none, none⟩).map (·.1) =
      .ok ⟨some c.spec, some c.baseline, some c.subject⟩ := by
  rw [Except.map_eq_ok]
  constructor
  · intro h
    obtain ⟨⟨draft, kept⟩, filled, h⟩ := Except.bind_eq_ok.mp h
    obtain ⟨spec, hspec, h⟩ := Except.bind_eq_ok.mp h
    obtain ⟨baseline, hbaseline, h⟩ := Except.bind_eq_ok.mp h
    obtain ⟨subject, hsubject, h⟩ := Except.bind_eq_ok.mp h
    cases h
    rw [required_eq_ok_iff] at hspec hbaseline hsubject
    exact ⟨_, filled, by rw [← hspec, ← hbaseline, ← hsubject]⟩
  · rintro ⟨⟨draft, kept⟩, filled, rfl⟩
    rw [decode, filled]
    rfl

theorem RoleConfig.decode_iff (c : RoleConfig) : decode t w = .ok c ↔ w.IsTable Complete c := by
  rw [decode_eq_ok_iff]
  exact slots_shape.fill_iff value named deep fun _ _ => holds_iff rfl

end Sections

/-- All sections are filled exactly as the table overlays them. -/
theorem Config.holds_iff (deep : t.levels = levels + 2) (values : ∀ e ∈ table, Toml.IsValue e.2)
    (named : NamedSections table) {c : Config} :
    (OnlyKeys (slots.map Slot.name) table ∧ ∀ s ∈ slots, s.Holds t table usual c) ↔
      Overlay table c := by
  simp only [slots, List.forall_mem_cons, List.not_mem_nil, false_implies, implies_true, and_true,
    overlay_iff]
  have value : ∀ {key w}, Keyed.lookup key table = some w → Toml.IsValue w := fun given =>
    values _ (Keyed.mem_of_lookup given)
  have noArray : ∀ {key w}, key ∈ ["harness", "readiness", "teardown", "server", "client"] →
      Keyed.lookup key table = some w → ∀ items stop, w ≠ .array items stop :=
    fun hkey given items stop same => named _ hkey items stop (same ▸ given)
  refine and_congr_right fun _ => ?_
  refine and_congr (Slot.holds_iff_sets fun _ _ _ => Decoder.text_eq_ok_iff (t := t)) ?_
  refine and_congr (Slot.holds_iff_sets fun _ _ _ => Decoder.boolean_eq_ok_iff (t := t)) ?_
  refine and_congr (Slot.holds_iff_sets fun _ given _ => Decoder.optional_eq_ok_iff
    (fun _ => Decoder.nat64_eq_ok_iff (t := t)) (value given).ne_null) ?_
  refine and_congr (Slot.holds_iff_sets fun _ given =>
    HarnessConfig.over_iff (value given) (noArray (by simp) given) deep) ?_
  refine and_congr (Slot.holds_iff_sets fun _ given =>
    ReadinessConfig.over_iff (value given) (noArray (by simp) given) deep) ?_
  refine and_congr (Slot.holds_iff_sets fun _ given =>
    TeardownConfig.over_iff (value given) (noArray (by simp) given) deep) ?_
  exact and_congr (Slot.holds_iff_sets fun _ given =>
    RoleConfig.decode_iff (value given) (noArray (by simp) given) deep)
    (Slot.holds_iff_sets fun _ given =>
    RoleConfig.decode_iff (value given) (noArray (by simp) given) deep)

namespace Config

/-- The settings are read off a table exactly as they are laid over the usual ones. -/
theorem decode_table_iff (deep : t.levels = levels + 3) (value : Toml.IsValue (.table table))
    (named : NamedSections table) {c : Config} :
    decode t (.table table) = .ok c ↔ Overlay table c := by
  obtain ⟨sorted, values⟩ := Toml.IsValue.table_iff.mp value
  rw [decode, Shape.over, slots_shape.fill_table_iff sorted.nodup deep]
  exact holds_iff rfl values named

/-- A table without entries leaves all settings as they are, however few levels are left. -/
theorem decode_nil_iff (deep : t.levels = levels + 1) {c : Config} :
    decode t (.table []) = .ok c ↔ Overlay [] c := by
  have distinct : (([] : List (String × Written)).map (·.1)).Nodup := List.nodup_nil
  rw [decode, Shape.over, slots_shape.fill_table_iff distinct deep]
  simp [slots, Slot.Holds, overlay_iff, OnlyKeys, Sets]

theorem hasProgram_iff {subject : List String} :
    hasProgram subject = true ↔ ∃ program args, subject = program :: args ∧
      Text.blank program = false := by
  cases subject <;> simp [hasProgram]

/-- Settings pass their check exactly if they can be used. -/
theorem validate_eq_ok_iff {c : Config} : c.validate = .ok () ↔ c.Usable := by
  have subjects : (∀ role, ∃ program args, (c.role role).subject = program :: args ∧
      Text.blank program = false) ↔
      hasProgram c.server.subject = true ∧ hasProgram c.client.subject = true := by
    simp only [← hasProgram_iff]
    exact ⟨fun h => ⟨h .server, h .client⟩, fun h role => by cases role; exacts [h.1, h.2]⟩
  have refused : ∀ flaw : Flaw, (throw flaw : Except Flaw Unit) = .error flaw := fun _ => rfl
  have passed : (pure () : Except Flaw Unit) = .ok () := rfl
  have stops : ∀ (flaw : Flaw) (next : PUnit → Except Flaw Unit),
      ((Except.error flaw : Except Flaw PUnit) >>= next) = .error flaw := fun _ _ => rfl
  rw [usable_iff, subjects]
  simp only [validate, refused, passed, stops]
  split_ifs <;> grind

/-- A tree makes a configuration if it can be decoded and the settings go together. -/
theorem ofTree_eq_ok_iff {tree : Written} {depth : Nat} {c : Config} :
    ofTree tree depth = .ok c ↔ decode ⟨depth, true⟩ tree = .ok c ∧ c.Usable := by
  rw [← validate_eq_ok_iff]
  constructor
  · intro h
    obtain ⟨config, decoded, h⟩ := Except.bind_eq_ok.mp h
    obtain ⟨⟨⟩, valid, same⟩ := Except.bind_eq_ok.mp h
    cases same
    exact ⟨Except.mapError_eq_ok.mp decoded, valid⟩
  · rintro ⟨decoded, valid⟩
    exact Except.bind_eq_ok.mpr ⟨c, Except.mapError_eq_ok.mpr decoded,
      Except.bind_eq_ok.mpr ⟨(), valid, rfl⟩⟩

variable {text : String} {c : Config}

/-- What an accepted text is: a table, and the settings that are read off it. -/
theorem ofText_eq_ok_iff : ofText text = .ok c ↔
    ∃ table, Toml.read text = .ok (.table table) ∧
      ofTree (.table table) (text.length + 1) = .ok c := by
  unfold ofText
  constructor
  · intro h
    split at h
    · cases h
    · cases h
    · rename_i tree read
      obtain ⟨table, rfl, -⟩ := Toml.read_isTable read
      exact ⟨table, read, h⟩
  · rintro ⟨table, read, h⟩
    rw [read]
    exact h

/-- A text has more levels left than its settings nest: without room for them it has none. -/
theorem decode_read_iff (read : Toml.read text = .ok (.table table)) (named : NamedSections table) :
    decode ⟨text.length + 1, true⟩ (.table table) = .ok c ↔ Overlay table c := by
  obtain ⟨entries, same, value⟩ := Toml.read_isTable read
  by_cases short : text.length ≤ 1
  · cases Toml.read_of_length_le_one short read
    exact decode_nil_iff rfl
  · obtain ⟨levels, deep⟩ : ∃ levels, text.length + 1 = levels + 3 :=
      ⟨text.length - 2, by omega⟩
    exact decode_table_iff deep value named

/-- Whatever table a text is, as long as its sections are not given as arrays: it is accepted as a
configuration exactly if the configuration is what the table gives over the usual settings, with
nothing unknown and nothing of the wrong kind in it, and can be used as a whole. In every accepted
configuration both roles have a subject that can be started. -/
theorem ofText_accepts (text : String) :
    (∀ table, Toml.read text = .ok (.table table) → NamedSections table →
      ∀ c, ofText text = .ok c ↔ Overlay table c ∧ c.Usable) ∧
    ∀ c, ofText text = .ok c → ∀ role directory, ∃ launch,
      Launch.ofCommand (c.role role).subject directory = .ok launch := by
  refine ⟨fun table read named c => ?_, fun c accepted role directory => ?_⟩
  · rw [← decode_read_iff read named, ← ofTree_eq_ok_iff, ofText_eq_ok_iff, read]
    constructor
    · rintro ⟨table', same, h⟩
      obtain rfl := Written.table_inj.mp (Except.ok.inj same)
      exact h
    · exact fun h => ⟨table, rfl, h⟩
  · obtain ⟨table, -, h⟩ := ofText_eq_ok_iff.mp accepted
    obtain ⟨program, args, named, -⟩ := (ofTree_eq_ok_iff.mp h).2.subject role
    exact ⟨⟨program, args, directory⟩, by rw [named]; rfl⟩

/-- A text that names a role as a whole and one setting of a section. -/
def partialText : String :=
  "[readiness]\ninterval_ms = 50\n[server]\nspec = \"s\"\nbaseline = \"b\"\nsubject = [\"x\", \"-v\"]\n"

def partialTable : List (String × Written) := [
  ("readiness", .table [("interval_ms", .number (.integer 50))]),
  ("server", .table [("baseline", .string "b"), ("spec", .string "s"),
    ("subject", .array [.string "x", .string "-v"] none)])]

/-- One interval and one role are given, and all else is as usual. -/
theorem ofText_accepts_partialText :
    Toml.read partialText = .ok (.table partialTable) ∧ NamedSections partialTable ∧
      ofText partialText =
        .ok { usual with readiness.interval := 50, server := ⟨"s", "b", ["x", "-v"]⟩ } := by
  have read : Toml.read partialText = .ok (.table partialTable) := by cbv
  have named : NamedSections partialTable := by
    simp [NamedSections, partialTable, Keyed.lookup, Written.table]
  refine ⟨read, named, ((ofText_accepts partialText).1 _ read named _).mpr ⟨?_, ?_⟩⟩
  · rw [overlay_iff]
    refine ⟨by simp [OnlyKeys, partialTable], rfl, rfl, rfl, rfl, ?_, rfl, ?_, rfl⟩
    · refine ⟨_, rfl, ?_⟩
      rw [ReadinessConfig.overlay_iff]
      exact ⟨by simp [OnlyKeys], rfl, ⟨by decide, rfl⟩, rfl⟩
    · refine ⟨_, rfl, ?_⟩
      rw [RoleConfig.complete_iff]
      exact ⟨by simp [OnlyKeys], ⟨_, rfl, rfl⟩, ⟨_, rfl, rfl⟩, ⟨_, rfl, rfl⟩⟩
  · refine ⟨by decide, by decide, by decide, fun role => ?_⟩
    cases role with
    | server => exact ⟨"x", ["-v"], rfl, by decide⟩
    | client => exact ⟨_, [], rfl, by decide⟩

end Config
end ConformanceGate
