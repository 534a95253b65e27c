import ConformanceGate.Proofs.Comparison.Walk
import ConformanceGate.Proofs.Results.Loading

/-!
# Writing results back

Results that were read are written as the value they were read from, less what is no field of a
case and less the nulls, and reading that gives the same results (`Results.ofJson_restores`).
-/

namespace ConformanceGate

namespace Keyed

variable {κ α : Type} [DecidableEq κ]

/-- With distinct keys, a filter hides the pairs that it does not keep. -/
theorem lookup_filter_of_nodup {pairs : List (κ × α)} (distinct : (pairs.map (·.1)).Nodup)
    (keep : κ × α → Bool) (key : κ) :
    lookup key (pairs.filter keep) = (lookup key pairs).filter fun value => keep (key, value) := by
  have distinct' : ((pairs.filter keep).map (·.1)).Nodup :=
    distinct.sublist (List.filter_sublist.map _)
  refine Option.ext fun value => ?_
  rw [lookup_eq_some_iff distinct', List.mem_filter, Option.filter_eq_some_iff,
    lookup_eq_some_iff distinct]

theorem lookup_toList {β : Type} (key name : κ) (f : β → α) (a : Option β) :
    lookup key (a.map fun b => (name, f b)).toList = if name = key then a.map f else none := by
  cases a <;> simp [lookup]

end Keyed

namespace Json

/-- Null counts as absent. -/
def isSet : Json → Bool
  | .null => false
  | _ => true

variable {v : Json} {key : String}

/-- Of a text or null the text is what is set. -/
theorem filter_isSet_of_text (h : v.TextIfAny key) :
    (v.get? key).filter isSet = ((v.get? key).bind text?).map .string := by
  cases found : v.get? key with
  | none => rfl
  | some value => obtain rfl | ⟨s, rfl⟩ := h value found <;> rfl

/-- Of a count or null the count is what is set. -/
theorem filter_isSet_of_count {limit : Nat} (h : CountIfAny limit v key) :
    (v.get? key).filter isSet = ((v.get? key).bind count?).map .nat := by
  cases found : v.get? key with
  | none => rfl
  | some value => obtain rfl | ⟨n, -, rfl⟩ := h value found <;> rfl

end Json

namespace TestCase

def fieldNames : List String :=
  ["behavior", "behaviorClose", "duration", "remoteCloseCode", "reportfile"]

/-- The record without what is no field of a case and without what is null. -/
def essential : Json → Json :=
  Policy.onMembers (List.filter fun m => m.1 ∈ fieldNames && m.2.isSet)

/-- A field stays if it is set, and all else goes. -/
theorem get?_essential {record : Json} (ordered : record.Ordered) (key : String) :
    (essential record).get? key =
      if key ∈ fieldNames then (record.get? key).filter Json.isSet else none := by
  cases record with
  | object members =>
    rw [essential, Policy.onMembers, Json.get?_object, Json.get?_object,
      Keyed.lookup_filter_of_nodup ordered.increasing.nodup]
    by_cases h : key ∈ fieldNames <;> simp [h]
  | _ => simp [essential, Policy.onMembers, Json.get?, Json.members?]

theorem ordered_essential {record : Json} (ordered : record.Ordered) :
    (essential record).Ordered := by
  cases record with
  | object members =>
    obtain ⟨increasing, inner⟩ := Json.ordered_object_iff.mp ordered
    exact Json.ordered_object_iff.mpr ⟨increasing.filter _, fun key value h =>
      inner key value (List.mem_filter.mp h).1⟩
  | _ => exact ordered

/-! ## One record -/

/-- What is written under a key of a record. -/
theorem lookup_toMembers (c : TestCase) (key : String) : Keyed.lookup key c.toMembers =
    if key = "behavior" then some (.string c.status.text)
    else if key = "behaviorClose" then c.close.map fun s => .string s.text
    else if key = "duration" then c.duration.map fun n => .nat n.toNat
    else if key = "remoteCloseCode" then c.closeCode.map fun n => .nat n.toNat
    else if key = "reportfile" then c.report.map .string
    else none := by
  simp only [toMembers, Keyed.lookup_append, Keyed.lookup_toList, Keyed.lookup]
  grind

/-- The members are written in the order of their keys. -/
theorem increasing_toMembers (c : TestCase) : Keyed.Increasing c.toMembers := by
  have one : ∀ {α : Type} (name : String) (write : α → Json) (a : Option α),
      ((a.map fun a => (name, write a)).toList.map (·.1)).Sublist [name] := by
    intro α name write a
    cases a <;> simp
  have keys : (c.toMembers.map (·.1)).Sublist fieldNames := by
    simp only [toMembers, List.map_append]
    exact ((((List.Sublist.refl ["behavior"]).append (one "behaviorClose" _ c.close)).append
      (one "duration" _ c.duration)).append (one "remoteCloseCode" _ c.closeCode)).append
      (one "reportfile" _ c.report)
  have sorted : fieldNames.Pairwise (· < ·) := by decide
  exact List.pairwise_map.mp (sorted.sublist keys)

/-- The members are written with texts and counts of 64 bits only. -/
theorem text_or_count_of_mem {c : TestCase} {m : String × Json} (h : m ∈ c.toMembers) :
    (∃ s, m.2 = .string s) ∨ ∃ n : Nat, n < 2 ^ 64 ∧ m.2 = .nat n := by
  have found := (Keyed.lookup_eq_some_iff c.increasing_toMembers.nodup).mpr h
  have long := fun n : UInt64 => n.toNat_lt
  have short := fun n : UInt16 => n.toNat_lt
  rw [lookup_toMembers] at found
  grind [Option.map_eq_some_iff]

theorem ordered_toMembers (c : TestCase) : (Json.object c.toMembers).Ordered := by
  refine Json.ordered_object_iff.mpr ⟨c.increasing_toMembers, fun key value h => ?_⟩
  obtain ⟨s, rfl⟩ | ⟨n, -, rfl⟩ := text_or_count_of_mem h <;> trivial

/-- The values of the fields of a record are what is written of the case that it shows. -/
theorem lookup_toMembers_of_shows {c : TestCase} {record : Json} (isCase : record.IsCase)
    (shows : c.Shows record) {key : String} (field : key ∈ fieldNames) :
    Keyed.lookup key c.toMembers = (record.get? key).filter Json.isSet := by
  simp only [fieldNames, List.mem_cons, List.not_mem_nil, or_false] at field
  rw [lookup_toMembers]
  rcases field with rfl | rfl | rfl | rfl | rfl
  · obtain ⟨s, found⟩ := isCase.behavior
    have status := shows.status
    rw [found] at status ⊢
    rw [if_pos rfl, ← Option.some.inj status, Status.text_ofText]
    rfl
  · rw [Json.filter_isSet_of_text isCase.behaviorClose, ← shows.close]
    simp [Function.comp_def]
  · rw [Json.filter_isSet_of_count isCase.duration, shows.duration]
    simp [Function.comp_def]
  · rw [Json.filter_isSet_of_count isCase.remoteCloseCode, shows.closeCode]
    simp [Function.comp_def]
  · rw [Json.filter_isSet_of_text isCase.reportfile, shows.report]
    simp

/-- A case is written as what is essential of the record that it shows. -/
theorem object_toMembers {c : TestCase} {record : Json} (ordered : record.Ordered)
    (isCase : record.IsCase) (shows : c.Shows record) :
    .object c.toMembers = essential record := by
  obtain ⟨s, found⟩ := isCase.behavior
  obtain ⟨fields, rfl⟩ : ∃ fields, record = .object fields := by
    cases record <;> simp_all [Json.get?, Json.members?]
  refine congrArg Json.object (Keyed.eq_of_lookup c.increasing_toMembers
    (ordered_essential ordered).increasing fun key => ?_)
  have kept := get?_essential ordered key
  rw [essential, Policy.onMembers, Json.get?_object] at kept
  rw [kept]
  split_ifs with field
  · exact lookup_toMembers_of_shows isCase shows field
  · rw [lookup_toMembers]
    grind [fieldNames]

/-- A record shows one case at most: a status is known by its text, and a count by its number. -/
theorem Shows.unique {c c' : TestCase} {record : Json} (h : c.Shows record)
    (h' : c'.Shows record) : c = c' := by
  have status := Option.some.inj (h.status.symm.trans h'.status)
  have close := h.close.symm.trans h'.close
  have duration := h.duration.symm.trans h'.duration
  have closeCode := h.closeCode.symm.trans h'.closeCode
  have report := h.report.symm.trans h'.report
  cases c
  cases c'
  rw [TestCase.mk.injEq]
  exact ⟨status, close, Option.map_injective (fun _ _ => UInt64.toNat_inj.mp) duration,
    Option.map_injective (fun _ _ => UInt16.toNat_inj.mp) closeCode, report⟩

/-- Null is read as if nothing were there, so only what is essential is read of a field. -/
theorem bind_get?_essential {record : Json} (ordered : record.Ordered) {β : Type}
    {read : Json → Option β} (null : read .null = none) {key : String} (field : key ∈ fieldNames) :
    ((essential record).get? key).bind read = (record.get? key).bind read := by
  rw [get?_essential ordered, if_pos field]
  rcases record.get? key with _ | value
  · rfl
  · cases value <;> simp [Json.isSet, null, Option.filter]

/-- What is essential of a record shows the same case. -/
theorem shows_essential {c : TestCase} {record : Json} (ordered : record.Ordered)
    (h : c.Shows record) : c.Shows (essential record) where
  status := by
    rw [bind_get?_essential ordered rfl (by simp [fieldNames])]
    exact h.status
  close := by
    rw [bind_get?_essential ordered rfl (by simp [fieldNames])]
    exact h.close
  duration := by
    rw [bind_get?_essential ordered rfl (by simp [fieldNames])]
    exact h.duration
  closeCode := by
    rw [bind_get?_essential ordered rfl (by simp [fieldNames])]
    exact h.closeCode
  report := by
    rw [bind_get?_essential ordered rfl (by simp [fieldNames])]
    exact h.report

/-- What is essential of the record of a case is the record of a case. -/
theorem isCase_essential {record : Json} (ordered : record.Ordered) (h : record.IsCase) :
    (essential record).IsCase := by
  have kept : ∀ {key value}, (essential record).get? key = some value →
      record.get? key = some value := by
    intro key value found
    rw [get?_essential ordered] at found
    split_ifs at found
    exact (Option.filter_eq_some_iff.mp found).1
  obtain ⟨s, found⟩ := h.behavior
  refine ⟨⟨s, ?_⟩, fun _ found => h.behaviorClose _ (kept found),
    fun _ found => h.duration _ (kept found), fun _ found => h.remoteCloseCode _ (kept found),
    fun _ found => h.reportfile _ (kept found)⟩
  rw [get?_essential ordered, if_pos (by simp [fieldNames]), found]
  rfl

end TestCase

namespace Results

def essentialCases (cases : List (String × Json)) : List (String × Json) :=
  cases.map fun case => (case.1, TestCase.essential case.2)

def essentialAgent : Json → Json := Policy.onMembers essentialCases

/-- The results with each record of a case less what is no field of a case and less the nulls. -/
def essential : Json → Json :=
  Policy.onMembers (List.map fun agent => (agent.1, essentialAgent agent.2))

def writtenCases (found : List (CaseId × TestCase)) : List (String × Json) :=
  found.map fun p => (p.1.text, .object p.2.toMembers)

variable {v : Json} {r : Results}

theorem ordered_essential (ordered : v.Ordered) : (essential v).Ordered :=
  Policy.ordered_onMembers_map ordered fun _ h =>
    Policy.ordered_onMembers_map h fun _ h => TestCase.ordered_essential h

theorem get?_essential (v : Json) (agent : String) :
    (essential v).get? agent = (v.get? agent).map essentialAgent :=
  Policy.get?_onMembers_map (fun _ => essentialAgent) v agent

/-- Under an implementation and a case stands what is essential of the record. -/
theorem follow?_essential (v : Json) (agent key : String) :
    (essential v).follow? [agent, key] = (v.follow? [agent, key]).map TestCase.essential := by
  simp only [Json.follow?_cons, Json.follow?_nil, get?_essential]
  cases v.get? agent with
  | none => rfl
  | some entry =>
    have inner : (essentialAgent entry).get? key = (entry.get? key).map TestCase.essential :=
      Policy.get?_onMembers_map (fun _ => TestCase.essential) entry key
    simp only [Option.map_some, Option.bind_some, inner]
    cases entry.get? key <;> rfl

theorem isResults_essential (h : v.IsResults) : (essential v).IsResults := by
  refine Policy.objectOf_onMembers_map (fun _ => Policy.objectOf_onMembers_map ?_) h
  rintro _ ⟨fields, rfl, -⟩
  exact ⟨_, rfl, fun _ _ => trivial⟩

theorem increasing_essentialCases {cases : List (String × Json)} (h : Keyed.Increasing cases) :
    Keyed.Increasing (essentialCases cases) := h.map fun _ => TestCase.essential

/-- Under a key stands what is written of the case with that identifier. -/
theorem lookup_writtenCases (found : List (CaseId × TestCase)) (key : String) :
    Keyed.lookup key (writtenCases found) =
      ((CaseId.parse? key).bind fun id => Keyed.lookup id found).map fun c =>
        .object c.toMembers := by
  induction found with
  | nil => cases CaseId.parse? key <;> rfl
  | cons p rest ih =>
    obtain ⟨id, c⟩ := p
    by_cases named : id.text = key
    · simp [writtenCases, Keyed.lookup, named, CaseId.parse?_eq_some_iff.mpr named.symm]
    · have other : (CaseId.parse? key).bind (fun id' => Keyed.lookup id' ((id, c) :: rest)) =
          (CaseId.parse? key).bind fun id' => Keyed.lookup id' rest := by
        refine Option.bind_congr fun id' parsed => Keyed.lookup_cons_ne ?_ c rest
        rintro rfl
        exact named (CaseId.parse?_eq_some_iff.mp parsed).symm
      rw [other, ← ih]
      exact Keyed.lookup_cons_ne named _ _

theorem nodup_writtenCases {found : List (CaseId × TestCase)} (h : Keyed.Increasing found) :
    ((writtenCases found).map (·.1)).Nodup := by
  have texts := h.nodup.map CaseId.text_injective
  rw [List.map_map] at texts
  rw [writtenCases, List.map_map]
  exact texts

/-- The cases of an implementation are written as what is essential of the records that they show,
once they stand in the order of their keys. -/
theorem collect_writtenCases {found : List (CaseId × TestCase)} {cases : List (String × Json)}
    (ordered : (Json.object cases).Ordered) (isCase : ∀ m ∈ cases, m.2.IsCase)
    (holds : HoldsCases found cases) :
    Keyed.collect (writtenCases found) = essentialCases cases := by
  refine Keyed.eq_of_lookup (Keyed.increasing_collect _)
    (increasing_essentialCases ordered.increasing) fun key => ?_
  rw [Keyed.lookup_collect (nodup_writtenCases holds.increasing), lookup_writtenCases,
    essentialCases, Keyed.lookup_map fun _ => TestCase.essential]
  have cases := holds.rel_key ordered.increasing.nodup key
  refine map_eq_map_of_rel cases fun record there c shows => ?_
  have hm := Keyed.mem_of_lookup there
  have inner := (Json.ordered_object_iff.mp ordered).2 _ _ hm
  exact TestCase.object_toMembers inner (isCase _ hm) shows

/-- The cases of an implementation are read back from what is essential of them. -/
theorem holdsCases_essential {found : List (CaseId × TestCase)} {cases : List (String × Json)}
    (ordered : (Json.object cases).Ordered) (holds : HoldsCases found cases) :
    HoldsCases found (essentialCases cases) := by
  refine ⟨by simpa [essentialCases] using holds.count, fun key value there => ?_, holds.increasing⟩
  rw [essentialCases, Keyed.lookup_map fun _ => TestCase.essential] at there
  obtain ⟨record, found, rfl⟩ := Option.map_eq_some_iff.mp there
  obtain ⟨id, c, parsed, hc, shows⟩ := holds.stored key record found
  have inner := (Json.ordered_object_iff.mp ordered).2 _ _ (Keyed.mem_of_lookup found)
  exact ⟨id, c, parsed, hc, TestCase.shows_essential inner shows⟩

/-- Cases that are held by the same records are the same cases. -/
theorem HoldsCases.unique {found found' : List (CaseId × TestCase)} {cases : List (String × Json)}
    (distinct : (cases.map (·.1)).Nodup) (h : HoldsCases found cases)
    (h' : HoldsCases found' cases) : found = found' := by
  refine Keyed.eq_of_lookup h.increasing h'.increasing fun id => ?_
  exact eq_of_rel (h.rel_lookup distinct id) (h'.rel_lookup distinct id) fun _ _ _ =>
    TestCase.Shows.unique

/-- The results are read back from what is essential of them. -/
theorem holds_essential (ordered : v.Ordered) (results : v.IsResults) (holds : Holds r v) :
    Holds r (essential v) := by
  obtain ⟨agents, rfl, -⟩ := id results
  refine ⟨?_, fun agent cases there => ?_⟩
  · rw [holds.agents]
    simp [essential, Policy.onMembers, Json.members?, Function.comp_def]
  · rw [get?_essential] at there
    obtain ⟨value, found, same⟩ := Option.map_eq_some_iff.mp there
    obtain ⟨cases, rfl, -⟩ := results.get? found
    cases same
    obtain ⟨read, hread, held⟩ := holds.cases agent cases found
    exact ⟨read, hread, holdsCases_essential (ordered.get? found) held⟩

/-- Results that are held by the same value are the same results. -/
theorem Holds.unique {r' : Results} (ordered : v.Ordered) (results : v.IsResults) (h : Holds r v)
    (h' : Holds r' v) : r = r' := by
  have same : r.agents = r'.agents := by
    refine Keyed.eq_of_lookup (h.increasing ordered) (h'.increasing ordered) fun agent => ?_
    refine eq_of_rel (h.rel_agent? ordered results agent) (h'.rel_agent? ordered results agent) ?_
    rintro found found' _ ⟨cases, rfl, distinct, held⟩ ⟨_, ⟨⟩, -, held'⟩
    exact held.unique distinct held'
  cases r
  cases r'
  rw [mk.injEq]
  exact same

/-! ## The whole document -/

theorem arrange_object (members : List (String × Json)) : (Json.object members).arrange =
    .object (Keyed.collect (members.map fun m => (m.1, m.2.arrange))) := by
  rw [Json.arrange, Json.arrangeMembers_eq_map]

/-- The cases of an implementation are arranged by their keys; nothing within them moves. -/
theorem arrange_writtenCases (found : List (CaseId × TestCase)) :
    (Json.object (writtenCases found)).arrange = .object (Keyed.collect (writtenCases found)) := by
  have each : (writtenCases found).map (fun m => (m.1, m.2.arrange)) = writtenCases found := by
    refine List.map_congr_left (g := id) (fun m hm => ?_) |>.trans (List.map_id _)
    obtain ⟨p, -, rfl⟩ := List.mem_map.mp hm
    simp only [id, Json.arrange_eq_self p.2.ordered_toMembers]
  rw [arrange_object, each]

theorem toJson_eq (r : Results) :
    r.toJson = .object (r.agents.map fun p => (p.1, .object (writtenCases p.2))) := rfl

/-- What holds all that is in a value is written as what is essential of the value. -/
theorem Holds.arrange_toJson (ordered : v.Ordered) (results : v.IsResults)
    (isCase : ∀ agent key record, v.follow? [agent, key] = some record → record.IsCase)
    (holds : Holds r v) : r.toJson.arrange = essential v := by
  have increasing := holds.increasing ordered
  have entries := holds.rel_agent? ordered results
  obtain ⟨agents, rfl, -⟩ := results
  have written : r.agents.map (fun p => (p.1, (Json.object (writtenCases p.2)).arrange)) =
      agents.map fun m => (m.1, essentialAgent m.2) := by
    refine Keyed.eq_of_lookup
      (increasing.map fun _ found => (Json.object (writtenCases found)).arrange)
      (ordered.increasing.map fun _ => essentialAgent) fun agent => ?_
    rw [Keyed.lookup_map fun _ found => (Json.object (writtenCases found)).arrange,
      Keyed.lookup_map fun _ => essentialAgent]
    refine map_eq_map_of_rel (entries agent) ?_
    rintro _ there found ⟨cases, rfl, -, held⟩
    have inner : (Json.object cases).Ordered := ordered.get? there
    rw [arrange_writtenCases, collect_writtenCases inner ?_ held]
    · rfl
    intro m hm
    refine isCase agent m.1 m.2 ?_
    rw [Json.follow?_cons, Json.get?_object, there]
    simp [(Keyed.lookup_eq_some_iff inner.increasing.nodup).mpr hm]
  rw [toJson_eq, arrange_object, List.map_map, essential, Policy.onMembers, ← written]
  refine congrArg Json.object ?_
  exact Keyed.collect_eq_self
    (increasing.map fun _ found => (Json.object (writtenCases found)).arrange)

/-- What is written of results that were read. -/
theorem arrange_toJson_of_ofJson (ordered : v.Ordered) (ok : ofJson v = .ok r) :
    r.toJson.arrange = essential v := by
  obtain ⟨results, holds⟩ := holds_of_ofJson ordered ok
  have readable := ((ofJson_lossless ordered).1.mp ⟨r, ok⟩).2
  exact holds.arrange_toJson ordered results fun agent key record found =>
    (readable agent key record found).record

/-- What is essential of results is read as the same results. -/
theorem ofJson_essential (ordered : v.Ordered) (ok : ofJson v = .ok r) :
    ofJson (essential v) = .ok r := by
  obtain ⟨results, holds⟩ := holds_of_ofJson ordered ok
  have readable := ((ofJson_lossless ordered).1.mp ⟨r, ok⟩).2
  have orderedAgain := ordered_essential ordered
  have again : ∀ agent key record, (essential v).follow? [agent, key] = some record →
      Readable key record := by
    intro agent key record found
    rw [follow?_essential] at found
    obtain ⟨whole, there, rfl⟩ := Option.map_eq_some_iff.mp found
    have old := readable agent key whole there
    exact ⟨old.key, TestCase.isCase_essential (ordered.follow? there) old.record⟩
  obtain ⟨r', ok'⟩ := (ofJson_lossless orderedAgain).1.mpr ⟨isResults_essential results, again⟩
  have holds' := (ofJson_lossless orderedAgain).2.1 r' ok'
  rw [ok', (holds_essential ordered results holds).unique orderedAgain
    (isResults_essential results) holds']

/-! ## Texts -/

/-- Results are objects of objects of objects of texts and counts. -/
theorem levelled_toJson {P : Nat → Json → Prop} {allowed : Nat → Prop}
    (h : Policy.Levelled P allowed) (count : ∀ depth (n : Nat), n < 2 ^ 64 → P depth (.nat n))
    {depth : Nat} (outer : allowed depth) (middle : allowed (depth - 1))
    (inner : allowed (depth - 1 - 1)) (r : Results) : P depth r.toJson := by
  rw [toJson_eq]
  refine h.object.mpr ⟨outer, fun m hm => ?_⟩
  obtain ⟨p, -, rfl⟩ := List.mem_map.mp hm
  refine h.object.mpr ⟨middle, fun m hm => ?_⟩
  obtain ⟨q, -, rfl⟩ := List.mem_map.mp hm
  refine h.object.mpr ⟨inner, fun m hm => ?_⟩
  obtain ⟨s, same⟩ | ⟨n, small, same⟩ := TestCase.text_or_count_of_mem hm
  · exact same ▸ h.string _ s
  · exact same ▸ count _ n small

/-- The pretty text of results is read as their value in order. -/
theorem parse_pretty_toJson (r : Results) : Json.parse r.toJson.pretty = .ok r.toJson.arrange := by
  have number : ∀ n : Nat, n < 2 ^ 64 → (Json.nat n).Whole := by
    intro n small
    rw [Json.nat, Json.int, Json.Whole]
    exact .integer (by omega) (by omega)
  have whole : r.toJson.Whole := @levelled_toJson _ _ Policy.levelled_whole (fun _ => number) 0
    trivial trivial trivial r
  have within : r.toJson.Within Written.depthLimit := levelled_toJson Policy.levelled_within
    (fun _ _ _ => trivial) (by decide) (by decide) (by decide) r
  have spelled : Json.Spells r.toJson.pretty r.toJson := by
    simpa using Json.spells_pretty whole (show Json.Blanks "".toList from Json.blanks_nil)
  exact (Json.parse_eq_ok_iff_of_spells spelled).mpr ⟨within, rfl⟩

/-- What is written of results that were read from a value is the value with each record of a case
less what is no field of a case and less the nulls. Reading that gives the same results, and it is
what the text of the results is read as. -/
theorem ofJson_restores (ordered : v.Ordered) (ok : ofJson v = .ok r) :
    r.toJson.arrange = essential v ∧ ofJson r.toJson.arrange = .ok r ∧
      Json.parse r.toJson.pretty = .ok (essential v) := by
  have written := arrange_toJson_of_ofJson ordered ok
  refine ⟨written, ?_, ?_⟩
  · rw [written]
    exact ofJson_essential ordered ok
  · rw [← written]
    exact parse_pretty_toJson r

/-- A case with every field, one with a null, a status of its own and something foreign, and keys
that stand in another order than the identifiers. -/
def mixedRecords : Json :=
  .object [("client", .object [
    ("1.10", .object [("behavior", .string "Ok"), ("behaviorClose", .null),
      ("duration", .int 4), ("expectation", .array [])]),
    ("1.9", .object [("behavior", .string "OK"), ("behaviorClose", .string "WRONG CODE"),
      ("duration", .int 18446744073709551615), ("remoteCloseCode", .int 1002),
      ("reportfile", .string "1_9.json")])])]

/-- Nulls and members that are no fields are not written again, and all fields are. -/
theorem ofJson_restores_mixedRecords :
    mixedRecords.Ordered ∧ ∃ r, ofJson mixedRecords = .ok r ∧
      r.toJson.arrange = .object [("client", .object [
        ("1.10", .object [("behavior", .string "Ok"), ("duration", .int 4)]),
        ("1.9", .object [("behavior", .string "OK"), ("behaviorClose", .string "WRONG CODE"),
          ("duration", .int 18446744073709551615), ("remoteCloseCode", .int 1002),
          ("reportfile", .string "1_9.json")])])] ∧
      ofJson r.toJson.arrange = .ok r := by
  have keys : "1.10" < "1.9" := by decide
  have fields : TestCase.fieldNames.Pairwise (· < ·) ∧ "duration" < "expectation" ∧
      "behavior" < "expectation" ∧ "behaviorClose" < "expectation" := by decide
  have ordered : mixedRecords.Ordered := by
    simp_all [mixedRecords, Json.int, Json.Ordered, Json.OrderedMembers, Json.OrderedItems,
      Keyed.increasing_cons, TestCase.fieldNames]
  obtain ⟨r, ok⟩ : ∃ r, ofJson mixedRecords = .ok r := ⟨_, rfl⟩
  obtain ⟨written, again, -⟩ := ofJson_restores ordered ok
  exact ⟨ordered, r, ok, written.trans (by rfl), again⟩

end Results
end ConformanceGate
