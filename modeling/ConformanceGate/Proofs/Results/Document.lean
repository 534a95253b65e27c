import ConformanceGate.Proofs.CaseId.Order
import ConformanceGate.Proofs.CaseId.Spelling
import ConformanceGate.Proofs.Comparison.Verdict
import ConformanceGate.Proofs.Results.TestCase
import Mathlib.Data.List.Nodup
import Mathlib.Data.List.Perm.Subperm

/-!
# The typed view of results

A value can be read as results if it has the form of results and each of its cases has a key and a
record that can be read; nothing is lost then (`Results.Holds`). What is refused is refused for its
form if that is wrong anywhere, and otherwise for the first case that cannot be read, in the order
of the keys (`Results.FirstFault`).
-/

namespace ConformanceGate

def Irregularity.OfForm : Irregularity → Prop
  | .document | .agent _ | .case _ _ => True
  | _ => False

namespace Results

/-- A case can be read: its key is an identifier, and its record that of a case. -/
structure Readable (key : String) (record : Json) : Prop where
  key : ∃ id, CaseId.parse? key = some id
  record : record.IsCase

/-- The irregularity names a case that cannot be read: its key if that is no identifier, its record
otherwise. -/
inductive Names (agent key : String) : Irregularity → Prop
  | key : CaseId.parse? key = none → Names agent key (.caseId agent key)
  | record {id : CaseId} {m : Mismatch} :
    CaseId.parse? key = some id → Names agent key (.record agent key m)

/-- The irregularity names the first case that cannot be read, in the order of the keys. -/
def FirstFault (v : Json) (cause : Irregularity) : Prop :=
  ∃ agent key record, v.follow? [agent, key] = some record ∧ ¬ Readable key record ∧
    Names agent key cause ∧
    ∀ agent' key' record', v.follow? [agent', key'] = some record' →
      (agent' < agent ∨ agent' = agent ∧ key' < key) → Readable key' record'

/-- The cases of an implementation, none lost: as many as there are keys, under the identifier of
every key what its record shows, in the order of the identifiers. -/
structure HoldsCases (found : List (CaseId × TestCase)) (cases : List (String × Json)) : Prop where
  count : found.length = cases.length
  stored : ∀ key record, Keyed.lookup key cases = some record →
    ∃ id c, CaseId.parse? key = some id ∧ Keyed.lookup id found = some c ∧ c.Shows record
  increasing : found.Pairwise fun a b => a.1.segments < b.1.segments

/-- The results of a value, none lost: the implementations are the keys of the value, and each has
its cases. -/
structure Holds (r : Results) (v : Json) : Prop where
  agents : r.agents.map (·.1) = (v.members?.getD []).map (·.1)
  cases : ∀ agent cases, v.get? agent = some (.object cases) →
    ∃ found, r.agent? agent = some found ∧ HoldsCases found cases

/-! ## One case -/

/-- A case that can be read is read and shown; any other one is refused by name. -/
theorem readCase_cases (agent key : String) {members : List (String × Json)}
    (distinct : (members.map (·.1)).Nodup) :
    (Readable key (.object members) ∧ ∃ id c, CaseId.parse? key = some id ∧
      readCase agent (key, .object members) = .ok (id, c) ∧ c.Shows (.object members)) ∨
    (¬ Readable key (.object members) ∧ ∃ cause,
      readCase agent (key, .object members) = .error cause ∧ Names agent key cause) := by
  cases h : CaseId.parse? key with
  | none =>
    refine .inr ⟨fun readable => ?_, .caseId agent key, by simp [readCase, h], .key h⟩
    obtain ⟨id, found⟩ := readable.key
    simp [h] at found
  | some id =>
    obtain ⟨record, c, ok, shows⟩ | ⟨faulty, m, error⟩ := TestCase.decode_cases distinct
    · exact .inl ⟨⟨⟨id, h⟩, record⟩, id, c, rfl, by simp [readCase, h, ok], shows⟩
    · exact .inr ⟨fun readable => faulty readable.record, .record agent key m,
        by simp [readCase, h, error], .record h⟩

/-! ## The cases of an implementation -/

/-- The cases of an implementation as they stand in an ordered value of the right form. -/
structure Proper (cases : List (String × Json)) : Prop where
  increasing : Keyed.Increasing cases
  records : ∀ m ∈ cases, ∃ members, m.2 = .object members ∧ (members.map (·.1)).Nodup

/-- Cases that were read one by one are all held once they are collected. -/
theorem holdsCases_collect {cases : List (String × Json)} {found : List (CaseId × TestCase)}
    (distinct : (cases.map (·.1)).Nodup)
    (read : List.Forall₂ (fun m p => CaseId.parse? m.1 = some p.1 ∧ p.2.Shows m.2) cases found) :
    HoldsCases (Keyed.collect found) cases := by
  -- The texts of the identifiers are the keys again, so the identifiers are distinct.
  have texts : cases.map (·.1) = found.map fun p => p.1.text :=
    map_eq_map_iff_forall₂.mpr (read.imp fun _ _ h => CaseId.parse?_eq_some_iff.mp h.1)
  have ids : (found.map (·.1)).Nodup := by
    refine List.Nodup.of_map CaseId.text ?_
    rw [List.map_map]
    exact texts ▸ distinct
  refine ⟨(Keyed.collect_perm ids).length_eq.trans read.length_eq.symm, fun key record hk => ?_,
    Keyed.increasing_collect found⟩
  obtain ⟨⟨id, c⟩, hp, parsed, shows⟩ := exists_of_forall₂ read (Keyed.mem_of_lookup hk)
  exact ⟨id, c, parsed, by rwa [Keyed.lookup_collect ids, Keyed.lookup_eq_some_iff ids], shows⟩

/-- Under an identifier stands what the record under its text shows, or nothing if none is there. -/
theorem HoldsCases.rel_lookup {found : List (CaseId × TestCase)} {cases : List (String × Json)}
    (holds : HoldsCases found cases) (distinct : (cases.map (·.1)).Nodup) (id : CaseId) :
    Option.Rel TestCase.Shows (Keyed.lookup id found) (Keyed.lookup id.text cases) := by
  cases there : Keyed.lookup id.text cases with
  | some record =>
    obtain ⟨id', c, parsed, hc, shows⟩ := holds.stored _ _ there
    obtain rfl : id = id' := Option.some.inj ((CaseId.parse?_eq_some_iff.mpr rfl).symm.trans parsed)
    rw [hc]
    exact .some shows
  | none =>
    cases hc : Keyed.lookup id found with
    | none => exact .none
    | some c =>
      -- There are as many keys as identifiers, so the text of every identifier is a key.
      have stored : cases.map (·.1) ⊆ found.map fun p => p.1.text := by
        intro key hkey
        obtain ⟨⟨_, record⟩, hm, rfl⟩ := List.mem_map.mp hkey
        obtain ⟨id', c', parsed, hc', -⟩ :=
          holds.stored _ _ ((Keyed.lookup_eq_some_iff distinct).mpr hm)
        exact List.mem_map.mpr ⟨_, Keyed.mem_of_lookup hc',
          (CaseId.parse?_eq_some_iff.mp parsed).symm⟩
      have all := (distinct.subperm stored).perm_of_length_le (by simp [holds.count])
      have key : id.text ∈ cases.map (·.1) :=
        all.mem_iff.mpr (List.mem_map.mpr ⟨_, Keyed.mem_of_lookup hc, rfl⟩)
      obtain ⟨m, hm, heq⟩ := List.mem_map.mp key
      exact absurd heq (Keyed.lookup_eq_none_iff.mp there m hm)

/-- All cases of an implementation are read, or the first one that cannot be is refused by name. -/
theorem readAgent_cases (agent : String) {cases : List (String × Json)} (proper : Proper cases) :
    ((∀ m ∈ cases, Readable m.1 m.2) ∧ ∃ found,
      readAgent (agent, .object cases) = .ok (agent, found) ∧ HoldsCases found cases) ∨
    (∃ m ∈ cases, ¬ Readable m.1 m.2 ∧ (∀ a ∈ cases, a.1 < m.1 → Readable a.1 a.2) ∧
      ∃ cause, readAgent (agent, .object cases) = .error cause ∧ Names agent m.1 cause) := by
  have one : ∀ m ∈ cases,
      (Readable m.1 m.2 ∧ ∃ p, readCase agent m = .ok p ∧
        CaseId.parse? m.1 = some p.1 ∧ p.2.Shows m.2) ∨
      (¬ Readable m.1 m.2 ∧ ∃ cause, readCase agent m = .error cause ∧ Names agent m.1 cause) := by
    rintro ⟨key, record⟩ hm
    obtain ⟨members, rfl, distinct⟩ := proper.records _ hm
    obtain ⟨readable, id, c, parsed, ok, shows⟩ | refused := readCase_cases agent key distinct
    · exact .inl ⟨readable, (id, c), ok, parsed, shows⟩
    · exact .inr refused
  have readable {m : String × Json} (hm : m ∈ cases) {p : CaseId × TestCase}
      (ok : readCase agent m = .ok p) : Readable m.1 m.2 ∧ CaseId.parse? m.1 = some p.1 ∧
        p.2.Shows m.2 := by
    obtain ⟨readable, p', ok', parsed, shows⟩ | ⟨-, cause, error, -⟩ := one m hm
    · cases ok.symm.trans ok'
      exact ⟨readable, parsed, shows⟩
    · cases ok.symm.trans error
  cases result : cases.mapM (readCase agent) with
  | ok found =>
    have read : List.Forall₂ (fun m p => Readable m.1 m.2 ∧ CaseId.parse? m.1 = some p.1 ∧
        p.2.Shows m.2) cases found :=
      ((List.forall₂_and_left _ _).mpr ⟨fun _ hm => hm, Except.mapM_eq_ok.mp result⟩).imp
        fun _ _ h => readable h.1 h.2
    obtain ⟨all, shown⟩ := (List.forall₂_and_left _ _).mp read
    exact .inl ⟨all, _, by simp [readAgent, Json.members?, result, bind, Except.bind]; rfl,
      holdsCases_collect proper.increasing.nodup shown⟩
  | error cause =>
    obtain ⟨front, m, back, rfl, before, error⟩ := Except.mapM_eq_error.mp result
    obtain ⟨-, p, ok, -⟩ | ⟨faulty, cause', error', names⟩ := one m (by simp)
    · cases error.symm.trans ok
    · cases error.symm.trans error'
      refine .inr ⟨m, by simp, faulty, fun a ha below => ?_, cause, ?_, names⟩
      · obtain ⟨p, ok⟩ := before a (proper.increasing.mem_front ha below)
        exact (readable ha ok).1
      · simp [readAgent, Json.members?, result, bind, Except.bind]

/-! ## The document -/

/-- A departure from the form is an irregularity of form. -/
theorem ofForm_of_irregularity? {v : Json} {cause : Irregularity}
    (h : irregularity? v = some cause) : cause.OfForm := by
  unfold irregularity? at h
  cases hv : v.members? with
  | none =>
    rw [hv] at h
    exact Option.some.inj h ▸ trivial
  | some agents =>
    rw [hv] at h
    obtain ⟨⟨name, entry⟩, -, h⟩ := List.exists_of_findSome?_eq_some h
    cases ha : entry.members? with
    | none =>
      simp only [ha] at h
      exact Option.some.inj h ▸ trivial
    | some cases =>
      simp only [ha] at h
      obtain ⟨⟨key, record⟩, -, h⟩ := List.exists_of_findSome?_eq_some h
      split at h
      · cases h
      · exact Option.some.inj h ▸ trivial

/-- What an implementation of an ordered document leads to are proper cases. -/
theorem proper_of_mem {agents : List (String × Json)} (ordered : (Json.object agents).Ordered)
    (results : (Json.object agents).IsResults) {entry : String × Json} (h : entry ∈ agents) :
    ∃ cases, entry.2 = .object cases ∧ Proper cases := by
  obtain ⟨cases, heq, records⟩ := Json.objectOf_object.mp results entry h
  have inner : (Json.object cases).Ordered :=
    heq ▸ (Json.ordered_object_iff.mp ordered).2 entry.1 entry.2 h
  refine ⟨cases, heq, inner.increasing, fun m hm => ?_⟩
  obtain ⟨members, heq, -⟩ := records m hm
  have record : (Json.object members).Ordered :=
    heq ▸ (Json.ordered_object_iff.mp inner).2 m.1 m.2 hm
  exact ⟨members, heq, record.increasing.nodup⟩

/-- The cases of a document are the pairs that its implementations lead to. -/
theorem follow?_case_iff {agents : List (String × Json)} (ordered : (Json.object agents).Ordered)
    (results : (Json.object agents).IsResults) {agent key : String} {record : Json} :
    (Json.object agents).follow? [agent, key] = some record ↔
      ∃ cases, (agent, .object cases) ∈ agents ∧ (key, record) ∈ cases := by
  simp only [Json.follow?_cons, Json.get?_object, Json.follow?_nil, Option.bind_eq_some_iff,
    Option.some.injEq, exists_eq_right]
  constructor
  · rintro ⟨entry, found, h⟩
    obtain ⟨cases, rfl, -⟩ := proper_of_mem ordered results (Keyed.mem_of_lookup found)
    exact ⟨cases, Keyed.mem_of_lookup found, Keyed.mem_of_lookup h⟩
  · rintro ⟨cases, hm, h⟩
    obtain ⟨_, ⟨⟩, proper⟩ := proper_of_mem ordered results hm
    exact ⟨_, (Keyed.lookup_eq_some_iff ordered.increasing.nodup).mpr hm,
      (Keyed.lookup_eq_some_iff proper.increasing.nodup).mpr h⟩

/-- Implementations that were read one by one are all held. -/
theorem holds_of_forall₂ {agents : List (String × Json)}
    {found : List (String × List (CaseId × TestCase))} (distinct : (agents.map (·.1)).Nodup)
    (read : List.Forall₂ (fun e p => p.1 = e.1 ∧
      ∀ cases, e.2 = .object cases → HoldsCases p.2 cases) agents found) :
    Holds ⟨found⟩ (.object agents) := by
  have names : found.map (·.1) = agents.map (·.1) :=
    map_eq_map_iff_forall₂.mpr (read.flip.imp fun _ _ h => h.1)
  refine ⟨names, fun agent cases h => ?_⟩
  obtain ⟨⟨name, cases'⟩, hp, rfl, holds⟩ := exists_of_forall₂ read (Keyed.mem_of_lookup h)
  exact ⟨cases', (Keyed.lookup_eq_some_iff (names ▸ distinct)).mpr hp, holds cases rfl⟩

/-- An implementation is on neither side, or on both with its cases. -/
theorem Holds.rel_agent? {r : Results} {v : Json} (holds : Holds r v) (ordered : v.Ordered)
    (results : v.IsResults) (agent : String) :
    Option.Rel (fun found value => ∃ cases, value = .object cases ∧
      (cases.map (·.1)).Nodup ∧ HoldsCases found cases) (r.agent? agent) (v.get? agent) := by
  cases there : v.get? agent with
  | some value =>
    obtain ⟨cases, rfl, -⟩ := results.get? there
    obtain ⟨found, hfound, held⟩ := holds.cases agent cases there
    rw [hfound]
    exact .some ⟨cases, rfl, (ordered.get? there).increasing.nodup, held⟩
  | none =>
    rw [← Json.lookup_members?_getD, Keyed.lookup_eq_none_iff] at there
    have absent : r.agent? agent = none := Keyed.lookup_eq_none_iff.mpr fun p hp heq => by
      have key : p.1 ∈ (v.members?.getD []).map (·.1) := holds.agents ▸ List.mem_map_of_mem hp
      obtain ⟨m, hm, same⟩ := List.mem_map.mp key
      exact there m hm (same.trans heq)
    rw [absent]
    exact .none

/-- The implementations are in order. -/
theorem Holds.increasing {r : Results} {v : Json} (holds : Holds r v) (ordered : v.Ordered) :
    Keyed.Increasing r.agents := by
  have keys : (r.agents.map (·.1)).Pairwise (· < ·) := by
    rw [holds.agents]
    cases h : v.members? with
    | none => exact .nil
    | some agents =>
      obtain rfl := Json.members?_eq_some_iff.mp h
      exact List.pairwise_map.mpr ordered.increasing
  exact List.pairwise_map.mp keys

/-- A document of the right form is read whole, or refused for its first fault. -/
theorem mapM_readAgent_cases {agents : List (String × Json)}
    (ordered : (Json.object agents).Ordered) (results : (Json.object agents).IsResults) :
    ((∀ agent key record, (Json.object agents).follow? [agent, key] = some record →
        Readable key record) ∧
      ∃ found, agents.mapM readAgent = .ok found ∧ Holds ⟨found⟩ (.object agents)) ∨
    (∃ cause, agents.mapM readAgent = .error cause ∧ FirstFault (.object agents) cause) := by
  -- An implementation that was read has readable cases only.
  have readable {entry : String × Json} (hm : entry ∈ agents)
      {p : String × List (CaseId × TestCase)} (ok : readAgent entry = .ok p) :
      ∃ cases, entry.2 = .object cases ∧ (∀ m ∈ cases, Readable m.1 m.2) ∧ p.1 = entry.1 ∧
        HoldsCases p.2 cases := by
    obtain ⟨name, value⟩ := entry
    obtain ⟨cases, rfl, proper⟩ := proper_of_mem ordered results hm
    obtain ⟨readable, found, ok', holds⟩ | ⟨-, -, -, -, cause, error, -⟩ :=
      readAgent_cases name proper
    · cases ok.symm.trans ok'
      exact ⟨cases, rfl, readable, rfl, holds⟩
    · cases ok.symm.trans error
  cases result : agents.mapM readAgent with
  | ok found =>
    have read := (List.forall₂_and_left _ _).mpr
      ⟨fun _ hm => hm, Except.mapM_eq_ok.mp result⟩
    refine .inl ⟨fun agent key record h => ?_, found, rfl,
      holds_of_forall₂ ordered.increasing.nodup (read.imp fun entry p h => ?_)⟩
    · obtain ⟨cases, hm, hcase⟩ := (follow?_case_iff ordered results).mp h
      obtain ⟨p, -, -, ok⟩ := exists_of_forall₂ read hm
      obtain ⟨_, ⟨⟩, all, -⟩ := readable hm ok
      exact all _ hcase
    · obtain ⟨cases, heq, -, name, holds⟩ := readable h.1 h.2
      refine ⟨name, fun cases' heq' => ?_⟩
      cases heq.symm.trans heq'
      exact holds
  | error cause =>
    obtain ⟨front, ⟨name, value⟩, back, split, before, error⟩ := Except.mapM_eq_error.mp result
    have hm : (name, value) ∈ agents := by simp [split]
    obtain ⟨cases, rfl, proper⟩ := proper_of_mem ordered results hm
    obtain ⟨-, found, ok, -⟩ | ⟨⟨key, record⟩, hcase, faulty, first, cause', error', names⟩ :=
      readAgent_cases name proper
    · cases error.symm.trans ok
    cases error.symm.trans error'
    refine .inr ⟨cause, rfl, name, key, record,
      (follow?_case_iff ordered results).mpr ⟨cases, hm, hcase⟩, faulty, names,
      fun agent' key' record' h earlier => ?_⟩
    obtain ⟨cases', hm', hcase'⟩ := (follow?_case_iff ordered results).mp h
    rcases earlier with below | ⟨rfl, below⟩
    · -- The implementation stands in front of the one that was refused.
      have inFront : (agent', Json.object cases') ∈ front := by
        have increasing := ordered.increasing
        rw [split] at increasing hm'
        exact increasing.mem_front hm' below
      obtain ⟨p, ok⟩ := before _ inFront
      obtain ⟨_, ⟨⟩, all, -⟩ := readable hm' ok
      exact all _ hcase'
    · -- It is the one that was refused, and the case stands in front.
      have same : cases' = cases := by
        have found := (Keyed.lookup_eq_some_iff ordered.increasing.nodup).mpr hm
        have found' := (Keyed.lookup_eq_some_iff ordered.increasing.nodup).mpr hm'
        cases found.symm.trans found'
        rfl
      exact first _ (same ▸ hcase') below

/-- The three ends of reading a document. -/
theorem ofJson_cases {v : Json} (ordered : v.Ordered) :
    (¬ v.IsResults ∧ ∃ cause, ofJson v = .error cause ∧ cause.OfForm) ∨
    (v.IsResults ∧ (∀ agent key record, v.follow? [agent, key] = some record →
        Readable key record) ∧ ∃ r, ofJson v = .ok r ∧ Holds r v) ∨
    (v.IsResults ∧ ∃ cause, ofJson v = .error cause ∧ FirstFault v cause) := by
  cases h : irregularity? v with
  | some cause =>
    refine .inl ⟨fun results => ?_, cause, by simp [ofJson, h], ofForm_of_irregularity? h⟩
    simp [Policy.irregularity?_eq_none_iff.mpr results] at h
  | none =>
    have results := Policy.irregularity?_eq_none_iff.mp h
    obtain ⟨agents, rfl, -⟩ := id results
    obtain ⟨readable, found, ok, holds⟩ | ⟨cause, error, first⟩ :=
      mapM_readAgent_cases ordered results
    · exact .inr (.inl ⟨results, readable, ⟨found⟩,
        by simp [ofJson, h, ok, bind, Except.bind, pure, Except.pure], holds⟩)
    · exact .inr (.inr ⟨results, cause, by simp [ofJson, h, error, bind, Except.bind], first⟩)

/-- What was read holds all that is in the value. -/
theorem holds_of_ofJson {v : Json} {r : Results} (ordered : v.Ordered) (ok : ofJson v = .ok r) :
    v.IsResults ∧ Holds r v := by
  obtain ⟨-, cause, error, -⟩ | ⟨results, -, r', ok', holds⟩ | ⟨-, cause, error, -⟩ :=
    ofJson_cases ordered
  · cases ok.symm.trans error
  · cases ok.symm.trans ok'
    exact ⟨results, holds⟩
  · cases ok.symm.trans error

/-- A value is read as results exactly if it has their form, every key of a case is an identifier
and every record is that of a case. Nothing is lost in what is read. A refusal is one of form if
the form is wrong anywhere, and otherwise names the first case that cannot be read. -/
theorem ofJson_lossless {v : Json} (ordered : v.Ordered) :
    ((∃ r, ofJson v = .ok r) ↔ v.IsResults ∧ ∀ agent key record,
      v.follow? [agent, key] = some record → Readable key record) ∧
    (∀ r, ofJson v = .ok r → Holds r v) ∧
    (∀ cause, ofJson v = .error cause →
      (¬ v.IsResults ∧ cause.OfForm) ∨ (v.IsResults ∧ FirstFault v cause)) := by
  obtain ⟨form, cause, error, ofForm⟩ | ⟨results, readable, r, ok, holds⟩ |
    ⟨results, cause, error, first⟩ := ofJson_cases ordered
  · simp [error, form, ofForm]
  · refine ⟨⟨fun _ => ⟨results, readable⟩, fun _ => ⟨r, ok⟩⟩, fun r' ok' => ?_,
      fun cause error => ?_⟩
    · cases ok.symm.trans ok'
      exact holds
    · cases ok.symm.trans error
  · refine ⟨⟨fun ⟨r, ok⟩ => ?_, fun ⟨_, readable⟩ => ?_⟩, fun r ok => ?_, fun cause' error' => ?_⟩
    · cases ok.symm.trans error
    · obtain ⟨agent, key, record, found, faulty, -⟩ := first
      exact absurd (readable agent key record found) faulty
    · cases ok.symm.trans error
    · cases error.symm.trans error'
      exact .inr ⟨results, first⟩

/-- Two cases of an implementation, which stand in another order than their identifiers. -/
def twoCases : Json :=
  .object [("client", .object [("1.10", .object [("behavior", .string "OK")]),
    ("1.9", .object [("behavior", .string "FAILED"), ("remoteCloseCode", .int 1002)])])]

/-- Two cases are read, and both are held. -/
theorem ofJson_lossless_twoCases :
    twoCases.Ordered ∧ ∃ r, ofJson twoCases = .ok r ∧ Holds r twoCases := by
  have keys : "1.10" < "1.9" := by decide
  have fields : "behavior" < "remoteCloseCode" := by decide
  have ordered : twoCases.Ordered := by
    simp only [twoCases, Json.int, Json.Ordered, Json.OrderedMembers, Keyed.increasing_cons,
      Keyed.increasing_nil, List.forall_mem_singleton, List.not_mem_nil, false_implies,
      implies_true, keys, fields, and_self]
  obtain ⟨r, ok⟩ : ∃ r, ofJson twoCases = .ok r := ⟨_, rfl⟩
  exact ⟨ordered, r, ok, (ofJson_lossless ordered).2.1 r ok⟩

end Results
end ConformanceGate
