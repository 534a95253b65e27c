import ConformanceGate.Proofs.Json.Reading
import ConformanceGate.Proofs.Results.Document
import ConformanceGate.Proofs.System.Traces
import ConformanceGate.Storage.Documents
import Mathlib

/-!
# What becomes of a results file

The members of an object are written one after the other, and a key may stand among them more than
once. Results that are loaded from a file show the last record that was written for a case, in the
last object that was written for its implementation (`Results.LastWritten`). So all that was written
is there if no key is repeated, and something is lost wherever one is: nothing in loading asks
whether a key has been there before.
-/

namespace ConformanceGate

/-! ## Members as written -/

namespace Written

/-- The members whose keys can be read, in the order of the text; a tree that has a value has no
others. What is no object has no members. -/
def members : Written → List (String × Written)
  | .object members _ => members.filterMap fun m => m.1.toOption.map (·, m.2)
  | _ => []

/-- The last member of a key. -/
def last? (tree : Written) (key : String) : Option Written := Keyed.lookup key tree.members.reverse

/-- No key is repeated in the object. -/
def Distinct (tree : Written) : Prop := (tree.members.map (·.1)).Nodup

/-- The pairs that are made of the members of an object are the members, one by one. -/
theorem toMembers_eq_ok {depth : Nat} {members : List (Except Fault String × Written)}
    {stop : Option Fault} {pairs : List (String × Json)}
    (h : toMembers depth members stop = .ok pairs) :
    List.Forall₂ (fun p m => p.1 = m.1 ∧ m.2.toJson depth = .ok p.2) pairs
      (object members stop).members := by
  induction members generalizing pairs with
  | nil =>
    cases stop with
    | none =>
      obtain rfl : [] = pairs := by simpa [toMembers] using h
      exact .nil
    | some fault => simp [toMembers] at h
  | cons m rest ih =>
    obtain ⟨key, item⟩ := m
    simp only [toMembers, bind, Except.bind_eq_ok, pure, Except.pure, Except.ok.injEq] at h
    obtain ⟨name, rfl, value, made, others, later, rfl⟩ := h
    exact .cons ⟨rfl, made⟩ (ih later)

variable {depth : Nat} {tree : Written} {v : Json}

/-- The members of a value are those that were written, collected. -/
theorem members_of_toJson (h : tree.toJson depth = .ok v) :
    ∃ pairs, v.members?.getD [] = Keyed.collect pairs ∧
      List.Forall₂ (fun p m => p.1 = m.1 ∧ m.2.toJson (depth - 1) = .ok p.2) pairs
        tree.members := by
  cases tree with
  | object members stop =>
    cases depth with
    | zero => simp [toJson] at h
    | succ depth =>
      simp only [toJson, Except.map_eq_ok] at h
      obtain ⟨pairs, made, rfl⟩ := h
      exact ⟨pairs, rfl, toMembers_eq_ok made⟩
  | array items stop =>
    cases depth with
    | zero => simp [toJson] at h
    | succ depth =>
      simp only [toJson, Except.map_eq_ok] at h
      obtain ⟨values, -, rfl⟩ := h
      exact ⟨[], rfl, .nil⟩
  | null | bool _ | number _ | string _ =>
    obtain rfl := Except.ok.inj h
    exact ⟨[], rfl, .nil⟩
  | nonfinite _ | flawed _ => simp [toJson] at h

/-- A key leads to what was written last under it. -/
theorem rel_last? (h : tree.toJson depth = .ok v) (key : String) :
    Option.Rel (fun value item => toJson (depth - 1) item = .ok value) (v.get? key)
      (tree.last? key) := by
  obtain ⟨pairs, collected, made⟩ := members_of_toJson h
  rw [← Json.lookup_members?_getD, collected, Keyed.lookup_collect_eq_reverse]
  exact Keyed.rel_lookup (R := fun value item => toJson (depth - 1) item = .ok value)
    (List.forall₂_reverse_iff.mpr made) key

/-- There are as many members in the value as were written exactly if no key was repeated. -/
theorem length_members_eq_iff (h : tree.toJson depth = .ok v) :
    (v.members?.getD []).length = tree.members.length ↔ tree.Distinct := by
  obtain ⟨pairs, collected, made⟩ := members_of_toJson h
  have keys : pairs.map (·.1) = tree.members.map (·.1) :=
    map_eq_map_iff_forall₂.mpr (made.imp fun _ _ h => h.1)
  rw [collected, ← made.length_eq, Keyed.length_collect_eq_iff, keys, Distinct]

/-- Among distinct keys the last item under a key is the only one. -/
theorem last?_eq_some {key : String} {item : Written} (distinct : tree.Distinct)
    (h : (key, item) ∈ tree.members) : tree.last? key = some item := by
  refine (Keyed.lookup_eq_some_iff ?_).mpr (List.mem_reverse.mpr h)
  rwa [List.map_reverse, List.nodup_reverse]

theorem eq_string_of_toJson {s : String} (h : tree.toJson depth = .ok (.string s)) :
    tree = .string s := by
  cases tree <;> cases depth <;> simp_all [toJson, Except.map_eq_ok]

end Written
/-! ## Loading -/

open Program

/-- A file is loaded if it is read, and its text is JSON. -/
theorem Json.runs_load_iff {path : String} {events : List Event} {v : Json} :
    Runs (Json.load path).toProgram events (.ok v) ↔
      ∃ text, events = [.fileRead path text] ∧ Json.parse text = .ok v := by
  refine Action.runs_readFile_bind_iff.trans (exists_congr fun text => ?_)
  simp

/-- Results are loaded if the file is read, and its text is JSON that can be read as results. -/
theorem Results.runs_load_iff {path : String} {events : List Event} {r : Results} :
    Runs (Results.load path).toProgram events (.ok r) ↔
      ∃ text, events = [.fileRead path text] ∧ ∃ v, Json.parse text = .ok v ∧ ofJson v = .ok r := by
  rw [Results.load, Action.runs_bind_iff]
  simp only [Json.runs_load_iff, Action.runs_ofExcept_iff]
  constructor
  · rintro (⟨failure, -, failed⟩ | ⟨v, _, _, ⟨text, rfl, parsed⟩, ⟨rfl, ok⟩, rfl⟩)
    · cases failed
    · exact ⟨text, rfl, v, parsed, Except.ok_eq_mapError.mp ok⟩
  · rintro ⟨text, rfl, v, parsed, ok⟩
    exact .inr ⟨v, _, [], ⟨text, rfl, parsed⟩, ⟨rfl, Except.ok_eq_mapError.mpr ok⟩, rfl⟩

/-! ## Results as written -/

namespace Results

def case? (r : Results) (agent key : String) : Option TestCase :=
  (r.agent? agent).bind fun cases => (CaseId.parse? key).bind fun id => Keyed.lookup id cases

/-- The results show what was written last: under every key of every implementation stands a case
with the status of the last record there, and nothing if there is no record. All implementations,
and all cases of one, are there exactly if no key is repeated. -/
structure LastWritten (r : Results) (tree : Written) : Prop where
  shown : ∀ agent key, Option.Rel
    (fun c record => Written.last? record "behavior" = some (.string c.status.text))
    (r.case? agent key) ((tree.last? agent).bind fun entry => entry.last? key)
  agents : r.agents.length = tree.members.length ↔ tree.Distinct
  cases : ∀ agent cases, r.agent? agent = some cases → ∃ entry, tree.last? agent = some entry ∧
    (cases.length = entry.members.length ↔ entry.Distinct)

/-- Every record that was written is there as a case of its implementation, with its status. -/
def Keeps (r : Results) (tree : Written) : Prop :=
  ∀ agent entry key record status, (agent, entry) ∈ tree.members → (key, record) ∈ entry.members →
    record.last? "behavior" = some (.string status) →
    ∃ c, r.case? agent key = some c ∧ c.status.text = status

/-- Under a key stands what its record shows, and nothing if there is none. -/
theorem HoldsCases.rel_key {found : List (CaseId × TestCase)} {cases : List (String × Json)}
    (holds : HoldsCases found cases) (distinct : (cases.map (·.1)).Nodup) (key : String) :
    Option.Rel TestCase.Shows ((CaseId.parse? key).bind fun id => Keyed.lookup id found)
      (Keyed.lookup key cases) := by
  cases parsed : CaseId.parse? key with
  | some id =>
    obtain rfl := CaseId.parse?_eq_some_iff.mp parsed
    exact holds.rel_lookup distinct id
  | none =>
    cases there : Keyed.lookup key cases with
    | none => exact .none
    | some record =>
      obtain ⟨id, -, parsed', -⟩ := holds.stored key record there
      cases parsed.symm.trans parsed'

variable {r : Results} {tree : Written} {v : Json} {depth : Nat}

/-- The status of a case is the one that was written last in its record. -/
theorem last?_behavior_of_shows {c : TestCase} {record : Json} {item : Written}
    (made : item.toJson depth = .ok record) (shows : c.Shows record) :
    item.last? "behavior" = some (.string c.status.text) := by
  obtain ⟨s, text, status⟩ := Option.map_eq_some_iff.mp shows.status
  obtain ⟨value, found, isText⟩ := Option.bind_eq_some_iff.mp text
  obtain rfl : value = .string s := by
    cases value <;> simp_all [Json.text?]
  have last := Written.rel_last? made "behavior"
  rw [found] at last
  obtain ⟨entry, written, same⟩ := rel_some_left_iff.mp last
  rw [written, Written.eq_string_of_toJson same, ← status, Status.text_ofText]

/-- What was made of a tree shows what was written last in it. -/
theorem lastWritten_of_toJson (made : tree.toJson depth = .ok v) (ok : ofJson v = .ok r) :
    LastWritten r tree := by
  have ordered := Written.toJson_ordered made
  obtain ⟨results, holds⟩ := holds_of_ofJson ordered ok
  have entries (agent : String) : Option.Rel (fun found entry => ∃ cases,
      (cases.map (·.1)).Nodup ∧ HoldsCases found cases ∧
        Written.toJson (depth - 1) entry = .ok (.object cases))
      (r.agent? agent) (tree.last? agent) := by
    refine rel_comp ?_ (holds.rel_agent? ordered results agent) (Written.rel_last? made agent)
    rintro found _ entry ⟨cases, rfl, distinct, held⟩ made
    exact ⟨cases, distinct, held, made⟩
  refine ⟨fun agent key => rel_bind (entries agent) ?_, ?_, fun agent found there => ?_⟩
  · rintro found entry ⟨cases, distinct, held, made⟩
    refine rel_comp ?_ (held.rel_key distinct key) (Written.rel_last? made key)
    exact fun c record item shows made => last?_behavior_of_shows made shows
  · have count := congrArg List.length holds.agents
    simp only [List.length_map] at count
    rw [count, Written.length_members_eq_iff made]
  · have held := entries agent
    rw [there] at held
    obtain ⟨entry, last, cases, -, held, made⟩ := rel_some_left_iff.mp held
    exact ⟨entry, last, by simpa [held.count] using Written.length_members_eq_iff made⟩

/-- If no key is repeated, nothing that was written is lost. -/
theorem LastWritten.keeps (h : LastWritten r tree) (distinct : tree.Distinct)
    (inside : ∀ m ∈ tree.members, m.2.Distinct) : r.Keeps tree := by
  intro agent entry key record status hentry hrecord written
  have shown := h.shown agent key
  rw [Written.last?_eq_some distinct hentry, Option.bind_some,
    Written.last?_eq_some (inside _ hentry) hrecord] at shown
  obtain ⟨c, there, same⟩ := rel_some_right_iff.mp shown
  rw [written] at same
  exact ⟨c, there, by simpa using same.symm⟩

/-- Results that are loaded from a file show what was written last in it, and all that was written
if no key is repeated in the document and in its implementations. -/
theorem load_lastWritten {path : String} {events : List Event}
    (ran : Runs (load path).toProgram events (.ok r)) :
    ∃ text, events = [.fileRead path text] ∧
      let tree := (Json.scan text).1
      LastWritten r tree ∧
      (tree.Distinct → (∀ m ∈ tree.members, m.2.Distinct) → r.Keeps tree) := by
  obtain ⟨text, rfl, v, parsed, ok⟩ := runs_load_iff.mp ran
  have last := lastWritten_of_toJson (Json.toJson_of_parse parsed) ok
  exact ⟨text, rfl, last, last.keeps⟩

def twoCasesText : String :=
  "\x7b\"a\":\x7b\"1\":\x7b\"behavior\":\"FAILED\"\x7d,\"2\":\x7b\"behavior\":\"OK\"\x7d\x7d\x7d"

/-- No key is repeated, and all that was written is kept. -/
theorem load_lastWritten_distinct :
    ∃ r, Runs (load "index.json").toProgram [.fileRead "index.json" twoCasesText] (.ok r) ∧
      r.Keeps (Json.scan twoCasesText).1 := by
  have scanned : (Json.scan twoCasesText).1 = .object [(.ok "a", .object
      [(.ok "1", .object [(.ok "behavior", .string "FAILED")] none),
        (.ok "2", .object [(.ok "behavior", .string "OK")] none)] none)] none := by cbv
  have parsed : Json.parse twoCasesText = .ok (.object [("a", .object
      [("1", .object [("behavior", .string "FAILED")]),
        ("2", .object [("behavior", .string "OK")])])]) := by cbv
  obtain ⟨r, ran⟩ : ∃ r, Runs (load "index.json").toProgram
      [.fileRead "index.json" twoCasesText] (.ok r) :=
    ⟨_, runs_load_iff.mpr ⟨_, rfl, _, parsed, rfl⟩⟩
  obtain ⟨_, ⟨⟩, -, keeps⟩ := load_lastWritten ran
  refine ⟨r, ran, keeps ?_ ?_⟩ <;> rw [scanned] <;>
    simp [Written.Distinct, Written.members, Except.toOption]

def repeatedCaseText : String :=
  "\x7b\"a\":\x7b\"1\":\x7b\"behavior\":\"FAILED\"\x7d,\"1\":\x7b\"behavior\":\"OK\"\x7d\x7d\x7d"

/-- One case is written twice, and what came first is lost. -/
theorem load_lastWritten_repeated :
    ∃ r, Runs (load "index.json").toProgram [.fileRead "index.json" repeatedCaseText] (.ok r) ∧
      r.agents.map (fun a => a.2.map fun c => (c.1.text, c.2.status)) = [[("1", .ok)]] ∧
      ¬ r.Keeps (Json.scan repeatedCaseText).1 := by
  have scanned : (Json.scan repeatedCaseText).1 = .object [(.ok "a", .object
      [(.ok "1", .object [(.ok "behavior", .string "FAILED")] none),
        (.ok "1", .object [(.ok "behavior", .string "OK")] none)] none)] none := by cbv
  have parsed : Json.parse repeatedCaseText = .ok (.object [("a", .object
      [("1", .object [("behavior", .string "OK")])])]) := by cbv
  refine ⟨_, runs_load_iff.mpr ⟨_, rfl, _, parsed, rfl⟩, by decide, fun keeps => ?_⟩
  rw [scanned] at keeps
  obtain ⟨c, found, failed⟩ := keeps "a" _ "1" _ "FAILED" (List.mem_singleton.mpr rfl)
    (List.mem_cons.mpr (.inl rfl)) rfl
  cases found
  exact absurd failed (by decide)

end Results
end ConformanceGate
