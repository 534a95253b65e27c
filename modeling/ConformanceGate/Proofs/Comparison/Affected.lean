import ConformanceGate.Proofs.Comparison.Walk

/-!
# The cases that a mismatch names

A mismatch names what it affects by the first two parts of every path. A path does not tell its keys
if there are slashes in them, so a case is named right exactly if its implementation has a name, and
neither this name nor the key of the case has a slash (`Policy.verify_affectedCases`).
-/

namespace ConformanceGate

/-! ## The first two parts of a text -/

def firstTwo (cs : List Char) : List Char := ['/'].intercalate ((cs.splitOn '/').take 2)

section FirstTwo

variable {a b cs rest : List Char}

theorem firstTwo_of_notMem (h : '/' ∉ a) : firstTwo a = a := by
  simp [firstTwo, List.splitOn_eq_singleton h]

theorem firstTwo_pair (ha : '/' ∉ a) (hb : '/' ∉ b) :
    firstTwo (a ++ '/' :: b) = a ++ '/' :: b := by
  simp [firstTwo, List.splitOn_append_cons_self_of_not_mem ha, List.splitOn_eq_singleton hb]

theorem firstTwo_more (ha : '/' ∉ a) (hb : '/' ∉ b) :
    firstTwo (a ++ '/' :: (b ++ '/' :: rest)) = a ++ '/' :: b := by
  simp [firstTwo, List.splitOn_append_cons_self_of_not_mem ha,
    List.splitOn_append_cons_self_of_not_mem hb]

/-- A text is the first of its parts, the first two with a slash in between, or goes on after
them. -/
theorem parts_cases (cs : List Char) :
    '/' ∉ cs ∨ ∃ a b, '/' ∉ a ∧ '/' ∉ b ∧
      (cs = a ++ '/' :: b ∨ ∃ rest, cs = a ++ '/' :: (b ++ '/' :: rest)) := by
  by_cases h : '/' ∈ cs
  · obtain ⟨a, later, rfl, ha⟩ := List.eq_append_cons_of_mem h
    by_cases h' : '/' ∈ later
    · obtain ⟨b, rest, rfl, hb⟩ := List.eq_append_cons_of_mem h'
      exact .inr ⟨a, b, ha, hb, .inr ⟨rest, rfl⟩⟩
    · exact .inr ⟨a, later, ha, h', .inl rfl⟩
  · exact .inl h

theorem firstTwo_isPrefix (cs : List Char) : firstTwo cs <+: cs := by
  obtain h | ⟨a, b, ha, hb, rfl | ⟨rest, rfl⟩⟩ := parts_cases cs
  · rw [firstTwo_of_notMem h]
  · rw [firstTwo_pair ha hb]
  · rw [firstTwo_more ha hb]
    exact ⟨'/' :: rest, by simp⟩

/-- What is left has at most one slash. -/
theorem count_firstTwo_le (cs : List Char) : (firstTwo cs).count '/' ≤ 1 := by
  obtain h | ⟨a, b, ha, hb, rfl | ⟨rest, rfl⟩⟩ := parts_cases cs
  · simp [firstTwo_of_notMem h, List.count_eq_zero_of_not_mem h]
  · simp [firstTwo_pair ha hb, List.count_eq_zero_of_not_mem ha, List.count_eq_zero_of_not_mem hb]
  · simp [firstTwo_more ha hb, List.count_eq_zero_of_not_mem ha, List.count_eq_zero_of_not_mem hb]

/-- A text with at most one slash is its first two parts. -/
theorem firstTwo_eq_self (h : cs.count '/' ≤ 1) : firstTwo cs = cs := by
  obtain none | ⟨a, b, ha, hb, rfl | ⟨rest, rfl⟩⟩ := parts_cases cs
  · exact firstTwo_of_notMem none
  · exact firstTwo_pair ha hb
  · simp only [List.count_append, List.count_cons_self] at h
    omega

end FirstTwo

/-! ## Names -/

/-- A name with at most one slash in it, and none at its beginning. -/
structure PlainName (s : String) : Prop where
  slashes : s.toList.count '/' ≤ 1
  start : ¬ ['/'] <+: s.toList

theorem Difference.toList_subject (d : Difference) :
    d.subject.toList = firstTwo (d.path.toList.dropWhile (· == '/')) := String.toList_ofList

/-- Only plain names are made of paths. -/
theorem Difference.plainName_subject (d : Difference) : PlainName d.subject := by
  constructor
  · rw [d.toList_subject]
    exact count_firstTwo_le _
  · rw [d.toList_subject]
    intro start
    obtain ⟨rest, h⟩ := start.trans (firstTwo_isPrefix _)
    have head := List.head?_dropWhile_not (· == '/') d.path.toList
    simp [← h] at head

theorem exists_cons_of_ne_empty {s : String} (h : s ≠ "") : ∃ c cs, s.toList = c :: cs :=
  List.exists_cons_of_ne_nil fun none => h (String.toList_eq_nil_iff.mp none)

theorem dropWhile_slash_eq_self {cs : List Char} (h : ¬ ['/'] <+: cs) :
    cs.dropWhile (· == '/') = cs := by
  cases cs with
  | nil => rfl
  | cons c cs =>
    have other : c ≠ '/' := by
      rintro rfl
      exact h ⟨cs, rfl⟩
    exact List.dropWhile_cons_of_neg (by simpa using other)

/-- What a place is to be named by: the implementation, with the case if the place is below one. -/
def title : List String → String
  | [] => ""
  | [agent] => agent
  | agent :: case :: _ => agent ++ "/" ++ case

/-- An implementation and a case make a plain name if no slash is hidden in either. -/
theorem plainName_pair_iff {agent case : String} :
    PlainName (agent ++ "/" ++ case) ↔
      agent ≠ "" ∧ '/' ∉ agent.toList ∧ '/' ∉ case.toList := by
  have chars : (agent ++ "/" ++ case).toList = agent.toList ++ '/' :: case.toList := by simp
  constructor
  · intro plain
    have slashes := plain.slashes
    rw [chars, List.count_append, List.count_cons_self] at slashes
    refine ⟨fun h => plain.start ?_, List.count_eq_zero.mp (by omega),
      List.count_eq_zero.mp (by omega)⟩
    rw [chars, h]
    exact ⟨case.toList, rfl⟩
  · rintro ⟨named, agentFree, caseFree⟩
    constructor
    · simp [chars, List.count_eq_zero_of_not_mem agentFree, List.count_eq_zero_of_not_mem caseFree]
    · rw [chars]
      obtain ⟨c, cs, h⟩ := exists_cons_of_ne_empty named
      rw [h] at agentFree ⊢
      rintro ⟨rest, start⟩
      simp_all

/-- A path tells the name of its place if the name is plain. -/
theorem subject_slashed {keys : List String} (hne : keys ≠ []) (plain : PlainName (title keys))
    (baseline fresh : Option Json) :
    Difference.subject ⟨slashed keys, baseline, fresh⟩ = title keys := by
  -- The path is a slash and then the name, from which the place may go on below a case.
  obtain ⟨more, path, start, first⟩ : ∃ more,
      (slashed keys).toList = '/' :: ((title keys).toList ++ more) ∧
      ¬ ['/'] <+: (title keys).toList ++ more ∧
      firstTwo ((title keys).toList ++ more) = (title keys).toList := by
    match keys with
    | [agent] =>
      exact ⟨[], by simp [slashed, title], by simpa using plain.start,
        by simpa using firstTwo_eq_self plain.slashes⟩
    | [agent, case] =>
      exact ⟨[], by simp [slashed, title], by simpa using plain.start,
        by simpa using firstTwo_eq_self plain.slashes⟩
    | agent :: case :: field :: rest =>
      obtain ⟨named, agentFree, caseFree⟩ := plainName_pair_iff.mp plain
      refine ⟨'/' :: ("/".intercalate (field :: rest)).toList, by simp [slashed, title], ?_, ?_⟩
      · obtain ⟨c, cs, h⟩ := exists_cons_of_ne_empty named
        intro start
        simp_all [title]
      · simpa [title] using firstTwo_more agentFree caseFree
  refine String.toList_inj.mp ?_
  rw [Difference.toList_subject, path, List.dropWhile_cons_of_pos (by rfl),
    dropWhile_slash_eq_self start, first]

/-! ## What is affected -/

namespace Json

/-- What is to be named of two documents: every case under which they differ, by its implementation
and its key, and every implementation that only the second one has, by its own name. -/
inductive Affected (left right : Json) : String → Prop
  | case {agent case : String} :
    ChangedCase left right agent case → Affected left right (agent ++ "/" ++ case)
  | agent {agent : String} : NewAgent left right agent → Affected left right agent

/-- All that is to be named can be read off paths: the implementations of the cases have names, and
no slash is in these names and in the keys of the cases; an implementation that only the second
document has may have one slash in its name, but not at its beginning. -/
structure Legible (left right : Json) : Prop where
  cases : ∀ agent case, ChangedCase left right agent case →
    agent ≠ "" ∧ '/' ∉ agent.toList ∧ '/' ∉ case.toList
  agents : ∀ agent, NewAgent left right agent →
    agent.toList.count '/' ≤ 1 ∧ ¬ ['/'] <+: agent.toList

variable {left right : Json}

/-- What is affected is legible exactly if all names of it are plain. -/
theorem legible_iff : Legible left right ↔ ∀ s, left.Affected right s → PlainName s := by
  constructor
  · rintro legible s (changed | new)
    · exact plainName_pair_iff.mpr (legible.cases _ _ changed)
    · obtain ⟨slashes, start⟩ := legible.agents _ new
      exact ⟨slashes, start⟩
  · intro plain
    refine ⟨fun agent case changed => ?_, fun agent new => ?_⟩
    · exact plainName_pair_iff.mp (plain _ (.case changed))
    · have name := plain _ (.agent new)
      exact ⟨name.slashes, name.start⟩

/-- What is affected is what the places have for titles at which the documents differ. -/
theorem affected_iff (hl : left.Ordered) (hr : right.Ordered) (comparable : Comparable left right)
    {s : String} : left.Affected right s ↔ ∃ keys, left.DiffersAt right keys ∧ title keys = s := by
  have below (agent case : String) : (∃ rest, DiffersBelow (left.follow? [agent, case])
      (right.follow? [agent, case]) rest) ↔
      ¬ Alike (left.follow? [agent, case]) (right.follow? [agent, case]) :=
    exists_differsBelow_iff (fun _ h => hl.follow? h) (fun _ h => hr.follow? h)
  constructor
  · rintro (@⟨agent, case, changed⟩ | new)
    · obtain ⟨rest, differs⟩ := (below agent case).mpr changed.unlike
      refine ⟨agent :: case :: rest, (differsAt_results_iff comparable).mpr (.inr ?_), rfl⟩
      exact ⟨agent, case, rest, rfl, changed.inLeft, changed.inRight, differs⟩
    · exact ⟨[s], (differsAt_results_iff comparable).mpr (.inl ⟨s, rfl, new⟩), rfl⟩
  · rintro ⟨keys, differs, rfl⟩
    obtain ⟨agent, rfl, new⟩ | ⟨agent, case, rest, rfl, inLeft, inRight, differs⟩ :=
      (differsAt_results_iff comparable).mp differs
    · exact .agent new
    · exact .case ⟨inLeft, inRight, (below agent case).mp ⟨rest, differs⟩⟩

end Json

/-! ## Each name once -/

/-- The texts are listed in the order in which they first occur, none of them twice. -/
structure FirstOccurrences (texts listed : List String) : Prop where
  mem_iff : ∀ s, s ∈ listed ↔ s ∈ texts
  order : listed.Pairwise fun s t => texts.idxOf s < texts.idxOf t

/-- One more text is listed only if it is new, and then at the end. -/
theorem FirstOccurrences.snoc {texts listed : List String} (h : FirstOccurrences texts listed)
    (s : String) :
    FirstOccurrences (texts ++ [s]) (if s ∈ listed then listed else listed ++ [s]) := by
  have old {t : String} (ht : t ∈ listed) : (texts ++ [s]).idxOf t = texts.idxOf t :=
    List.idxOf_append_of_mem ((h.mem_iff t).mp ht)
  have order : listed.Pairwise fun t u => (texts ++ [s]).idxOf t < (texts ++ [s]).idxOf u :=
    h.order.imp_of_mem fun {t u} ht hu before => by rwa [old ht, old hu]
  split_ifs with known
  · refine ⟨fun t => ?_, order⟩
    have member := h.mem_iff t
    grind
  · refine ⟨fun t => ?_, List.pairwise_append.mpr ⟨order, List.pairwise_singleton _ _, ?_⟩⟩
    · have member := h.mem_iff t
      grind
    · intro t ht u hu
      obtain rfl := List.mem_singleton.mp hu
      have first : texts.idxOf t < texts.length :=
        List.idxOf_lt_length_iff.mpr ((h.mem_iff t).mp ht)
      have last : u ∉ texts := fun hmem => known ((h.mem_iff u).mpr hmem)
      rw [old ht, List.idxOf_append_of_notMem last]
      simpa using first

/-- Leaving out what came before keeps the first occurrences. -/
theorem firstOccurrences_distinct (texts : List String) :
    FirstOccurrences texts (Diff.distinct texts) := by
  induction texts using List.reverseRecOn with
  | nil => exact ⟨by simp [Diff.distinct], .nil⟩
  | append_singleton texts s ih =>
    have next : Diff.distinct (texts ++ [s]) =
        if s ∈ Diff.distinct texts then Diff.distinct texts else Diff.distinct texts ++ [s] := by
      rw [Diff.distinct, List.foldl_append]
      rfl
    rw [next]
    exact ih.snoc s

namespace Policy

/-- The affected cases are the first two parts of the paths, each once and in the order in which
they first occur. They are what is to be named of the normal forms, in the order of the places that
are reported, exactly if all of it can be read off paths. -/
theorem verify_affectedCases (p : Policy) (baselineOrigin freshOrigin : String)
    {baseline fresh : Json} (hb : baseline.Ordered) (hf : fresh.Ordered) {diff : Diff}
    (h : p.verify baselineOrigin baseline freshOrigin fresh = .ok (.differs diff)) :
    let left := p.normalize baseline
    let right := p.normalize fresh
    FirstOccurrences (diff.entries.map Difference.subject) diff.affectedCases ∧
    ∃ places, Reported left right diff.entries places ∧
      (∀ s, s ∈ places.map title ↔ left.Affected right s) ∧
      (FirstOccurrences (places.map title) diff.affectedCases ↔ left.Legible right) := by
  intro left right
  obtain ⟨comparable, -, rfl⟩ := verify_eq_differs h
  have hl : left.Ordered := p.ordered_normalize hb
  have hr : right.Ordered := p.ordered_normalize hf
  have comparable : Json.Comparable left right := p.comparable_normalize comparable
  have reported := reported_between hl hr
  have listed := firstOccurrences_distinct
    ((Diff.between left right).entries.map Difference.subject)
  have titles (s : String) : s ∈ (places left right).map title ↔ left.Affected right s := by
    simp only [Json.affected_iff hl hr comparable, List.mem_map, reported.mem_iff]
  refine ⟨listed, places left right, reported, titles, ?_⟩
  rw [Json.legible_iff]
  constructor
  · intro named s affected
    have found := (named.mem_iff s).mpr ((titles s).mpr affected)
    obtain ⟨d, -, rfl⟩ := List.mem_map.mp ((listed.mem_iff s).mp found)
    exact d.plainName_subject
  · intro plain
    have subjects : (Diff.between left right).entries.map Difference.subject =
        (places left right).map title := by
      rw [reported.shown, List.map_map]
      refine List.map_congr_left fun keys hkeys => ?_
      have differs := (reported.mem_iff keys).mp hkeys
      refine subject_slashed (fun none => ?_) (plain _ ?_) _ _
      · subst none
        simpa using (Json.differsAt_results_iff comparable).mp differs
      · exact (titles _).mp (List.mem_map_of_mem hkeys)
    rw [subjects] at listed
    rw [Diff.affectedCases, subjects]
    exact listed

/-- What became of the one record of `strictSample`: its status is another, and there is an
implementation more. -/
def joinedSample : Json :=
  .object [("duration", .object [("1.1.1", .object [("behavior", .string "FAILED")])]),
    ("next/2", .object [])]

/-- The case that changed is named, and so is the implementation that is new, although there is a
slash in its name. -/
theorem verify_affectedCases_joined :
    ∃ diff places, strict.verify "" strictSample "" joinedSample = .ok (.differs diff) ∧
      strictSample.Ordered ∧ joinedSample.Ordered ∧
      Reported (strict.normalize strictSample) (strict.normalize joinedSample) diff.entries places ∧
      (strict.normalize strictSample).Legible (strict.normalize joinedSample) ∧
      FirstOccurrences (places.map title) diff.affectedCases ∧
      diff.affectedCases = ["duration/1.1.1", "next/2"] := by
  have differs : strict.verify "" strictSample "" joinedSample =
      .ok (.differs ⟨[⟨"/duration/1.1.1/behavior", some (.string "OK"), some (.string "FAILED")⟩,
        ⟨"/next/2", none, some (.object [])⟩]⟩) := by cbv
  have ordered : joinedSample.Ordered := by
    have agents : "duration" < "next/2" := by decide
    simp only [joinedSample, Json.Ordered, Json.OrderedMembers, Keyed.increasing_cons,
      Keyed.increasing_nil, List.forall_mem_singleton, List.not_mem_nil, false_implies,
      implies_true, agents, and_self]
  obtain ⟨-, places, reported, titles, iff⟩ :=
    verify_affectedCases strict "" "" strictSample_ordered ordered differs
  have legible : (strict.normalize strictSample).Legible (strict.normalize joinedSample) := by
    constructor
    · rintro agent case ⟨inLeft, -, unlike⟩
      obtain rfl : "duration" = agent := by simpa [strictSample, Keyed.lookup] using inLeft
      obtain rfl : "1.1.1" = case := by
        by_contra other
        simp [strictSample, joinedSample, Keyed.lookup, other] at unlike
      decide
    · rintro agent ⟨notInLeft, inRight⟩
      have other : "duration" ≠ agent := by simpa [strictSample, Keyed.lookup] using notInLeft
      obtain rfl : "next/2" = agent := by
        by_contra another
        simp [joinedSample, Keyed.lookup, other, another] at inRight
      decide
  exact ⟨_, places, differs, strictSample_ordered, ordered, reported, legible, iff.mpr legible,
    by cbv⟩

def versionedSample (status : String) : Json :=
  .object [("AutobahnPython/0.6.0", .object [("1.1.1", .object [("behavior", .string status)])])]

/-- A slash in the name of an implementation: the path is cut too early, and the case is lost. -/
theorem verify_affectedCases_versioned :
    ∃ diff, strict.verify "" (versionedSample "OK") "" (versionedSample "FAILED") =
        .ok (.differs diff) ∧
      (strict.normalize (versionedSample "OK")).Affected
        (strict.normalize (versionedSample "FAILED")) "AutobahnPython/0.6.0/1.1.1" ∧
      diff.affectedCases = ["AutobahnPython/0.6.0"] := by
  have held (status : String) : (strict.normalize (versionedSample status)).follow?
      ["AutobahnPython/0.6.0", "1.1.1"] = some (.object [("behavior", .string status)]) := by rfl
  have changed : Json.ChangedCase (strict.normalize (versionedSample "OK"))
      (strict.normalize (versionedSample "FAILED")) "AutobahnPython/0.6.0" "1.1.1" := by
    refine ⟨by simp [versionedSample, Keyed.lookup], by simp [versionedSample, Keyed.lookup], ?_⟩
    rw [held, held, Json.alike_some]
    decide
  exact ⟨.between (strict.normalize (versionedSample "OK"))
    (strict.normalize (versionedSample "FAILED")), rfl, .case changed, by decide +kernel⟩

end Policy
end ConformanceGate
