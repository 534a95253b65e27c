import ConformanceGate.Proofs.Document.Tables
import ConformanceGate.Toml.Reader

/-!
# Trees of configuration texts

A configuration text that is read gives a table, and nothing in its tree is missing or faulty
(`read_isTable`). What is put into tables while a text is read stays sound, statement by statement,
and the values that are put there are sound because the reader makes no others.
-/

namespace ConformanceGate.Toml

/-- The values of configuration texts. Null is none of them, and a table holds its keys in order and
each one once. -/
inductive IsValue : Written → Prop
  | bool (b : Bool) : IsValue (.bool b)
  | number (n : Number) : IsValue (.number n)
  | nonfinite (name : String) : IsValue (.nonfinite name)
  | string (s : String) : IsValue (.string s)
  | array {items : List Written} : (∀ item ∈ items, IsValue item) → IsValue (.array items none)
  | table {entries : List (String × Written)} : Keyed.Increasing entries →
      (∀ e ∈ entries, IsValue e.2) → IsValue (.table entries)

theorem IsValue.ne_null {w : Written} (h : IsValue w) : w ≠ .null := by
  cases h <;> nofun

/-- A table is a value exactly if its keys increase and all that it holds are values. -/
theorem IsValue.table_iff {entries : List (String × Written)} :
    IsValue (.table entries) ↔ Keyed.Increasing entries ∧ ∀ e ∈ entries, IsValue e.2 := by
  constructor
  · intro h
    generalize same : Written.table entries = w at h
    cases h with
    | table sorted values =>
      obtain rfl := Written.table_inj.mp same
      exact ⟨sorted, values⟩
    | _ => simp [Written.table] at same
  · rintro ⟨sorted, values⟩
    exact .table sorted values

/-! ## Tables under construction -/

/-- All that a node stands for is a value. -/
inductive Node.Sound : Node → Prop
  | value {w : Written} : IsValue w → Node.Sound (.value w)
  | table {origin : Origin} {entries : Entries} : (∀ e ∈ entries, e.2.Sound) →
      Node.Sound (.table origin entries)
  | tables {last : Entries} {earlier : List Entries} : (∀ e ∈ last, e.2.Sound) →
      (∀ entries ∈ earlier, ∀ e ∈ entries, e.2.Sound) → Node.Sound (.tables last earlier)

/-- All entries stand for values. -/
def AllSound (entries : Entries) : Prop := ∀ e ∈ entries, e.2.Sound

section Entries

variable {entries entries' : Entries} {key : String} {node : Node} {value : Written}
  {path : List String}

theorem allSound_nil : AllSound [] := by simp [AllSound]

theorem AllSound.find? (h : AllSound entries) (found : find? key entries = some node) :
    node.Sound := by
  obtain ⟨front, back, rfl, -⟩ := List.lookup_eq_some_iff.mp found
  exact h (key, node) (by simp)

/-- Entries stay sound if a sound one is put among them. -/
theorem AllSound.put (h : AllSound entries) (new : node.Sound) :
    AllSound (put key node entries) := by
  intro e he
  unfold Toml.put at he
  split_ifs at he
  · obtain ⟨old, hold, rfl⟩ := List.mem_map.mp he
    split_ifs
    · exact new
    · exact h old hold
  · rcases List.mem_append.mp he with he | he
    · exact h e he
    · rw [List.mem_singleton.mp he]
      exact new

/-- Assigning a value to a key keeps tables sound. -/
theorem AllSound.assign (h : AllSound entries) (sound : IsValue value)
    (assigned : assign value path entries = some entries') : AllSound entries' := by
  fun_induction Toml.assign value path entries generalizing entries' with
  | case1 => cases assigned
  | case2 => cases assigned
  | case3 key entries new =>
    cases assigned
    exact h.put (.value sound)
  | case4 key path entries _ missing ih =>
    obtain ⟨inner, made, new⟩ := Option.bind_eq_some_iff.mp assigned
    cases new
    exact h.put (.table (ih allSound_nil made))
  | case5 => cases assigned
  | case6 => cases assigned
  | case7 key path entries _ origin inner _ found ih =>
    obtain ⟨inner', made, new⟩ := Option.bind_eq_some_iff.mp assigned
    cases new
    cases h.find? found with
    | table sound => exact h.put (.table (ih sound made))
  | case8 => cases assigned
  | case9 key path entries _ last earlier found _ ih =>
    obtain ⟨last', made, new⟩ := Option.bind_eq_some_iff.mp assigned
    cases new
    cases h.find? found with
    | tables sound others => exact h.put (.tables (ih sound made) others)

/-- The change of what a key stands for gives a sound node if there was a sound one or none. -/
def KeepsSound (change : Option Node → Option Node) : Prop :=
  ∀ ⦃before : Option Node⦄ ⦃after : Node⦄, (∀ node, before = some node → node.Sound) →
    change before = some after → after.Sound

/-- Opening a table keeps entries sound. -/
theorem keepsSound_openTable : KeepsSound openTable := by
  intro before after h opened
  unfold openTable at opened
  split at opened
  · cases opened
    exact .table (by simp)
  · cases opened
    cases h _ rfl with
    | table sound => exact .table sound
  · cases opened

theorem keepsSound_openElement : KeepsSound openElement := by
  intro before after h opened
  unfold openElement at opened
  split at opened
  · cases opened
    exact .tables (by simp) (by simp)
  · cases opened
    cases h _ rfl with
    | tables sound others => exact .tables (by simp) (List.forall_mem_cons.mpr ⟨sound, others⟩)
  · cases opened

theorem keepsSound_assignIn (sound : IsValue value) : KeepsSound (assignIn path value) := by
  intro before after h assigned
  unfold assignIn at assigned
  split at assigned
  · obtain ⟨inner, made, rfl⟩ := Option.map_eq_some_iff.mp assigned
    cases h _ rfl with
    | table before => exact .table (AllSound.assign before sound made)
  · obtain ⟨last, made, rfl⟩ := Option.map_eq_some_iff.mp assigned
    cases h _ rfl with
    | tables before others => exact .tables (AllSound.assign before sound made) others
  · cases assigned

/-- What happens at a header keeps tables sound. -/
theorem AllSound.atHeader {change : Option Node → Option Node} (keeps : KeepsSound change)
    (h : AllSound entries) (changed : atHeader change path entries = some entries') :
    AllSound entries' := by
  fun_induction Toml.atHeader change path entries generalizing entries' with
  | case1 => cases changed
  | case2 key entries =>
    obtain ⟨node, made, new⟩ := Option.bind_eq_some_iff.mp changed
    cases new
    exact h.put (keeps (fun _ => h.find?) made)
  | case3 key path entries _ missing ih =>
    obtain ⟨inner, made, new⟩ := Option.bind_eq_some_iff.mp changed
    cases new
    exact h.put (.table (ih allSound_nil made))
  | case4 key path entries _ origin inner found ih =>
    obtain ⟨inner', made, new⟩ := Option.bind_eq_some_iff.mp changed
    cases new
    cases h.find? found with
    | table sound => exact h.put (.table (ih sound made))
  | case5 key path entries _ last earlier found ih =>
    obtain ⟨last', made, new⟩ := Option.bind_eq_some_iff.mp changed
    cases new
    cases h.find? found with
    | tables sound others => exact h.put (.tables (ih sound made) others)
  | case6 => cases changed

end Entries

/-! ## The tree of a node -/

theorem forall_mem_entriesToWritten {entries : Entries}
    (h : ∀ e ∈ entries, IsValue e.2.toWritten) : ∀ e ∈ entriesToWritten entries, IsValue e.2 := by
  induction entries with
  | nil => simp [entriesToWritten]
  | cons e rest ih =>
    obtain ⟨key, node⟩ := e
    obtain ⟨first, later⟩ := List.forall_mem_cons.mp h
    rw [entriesToWritten]
    exact List.forall_mem_cons.mpr ⟨first, ih later⟩

/-- Of equal keys the last one counts, so entries become a table. -/
theorem isValue_collect {entries : Entries} (h : ∀ e ∈ entries, IsValue e.2.toWritten) :
    IsValue (.table (Keyed.collect (entriesToWritten entries))) :=
  .table (Keyed.increasing_collect _) fun e he =>
    forall_mem_entriesToWritten h e (Keyed.mem_of_mem_collect e he)

theorem forall_mem_tablesToWritten {tables : List Entries}
    (h : ∀ entries ∈ tables, ∀ e ∈ entries, IsValue e.2.toWritten) :
    ∀ item ∈ tablesToWritten tables, IsValue item := by
  induction tables with
  | nil => simp [tablesToWritten]
  | cons entries rest ih =>
    obtain ⟨first, later⟩ := List.forall_mem_cons.mp h
    rw [tablesToWritten]
    exact List.forall_mem_cons.mpr ⟨isValue_collect first, ih later⟩

/-- A sound node is written as a value. -/
theorem Node.Sound.isValue {node : Node} (h : node.Sound) : IsValue node.toWritten := by
  induction h with
  | value h => rwa [toWritten]
  | table _ ih =>
    rw [toWritten]
    exact isValue_collect ih
  | tables _ _ ihLast ihEarlier =>
    rw [toWritten]
    refine .array fun item hitem => ?_
    rcases List.mem_append.mp hitem with hitem | hitem
    · exact forall_mem_tablesToWritten ihEarlier item (List.mem_reverse.mp hitem)
    · rw [List.mem_singleton.mp hitem]
      exact isValue_collect ihLast

/-! ## Forms and statements -/

/-- The scalars of a form are values as far as they mean something. -/
inductive Form.Sound : Form → Prop
  | scalar {value : Except Flaw Written} : (∀ w, value = .ok w → IsValue w) →
      Form.Sound (.scalar value)
  | array {items : List Form} : (∀ item ∈ items, item.Sound) → Form.Sound (.array items)
  | table {entries : List (Key × Form)} : (∀ e ∈ entries, e.2.Sound) → Form.Sound (.table entries)

/-- A step that can be taken was taken. -/
theorem orMalformed_eq_ok {α : Type} {found : Option α} {a : α} :
    orMalformed found = .ok a ↔ found = some a := by
  cases found <;> simp [orMalformed]

theorem forall_mem_meanings {items : List Form} {values : List Written}
    (h : ∀ item ∈ items, ∀ w, item.meaning = .ok w → IsValue w)
    (found : meanings items = .ok values) : ∀ w ∈ values, IsValue w := by
  induction items generalizing values with
  | nil =>
    cases found
    simp
  | cons item rest ih =>
    obtain ⟨first, later⟩ := List.forall_mem_cons.mp h
    obtain ⟨value, meant, others⟩ := Except.bind_eq_ok.mp found
    obtain ⟨tail, last, same⟩ := Except.bind_eq_ok.mp others
    cases same
    exact List.forall_mem_cons.mpr ⟨first value meant, ih later last⟩

/-- Filling an inline table keeps entries sound. -/
theorem allSound_of_fill {assignments : List (Key × Form)} {entries entries' : Entries}
    (h : ∀ e ∈ assignments, ∀ w, e.2.meaning = .ok w → IsValue w) (before : AllSound entries)
    (filled : fill entries assignments = .ok entries') : AllSound entries' := by
  induction assignments generalizing entries with
  | nil =>
    cases filled
    exact before
  | cons e rest ih =>
    obtain ⟨key, form⟩ := e
    obtain ⟨first, later⟩ := List.forall_mem_cons.mp h
    obtain ⟨path, -, named⟩ := Except.bind_eq_ok.mp filled
    obtain ⟨value, meant, valued⟩ := Except.bind_eq_ok.mp named
    obtain ⟨middle, assigned, others⟩ := Except.bind_eq_ok.mp valued
    exact ih later (before.assign (first value meant) (orMalformed_eq_ok.mp assigned)) others

/-- A sound form means a value, if it means anything. -/
theorem Form.Sound.isValue {form : Form} (h : form.Sound) {w : Written}
    (meant : form.meaning = .ok w) : IsValue w := by
  induction h generalizing w with
  | scalar h =>
    rw [meaning] at meant
    exact h w meant
  | array _ ih =>
    rw [meaning] at meant
    obtain ⟨values, found, same⟩ := Except.bind_eq_ok.mp meant
    cases same
    exact .array (forall_mem_meanings (fun item hitem _ => ih item hitem) found)
  | table _ ih =>
    rw [meaning] at meant
    obtain ⟨entries, filled, same⟩ := Except.bind_eq_ok.mp meant
    cases same
    have sound := allSound_of_fill (fun e he _ => ih e he) allSound_nil filled
    exact (Node.Sound.table sound).isValue

def Statement.Sound : Statement → Prop
  | .assign _ form => form.Sound
  | _ => True

/-- A statement that is carried out keeps tables sound. -/
theorem allSound_step {draft draft' : Draft} {statement : Statement} (sound : statement.Sound)
    (before : AllSound draft.entries) (carried : draft.step statement = .ok draft') :
    AllSound draft'.entries := by
  cases statement with
  | table path =>
    obtain ⟨path, -, named⟩ := Except.bind_eq_ok.mp carried
    obtain ⟨entries, opened, same⟩ := Except.bind_eq_ok.mp named
    cases same
    exact before.atHeader keepsSound_openTable (orMalformed_eq_ok.mp opened)
  | element path =>
    obtain ⟨path, -, named⟩ := Except.bind_eq_ok.mp carried
    obtain ⟨entries, opened, same⟩ := Except.bind_eq_ok.mp named
    cases same
    exact before.atHeader keepsSound_openElement (orMalformed_eq_ok.mp opened)
  | assign path form =>
    obtain ⟨path, -, named⟩ := Except.bind_eq_ok.mp carried
    obtain ⟨value, meant, valued⟩ := Except.bind_eq_ok.mp named
    obtain ⟨entries, assigned, same⟩ := Except.bind_eq_ok.mp valued
    cases same
    have fine := sound.isValue meant
    have assigned := orMalformed_eq_ok.mp assigned
    split_ifs at assigned
    · exact before.assign fine assigned
    · exact before.atHeader (keepsSound_assignIn fine) assigned

/-- Statements that are sound keep entries sound one after the other. -/
theorem allSound_of_foldlM {statements : List Statement} {draft draft' : Draft}
    (sound : ∀ s ∈ statements, s.Sound) (before : AllSound draft.entries)
    (carried : statements.foldlM Draft.step draft = .ok draft') : AllSound draft'.entries := by
  induction statements generalizing draft with
  | nil =>
    cases carried
    exact before
  | cons statement rest ih =>
    obtain ⟨first, later⟩ := List.forall_mem_cons.mp sound
    obtain ⟨middle, step, others⟩ := Except.bind_eq_ok.mp carried
    exact ih later (allSound_step first before step) others

/-! ## The reader -/

/-- A date or time is the table of one entry. -/
theorem isValue_moment (word : String) : IsValue (.table [(momentKey, .string word)]) :=
  .table (List.pairwise_singleton _ _) (by simpa using .string word)

/-- A word that means something is a value. -/
theorem isValue_of_ofWord? {word : List Char} {w : Written} (h : ofWord? word = some w) :
    IsValue w := by
  unfold ofWord? at h
  split_ifs at h
  · cases h
    exact .bool true
  · cases h
    exact .bool false
  · cases h
    exact .nonfinite _
  · cases h
    exact .nonfinite _
  · cases h
    exact .nonfinite _
  · cases h
    exact isValue_moment _
  · split at h
    · split_ifs at h
      cases h
      exact .number _
    · obtain ⟨d, -, rfl⟩ := Option.map_eq_some_iff.mp h
      exact .number _

theorem sound_word (word : List Char) : (Form.scalar (orMalformed (ofWord? word))).Sound :=
  .scalar fun _ h => isValue_of_ofWord? (orMalformed_eq_ok.mp h)

theorem sound_text (s : Option String) : (Form.scalar ((orMalformed s).map .string)).Sound := by
  refine .scalar fun w h => ?_
  obtain ⟨s, -, rfl⟩ := Except.map_eq_ok.mp h
  exact .string s

/-- What the readers of values give with some fuel is sound. -/
structure ReadsSound (fuel : Nat) : Prop where
  value : ∀ ⦃levels cs form rest⦄, readValue fuel levels cs = some (form, rest) → form.Sound
  items : ∀ ⦃levels cs items rest⦄, readItems fuel levels cs = some (items, rest) →
    ∀ item ∈ items, item.Sound
  entries : ∀ ⦃levels cs entries rest⦄, readEntries fuel levels cs = some (entries, rest) →
    ∀ e ∈ entries, e.2.Sound

/-- One step of the fuel for a value: it is sound if its parts are. -/
theorem ReadsSound.value_succ {fuel : Nat} (ih : ReadsSound fuel) {levels : Nat} {cs : List Char}
    {form : Form} {rest : List Char} (h : readValue (fuel + 1) levels cs = some (form, rest)) :
    form.Sound := by
  unfold readValue at h
  split at h
  · split at h
    · cases h
    · obtain ⟨⟨items, rest⟩, read, same⟩ := Option.bind_eq_some_iff.mp h
      cases same
      exact .array (ih.items read)
  · split at h
    · cases h
    · obtain ⟨⟨entries, rest⟩, read, same⟩ := Option.bind_eq_some_iff.mp h
      cases same
      exact .table (ih.entries read)
  · cases h
    exact sound_text _
  · cases h
    exact sound_text _
  · simp only at h
    split_ifs at h
    cases h
    exact sound_word _

theorem ReadsSound.items_succ {fuel : Nat} (ih : ReadsSound fuel) {levels : Nat} {cs : List Char}
    {items : List Form} {rest : List Char}
    (h : readItems (fuel + 1) levels cs = some (items, rest)) : ∀ item ∈ items, item.Sound := by
  unfold readItems at h
  obtain ⟨cs, -, h⟩ := Option.bind_eq_some_iff.mp h
  split at h
  · cases h
    simp
  · obtain ⟨⟨item, after⟩, read, h⟩ := Option.bind_eq_some_iff.mp h
    have first := ih.value read
    obtain ⟨after, -, h⟩ := Option.bind_eq_some_iff.mp h
    split at h
    · obtain ⟨⟨others, rest⟩, later, same⟩ := Option.bind_eq_some_iff.mp h
      cases same
      exact List.forall_mem_cons.mpr ⟨first, ih.items later⟩
    · cases h
      simpa using first
    · cases h

theorem ReadsSound.entries_succ {fuel : Nat} (ih : ReadsSound fuel) {levels : Nat}
    {cs : List Char} {entries : List (Key × Form)} {rest : List Char}
    (h : readEntries (fuel + 1) levels cs = some (entries, rest)) : ∀ e ∈ entries, e.2.Sound := by
  unfold readEntries at h
  obtain ⟨cs, -, h⟩ := Option.bind_eq_some_iff.mp h
  split at h
  · cases h
    simp
  · obtain ⟨⟨key, after⟩, -, h⟩ := Option.bind_eq_some_iff.mp h
    obtain ⟨after, -, h⟩ := Option.bind_eq_some_iff.mp h
    split at h
    · obtain ⟨after, -, h⟩ := Option.bind_eq_some_iff.mp h
      obtain ⟨⟨value, after⟩, read, h⟩ := Option.bind_eq_some_iff.mp h
      have first := ih.value read
      obtain ⟨after, -, h⟩ := Option.bind_eq_some_iff.mp h
      split at h
      · obtain ⟨⟨others, rest⟩, later, same⟩ := Option.bind_eq_some_iff.mp h
        cases same
        exact List.forall_mem_cons.mpr ⟨first, ih.entries later⟩
      · cases h
        simpa using first
      · cases h
    · cases h

/-- Whatever the fuel is: a value is read with less fuel than the text it stands in. -/
theorem readsSound (fuel : Nat) : ReadsSound fuel := by
  induction fuel with
  | zero =>
    refine ⟨?_, ?_, ?_⟩
    · intro levels cs form rest h
      simp [readValue] at h
    · intro levels cs items rest h
      simp [readItems] at h
    · intro levels cs entries rest h
      simp [readEntries] at h
  | succ fuel ih => exact ⟨fun _ _ _ _ => ih.value_succ, fun _ _ _ _ => ih.items_succ,
      fun _ _ _ _ => ih.entries_succ⟩

/-- A statement that is read is sound. -/
theorem sound_of_readStatement {cs : List Char} {statement : Statement} {rest : List Char}
    (h : readStatement cs = some (statement, rest)) : statement.Sound := by
  unfold readStatement at h
  split at h
  · obtain ⟨⟨path, after⟩, -, h⟩ := Option.bind_eq_some_iff.mp h
    simp only at h
    split at h <;> cases h
    trivial
  · obtain ⟨⟨path, after⟩, -, h⟩ := Option.bind_eq_some_iff.mp h
    simp only at h
    split at h <;> cases h
    trivial
  · obtain ⟨⟨path, after⟩, -, h⟩ := Option.bind_eq_some_iff.mp h
    simp only at h
    split at h
    · obtain ⟨⟨value, after⟩, read, same⟩ := Option.bind_eq_some_iff.mp h
      cases same
      exact (readsSound _).value read
    · cases h

theorem sound_of_readStatements {fuel : Nat} {cs : List Char} {statements : List Statement}
    (h : readStatements fuel cs = some statements) : ∀ s ∈ statements, s.Sound := by
  induction fuel generalizing cs statements with
  | zero => simp [readStatements] at h
  | succ fuel ih =>
    unfold readStatements at h
    obtain ⟨cs, -, h⟩ := Option.bind_eq_some_iff.mp h
    split at h
    · cases h
      simp
    · obtain ⟨⟨statement, after⟩, read, h⟩ := Option.bind_eq_some_iff.mp h
      obtain ⟨after, -, h⟩ := Option.bind_eq_some_iff.mp h
      obtain ⟨others, later, same⟩ := Option.bind_eq_some_iff.mp h
      cases same
      exact List.forall_mem_cons.mpr ⟨sound_of_readStatement read, ih later⟩

/-- The tree of a text is a table of values. -/
theorem read_isTable {text : String} {tree : Written} (h : read text = .ok tree) :
    ∃ entries, tree = .table entries ∧ IsValue tree := by
  obtain ⟨statements, found, meant⟩ := Except.bind_eq_ok.mp h
  obtain ⟨draft, carried, same⟩ := Except.bind_eq_ok.mp meant
  cases same
  have sound := allSound_of_foldlM (sound_of_readStatements (orMalformed_eq_ok.mp found))
    allSound_nil carried
  have table := isValue_collect fun e he => (sound e he).isValue
  exact ⟨Keyed.collect (entriesToWritten draft.entries), by rw [Node.toWritten]; rfl,
    by rw [Node.toWritten]; exact table⟩

/-! ## Texts without room for a statement -/

section Short

variable {cs rest : List Char}

theorem length_skipTrivia_le {inComment : Bool} (h : skipTrivia inComment cs = some rest) :
    rest.length ≤ cs.length := by
  fun_induction skipTrivia inComment cs <;> grind

theorem readKeyPart_of_length_le_one {part : Option String} (short : cs.length ≤ 1)
    (h : readKeyPart cs = some (part, rest)) : rest = [] := by
  rcases cs with _ | ⟨c, _ | ⟨c', more⟩⟩
  · simp [readKeyPart] at h
  · unfold readKeyPart at h
    split at h <;> grind [readQuoted, cutString, List.takeWhile_cons,
      List.dropWhile_cons, List.dropWhile_nil]
  · simp at short

theorem readParts_of_length_le_one {fuel : Nat} {parts : List (Option String)}
    (short : cs.length ≤ 1) (h : readParts fuel cs = some (parts, rest)) : rest = [] := by
  cases fuel with
  | zero => cases h
  | succ fuel =>
    have shorter : (skipSpaces cs).length ≤ 1 :=
      Nat.le_trans (List.dropWhile_sublist _).length_le short
    obtain ⟨⟨part, after⟩, read, h⟩ := Option.bind_eq_some_iff.mp h
    cases readKeyPart_of_length_le_one shorter read
    cases h
    rfl

theorem readKey_of_length_le_one {key : Key} (short : cs.length ≤ 1)
    (h : readKey cs = some (key, rest)) : rest = [] := by
  obtain ⟨⟨parts, after⟩, read, same⟩ := Option.map_eq_some_iff.mp h
  cases same
  exact readParts_of_length_le_one short read

/-- No statement is shorter than two characters. -/
theorem readStatement_of_length_le_one (short : cs.length ≤ 1) : readStatement cs = none := by
  refine Option.eq_none_iff_forall_ne_some.mpr fun found h => ?_
  unfold readStatement at h
  split at h
  · simp at short
  · obtain ⟨⟨path, after⟩, read, h⟩ := Option.bind_eq_some_iff.mp h
    cases readKey_of_length_le_one (by grind) read
    cases h
  · obtain ⟨⟨path, after⟩, read, h⟩ := Option.bind_eq_some_iff.mp h
    cases readKey_of_length_le_one short read
    cases h

theorem readStatements_of_length_le_one {fuel : Nat} {statements : List Statement}
    (short : cs.length ≤ 1) (h : readStatements fuel cs = some statements) : statements = [] := by
  cases fuel with
  | zero => cases h
  | succ fuel =>
    obtain ⟨after, passed, h⟩ := Option.bind_eq_some_iff.mp h
    have shorter := Nat.le_trans (length_skipTrivia_le passed) short
    split at h
    · cases h
      rfl
    · simp [readStatement_of_length_le_one shorter] at h

/-- A key and its value take more than one character, so a text of at most one has no entries. -/
theorem read_of_length_le_one {text : String} {entries : List (String × Written)}
    (short : text.length ≤ 1) (h : read text = .ok (.table entries)) : entries = [] := by
  obtain ⟨statements, found, meant⟩ := Except.bind_eq_ok.mp h
  have shorter : (dropMark text.toList).length ≤ 1 := by
    rw [← String.length_toList] at short
    unfold dropMark
    split <;> grind
  cases readStatements_of_length_le_one shorter (orMalformed_eq_ok.mp found)
  cases entries with
  | nil => rfl
  | cons e rest => cases meant

end Short

end ConformanceGate.Toml
