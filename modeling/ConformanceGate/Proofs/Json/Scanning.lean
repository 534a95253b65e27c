import ConformanceGate.Proofs.Json.Spelling
import ConformanceGate.Proofs.Text.Decimal

/-!
# Reading what was spelled

On a text that spells a value the reader finds that value and stops right after it
(`Json.scanValue_spelled`). A numeral has to end where it is said to end: what follows it must not
go on with it (`Json.Closed`).
-/

namespace ConformanceGate.Json

/-! ## Blanks -/

theorem skipBlanks_append {gap : List Char} (h : Blanks gap) (rest : List Char) :
    skipBlanks (gap ++ rest) = skipBlanks rest := by
  induction gap with
  | nil => rfl
  | cons c gap ih =>
    simp only [Blanks, List.forall_mem_cons] at h
    simpa [skipBlanks, h.1] using ih h.2

theorem skipBlanks_cons {c : Char} (h : isBlank c = false) (rest : List Char) :
    skipBlanks (c :: rest) = c :: rest := by
  simp [skipBlanks, h]

theorem skipBlanks_blanks {gap : List Char} (h : Blanks gap) : skipBlanks gap = [] := by
  have nothing := skipBlanks_append h []
  rwa [List.append_nil] at nothing

/-! ## Strings -/

/-- The reader takes the body of a string and its closing quote, and finds the characters. -/
theorem scanString_body {cs text : List Char} (h : Body cs text) (acc rest : List Char) :
    scanString true acc (text ++ '"' :: rest) =
      (.ok (String.ofList (acc.reverse ++ cs)), .ok rest) := by
  induction h generalizing acc with
  | nil => simp [scanString]
  | plain visible quote backslash _ ih =>
    rw [List.cons_append, scanString]
    · simp [Nat.not_lt.mpr visible, ih]
    all_goals simp_all
  | @simple c e cs text escape _ ih =>
    have notUnit : e ≠ 'u' := by
      rintro rfl
      simp [simpleEscape?] at escape
    simp only [List.cons_append]
    rw [scanString]
    · simp [escape, ih]
    all_goals simp_all
  | unit value notHigh notLow _ ih =>
    simp [scanString, value, notHigh, notLow, ih]
  | @pair a b c d a' b' c' d' high low cs text first isHigh second isLow _ ih =>
    -- A first unit is none that may stand second, or the reader would have stopped at it.
    have notLow : Json.isLow high = false := by
      simp only [Json.isHigh, Bool.and_eq_true, decide_eq_true_eq] at isHigh
      simp [Json.isLow]
      omega
    simp [scanString, first, second, isHigh, isLow, notLow, completion, ih]

/-- A spelled string is read to its closing quote, whatever comes after it. -/
theorem scanString_spelled {s : String} {text : List Char} (h : SpelledString s text) :
    ∃ body, text = '"' :: body ∧ ∀ rest, scanString true [] (body ++ rest) = (.ok s, .ok rest) := by
  obtain ⟨body, spelled, rfl⟩ := h
  exact ⟨body ++ ['"'], rfl, fun rest => by simpa using scanString_body spelled [] rest⟩

/-! ## Numbers -/

/-- What follows does not go on with a numeral. -/
def Closed (rest : List Char) : Prop :=
  ∀ c ∈ rest.head?, c.isDigit = false ∧ c ≠ '.' ∧ c ≠ 'e' ∧ c ≠ 'E'

theorem closed_nil : Closed [] := by simp [Closed]

theorem closed_cons {c : Char} {rest : List Char} :
    Closed (c :: rest) ↔ c.isDigit = false ∧ c ≠ '.' ∧ c ≠ 'e' ∧ c ≠ 'E' := by
  simp [Closed]

/-- Blanks end a numeral, and so does what comes after them. -/
theorem closed_append {gap rest : List Char} (h : Blanks gap) (closed : Closed rest) :
    Closed (gap ++ rest) := by
  cases gap with
  | nil => exact closed
  | cons c gap =>
    simp only [Blanks, List.forall_mem_cons, isBlank, Bool.or_eq_true, beq_iff_eq] at h
    rw [List.cons_append, closed_cons]
    rcases h.1 with ((rfl | rfl) | rfl) | rfl <;> decide

/-- Digits are read up to the first character that is none. -/
theorem someDigits_append {ds rest : List Char} (nonempty : ds ≠ []) (digit : ∀ c ∈ ds, c.isDigit)
    (stop : ∀ c ∈ rest.head?, c.isDigit = false) :
    someDigits (ds ++ rest) = .ok (ds, rest) := by
  have taken : digits (ds ++ rest) = (ds, rest) := by
    have none : rest.takeWhile Char.isDigit = [] ∧ rest.dropWhile Char.isDigit = rest := by
      cases rest with
      | nil => simp
      | cons c rest => simp [stop c rfl]
    rw [digits, List.takeWhile_append_of_pos digit, List.dropWhile_append_of_pos digit, none.1,
      none.2, List.append_nil]
  rw [someDigits, taken]
  cases ds with
  | nil => exact absurd rfl nonempty
  | cons d ds => rfl

/-- A canonical numeral is read as a whole number up to the first character that is no digit. -/
theorem scanWhole_append {ds rest : List Char} (canonical : Text.isCanonical ds)
    (stop : ∀ c ∈ rest.head?, c.isDigit = false) :
    scanWhole (ds ++ rest) = .ok (ds, rest) := by
  obtain ⟨nonempty, digit, zero⟩ := Text.isCanonical_iff.mp canonical
  have alone : ¬ (ds.head? = some '0' ∧ ds.length ≠ 1) := fun h =>
    zero.elim h.2 fun other => other h.1
  simp only [scanWhole, someDigits_append nonempty digit stop, bind, Except.bind, if_neg alone]

theorem scanFraction_closed {rest : List Char} (h : Closed rest) :
    scanFraction rest = .ok (none, rest) := by
  unfold scanFraction
  split
  · exact absurd rfl (closed_cons.mp h).2.1
  · rfl

theorem scanExponent_closed {rest : List Char} (h : Closed rest) :
    scanExponent rest = .ok (none, rest) := by
  unfold scanExponent
  split
  · exact absurd rfl (closed_cons.mp h).2.2.1
  · exact absurd rfl (closed_cons.mp h).2.2.2
  · rfl

/-- A numeral without fraction and exponent, after its sign. -/
theorem scanNumeral_whole {ds rest : List Char} (canonical : Text.isCanonical ds)
    (closed : Closed rest) :
    scanNumeral (ds ++ rest) = .ok (⟨false, ds, none, none⟩, rest) ∧
      scanNumeral ('-' :: ds ++ rest) = .ok (⟨true, ds, none, none⟩, rest) := by
  have whole := scanWhole_append canonical fun c hc => (closed c hc).1
  obtain ⟨nonempty, digit, -⟩ := Text.isCanonical_iff.mp canonical
  cases ds with
  | nil => exact absurd rfl nonempty
  | cons d ds =>
    have unsigned : d ≠ '-' := by
      rintro rfl
      exact absurd (digit '-' (by simp)) (by decide)
    constructor
    · simp only [List.cons_append] at whole
      simp [scanNumeral, unsigned, whole, scanFraction_closed closed, scanExponent_closed closed,
        bind, Except.bind, pure, Except.pure]
    · simp only [List.cons_append] at whole
      simp [scanNumeral, whole, scanFraction_closed closed, scanExponent_closed closed,
        bind, Except.bind, pure, Except.pure]

theorem le_ofDigitChars (ds : List Char) (n : Nat) : n ≤ Nat.ofDigitChars 10 ds n := by
  induction ds generalizing n with
  | nil => exact Nat.le_of_eq Nat.ofDigitChars_nil.symm
  | cons c ds ih =>
    rw [Nat.ofDigitChars_cons]
    exact Nat.le_trans (by omega) (ih _)

/-- Digits that make up a number of 64 bits are all kept. -/
theorem Significand.whole_eq {ds : List Char} {n : Nat} (power : Int)
    (h : Nat.ofDigitChars 10 ds n < significandLimit) :
    Significand.whole ⟨n, power⟩ false ds = ⟨Nat.ofDigitChars 10 ds n, power⟩ := by
  induction ds generalizing n with
  | nil => rfl
  | cons c ds ih =>
    rw [Nat.ofDigitChars_cons, Nat.mul_comm] at h ⊢
    have kept := Nat.lt_of_le_of_lt (le_ofDigitChars ds _) h
    simpa only [Significand.whole, Bool.false_or, decide_eq_true_eq, Nat.not_le.mpr kept, if_false]
      using ih h

/-- The digits of a number of 64 bits are all kept. -/
theorem significand_toDigits {n : Nat} (h : n < 2 ^ 64) :
    Significand.whole ⟨0, 0⟩ false (Nat.toDigits 10 n) = ⟨n, 0⟩ := by
  have value : Nat.ofDigitChars 10 (Nat.toDigits 10 n) 0 = n := Nat.ofDigitChars_ten_toDigits
  rw [Significand.whole_eq 0 (value.symm ▸ h), value]

/-- A zero with a sign is written as a double. -/
theorem scanNumber_negativeZero {rest : List Char} (closed : Closed rest) :
    scanNumber (['-', '0', '.', '0'] ++ rest) = (.number (.float (.zero true)), .ok rest) := by
  have fraction : scanFraction ('.' :: '0' :: rest) = .ok (some ['0'], rest) := by
    have taken : someDigits ('0' :: rest) = .ok (['0'], rest) :=
      @someDigits_append ['0'] rest (by simp) (by simp) fun c hc => (closed c hc).1
    simp [scanFraction, taken, Except.map]
  have whole : scanWhole ('0' :: '.' :: '0' :: rest) = .ok (['0'], '.' :: '0' :: rest) :=
    @scanWhole_append ['0'] ('.' :: '0' :: rest) (by decide) (by simp)
  have value : Numeral.value? ⟨true, ['0'], some ['0'], none⟩ = some (.float (.zero true)) := by
    have zero : scaleBy (Double.ofNat 0) (-1) = some (.zero false) := by
      rw [scaleBy]
      decide +kernel
    have significand : (Significand.whole ⟨0, 0⟩ false ['0']).fraction ['0'] = ⟨0, -1⟩ := rfl
    simp [Numeral.value?, significand, Significand.toDouble?, zero]
    rfl
  simp [scanNumber, scanNumeral, whole, fraction, scanExponent_closed closed, value, bind,
    Except.bind, pure, Except.pure]

/-- The reader finds a whole number in its numeral. -/
theorem scanNumber_numeral {n : Number} (h : n.Whole) {rest : List Char} (closed : Closed rest) :
    scanNumber (numeral n ++ rest) = (.number n, .ok rest) := by
  cases h with
  | negativeZero => exact scanNumber_negativeZero closed
  | @integer n low high =>
    cases n with
    | ofNat n =>
      have found := (scanNumeral_whole (Text.isCanonical_toDigits n) closed).1
      have value := significand_toDigits (n := n) (by simp at high; omega)
      simp [scanNumber, numeral, Nat.toList_repr, found, Numeral.value?, value]
    | negSucc n =>
      have found := (scanNumeral_whole (Text.isCanonical_toDigits (n + 1)) closed).2
      have value := significand_toDigits (n := n + 1) (by omega)
      have fits : ¬ (n + 1 = 0 ∨ 1 <<< 63 < n + 1) := by simp; omega
      simp only [numeral, Nat.toList_repr, scanNumber, found, Numeral.value?, value, fits]
      simp [Int.negSucc_eq]

/-! ## Values -/

theorem numeral_eq_cons {n : Number} (h : n.Whole) :
    ∃ c cs, numeral n = c :: cs ∧ (c = '-' ∨ c.isDigit) := by
  cases h with
  | negativeZero => exact ⟨_, _, rfl, .inl rfl⟩
  | @integer n _ _ =>
    cases n with
    | negSucc n => exact ⟨_, _, rfl, .inl rfl⟩
    | ofNat n =>
      obtain ⟨nonempty, digit, -⟩ := Text.isCanonical_iff.mp (Text.isCanonical_toDigits n)
      obtain ⟨c, cs, heq⟩ := List.exists_cons_of_ne_nil nonempty
      exact ⟨c, cs, by rw [numeral, Nat.toList_repr, heq], .inr (digit c (by simp [heq]))⟩

theorem begins_of_isDigit {P : Char → Prop} (digits : ∀ n, 48 ≤ n → n ≤ 57 → P (Char.ofNat n))
    (sign : P '-') {c : Char} (h : c = '-' ∨ c.isDigit) : P c := by
  rcases h with rfl | h
  · exact sign
  · obtain ⟨low, high⟩ := Text.toNat_of_isDigit h
    exact Char.ofNat_toNat c ▸ digits c.toNat low high

/-- What is spelled begins neither with a blank nor with a bracket that closes. -/
theorem spelled_eq_cons {v : Json} {text : List Char} (h : Spelled v text) :
    ∃ c cs, text = c :: cs ∧ isBlank c = false ∧ c ≠ ']' := by
  unfold Spelled at h
  split at h
  · exact ⟨_, _, h, rfl, by decide⟩
  · exact ⟨_, _, h, rfl, by decide⟩
  · exact ⟨_, _, h, rfl, by decide⟩
  · obtain ⟨whole, rfl⟩ := h
    obtain ⟨c, cs, heq, first⟩ := numeral_eq_cons whole
    refine ⟨c, cs, heq, ?_⟩
    refine begins_of_isDigit (P := fun c => isBlank c = false ∧ c ≠ ']') (fun n low high => ?_)
      (by decide) first
    interval_cases n <;> decide
  · obtain ⟨body, -, rfl⟩ := h
    exact ⟨_, _, rfl, rfl, by decide⟩
  · obtain ⟨gap, -, rfl⟩ := h
    exact ⟨_, _, rfl, rfl, by decide⟩
  · obtain ⟨gap, core, tail, -, -, -, rfl⟩ := h
    exact ⟨_, _, rfl, rfl, by decide⟩
  · obtain ⟨gap, -, rfl⟩ := h
    exact ⟨_, _, rfl, rfl, by decide⟩
  · obtain ⟨gap, core, tail, -, -, -, rfl⟩ := h
    exact ⟨_, _, rfl, rfl, by decide⟩

theorem scanValue_numeral {c : Char} (h : c = '-' ∨ c.isDigit) (fuel : Nat) (cs : List Char) :
    scanValue (fuel + 1) (c :: cs) = scanNumber (c :: cs) := by
  refine begins_of_isDigit (P := fun c => scanValue (fuel + 1) (c :: cs) = scanNumber (c :: cs))
    (fun n low high => ?_) rfl h
  interval_cases n <;> rfl

theorem scanValue_blanks {gap : List Char} (h : Blanks gap) (fuel : Nat) (rest : List Char) :
    scanValue fuel (gap ++ rest) = scanValue fuel rest := by
  cases fuel with
  | zero => rfl
  | succ fuel => rw [scanValue, skipBlanks_append h, scanValue]

theorem spelledItems_closed {rest : List Json} {tail : List Char} (h : SpelledItems rest tail)
    (after : List Char) : Closed (tail ++ after) ∧ 0 < tail.length := by
  cases rest with
  | nil =>
    obtain ⟨gap, blanks, rfl⟩ := h
    rw [List.append_assoc]
    exact ⟨closed_append blanks (by simp [closed_cons]), by simp⟩
  | cons item rest =>
    obtain ⟨before, gap, core, tail, blanks, -, -, -, rfl⟩ := h
    simp only [List.append_assoc, List.cons_append]
    exact ⟨closed_append blanks (by simp [closed_cons]), by simp⟩

theorem spelledMembers_closed {rest : List (String × Json)} {tail : List Char}
    (h : SpelledMembers rest tail) (after : List Char) :
    Closed (tail ++ after) ∧ 0 < tail.length := by
  cases rest with
  | nil =>
    obtain ⟨gap, blanks, rfl⟩ := h
    rw [List.append_assoc]
    exact ⟨closed_append blanks (by simp [closed_cons]), by simp⟩
  | cons m rest =>
    obtain ⟨before, gap, core, tail, blanks, -, -, -, rfl⟩ := h
    simp only [List.append_assoc, List.cons_append]
    exact ⟨closed_append blanks (by simp [closed_cons]), by simp⟩

-- By recursion on the value. Every item and member costs a character at least, so two rounds for
-- each character are enough. What follows a value matters only for numbers, which it has to end.
mutual

/-- The reader takes the text that spells a value, and finds the value. -/
theorem scanValue_spelled : ∀ {v : Json} {text : List Char}, Spelled v text →
    ∀ {fuel : Nat} {rest : List Char}, 2 * text.length < fuel → Closed rest →
      scanValue fuel (text ++ rest) = (.ofJson v, .ok rest)
  | v, text, h, 0, _, enough, _ => absurd enough (Nat.not_lt_zero _)
  | .null, text, h, fuel + 1, rest, _, _ => by
    rw [Spelled] at h
    subst h
    rfl
  | .bool true, text, h, fuel + 1, rest, _, _ => by
    rw [Spelled] at h
    subst h
    rfl
  | .bool false, text, h, fuel + 1, rest, _, _ => by
    rw [Spelled] at h
    subst h
    rfl
  | .number n, text, h, fuel + 1, rest, _, closed => by
    rw [Spelled] at h
    obtain ⟨whole, rfl⟩ := h
    have read := scanNumber_numeral whole closed
    obtain ⟨c, cs, heq, first⟩ := numeral_eq_cons whole
    rw [heq, List.cons_append] at read ⊢
    rw [scanValue_numeral first, read, Written.ofJson]
  | .string s, text, h, fuel + 1, rest, _, _ => by
    rw [Spelled] at h
    obtain ⟨body, rfl, read⟩ := scanString_spelled h
    rw [List.cons_append, scanValue, skipBlanks_cons rfl]
    simp [read, Written.ofJson]
  | .array [], text, h, fuel + 1, rest, _, _ => by
    rw [Spelled] at h
    obtain ⟨gap, blanks, rfl⟩ := h
    simp [scanValue, skipBlanks_cons (c := '[') rfl, skipBlanks_append blanks,
      skipBlanks_cons (c := ']') rfl, Written.ofJson, Written.ofItems]
  | .array (item :: items), text, h, fuel + 1, rest, enough, _ => by
    rw [Spelled] at h
    obtain ⟨gap, core, tail, blanks, first, later, rfl⟩ := h
    obtain ⟨closed, longer⟩ := spelledItems_closed later rest
    obtain ⟨c, cs, heq, notBlank, notBracket⟩ := spelled_eq_cons first
    simp only [List.length_append, List.length_cons] at enough
    obtain ⟨fuel, rfl⟩ : ∃ f, fuel = f + 1 := ⟨fuel - 1, by omega⟩
    have read : scanValue fuel (core ++ (tail ++ rest)) = _ :=
      scanValue_spelled first (by omega) closed
    have items := scanItems_spelled later read (by omega)
    simp only [List.append_assoc, List.cons_append, heq] at items ⊢
    rw [scanValue, skipBlanks_cons rfl]
    simp [skipBlanks_append blanks, skipBlanks_cons notBlank, notBracket, items, Rest.stop,
      Written.ofJson, Written.ofItems]
  | .object [], text, h, fuel + 1, rest, _, _ => by
    rw [Spelled] at h
    obtain ⟨gap, blanks, rfl⟩ := h
    simp [scanValue, skipBlanks_cons (c := '{') rfl, skipBlanks_append blanks,
      skipBlanks_cons (c := '}') rfl, Written.ofJson, Written.ofMembers]
  | .object ((key, value) :: members), text, h, fuel + 1, rest, enough, _ => by
    rw [Spelled] at h
    obtain ⟨gap, _, tail, blanks, ⟨name, before, after, core, quoted, blanks', blanks'', first,
      rfl⟩, later, rfl⟩ := h
    obtain ⟨closed, longer⟩ := spelledMembers_closed later rest
    obtain ⟨body, rfl, key⟩ := scanString_spelled quoted
    simp only [List.length_append, List.length_cons] at enough
    obtain ⟨fuel, rfl⟩ : ∃ f, fuel = f + 1 := ⟨fuel - 1, by omega⟩
    have read : scanValue fuel (core ++ (tail ++ rest)) = _ :=
      scanValue_spelled first (by omega) closed
    rw [← scanValue_blanks blanks''] at read
    have members := scanMembers_spelled later (key _)
      ((skipBlanks_append blanks' _).trans (skipBlanks_cons rfl _)) read (by omega)
    simp only [List.append_assoc, List.cons_append]
    rw [scanValue, skipBlanks_cons rfl]
    simp [skipBlanks_append blanks, skipBlanks_cons (c := '"') rfl, members, Rest.stop,
      Written.ofJson, Written.ofMembers]

-- The first item is read by the time that the others are looked at; it is a hypothesis here, as its
-- text is not part of theirs.
/-- Spelled items are read one by one up to the closing bracket. -/
theorem scanItems_spelled : ∀ {items : List Json} {tail : List Char}, SpelledItems items tail →
    ∀ {fuel : Nat} {cs rest : List Char} {first : Written},
      scanValue fuel cs = (first, .ok (tail ++ rest)) → 2 * tail.length ≤ fuel + 1 →
      scanItems (fuel + 1) cs = (first :: Written.ofItems items, .ok rest)
  | [], tail, h, fuel, cs, rest, first, read, _ => by
    rw [SpelledItems] at h
    obtain ⟨gap, blanks, rfl⟩ := h
    simp [scanItems, read, skipBlanks_append blanks, skipBlanks_cons (c := ']') rfl,
      Written.ofItems]
  | item :: items, tail, h, fuel, cs, rest, first, read, enough => by
    rw [SpelledItems] at h
    obtain ⟨before, after, core, tail, blanks, blanks', spelled, later, rfl⟩ := h
    obtain ⟨closed, longer⟩ := spelledItems_closed later rest
    obtain ⟨c, cs', heq, notBlank, notBracket⟩ := spelled_eq_cons spelled
    simp only [List.length_append, List.length_cons] at enough
    obtain ⟨fuel, rfl⟩ : ∃ f, fuel = f + 1 := ⟨fuel - 1, by omega⟩
    have next : scanValue fuel (core ++ (tail ++ rest)) = _ :=
      scanValue_spelled spelled (by omega) closed
    have others := scanItems_spelled later next (by omega)
    simp only [List.append_assoc, List.cons_append, heq] at others read
    rw [scanItems, read]
    simp [skipBlanks_append blanks, skipBlanks_cons (c := ',') rfl, skipBlanks_append blanks',
      skipBlanks_cons notBlank, notBracket, others, Written.ofItems]

/-- Spelled members are read one by one up to the closing brace. -/
theorem scanMembers_spelled : ∀ {members : List (String × Json)} {tail : List Char},
    SpelledMembers members tail →
    ∀ {fuel : Nat} {cs cs' cs'' rest : List Char} {key : String} {first : Written},
      scanString true [] cs = (.ok key, .ok cs') → skipBlanks cs' = ':' :: cs'' →
      scanValue fuel cs'' = (first, .ok (tail ++ rest)) → 2 * tail.length ≤ fuel + 1 →
      scanMembers (fuel + 1) cs = ((.ok key, first) :: Written.ofMembers members, .ok rest)
  | [], tail, h, fuel, cs, cs', cs'', rest, key, first, name, colon, read, _ => by
    rw [SpelledMembers] at h
    obtain ⟨gap, blanks, rfl⟩ := h
    simp [scanMembers, name, colon, read, skipBlanks_append blanks,
      skipBlanks_cons (c := '}') rfl, Written.ofMembers]
  | (key', value) :: members, tail, h, fuel, cs, cs', cs'', rest, key, first, name, colon, read,
      enough => by
    rw [SpelledMembers] at h
    obtain ⟨gap, gap', _, tail, blanks, blanks', ⟨name', before, after, core, quoted, blanksBefore,
      blanksAfter, spelled, rfl⟩, later, rfl⟩ := h
    obtain ⟨closed, longer⟩ := spelledMembers_closed later rest
    obtain ⟨body, rfl, next⟩ := scanString_spelled quoted
    simp only [List.length_append, List.length_cons] at enough
    obtain ⟨fuel, rfl⟩ : ∃ f, fuel = f + 1 := ⟨fuel - 1, by omega⟩
    have found : scanValue fuel (core ++ (tail ++ rest)) = _ :=
      scanValue_spelled spelled (by omega) closed
    rw [← scanValue_blanks blanksAfter] at found
    have others := scanMembers_spelled later (next _)
      ((skipBlanks_append blanksBefore _).trans (skipBlanks_cons rfl _)) found (by omega)
    simp only [List.append_assoc, List.cons_append] at others read
    rw [scanMembers, name]
    simp only [colon]
    rw [read]
    simp [skipBlanks_append blanks, skipBlanks_cons (c := ',') rfl, skipBlanks_append blanks',
      skipBlanks_cons (c := '"') rfl, others, Written.ofMembers]

end

end ConformanceGate.Json
