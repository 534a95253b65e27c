import ConformanceGate.Proofs.Text.Decimal
import ConformanceGate.Proofs.Text.Split
import ConformanceGate.Spec.Address
import Mathlib.Data.List.Infix

/-!
# Authorities and their addresses

An accepted url is a scheme, an authority and what follows it. The address has a host and a port,
and what follows the authority does not matter. The address is its own address in both schemes,
except where a bracket is opened that is closed neither in front of a port nor at the end
(`Spec.socketAddress_again`): such an authority gets one more port each time.
-/

namespace ConformanceGate

namespace Spec

/-! ## Brackets -/

theorem portAfterBracket?_eq_none_iff {cs : List Char} :
    portAfterBracket? cs = none ↔ ¬ [']', ':'] <:+: cs := by
  induction cs with
  | nil => simp [portAfterBracket?]
  | cons c cs ih =>
    have here : [']', ':'] <+: c :: cs ↔ c = ']' ∧ cs.head? = some ':' := by
      cases cs <;> simp [List.cons_prefix_cons, eq_comm]
    rw [List.infix_cons_iff, here, not_or, ← ih, portAfterBracket?]
    cases portAfterBracket? cs <;> simp

/-- The port stands after the last bracket with a colon behind it. -/
theorem portAfterBracket?_append (front : List Char) {port : List Char} (h : ':' ∉ port) :
    portAfterBracket? (front ++ ']' :: ':' :: port) = some port := by
  have later : portAfterBracket? (':' :: port) = none := by
    refine portAfterBracket?_eq_none_iff.mpr fun found => ?_
    rcases List.infix_cons_iff.mp found with found | found
    · simp [List.cons_prefix_cons] at found
    · exact h (found.subset (by simp))
  induction front with
  | nil =>
    rw [List.nil_append, portAfterBracket?, later]
    simp
  | cons c front ih => rw [List.cons_append, portAfterBracket?, ih]

theorem eq_append_of_portAfterBracket? {cs port : List Char}
    (h : portAfterBracket? cs = some port) : ∃ front, cs = front ++ ']' :: ':' :: port := by
  induction cs with
  | nil => cases h
  | cons c cs ih =>
    rw [portAfterBracket?] at h
    split at h
    case h_1 later =>
      cases h
      obtain ⟨front, rfl⟩ := ih later
      exact ⟨c :: front, rfl⟩
    case h_2 =>
      obtain ⟨⟨rfl, colon⟩, ⟨⟩⟩ := Option.ite_none_right_eq_some.mp h
      obtain ⟨port, rfl⟩ := List.head?_eq_some_iff.mp colon
      exact ⟨[], rfl⟩

/-- With a port behind it, a text has a bracket in front of a colon exactly if it had one or its
last character is a bracket. -/
theorem infix_append_port {cs port : List Char} (h : ':' ∉ port) :
    [']', ':'] <:+: cs ++ ':' :: port ↔ [']', ':'] <:+: cs ∨ [']'] <:+ cs := by
  induction cs with
  | nil =>
    have absent : ¬ [']', ':'] <:+: port := fun found => h (found.subset (by simp))
    simp [List.infix_cons_iff, List.cons_prefix_cons, absent]
  | cons c cs ih =>
    rw [List.cons_append, List.infix_cons_iff, ih, List.infix_cons_iff, List.suffix_cons_iff]
    cases cs with
    | nil => simp [List.cons_prefix_cons]
    | cons d cs => simp [List.cons_prefix_cons, or_assoc]

/-! ## Addresses -/

def schemes : List (String × String) := [("ws://", "80"), ("wss://", "443")]

theorem mem_schemes {scheme usual : String} :
    (scheme, usual) ∈ schemes ↔
      scheme = "ws://" ∧ usual = "80" ∨ scheme = "wss://" ∧ usual = "443" := by
  simp [schemes]

/-- A scheme is read exactly if it stands in front. -/
theorem scheme?_eq_some_iff {url rest : List Char} {port : String} :
    scheme? url = some (rest, port) ↔
      ∃ scheme, (scheme, port) ∈ schemes ∧ url = scheme.toList ++ rest := by
  have apart : ∀ rest rest', "ws://".toList ++ rest ≠ "wss://".toList ++ rest' := by simp
  simp only [mem_schemes]
  rw [scheme?]
  split
  case h_1 found =>
    obtain rfl := Text.after?_eq_some_iff.mp found
    constructor
    · rintro ⟨⟩
      exact ⟨_, .inl ⟨rfl, rfl⟩, rfl⟩
    · rintro ⟨_, ⟨rfl, rfl⟩ | ⟨rfl, rfl⟩, same⟩
      · rw [List.append_cancel_left same]
      · exact absurd same (apart _ _)
  case h_2 missing =>
    rw [Option.map_eq_some_iff]
    constructor
    · rintro ⟨_, found, ⟨⟩⟩
      exact ⟨_, .inr ⟨rfl, rfl⟩, Text.after?_eq_some_iff.mp found⟩
    · rintro ⟨_, ⟨rfl, rfl⟩ | ⟨rfl, rfl⟩, same⟩
      · rw [Text.after?_eq_some_iff.mpr same] at missing
        cases missing
      · exact ⟨_, Text.after?_eq_some_iff.mpr same, rfl⟩

/-- The address of an authority, which is completed with the port `usual` if it has none. -/
inductive Addressed (usual : String) : List Char → List Char → Prop
  | bracketPort (front port : List Char) {n : UInt16} (valid : Text.port? port = some n) :
      Addressed usual ('[' :: front ++ ']' :: ':' :: port) ('[' :: front ++ ']' :: ':' :: port)
  | bracket (more : List Char) (bare : ¬ [']', ':'] <:+: '[' :: more) :
      Addressed usual ('[' :: more) ('[' :: more ++ ':' :: usual.toList)
  | hostPort {c : Char} (more port : List Char) {n : UInt16} (plain : c ≠ '[')
      (valid : Text.port? port = some n) :
      Addressed usual (c :: more ++ ':' :: port) (c :: more ++ ':' :: port)
  | host {c : Char} (more : List Char) (plain : c ≠ '[') (bare : ':' ∉ c :: more) :
      Addressed usual (c :: more) (c :: more ++ ':' :: usual.toList)

theorem Addressed.of_bracketPort {usual : String} {more port : List Char} {n : UInt16}
    (found : portAfterBracket? ('[' :: more) = some port) (valid : Text.port? port = some n) :
    Addressed usual ('[' :: more) ('[' :: more) := by
  obtain ⟨front, same⟩ := eq_append_of_portAfterBracket? found
  cases front with
  | nil => cases same
  | cons c front =>
    obtain ⟨rfl, rfl⟩ := List.cons.inj same
    exact .bracketPort front port valid

/-- A host and a valid port are an address as they are. -/
theorem Addressed.of_hostPort {usual : String} {authority host port : List Char} {n : UInt16}
    (plain : ∀ more, authority ≠ '[' :: more) (named : host ≠ [])
    (found : Text.splitLast? ':' authority = some (host, port)) (valid : Text.port? port = some n) :
    Addressed usual authority authority := by
  obtain ⟨rfl, -⟩ := Text.splitLast?_eq_some_iff.mp found
  obtain ⟨c, more, rfl⟩ := List.exists_cons_of_ne_nil named
  have other : c ≠ '[' := by
    rintro rfl
    exact plain _ rfl
  exact .hostPort more port other valid

/-- A host alone gets the usual port. -/
theorem Addressed.of_host {usual : String} {authority : List Char} (nonempty : authority ≠ [])
    (plain : ∀ more, authority ≠ '[' :: more) (bare : Text.splitLast? ':' authority = none) :
    Addressed usual authority (authority ++ ':' :: usual.toList) := by
  obtain ⟨c, more, rfl⟩ := List.exists_cons_of_ne_nil nonempty
  have other : c ≠ '[' := by
    rintro rfl
    exact plain _ rfl
  exact .host more other (Text.splitLast?_eq_none_iff.mp bare)

/-- What may follow an authority: nothing, or what starts with a character that ends it. -/
def Follows (rest : List Char) : Prop := ∀ c ∈ rest.head?, endsAuthority c

/-- The authority ends where the path, the query or the fragment begins. -/
theorem takeWhile_authority {authority rest : List Char}
    (inside : ∀ c ∈ authority, ¬ endsAuthority c) (follows : Follows rest) :
    (authority ++ rest).takeWhile (fun c => !endsAuthority c) = authority := by
  have none : rest.takeWhile (fun c => !endsAuthority c) = [] := by
    cases rest with
    | nil => rfl
    | cons c rest => simpa using follows c rfl
  rw [List.takeWhile_append_of_pos (by simpa using inside), none, List.append_nil]

theorem follows_dropWhile (cs : List Char) :
    Follows (cs.dropWhile fun c => !endsAuthority c) := by
  intro c hc
  have stopped := List.head?_dropWhile_not (fun c => !endsAuthority c) cs
  rw [Option.mem_def.mp hc] at stopped
  simpa using stopped

theorem toList_completed (authority : List Char) (usual : String) :
    (String.ofList authority ++ ":" ++ usual).toList = authority ++ ':' :: usual.toList := by
  simp

section Accepted

variable {url scheme usual a : String} {authority rest : List Char}

/-- A url with an authority that has an address is accepted with that address. -/
theorem Addressed.socketAddress (address : Addressed usual authority a.toList)
    (known : (scheme, usual) ∈ schemes) (same : url.toList = scheme.toList ++ (authority ++ rest))
    (inside : ∀ c ∈ authority, ¬ endsAuthority c) (follows : Follows rest) :
    socketAddress url = .ok a := by
  rw [Spec.socketAddress, scheme?_eq_some_iff.mpr ⟨scheme, known, same⟩]
  dsimp only
  rw [takeWhile_authority inside follows]
  generalize text : a.toList = cs at address
  obtain rfl : a = String.ofList cs := by rw [← text, String.ofList_toList]
  cases address with
  | bracketPort front port valid =>
    have after := portAfterBracket?_append ('[' :: front) (Text.colon_notMem_of_port? valid)
    rw [List.cons_append] at after ⊢
    simp only [after, Option.elim_some, valid]
  | bracket more bare =>
    simp only [portAfterBracket?_eq_none_iff.mpr bare, Option.elim_none]
    rw [← toList_completed, String.ofList_toList]
  | @hostPort c more port _ plain valid =>
    have cut := Text.splitLast?_append (c :: more) (Text.colon_notMem_of_port? valid)
    rw [List.cons_append] at cut ⊢
    split
    case h_1 empty => cases empty
    case h_2 bracket => exact absurd (List.cons.inj bracket).1 plain
    case h_3 => simp only [cut, valid]
  | @host c more plain bare =>
    split
    case h_1 empty => cases empty
    case h_2 bracket => exact absurd (List.cons.inj bracket).1 plain
    case h_3 =>
      simp only [Text.splitLast?_eq_none_iff.mpr bare]
      rw [← toList_completed, String.ofList_toList]

/-- An accepted url has an authority, and the address is the one of the authority. -/
theorem addressed_of_socketAddress (h : socketAddress url = .ok a) :
    ∃ scheme usual, (scheme, usual) ∈ schemes ∧ ∃ authority rest : List Char,
      url.toList = scheme.toList ++ (authority ++ rest) ∧ (∀ c ∈ authority, ¬ endsAuthority c) ∧
        Follows rest ∧ Addressed usual authority a.toList := by
  rw [socketAddress] at h
  split at h
  case h_1 => cases h
  case h_2 rest usual found =>
    obtain ⟨scheme, known, same⟩ := scheme?_eq_some_iff.mp found
    refine ⟨scheme, usual, known, rest.takeWhile fun c => !endsAuthority c,
      rest.dropWhile fun c => !endsAuthority c, ?_, ?_, follows_dropWhile _, ?_⟩
    · rw [List.takeWhile_append_dropWhile, same]
    · exact fun c hc => by simpa using List.mem_takeWhile_imp hc
    · generalize rest.takeWhile _ = authority at h
      dsimp only at h
      split at h
      case h_1 => cases h
      case h_2 more =>
        cases found : portAfterBracket? ('[' :: more) with
        | none =>
          rw [found] at h
          cases h
          rw [toList_completed]
          exact .bracket more (portAfterBracket?_eq_none_iff.mp found)
        | some port =>
          simp only [found, Option.elim_some] at h
          split at h
          case h_1 valid =>
            cases h
            rw [String.toList_ofList]
            exact .of_bracketPort found valid
          case h_2 => cases h
      case h_3 nonempty plain =>
        split at h
        case h_1 bare =>
          cases h
          rw [toList_completed]
          exact .of_host nonempty plain bare
        case h_2 => cases h
        case h_3 named found =>
          split at h
          case h_1 valid =>
            cases h
            rw [String.toList_ofList]
            exact .of_hostPort plain named found valid
          case h_2 => cases h

end Accepted

/-! ## Addresses of addresses -/

theorem exists_port_of_mem_schemes {scheme usual : String} (h : (scheme, usual) ∈ schemes) :
    ∃ n, Text.port? usual.toList = some n := by
  rcases mem_schemes.mp h with ⟨-, rfl⟩ | ⟨-, rfl⟩
  · exact ⟨80, by decide⟩
  · exact ⟨443, by decide⟩

theorem not_endsAuthority_of_port? {port : List Char} {n : UInt16} (h : Text.port? port = some n) :
    ∀ c ∈ port, ¬ endsAuthority c := by
  intro c hc
  simp only [endsAuthority, Bool.or_eq_true, beq_iff_eq]
  rintro ((rfl | rfl) | rfl) <;> rcases Text.digit_of_port? h _ hc with plus | digit <;>
    contradiction

theorem inside_append_port {host port : List Char} {n : UInt16}
    (inside : ∀ c ∈ host, ¬ endsAuthority c) (valid : Text.port? port = some n) :
    ∀ c ∈ host ++ ':' :: port, ¬ endsAuthority c := by
  intro c hc
  rcases List.mem_append.mp hc with hc | hc
  · exact inside c hc
  · rcases List.mem_cons.mp hc with rfl | hc
    · decide
    · exact not_endsAuthority_of_port? valid c hc

/-- A bracket is opened that is closed neither in front of a port nor at the end. -/
def Unclosed (authority : List Char) : Prop :=
  authority.head? = some '[' ∧ ¬ [']', ':'] <:+: authority ∧ ¬ [']'] <:+ authority

namespace Addressed

variable {usual usual' : String} {authority a : List Char} {n : UInt16}

theorem eq_or_eq (address : Addressed usual authority a) :
    a = authority ∨ a = authority ++ ':' :: usual.toList := by
  cases address <;> simp

/-- An address is a host and a port. -/
theorem hostAndPort (address : Addressed usual authority a)
    (valid : Text.port? usual.toList = some n) :
    ∃ host port m, a = host ++ ':' :: port ∧ host ≠ [] ∧ Text.port? port = some m := by
  cases address with
  | bracketPort front port given => exact ⟨'[' :: front ++ [']'], port, _, by simp, by simp, given⟩
  | bracket more bare => exact ⟨_, _, _, rfl, by simp, valid⟩
  | hostPort more port plain given => exact ⟨_, _, _, rfl, by simp, given⟩
  | host more plain bare => exact ⟨_, _, _, rfl, by simp, valid⟩

theorem inside (address : Addressed usual authority a) (valid : Text.port? usual.toList = some n)
    (h : ∀ c ∈ authority, ¬ endsAuthority c) : ∀ c ∈ a, ¬ endsAuthority c := by
  rcases address.eq_or_eq with rfl | rfl
  · exact h
  · exact inside_append_port h valid

/-- An address with its brackets closed has a port already. -/
theorem again (address : Addressed usual authority a) (valid : Text.port? usual.toList = some n)
    (closed : ¬ Unclosed authority) : Addressed usual' a a := by
  cases address with
  | bracketPort front port given => exact .bracketPort front port given
  | bracket more bare =>
    have last : [']'] <:+ '[' :: more := by
      by_contra unfinished
      exact closed ⟨rfl, bare, unfinished⟩
    -- The bracket at the end and the colon of the usual port stand in front of a port.
    obtain ⟨front, same⟩ := last
    cases front with
    | nil => cases same
    | cons c front =>
      obtain ⟨rfl, rfl⟩ := List.cons.inj same
      simpa using bracketPort front usual.toList valid
  | hostPort more port plain given => exact .hostPort more port plain given
  | host more plain bare => exact .hostPort more usual.toList plain valid

/-- An address with a bracket that is not closed gets another port. -/
theorem extended (address : Addressed usual authority a) (valid : Text.port? usual.toList = some n)
    (unclosed : Unclosed authority) : Addressed usual' a (a ++ ':' :: usual'.toList) := by
  obtain ⟨bracket, bare, unfinished⟩ := unclosed
  cases address with
  | bracketPort front port given => exact absurd ⟨'[' :: front, port, by simp⟩ bare
  | bracket more =>
    refine .bracket (more ++ ':' :: usual.toList) fun found => ?_
    rw [← List.cons_append, infix_append_port (Text.colon_notMem_of_port? valid)] at found
    exact found.elim bare unfinished
  | hostPort more port plain given => exact absurd (Option.some.inj bracket) plain
  | host more plain => exact absurd (Option.some.inj bracket) plain

end Addressed

/-- An accepted url is a scheme, an authority and what follows it. The address is that authority,
with the usual port if it has none, and consists of a host and a port. It does not change with what
follows the authority, and in each scheme it is its own address, unless the authority opens a
bracket and does not close it in front of a port or at the end. -/
theorem socketAddress_again {url a : String} (h : socketAddress url = .ok a) :
    ∃ scheme usual authority rest : String, (scheme, usual) ∈ schemes ∧
      url = scheme ++ authority ++ rest ∧ (∀ c ∈ authority.toList, ¬ endsAuthority c) ∧
      Follows rest.toList ∧ (a = authority ∨ a = authority ++ ":" ++ usual) ∧
      (∃ host port n, a = host ++ ":" ++ port ∧ host ≠ "" ∧ Text.port? port.toList = some n) ∧
      (∀ rest' : String, Follows rest'.toList →
        socketAddress (scheme ++ authority ++ rest') = .ok a) ∧
      ∀ s ∈ schemes, socketAddress (s.1 ++ a) = .ok a ↔ ¬ Unclosed authority.toList := by
  obtain ⟨scheme, usual, known, authority, rest, same, inside, follows, address⟩ :=
    addressed_of_socketAddress h
  obtain ⟨n, valid⟩ := exists_port_of_mem_schemes known
  obtain ⟨host, port, m, parts, named, given⟩ := address.hostAndPort valid
  have reached {s usual' b : String} (known' : (s, usual') ∈ schemes)
      (again : Addressed usual' a.toList b.toList) : socketAddress (s ++ a) = .ok b :=
    again.socketAddress known' (by simp : (s ++ a).toList = s.toList ++ (a.toList ++ []))
      (address.inside valid inside) (by simp [Follows])
  refine ⟨scheme, usual, String.ofList authority, String.ofList rest, known,
    ?_, ?_, ?_, ?_, ?_, ?_, ?_⟩
  · rw [← String.toList_inj, same]
    simp
  · simpa using inside
  · simpa using follows
  · simpa [← String.toList_inj] using address.eq_or_eq
  · refine ⟨String.ofList host, String.ofList port, m, ?_, ?_, ?_⟩
    · simp [← String.toList_inj, parts]
    · simpa [← String.toList_inj] using named
    · simpa using given
  · intro rest' follows'
    exact address.socketAddress known (by simp) inside follows'
  · rintro ⟨s, usual'⟩ known'
    rw [String.toList_ofList]
    constructor
    · intro same unclosed
      have longer : Addressed usual' a.toList (a ++ ":" ++ usual').toList := by
        simpa using address.extended valid unclosed
      rw [reached known' longer] at same
      simp [← String.toList_inj] at same
    · exact fun closed => reached known' (address.again valid closed)

/-- A host without a port, whose address is its own. -/
theorem socketAddress_again_default :
    socketAddress "ws://[::1]/chat" = .ok "[::1]:80" ∧
      ∀ s ∈ schemes, socketAddress (s.1 ++ "[::1]:80") = .ok "[::1]:80" := by
  have accepted : socketAddress "ws://[::1]/chat" = .ok "[::1]:80" := by cbv
  obtain ⟨scheme, usual, authority, rest, known, -, -, -, address, -, -, again⟩ :=
    socketAddress_again accepted
  refine ⟨accepted, fun s hs => (again s hs).mpr ?_⟩
  rintro ⟨-, bare, unfinished⟩
  rcases address with rfl | address
  · exact bare (by decide)
  · rw [← String.toList_inj] at address
    rcases mem_schemes.mp known with ⟨-, rfl⟩ | ⟨-, rfl⟩
    · have same : "[::1]".toList ++ ":80".toList = authority.toList ++ ":80".toList := by
        simpa using address
      exact unfinished (List.append_cancel_right same ▸ by decide)
    · have same := congrArg List.reverse address
      simp at same

/-- A bracket that is opened and not closed: each address is completed once more. -/
theorem socketAddress_again_unclosed :
    socketAddress "ws://[::1" = .ok "[::1:80" ∧
      socketAddress "ws://[::1:80" = .ok "[::1:80:80" := by
  constructor <;> cbv

end Spec
end ConformanceGate
