import ConformanceGate.Proofs.System.Traces

/-!
# Runs under a host

Under a host a program visits states: each request is made in one of them, and leads to the next
(`Program.visits`). What comes to be during a run comes to be while some request is answered
(`Program.exists_visit_of_changed`). Where looking at files changes none of them, a program that
only reads files ends as the files make it end (`Program.Host.Agree.run_eq`).
-/

namespace ConformanceGate

namespace Program

variable {σ α β : Type} {host : Host σ} {s s' t : σ}

/-- The requests of a run, each with the state in which it is made. -/
def visits (host : Host σ) : Program α → σ → List (σ × Request)
  | .done _, _ => []
  | .ask r k, s => (s, r) :: visits host (k (host s r).1) (host s r).2
  | .exhausted, _ => []

def Host.answer (host : Host σ) (v : σ × Request) : Event := ⟨v.2, (host v.1 v.2).1⟩

def trace (host : Host σ) (p : Program α) (s : σ) : List Event :=
  (p.visits host s).map host.answer

/-- What a host makes of a program is a run of it. -/
theorem runs_trace {p : Program α} {a : α} (h : p.run host s = (some a, s')) :
    Runs p (p.trace host s) a := by
  induction p generalizing s with
  | done b =>
    cases h
    exact .done a
  | ask r k ih => exact .ask (ih _ h)
  | exhausted => cases h

/-- Under every host a program asks only for what it may ask. -/
theorem forall_visits_of_asks {kind : Request → Prop} {p : Program α} (h : p.Asks kind) (s : σ) :
    ∀ v ∈ p.visits host s, kind v.2 := by
  induction p generalizing s with
  | done a => simp [visits]
  | ask r k ih =>
    intro v hv
    rcases List.mem_cons.mp hv with rfl | hv
    · exact h.1
    · exact ih _ (h.2 _) _ v hv
  | exhausted => simp [visits]

/-- What does not hold at first and holds when some request is made has come to hold while a request
was answered. -/
theorem exists_visit_of_changed (holds : σ → Prop) {p : Program α} (start : ¬ holds s)
    {v : σ × Request} (hv : v ∈ p.visits host s) (later : holds v.1) :
    ∃ u ∈ p.visits host s, ¬ holds u.1 ∧ holds (host u.1 u.2).2 := by
  induction p generalizing s with
  | done a => simp [visits] at hv
  | ask r k ih =>
    -- Either the first answer brings it about, or it is missing when the rest of the run starts.
    by_cases next : holds (host s r).2
    · exact ⟨(s, r), List.mem_cons_self, start, next⟩
    · rcases List.mem_cons.mp hv with rfl | hv
      · exact absurd later start
      · obtain ⟨u, hu, changed⟩ := ih _ next hv
        exact ⟨u, List.mem_cons_of_mem _ hu, changed⟩
  | exhausted => simp [visits] at hv

/-! ## Programs that come to an end -/

/-- Whatever the replies are, the program does not give up. -/
def Halts : Program α → Prop
  | .done _ => True
  | .ask _ k => ∀ reply, (k reply).Halts
  | .exhausted => False

theorem Halts.bind {p : Program α} {f : α → Program β} (hp : p.Halts) (hf : ∀ a, (f a).Halts) :
    (p.bind f).Halts := by
  induction p with
  | done a => exact hf a
  | ask r k ih => exact fun reply => ih reply (hp reply)
  | exhausted => exact hp.elim

/-- A program that halts comes to an end under every host. -/
theorem Halts.run {p : Program α} (h : p.Halts) (host : Host σ) (s : σ) :
    ∃ a s', p.run host s = (some a, s') := by
  induction p generalizing s with
  | done a => exact ⟨a, s, rfl⟩
  | ask r k ih => exact ih _ (h _) _
  | exhausted => exact h.elim

/-! ## Looking at files -/

/-- What a file is read as in a state. -/
def Host.reading (host : Host σ) (s : σ) (path : String) : Except SystemError String :=
  (host s (.readFile path)).1

/-- Whether a path leads to a file in a state. -/
def Host.hasFile (host : Host σ) (s : σ) (path : String) : Bool := (host s (.isFile path)).1

end Program

/-- A request that only looks at files. -/
def Request.Looks : Request → Prop
  | .readFile _ | .isFile _ | .isThere _ => True
  | _ => False

def Request.Reads (r : Request) : Prop := ∃ path, r = .readFile path

namespace Program

variable {σ α : Type} {host : Host σ} {s s' t : σ}

/-- However often files are looked at, they are read as they are now. -/
def Host.AtRest (host : Host σ) (s : σ) : Prop :=
  ∀ looks : List Request, (∀ r ∈ looks, r.Looks) →
    host.reading (looks.foldl (fun s r => (host s r).2) s) = host.reading s

theorem Host.AtRest.reading_eq (rest : host.AtRest s) {r : Request} (looks : r.Looks) :
    host.reading (host s r).2 = host.reading s :=
  rest [r] (by simpa using looks)

/-- Looking at files at rest leaves them at rest. -/
theorem Host.AtRest.next (rest : host.AtRest s) {r : Request} (looks : r.Looks) :
    host.AtRest (host s r).2 := by
  intro more hmore
  have all := rest (r :: more) (List.forall_mem_cons.mpr ⟨looks, hmore⟩)
  exact all.trans (rest.reading_eq looks).symm

/-- Two states in which the files are at rest, and are read as the same. -/
structure Host.Agree (host : Host σ) (s t : σ) : Prop where
  left : host.AtRest s
  right : host.AtRest t
  reading : host.reading s = host.reading t

theorem Host.AtRest.agree (rest : host.AtRest s) : host.Agree s s := ⟨rest, rest, rfl⟩

theorem Host.Agree.symm (same : host.Agree s t) : host.Agree t s :=
  ⟨same.right, same.left, same.reading.symm⟩

theorem Host.Agree.next (same : host.Agree s t) {r : Request} (looks : r.Looks) :
    host.Agree s (host t r).2 :=
  ⟨same.left, same.right.next looks, same.reading.trans (same.right.reading_eq looks).symm⟩

/-- A program that only reads files ends with the same in both states. -/
theorem Host.Agree.run_eq {p : Program α} (same : host.Agree s t) (asks : p.Asks Request.Reads) :
    (p.run host s).1 = (p.run host t).1 := by
  induction p generalizing s t with
  | done a => rfl
  | ask r k ih =>
    obtain ⟨⟨path, rfl⟩, later⟩ := asks
    have reply : (host s (.readFile path)).1 = (host t (.readFile path)).1 :=
      congrFun same.reading path
    have looks : (Request.readFile path).Looks := trivial
    -- The replies are equal, and so are the files that the rest of either run finds.
    have rest := ih (host s (.readFile path)).1 ((same.next looks).symm.next looks).symm (later _)
    exact rest.trans (by rw [reply]; rfl)
  | exhausted => rfl

end Program

theorem Action.halts_bind {α β : Type} {t : Action α} {f : α → Action β}
    (ht : t.toProgram.Halts) (hf : ∀ a, (f a).toProgram.Halts) : (t >>= f).toProgram.Halts := by
  rw [toProgram_bind]
  refine ht.bind fun found => ?_
  cases found with
  | error failure => trivial
  | ok a => exact hf a

end ConformanceGate
