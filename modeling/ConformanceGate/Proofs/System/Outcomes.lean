import ConformanceGate.Proofs.System.Traces
import Mathlib.Data.List.Forall2

/-!
# How programs end

What a program may end with is shown along the program (`Program.Ends`) and then holds of all its
runs; for an action it is mostly the kind of its failures that matters (`Action.Fails`). Two
programs that differ in nothing but the texts that they print (`Program.Retells`) end alike,
whatever the replies are.
-/

namespace ConformanceGate

variable {α β : Type}

namespace Program

variable {events front back : List Event}

theorem bind_done (p : Program α) : p.bind done = p := by
  induction p with
  | done a => rfl
  | ask r k ih => simp only [ask_bind, ih]
  | exhausted => rfl

instance : LawfulMonad Program := .mk' Program bind_done (fun _ _ => rfl) bind_assoc

/-- Whatever the replies are, the program ends with a good value, if it ends. -/
def Ends (good : α → Prop) : Program α → Prop
  | .done a => good a
  | .ask _ k => ∀ reply, (k reply).Ends good
  | .exhausted => True

/-- What holds of every end of a continuation holds of every end of the whole. -/
theorem Ends.bind {good : α → Prop} {good' : β → Prop} {p : Program α} {f : α → Program β}
    (hp : p.Ends good) (hf : ∀ a, good a → (f a).Ends good') : (p.bind f).Ends good' := by
  induction p with
  | done a => exact hf a hp
  | ask r k ih => exact fun reply => ih reply (hp reply)
  | exhausted => trivial

theorem Ends.mono {good good' : α → Prop} {p : Program α} (h : p.Ends good)
    (more : ∀ a, good a → good' a) : p.Ends good' := by
  induction p with
  | done a => exact more a h
  | ask r k ih => exact fun reply => ih reply (h reply)
  | exhausted => trivial

/-- What a program ends with is of no concern to what follows. -/
theorem Ends.after {good : β → Prop} (p : Program α) {f : α → Program β}
    (hf : ∀ a, (f a).Ends good) : (p.bind f).Ends good := by
  have anyhow : p.Ends fun _ => True := by
    induction p with
    | done a => trivial
    | ask r k ih => exact ih
    | exhausted => trivial
  exact anyhow.bind fun a _ => hf a

/-- The end of a run is one of those that a program may have. -/
theorem Runs.good_of_ends {good : α → Prop} {p : Program α} {a : α} (h : Runs p events a)
    (ends : p.Ends good) : good a := by
  induction h with
  | done a => exact ends
  | ask _ ih => exact ih (ends _)

/-- A program ends as the events make it end, and its continuation has the events that are left. -/
theorem Runs.resume {p : Program α} {f : α → Program β} {a : α} {b : β}
    (h : Runs (p.bind f) (front ++ back) b) (first : Runs p front a) : Runs (f a) back b := by
  induction first with
  | done a => exact h
  | ask _ ih =>
    obtain ⟨reply, rest, same, hrest⟩ := runs_ask_iff.mp h
    obtain ⟨rfl, rfl⟩ : _ ∧ _ := by simpa using same
    exact ih hrest

/-! ## Programs that tell the same in other words -/

/-- The programs ask for the same and end with the same, but for the texts that they print. -/
inductive Retells : Program α → Program α → Prop
  | done (a : α) : Retells (done a) (done a)
  | ask {r : Request} {k k' : r.Reply → Program α} :
      (∀ reply, Retells (k reply) (k' reply)) → Retells (ask r k) (ask r k')
  | print {text text' : String} {k k' : Unit → Program α} :
      Retells (k ()) (k' ()) → Retells (ask (.print text) k) (ask (.print text') k')
  | exhausted : Retells exhausted exhausted

theorem Retells.refl (p : Program α) : p.Retells p := by
  induction p with
  | done a => exact .done a
  | ask r k ih => exact .ask ih
  | exhausted => exact .exhausted

/-- Programs that differ in what they print may be continued by such programs. -/
theorem Retells.bind {p p' : Program α} {f f' : α → Program β} (hp : p.Retells p')
    (hf : ∀ a, (f a).Retells (f' a)) : (p.bind f).Retells (p'.bind f') := by
  induction hp with
  | done a => exact hf a
  | ask _ ih => exact .ask ih
  | print _ ih => exact .print ih
  | exhausted => exact .exhausted

/-- The events are the same, or both print. -/
inductive Event.Retells : Event → Event → Prop
  | same (e : Event) : Event.Retells e e
  | print (text text' : String) : Event.Retells ⟨.print text, ()⟩ ⟨.print text', ()⟩

/-- On the same replies the programs end with the same. -/
theorem Retells.runs {p p' : Program α} {a : α} (same : p.Retells p') (h : Runs p events a) :
    ∃ events', Runs p' events' a ∧ List.Forall₂ Event.Retells events events' := by
  induction same generalizing events with
  | done b =>
    obtain ⟨rfl, rfl⟩ := runs_done_iff.mp h
    exact ⟨[], .done a, .nil⟩
  | ask _ ih =>
    obtain ⟨reply, rest, rfl, hrest⟩ := runs_ask_iff.mp h
    obtain ⟨rest', ran, alike⟩ := ih reply hrest
    exact ⟨_, .ask ran, .cons (.same _) alike⟩
  | print _ ih =>
    obtain ⟨⟨⟩, rest, rfl, hrest⟩ := runs_ask_iff.mp h
    obtain ⟨rest', ran, alike⟩ := ih hrest
    exact ⟨_, .ask ran, .cons (.print _ _) alike⟩
  | exhausted => exact (not_runs_exhausted h).elim

end Program

/-! ## Failures of actions -/

namespace Action

open Program

variable {kind : Failure → Prop}

/-- Every failure that the action may end with is of a kind. -/
def Fails (kind : Failure → Prop) (t : Action α) : Prop :=
  t.toProgram.Ends fun outcome => ∀ failure, outcome = .error failure → kind failure

theorem fails_pure (a : α) : (pure a : Action α).Fails kind := nofun

theorem fails_lift (p : Program α) : (lift p).Fails kind := Ends.after p fun _ => nofun

theorem fails_mapError {ε : Type} {e : Except ε α} {f : ε → Failure} (h : ∀ x, kind (f x)) :
    (ofExcept (e.mapError f)).Fails kind := by
  intro failure refused
  cases e with
  | error x =>
    obtain rfl := Except.error.inj refused
    exact h x
  | ok a => cases refused

theorem fails_attempt {context : String} {p : Program (Except SystemError α)}
    (h : ∀ e, kind (.system context e)) : (attempt context p).Fails kind :=
  Ends.after p fun _ => fails_mapError h

theorem fails_ofExcept {e : Except Failure α} (h : ∀ failure, e = .error failure → kind failure) :
    (ofExcept e).Fails kind := h

theorem fails_ofFlaw {e : Except Flaw α} (h : ∀ flaw, kind (.config flaw)) :
    (ofFlaw e).Fails kind := fails_mapError h

theorem fails_bind {t : Action α} {f : α → Action β} (ht : t.Fails kind)
    (hf : ∀ a, (f a).Fails kind) : (t >>= f).Fails kind := by
  unfold Fails
  rw [toProgram_bind]
  refine Ends.bind ht fun found passed => ?_
  cases found with
  | error failure =>
    intro failure' same
    obtain rfl := Except.error.inj same
    exact passed failure rfl
  | ok a => exact hf a

/-- What an action fails with in a run is of the kind. -/
theorem Fails.runs {t : Action α} {events : List Event} {failure : Failure} (h : t.Fails kind)
    (ran : Runs t.toProgram events (.error failure)) : kind failure :=
  ran.good_of_ends h failure rfl

/-- An action that has come to a value goes on with the events that are left. -/
theorem resume {γ : Type} {t : Action α} {f : α → Action β} {g : Except Failure β → Program γ}
    {events front back : List Event} {a : α} {c : γ}
    (h : Runs ((t >>= f).toProgram.bind g) events c) (first : Runs t.toProgram front (.ok a))
    (split : events = front ++ back) : Runs ((f a).toProgram.bind g) back c := by
  rw [toProgram_bind, Program.bind_assoc, split] at h
  exact h.resume first

theorem retells_bind {t t' : Action α} {f f' : α → Action β}
    (ht : t.toProgram.Retells t'.toProgram)
    (hf : ∀ a, (f a).toProgram.Retells (f' a).toProgram) :
    (t >>= f).toProgram.Retells (t' >>= f').toProgram := by
  rw [toProgram_bind, toProgram_bind]
  refine ht.bind fun found => ?_
  cases found with
  | error failure => exact .refl _
  | ok a => exact hf a

end Action
end ConformanceGate
