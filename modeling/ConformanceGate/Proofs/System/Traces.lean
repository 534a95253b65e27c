import ConformanceGate.Proofs.Except
import ConformanceGate.System.Program

/-!
# Runs of programs

A run of a program is taken apart along the program: a request is answered first, and a program that
goes on with another one has a run of either, one after the other. What a program may ask at all is
`Program.Asks`; it limits the events of all its runs.
-/

namespace ConformanceGate

variable {α β : Type}

namespace Program

variable {events : List Event}

@[simp] theorem pure_eq (a : α) : (pure a : Program α) = done a := rfl

@[simp] theorem bind_eq (p : Program α) (f : α → Program β) : p >>= f = p.bind f := rfl

/-! ## Events by name -/

namespace Event

def clock (time : Nat) : Event := ⟨.now, time⟩

def spawned (launch : Launch) (process : Nat) : Event := ⟨.spawn launch, .ok process⟩

def refused (launch : Launch) (e : SystemError) : Event := ⟨.spawn launch, .error e⟩

def polled (process : Nat) (found : Except SystemError (Option ExitStatus)) : Event :=
  ⟨.poll process, found⟩

def waited (process : Nat) (status : Option ExitStatus) : Event := ⟨.wait process, status⟩

/-- A signal was sent to the group of a process, and reached something or nothing. -/
def signaled (process : Nat) (signal : Signal) (reached : Bool) : Event :=
  ⟨.signal process signal, reached⟩

def groupFound (process : Nat) (alive : Bool) : Event := ⟨.groupAlive process, alive⟩

def slept (duration : Nat) : Event := ⟨.sleep duration, ()⟩

def interrupt (raised : Bool) : Event := ⟨.interrupted, raised⟩

def bound (endpoint : String) : Event := ⟨.bind endpoint, .ok ()⟩

def connected (endpoint : String) (limit : Nat) : Event := ⟨.connect endpoint limit, true⟩

def fileRead (path text : String) : Event := ⟨.readFile path, .ok text⟩

def fileFound (path : String) (there : Bool) : Event := ⟨.isFile path, there⟩

end Event

/-! ## Taking runs apart -/

@[simp] theorem runs_done_iff {a b : α} : Runs (done a) events b ↔ events = [] ∧ b = a := by
  constructor
  · rintro ⟨⟩
    exact ⟨rfl, rfl⟩
  · rintro ⟨rfl, rfl⟩
    exact .done b

theorem runs_done_pair_iff {a a' : α} {b b' : β} :
    Runs (done (a, b)) events (a', b') ↔ events = [] ∧ a' = a ∧ b' = b := by
  rw [runs_done_iff, Prod.mk.injEq]

@[simp] theorem runs_ask_iff {r : Request} {k : r.Reply → Program α} {a : α} :
    Runs (ask r k) events a ↔
      ∃ reply rest, events = ⟨r, reply⟩ :: rest ∧ Runs (k reply) rest a := by
  constructor
  · rintro ⟨⟩
    exact ⟨_, _, rfl, ‹_›⟩
  · rintro ⟨reply, rest, rfl, h⟩
    exact .ask h

@[simp] theorem not_runs_exhausted {a : α} : ¬ Runs exhausted events a := by
  rintro ⟨⟩

/-- A program with a continuation has a run of its own first, and then one of the continuation. -/
theorem runs_bind_iff {p : Program α} {f : α → Program β} {b : β} :
    Runs (p.bind f) events b ↔
      ∃ a front back, Runs p front a ∧ Runs (f a) back b ∧ events = front ++ back := by
  constructor
  · intro h
    induction p generalizing events with
    | done a => exact ⟨a, [], events, .done a, h, rfl⟩
    | ask r k ih =>
      obtain ⟨reply, rest, rfl, hrest⟩ := runs_ask_iff.mp h
      obtain ⟨a, front, back, hfront, hback, rfl⟩ := ih reply hrest
      exact ⟨a, ⟨r, reply⟩ :: front, back, .ask hfront, hback, rfl⟩
    | exhausted => exact (not_runs_exhausted h).elim
  · rintro ⟨a, front, back, hfront, hback, rfl⟩
    exact hfront.bind hback

/-- A program that only adds a last computation has the runs of the program before it. -/
theorem runs_bind_done_iff {p : Program α} {g : α → β} {b : β} :
    Runs (p.bind fun a => done (g a)) events b ↔ ∃ a, Runs p events a ∧ b = g a := by
  rw [runs_bind_iff]
  constructor
  · rintro ⟨a, front, back, h, hback, rfl⟩
    obtain ⟨rfl, rfl⟩ := runs_done_iff.mp hback
    exact ⟨a, by simpa using h, rfl⟩
  · rintro ⟨a, h, rfl⟩
    exact ⟨a, events, [], h, .done _, by simp⟩

theorem runs_now_bind_iff {f : Nat → Program α} {a : α} :
    Runs (now.bind f) events a ↔
      ∃ time rest, events = .clock time :: rest ∧ Runs (f time) rest a := runs_ask_iff

theorem runs_sleep_bind_iff {duration : Nat} {f : Unit → Program α} {a : α} :
    Runs ((sleep duration).bind f) events a ↔
      ∃ rest, events = .slept duration :: rest ∧ Runs (f ()) rest a := by
  constructor
  · intro h
    obtain ⟨_, rest, rfl, hrest⟩ := runs_ask_iff.mp h
    exact ⟨rest, rfl, hrest⟩
  · rintro ⟨rest, rfl, h⟩
    exact .ask h

theorem runs_interrupted_bind_iff {f : Bool → Program α} {a : α} :
    Runs (interrupted.bind f) events a ↔
      ∃ raised rest, events = .interrupt raised :: rest ∧ Runs (f raised) rest a := runs_ask_iff

theorem runs_groupAlive_bind_iff {process : Nat} {f : Bool → Program α} {a : α} :
    Runs ((groupAlive process).bind f) events a ↔
      ∃ alive rest, events = .groupFound process alive :: rest ∧ Runs (f alive) rest a :=
  runs_ask_iff

theorem runs_isFile_bind_iff {path : String} {f : Bool → Program α} {a : α} :
    Runs ((isFile path).bind f) events a ↔
      ∃ there rest, events = .fileFound path there :: rest ∧ Runs (f there) rest a := runs_ask_iff

/-! ## What is asked at all -/

/-- Every request of the program is of a kind. -/
def Asks (kind : Request → Prop) : Program α → Prop
  | .done _ => True
  | .ask r k => kind r ∧ ∀ reply, (k reply).Asks kind
  | .exhausted => True

theorem Asks.request {kind : Request → Prop} {r : Request} (h : kind r) : (request r).Asks kind :=
  ⟨h, fun _ => trivial⟩

/-- A program asks for what its parts ask for. -/
theorem Asks.bind {kind : Request → Prop} {p : Program α} {f : α → Program β} (hp : p.Asks kind)
    (hf : ∀ a, (f a).Asks kind) : (p.bind f).Asks kind := by
  induction p with
  | done a => exact hf a
  | ask r k ih => exact ⟨hp.1, fun reply => ih reply (hp.2 reply)⟩
  | exhausted => trivial

theorem Asks.mono {kind kind' : Request → Prop} {p : Program α} (hp : p.Asks kind)
    (h : ∀ r, kind r → kind' r) : p.Asks kind' := by
  induction p with
  | done a => trivial
  | ask r k ih => exact ⟨h r hp.1, fun reply => ih reply (hp.2 reply)⟩
  | exhausted => trivial

/-- All events of a run are of the kind that the program asks. -/
theorem Runs.all_of_asks {kind : Request → Prop} {p : Program α} {a : α} (h : Runs p events a)
    (hp : p.Asks kind) : ∀ e ∈ events, kind e.request := by
  induction h with
  | done a => simp
  | ask _ ih =>
    intro e he
    rcases List.mem_cons.mp he with rfl | he
    · exact hp.1
    · exact ih (hp.2 _) e he

end Program

/-! ## Actions -/

namespace Action

open Program

variable {events : List Event}

@[simp] theorem runs_ofExcept_iff {e outcome : Except Failure α} :
    Runs (ofExcept e).toProgram events outcome ↔ events = [] ∧ outcome = e := runs_done_iff

@[simp] theorem runs_ofFlaw_iff {e : Except Flaw α} {outcome : Except Failure α} :
    Runs (ofFlaw e).toProgram events outcome ↔ events = [] ∧ outcome = e.mapError .config :=
  runs_done_iff

@[simp] theorem runs_lift_iff {p : Program α} {outcome : Except Failure α} :
    Runs (lift p).toProgram events outcome ↔ ∃ a, Runs p events a ∧ outcome = .ok a := by
  have unfolded : (lift p).toProgram = p.bind fun a => .done (.ok a) := rfl
  rw [unfolded, runs_bind_done_iff]

/-- An attempt runs as its program does, and a refusal becomes its failure. -/
@[simp] theorem runs_attempt_iff {context : String} {p : Program (Except SystemError α)}
    {outcome : Except Failure α} :
    Runs (attempt context p).toProgram events outcome ↔
      ∃ reply, Runs p events reply ∧ outcome = reply.mapError (.system context) := by
  have unfolded : (attempt context p).toProgram =
      p.bind fun reply => .done (reply.mapError (.system context)) := rfl
  rw [unfolded, runs_bind_done_iff]

theorem toProgram_bind (t : Action α) (f : α → Action β) :
    (t >>= f).toProgram = t.toProgram.bind fun
      | .ok a => (f a).toProgram
      | .error failure => .done (.error failure) := by
  refine congrArg t.toProgram.bind (funext fun found => ?_)
  cases found <;> rfl

/-- An action ends with a failure of its own, or goes on and ends as its continuation does. -/
theorem runs_bind_iff {t : Action α} {f : α → Action β} {outcome : Except Failure β} :
    Runs (t >>= f).toProgram events outcome ↔
      (∃ failure, Runs t.toProgram events (.error failure) ∧ outcome = .error failure) ∨
      ∃ a front back, Runs t.toProgram front (.ok a) ∧ Runs (f a).toProgram back outcome ∧
        events = front ++ back := by
  rw [toProgram_bind, Program.runs_bind_iff]
  constructor
  · rintro ⟨failure | a, front, back, hfront, hback, rfl⟩
    · obtain ⟨rfl, rfl⟩ := runs_done_iff.mp hback
      exact .inl ⟨failure, by simpa using hfront, rfl⟩
    · exact .inr ⟨a, front, back, hfront, hback, rfl⟩
  · rintro (⟨failure, h, rfl⟩ | ⟨a, front, back, hfront, hback, rfl⟩)
    · exact ⟨.error failure, events, [], h, .done _, by simp⟩
    · exact ⟨.ok a, front, back, hfront, hback, rfl⟩

/-- An action that begins with a file, and ends well, has read the file. -/
theorem runs_readFile_bind_iff {context path : String} {f : String → Action β} {b : β} :
    Runs (attempt context (readFile path) >>= f).toProgram events (.ok b) ↔
      ∃ text rest, events = .fileRead path text :: rest ∧ Runs (f text).toProgram rest (.ok b) := by
  rw [runs_bind_iff]
  constructor
  · rintro (⟨failure, -, failed⟩ | ⟨text, front, rest, hread, hrest, rfl⟩)
    · cases failed
    · obtain ⟨reply, hreply, hok⟩ := runs_attempt_iff.mp hread
      obtain ⟨found, nothing, rfl, hdone⟩ := runs_ask_iff.mp hreply
      obtain ⟨rfl, rfl⟩ := runs_done_iff.mp hdone
      obtain rfl := Except.ok_eq_mapError.mp hok
      exact ⟨text, rest, rfl, hrest⟩
  · rintro ⟨text, rest, rfl, hrest⟩
    exact .inr ⟨text, [.fileRead path text], rest,
      runs_attempt_iff.mpr ⟨.ok text, .ask (.done _), rfl⟩, hrest, rfl⟩

theorem asks_bind {kind : Request → Prop} {t : Action α} {f : α → Action β}
    (ht : t.toProgram.Asks kind) (hf : ∀ a, (f a).toProgram.Asks kind) :
    (t >>= f).toProgram.Asks kind := by
  rw [toProgram_bind]
  refine ht.bind fun found => ?_
  cases found with
  | error failure => trivial
  | ok a => exact hf a

end Action
end ConformanceGate
