import ConformanceGate.Failure
import ConformanceGate.System.Request

/-!
# Programs

A program ends with a value or asks the system and goes on with the reply. What it does under a
system is `Program.run`; what it may do under any system is `Program.Runs`, which lists the
requests of a run with their replies. Loops without a bound of their own take a number of rounds,
after which the program gives up. What is written to the log is left out, but not what is asked for
it.
-/

namespace ConformanceGate

/-- A program that asks the system and ends with an `α`. -/
inductive Program (α : Type) : Type
  | done (value : α)
  | ask (request : Request) (next : request.Reply → Program α)
  /-- Nothing comes out: a loop went through all its rounds, or the clock comes to its end while a
  child is being stopped. -/
  | exhausted

namespace Program

def bind (p : Program α) (f : α → Program β) : Program β :=
  match p with
  | .done a => f a
  | .ask r k => .ask r fun reply => (k reply).bind f
  | .exhausted => .exhausted

instance : Monad Program where
  pure := .done
  bind := bind

def request (r : Request) : Program r.Reply := .ask r .done

/-! ## Requests by name -/

def readFile (path : String) : Program (Except SystemError String) := request (.readFile path)

def writeFile (path text : String) : Program (Except SystemError Unit) :=
  request (.writeFile path text)

def createDirs (path : String) : Program (Except SystemError Unit) := request (.createDirs path)

def isFile (path : String) : Program Bool := request (.isFile path)

def isThere (path : String) : Program Bool := request (.isThere path)

def now : Program Nat := request .now

def sleep (duration : Nat) : Program Unit := request (.sleep duration)

def handleSignal (number : Nat) : Program (Except SystemError Unit) :=
  request (.handleSignal number)

def interrupted : Program Bool := request .interrupted

def groupAlive (process : Nat) : Program Bool := request (.groupAlive process)

def printLine (line : String) : Program Unit := request (.print (line ++ "\n"))

def warnLine (line : String) : Program Unit := request (.warn (line ++ "\n"))

/-! ## Laws -/

@[simp] theorem done_bind (a : α) (f : α → Program β) : (done a).bind f = f a := rfl

@[simp] theorem ask_bind (r : Request) (k : r.Reply → Program α) (f : α → Program β) :
    (ask r k).bind f = ask r fun reply => (k reply).bind f := rfl

@[simp] theorem exhausted_bind (f : α → Program β) :
    (exhausted : Program α).bind f = exhausted := rfl

theorem bind_assoc (p : Program α) (f : α → Program β) (g : β → Program γ) :
    (p.bind f).bind g = p.bind fun a => (f a).bind g := by
  induction p with
  | done a => rfl
  | ask r k ih => simp only [ask_bind, ih]
  | exhausted => rfl

/-- A request and the reply it got. -/
structure Event where
  request : Request
  reply : request.Reply

/-- `Runs p events a`: the program may ask the requests of `events`, get the replies noted there,
and end with `a`. -/
inductive Runs : Program α → List Event → α → Prop
  | done (a : α) : Runs (done a) [] a
  | ask {r : Request} {k : r.Reply → Program α} {reply : r.Reply} {events : List Event} {a : α} :
      Runs (k reply) events a → Runs (ask r k) (⟨r, reply⟩ :: events) a

theorem Runs.bind {p : Program α} {f : α → Program β} {events events' : List Event} {a : α} {b : β}
    (hp : Runs p events a) (hf : Runs (f a) events' b) : Runs (p.bind f) (events ++ events') b := by
  induction hp with
  | done a => exact hf
  | ask _ ih => exact .ask (ih hf)

/-- A system answers requests and changes while doing so. -/
abbrev Host (σ : Type) := σ → (r : Request) → r.Reply × σ

/-- Runs a program under a system; no value comes out if it gives up. -/
def run (host : Host σ) (p : Program α) (state : σ) : Option α × σ :=
  match p with
  | .done a => (some a, state)
  | .ask r k => let (reply, state) := host state r; (k reply).run host state
  | .exhausted => (none, state)

end Program

abbrev Action (α : Type) := ExceptT Failure Program α

namespace Action

def ofProgram (p : Program (Except Failure α)) : Action α := ExceptT.mk p

def toProgram (t : Action α) : Program (Except Failure α) := ExceptT.run t

/-- A program that cannot fail, as an action. -/
def lift (p : Program α) : Action α := ExceptT.lift p

def ofExcept (e : Except Failure α) : Action α := ExceptT.mk (pure e)

/-- A request that may be refused; `context` tells what was tried. -/
def attempt (context : String) (p : Program (Except SystemError α)) : Action α :=
  ExceptT.mk do return (← p).mapError (.system context)

def ofFlaw (e : Except Flaw α) : Action α := ofExcept (e.mapError .config)

end Action
end ConformanceGate
