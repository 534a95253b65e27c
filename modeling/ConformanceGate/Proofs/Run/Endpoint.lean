import ConformanceGate.Proofs.Run.Child
import ConformanceGate.Run.Endpoint

/-!
# Addresses and their endpoints

What a run of `Endpoint.resolve` may find is a relation between an address, what the system was
asked about it, and its endpoints. An address is free if all of them can be listened at, and is
connected to if one of them accepts.
-/

namespace ConformanceGate.Endpoint

open Program

variable {address : String} {endpoints : List String} {events : List Event}

/-- What an address stands for: a numeric one for itself, any other for a port of each address that
the system knows of its host, of which there is one at least. -/
inductive Resolves (address : String) : List Event → List String → Prop
  | numeric {endpoint : String} : numeric? address.toList = some endpoint →
      Resolves address [] [endpoint]
  | named {host digits : List Char} {port : UInt16} {hosts : List String} :
      numeric? address.toList = none → Text.splitLast? ':' address.toList = some (host, digits) →
      Text.port? digits = some port → hosts ≠ [] →
      Resolves address [⟨.lookup (String.ofList host), .ok hosts⟩]
        (hosts.map fun host => ofHost host port.toNat)

/-- Addresses that are found are those that the address stands for. -/
theorem resolves_of_runs (h : Runs (resolve address) events (.ok endpoints)) :
    Resolves address events endpoints := by
  unfold resolve at h
  split at h
  next endpoint hnumeric =>
    simp only [runs_done_iff, Except.ok.injEq] at h
    obtain ⟨rfl, rfl⟩ := h
    exact .numeric hnumeric
  next hnumeric =>
    split at h
    · simp at h
    next host digits hsplit =>
      split at h
      · simp at h
      next port hport =>
        split_ifs at h
        · simp at h
        · obtain ⟨reply, rest, rfl, hreply⟩ := runs_ask_iff.mp h
          rcases reply with reason | _ | ⟨host, hosts⟩
          · simp at hreply
          · simp at hreply
          · simp only [runs_done_iff, Except.ok.injEq] at hreply
            obtain ⟨rfl, rfl⟩ := hreply
            exact .named hnumeric hsplit hport (by simp)

/-- At a free address every endpoint can be listened at. -/
theorem bindAll_ok (h : Runs (bindAll endpoints) events (.ok ())) :
    ∀ endpoint ∈ endpoints, Event.bound endpoint ∈ events := by
  induction endpoints generalizing events with
  | nil => simp
  | cons first endpoints ih =>
    obtain ⟨reply, rest, rfl, hreply⟩ := runs_ask_iff.mp h
    rcases reply with e | _
    · simp at hreply
    · intro endpoint hmem
      rcases List.mem_cons.mp hmem with rfl | hmem
      · exact List.mem_cons_self
      · exact List.mem_cons_of_mem _ (ih hreply endpoint hmem)

/-- An address that is found to be free was bound at all its endpoints. -/
theorem ensureFree_ok (h : Runs (ensureFree address).toProgram events (.ok ())) :
    ∃ lookups endpoints binds, Resolves address lookups endpoints ∧ events = lookups ++ binds ∧
      ∀ endpoint ∈ endpoints, Event.bound endpoint ∈ binds := by
  obtain ⟨failure, -, hfailure⟩ | ⟨endpoints, lookups, binds, hresolve, hbind, rfl⟩ :=
    Action.runs_bind_iff.mp h
  · cases hfailure
  · exact ⟨lookups, endpoints, binds, resolves_of_runs hresolve, rfl, bindAll_ok hbind⟩

/-- Something accepts a connection if one of the endpoints does, as the last thing that is tried. -/
theorem connectAny_true {limit : Nat} (h : Runs (connectAny limit endpoints) events true) :
    ∃ endpoint ∈ endpoints, ∃ tried, events = tried ++ [.connected endpoint limit] := by
  induction endpoints generalizing events with
  | nil => simp [connectAny] at h
  | cons first endpoints ih =>
    obtain ⟨reply, rest, rfl, hreply⟩ := runs_ask_iff.mp h
    cases reply with
    | true =>
      obtain ⟨rfl, -⟩ := runs_done_iff.mp hreply
      exact ⟨first, by simp, [], rfl⟩
    | false =>
      obtain ⟨endpoint, hmem, tried, rfl⟩ := ih hreply
      exact ⟨endpoint, List.mem_cons_of_mem _ hmem, _ :: tried, rfl⟩

/-! ## Asking about addresses starts nothing -/

/-- A request that only asks about hosts and ports. -/
def Probes (r : Request) : Prop :=
  (∃ host, r = .lookup host) ∨ (∃ endpoint, r = .bind endpoint) ∨
    ∃ endpoint limit, r = .connect endpoint limit

theorem asks_resolve (address : String) : (resolve address).Asks Probes := by
  unfold resolve
  split
  · trivial
  · split
    · trivial
    · split
      · trivial
      · split_ifs
        · trivial
        · refine ⟨.inl ⟨_, rfl⟩, fun reply => ?_⟩
          rcases reply with _ | _ | _ <;> trivial

theorem asks_bindAll (endpoints : List String) : (bindAll endpoints).Asks Probes := by
  induction endpoints with
  | nil => trivial
  | cons endpoint endpoints ih =>
    refine ⟨.inr (.inl ⟨endpoint, rfl⟩), fun reply => ?_⟩
    rcases reply with _ | _
    · trivial
    · exact ih

theorem asks_connectAny (limit : Nat) (endpoints : List String) :
    (connectAny limit endpoints).Asks Probes := by
  induction endpoints with
  | nil => trivial
  | cons endpoint endpoints ih =>
    refine ⟨.inr (.inr ⟨endpoint, limit, rfl⟩), fun reply => ?_⟩
    cases reply with
    | true => trivial
    | false => exact ih

/-- Probing starts no process, and looks at no file. -/
theorem tends_of_probes {r : Request} (h : Probes r) : r.Tends := by
  rcases h with ⟨_, rfl⟩ | ⟨_, rfl⟩ | ⟨_, _, rfl⟩ <;> trivial

theorem tends_ensureFree (address : String) :
    (ensureFree address).toProgram.Asks Request.Tends :=
  Action.asks_bind ((asks_resolve address).mono fun _ => tends_of_probes) fun endpoints =>
    (asks_bindAll endpoints).mono fun _ => tends_of_probes

theorem asks_ensureFree (address : String) :
    (ensureFree address).toProgram.Asks Request.Spawnless :=
  (tends_ensureFree address).mono fun _ => Request.Tends.spawnless

end ConformanceGate.Endpoint
