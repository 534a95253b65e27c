import ConformanceGate.Proofs.Run.Child
import ConformanceGate.Run.Supervision

/-!
# Supervising two children

Supervision keeps track of both children, starts nothing, and ends well only with an exit status
that the first child is known to have.
-/

namespace ConformanceGate.Supervision

open Program

variable {primary primary' companion companion' : Child} {events : List Event}

/-- What watching keeps up, whatever it ends with: both children are kept track of, and an exit
status is that of the first one. -/
structure Watched (primary companion : Child) (events : List Event)
    (outcome : Except Failure ExitStatus) (primary' companion' : Child) : Prop where
  primary : primary.Tracks events primary'
  companion : companion.Tracks events companion'
  ended : ∀ status, outcome = .ok status → primary'.exit = some status

/-- A look at each child, and whatever else was asked for, before the watching fails. -/
theorem Watched.failed {looked looked' events : List Event} (f : Failure)
    (tracks : primary.Tracks looked primary') (tracks' : companion.Tracks looked' companion')
    (sub : looked ++ looked' ⊆ events) :
    Watched primary companion events (.error f) primary' companion' where
  primary := tracks.mono (List.append_subset.mp sub).1
  companion := tracks'.mono (List.append_subset.mp sub).2
  ended := by simp

/-- Watching keeps track of both children, whatever it ends with. -/
theorem watch_spec {deadline : Option Nat} {rounds : Nat} {outcome : Except Failure ExitStatus}
    (h : Runs (watch deadline rounds primary companion) events (outcome, primary', companion')) :
    Watched primary companion events outcome primary' companion' := by
  induction rounds generalizing primary companion events with
  | zero => exact (not_runs_exhausted h).elim
  | succ rounds ih =>
    simp only [watch, bind_eq, pure_eq] at h
    obtain ⟨⟨found, first⟩, looked, rest, hfirst, hafter, rfl⟩ := runs_bind_iff.mp h
    have tracks := Child.observe_tracks hfirst
    rcases found with failure | _ | status
    · simp only [runs_done_iff, Prod.mk.injEq] at hafter
      obtain ⟨rfl, rfl, rfl, rfl⟩ := hafter
      exact .failed failure tracks (.refl companion' []) (by simp)
    · obtain ⟨⟨found, second⟩, looked', rest, hsecond, hnext, rfl⟩ := runs_bind_iff.mp hafter
      have tracks' := Child.observe_tracks hsecond
      rcases found with failure | _ | status
      · simp only [runs_done_iff, Prod.mk.injEq] at hnext
        obtain ⟨rfl, rfl, rfl, rfl⟩ := hnext
        exact .failed failure tracks tracks' (by simp)
      · obtain ⟨raised, rest, rfl, hdue⟩ := runs_interrupted_bind_iff.mp hnext
        split_ifs at hdue
        · simp only [runs_done_iff, Prod.mk.injEq] at hdue
          obtain ⟨rfl, rfl, rfl, rfl⟩ := hdue
          exact .failed _ tracks tracks' (by simp)
        · obtain ⟨due, asked, rest, -, hloop, rfl⟩ := runs_bind_iff.mp hdue
          split_ifs at hloop
          · simp only [runs_done_iff, Prod.mk.injEq] at hloop
            obtain ⟨rfl, rfl, rfl, rfl⟩ := hloop
            exact .failed _ tracks tracks' (by simp)
          · -- Nothing has come up: what the looks found out is carried on to the next round.
            obtain ⟨rest, rfl, hagain⟩ := runs_sleep_bind_iff.mp hloop
            have later := ih hagain
            exact {
              primary := (tracks.trans later.primary).mono fun e he => by grind
              companion := (tracks'.trans later.companion).mono fun e he => by grind
              ended := later.ended }
      · simp only [runs_done_iff, Prod.mk.injEq] at hnext
        obtain ⟨rfl, rfl, rfl, rfl⟩ := hnext
        exact .failed _ tracks tracks' (by simp)
    · simp only [runs_done_iff, Prod.mk.injEq] at hafter
      obtain ⟨rfl, rfl, rfl, rfl⟩ := hafter
      refine ⟨by simpa using tracks, .refl _ _, fun status hs => ?_⟩
      cases hs
      exact Child.observe_some hfirst

/-- Supervision keeps track of both children, and ends well only with the exit status of the first
one. -/
theorem supervise_spec {limit : Option Nat} {rounds : Nat} {outcome : Except Failure ExitStatus}
    (h : Runs (supervise limit rounds primary companion) events
      (outcome, primary', companion')) :
    Watched primary companion events outcome primary' companion' := by
  cases limit with
  | none => exact watch_spec h
  | some limit =>
    simp only [supervise, bind_eq, pure_eq] at h
    obtain ⟨now, rest, rfl, hafter⟩ := runs_now_bind_iff.mp h
    split at hafter
    · simp only [runs_done_iff, Prod.mk.injEq] at hafter
      obtain ⟨rfl, rfl, rfl, rfl⟩ := hafter
      exact .failed _ (.refl primary' []) (.refl companion' []) (by simp)
    · have watched := watch_spec hafter
      exact ⟨watched.primary.mono fun e he => by simp [he],
        watched.companion.mono fun e he => by simp [he], watched.ended⟩

theorem tends_isOver (deadline : Option Nat) : (isOver deadline).Asks Request.Tends := by
  cases deadline with
  | none => trivial
  | some deadline => exact .request trivial

theorem tends_watch (deadline : Option Nat) (rounds : Nat) :
    (watch deadline rounds primary companion).Asks Request.Tends := by
  induction rounds generalizing primary companion with
  | zero => trivial
  | succ rounds ih =>
    refine Child.tends_observe.bind fun found => ?_
    rcases found with ⟨_ | _ | _, first⟩
    · trivial
    · refine Child.tends_observe.bind fun found => ?_
      rcases found with ⟨_ | _ | _, second⟩
      · trivial
      · refine Asks.bind (.request trivial) fun raised => ?_
        split_ifs
        · trivial
        · refine (tends_isOver deadline).bind fun due => ?_
          split_ifs
          · trivial
          · exact Asks.bind (.request trivial) fun _ => ih
      · trivial
    · trivial

/-- Supervision starts no process, and looks at no file. -/
theorem tends_supervise (limit : Option Nat) (rounds : Nat) :
    (supervise limit rounds primary companion).Asks Request.Tends := by
  cases limit with
  | none => exact tends_watch none rounds
  | some limit =>
    refine Asks.bind (.request trivial) fun now => ?_
    split
    · trivial
    · exact tends_watch _ rounds

end ConformanceGate.Supervision
