import Grass.Guarantee.Session
import Grass.Refinement.Connection
import Grass.Refinement.Refines

namespace Grass

open Transition

namespace Lobby

universe u v

variable {P : Type u} {G : Type v}

/-- Nobody has come yet; there may be records. -/
def Empty (lobby : Lobby P G) : Prop :=
  ∀ party, lobby.stage party = .unborn ∧ lobby.seat party = none ∧ ¬ lobby.present party

variable [DecidableEq P] [DecidableEq G]

/-- The moves of all parties, each with what it is about. -/
def moves (rules : Rules P G) : Transition.Step (Lobby P G) (P × Intent G) :=
  fun before move after => Move rules move.2 move.1 before after

end Lobby

namespace Cluster

variable {cluster : Cluster}

/-- Redis fails only where faults are granted. -/
def Failing (fault : Prop) : Transition.Step Cluster Action := fun _ action _ =>
  ¬ fault → action.Healthy

theorem Fresh.lobby_empty (fresh : cluster.Fresh) : cluster.lobby.Empty := by
  intro party
  obtain ⟨vacant, unborn⟩ := fresh.empty party
  obtain ⟨tasks, started⟩ := fresh party.shardId
  exact ⟨unborn, vacant, by simp [lobby, World.places, started, Node.fresh]⟩

/-- Whatever the processes and their clients do, in any order: what the records, entries and
handlers stand for goes, step for step, through a run of the lobby protocol, in which each
move is the acting connection's and is what its step is about. Where Redis never fails, none
of them is a move of a failing Redis. -/
theorem lobby_refined (fault : Prop) (start : Cluster) (fresh : start.Fresh)
    (trace : List (Action × Cluster)) (path : Path (steps.when (Failing fault)) start trace) :
    start.lobby.Empty ∧ Path (Lobby.moves (rules fault)) start.lobby
      (traced Cluster.lobby (fun before action => (action.party, before.intent action)) start
        trace) := by
  have sound : ∀ between, Reach Fresh (steps.when (Failing fault)) between →
      between.Sound fault ∅ := fun between earlier =>
    reached_sound (fun _ fresh => ⟨fresh, fun _ none => none.elim⟩)
      (fun _ _ _ step => step) earlier
  refine ⟨fresh.lobby_empty, path.simulated ?_ (.start fresh)⟩
  intro before action after earlier step
  exact (sound before earlier).move step.2 step.1

/-- A guest enters a game, and nothing fails. -/
theorem lobby_refined_pair : ∃ trace : List (Action × Cluster),
    trace.map Prod.fst = pair "a" "17" 1 2 ∧
    Path (Lobby.moves (rules False)) (launch emptyRedis []).lobby
      (traced Cluster.lobby (fun before action => (action.party, before.intent action))
        (launch emptyRedis []) trace) := by
  have through : (run (guarded (fun _ action => decide action.Healthy) step)
      (launch emptyRedis []) (pair "a" "17" 1 2)).isSome = true := by decide +kernel
  obtain ⟨final, ran⟩ := Option.isSome_iff_exists.mp through
  obtain ⟨trace, path, same⟩ := run_path _ ran
  have healthy : Path (steps.when (Failing False)) (launch emptyRedis []) trace := by
    refine path.mono fun before action after step => ?_
    obtain ⟨guards, stepped⟩ := guarded_eq_some.mp step
    exact ⟨stepped, fun _ => of_decide_eq_true guards⟩
  exact ⟨trace, same, (lobby_refined False _ (launch_fresh emptyRedis []) trace healthy).2⟩

end Cluster

end Grass
