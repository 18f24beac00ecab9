import Grass.Lobby.Sequential
import Grass.Refinement.View

/-! Runs in which the connections take turns: each request, and each opening and
closing of a connection, is finished before another connection acts. -/

namespace Grass

open Lobby Transition

instance (action : Action) : Decidable action.lapses := by
  unfold Action.lapses
  split <;> infer_instance

/-- Every place where Redis may fail. -/
def RedisSite.all : List RedisSite :=
  [.joinPool, .joinGet, .joinSet, .joinGameGone, .joinHostGone, .joinForeignPool, .joinForeignDel,
    .createPool, .createSet, .existsPool, .existsGet, .existsDel, .shutdownPool, .shutdownDel,
    .dropPool, .dropDel, .registerPool, .registerSet, .unregisterPool, .unregisterDel]

instance (oracle : Oracle) : Decidable oracle.Healthy :=
  decidable_of_iff (∀ site ∈ RedisSite.all, oracle.fails site = false)
    ⟨fun calm site => calm site (by cases site <;> simp [RedisSite.all]), fun calm site _ => calm site⟩

instance (action : Action) : Decidable action.Healthy := by
  unfold Action.Healthy
  split <;> infer_instance

namespace Cluster

variable {fault : Prop} {known : Set Party} {cluster before after : Cluster} {action : Action}
  {party : Party} {shardId : ShardId}

/-- Any step of the cluster. -/
def steps : Transition.Step Cluster Action := Step.ofOption step

/-- A step in which Redis does not fail. -/
def healthySteps : Transition.Step Cluster Action := steps.when fun _ action _ => action.Healthy

/-- A step in turn, which is no timeout. -/
def turns : Transition.Step Cluster Action :=
  steps.when fun before action after =>
    Alone Action.party AtRest before action after ∧ ¬ action.lapses

/-- All connections of one process. -/
def shard (shardId : ShardId) : Set Party := {party | party.shardId = shardId}

/-- Processes that have just started, one of them with a shard id of its own: no
record in Redis has it. -/
def Started (shardId : ShardId) (cluster : Cluster) : Prop :=
  cluster.Fresh ∧
    ∀ key record, cluster.redis key = some (.game record) → record.shardId ≠ shardId

theorem Started.unnamed (started : cluster.Started shardId) : cluster.Unnamed (shard shardId) := by
  intro party member gameId named
  exact started.2 _ _ (record_iff.mp named) member

theorem Started.apart (started : cluster.Started shardId) :
    cluster.Fresh ∧ cluster.Unnamed (shard shardId) :=
  ⟨started.1, started.unnamed⟩

theorem Fresh.apart (fresh : cluster.Fresh) : cluster.Fresh ∧ cluster.Unnamed ∅ :=
  ⟨fresh, fun _ member => absurd member (Set.notMem_empty _)⟩

instance (cluster : Cluster) (action : Action) : Decidable (cluster.Ends action) := by
  unfold Ends
  split
  · infer_instance
  · exact decidable_of_iff ((cluster.requested action.party).any (·.2.op = .leave) = true)
      (by simp [Option.any_eq_true])
  · infer_instance

/-- A step leaves the reader and the phase of every other connection alone. -/
theorem step_other (stepped : before.step action = some after) (party : Party)
    (other : party ≠ action.party) :
    (after.node party.shardId).reader party.id = (before.node party.shardId).reader party.id ∧
      (after.node party.shardId).phase party.id = (before.node party.shardId).phase party.id := by
  have kept : ∀ redis node,
      (∀ id, id ≠ action.party.id →
        node.reader id = (before.node action.party.shardId).reader id ∧
        node.phase id = (before.node action.party.shardId).phase id) →
      ((before.setNode action.party.shardId redis node).node party.shardId).reader party.id =
          (before.node party.shardId).reader party.id ∧
        ((before.setNode action.party.shardId redis node).node party.shardId).phase party.id =
          (before.node party.shardId).phase party.id := by
    intro redis node others
    obtain ⟨shardId, id⟩ := party
    by_cases here : shardId = action.party.shardId
    · subst here
      have apart : id ≠ action.party.id := fun same => other (by rw [same])
      simpa [setNode] using others id apart
    · simp [setNode, here]
  obtain ⟨acting, kind⟩ := action
  cases step_does stepped with
  | severs => exact kept _ _ fun id _ => ⟨rfl, rfl⟩
  | _ =>
    refine kept _ _ fun id apart => ?_
    simp_all [Node.setWorld, Node.setReader, Node.setPhase]

/-- Only its opening and `accept_connection` change a connection's phase. -/
theorem step_phase (stepped : before.step action = some after) (party : Party) :
    (after.node party.shardId).phase party.id = (before.node party.shardId).phase party.id ∨
      (party = action.party ∧ (action.kind = .connect ∨ ∃ oracle, action.kind = .accept oracle)) := by
  by_cases own : party = action.party
  · obtain ⟨acting, kind⟩ := action
    subst own
    cases step_does stepped with
    | connects => exact .inr ⟨rfl, .inl rfl⟩
    | accepts => exact .inr ⟨rfl, .inr ⟨_, rfl⟩⟩
    | _ => exact .inl (by simp [update, setNode, Node.setReader, Node.setWorld])
  · exact .inl (step_other stepped party own).2

theorem step_rests (stepped : before.step action = some after) (party : Party)
    (other : party ≠ action.party) (rests : before.AtRest party) : after.AtRest party := by
  obtain ⟨reader, phase⟩ := step_other stepped party other
  simpa only [AtRest, reader, phase] using rests

/-- What holds in turns: besides what always does, nothing a party has read
changes, and no request times out. -/
structure Steady (fault : Prop) (known : Set Party) (cluster : Cluster) : Prop where
  sound : cluster.Sound fault known
  focused : ∀ party, Focused (rules fault) known cluster.lobby party
  punctual : ∀ party, cluster.lobby.stage party ≠ .lapsing

theorem turns_resting (turn : turns before action after) (party : Party)
    (other : party ≠ action.party) : (before.lobby.stage party).Resting :=
  (turn.2.1 party other).resting

theorem Steady.step (steady : before.Steady fault known) (turn : turns before action after)
    (healthy : ¬ fault → action.Healthy) : after.Steady fault known where
  sound := steady.sound.step healthy turn.1
  focused party :=
    Focused.move steady.focused steady.sound.coherent (turns_resting turn)
      (steady.sound.move healthy turn.1) party
  punctual party lapsing := by
    rcases (steady.sound.move healthy turn.1).lapses lapsing with earlier | timeout
    · exact steady.punctual party earlier
    · exact turn.2.2 timeout

theorem Fresh.rests (fresh : cluster.Fresh) (party : Party) : cluster.AtRest party := by
  obtain ⟨tasks, started⟩ := fresh party.shardId
  simp [AtRest, started, Node.fresh, Reader.isBusy, Phase.settled]

theorem Fresh.steady (fresh : cluster.Fresh) (unnamed : cluster.Unnamed known) :
    cluster.Steady fault known :=
  ⟨⟨fresh.valid, fresh.coherent unnamed⟩, fun party => .rest (.inl (fresh.empty party).2),
    fun party => by simp [(fresh.empty party).2]⟩

section Runs

variable {init : Cluster → Prop} {taken : Transition.Step Cluster Action}

/-- Sound runs, whatever Redis does. -/
theorem reached_failing
    (stepped : ∀ before action after, taken before action after → before.step action = some after)
    (reached : Reach Fresh taken cluster) : cluster.Sound True ∅ :=
  reached_sound (fun _ => Fresh.apart)
    (fun before action after step => ⟨stepped before action after step, Action.failing⟩) reached

theorem reached_steps (reached : Reach Fresh steps cluster) : cluster.Sound True ∅ :=
  reached_failing (fun _ _ _ step => step) reached

theorem reached_healthy
    (stepped : ∀ before action after, taken before action after → healthySteps before action after)
    (reached : Reach (Started shardId) taken cluster) : cluster.Sound False (shard shardId) := by
  refine reached_sound (fun _ => Started.apart) (fun before action after step => ?_) reached
  obtain ⟨taken, healthy⟩ := stepped before action after step
  exact ⟨taken, fun _ => healthy⟩

theorem reached_one (fresh : ∀ cluster, init cluster → cluster.Fresh)
    (turn : ∀ before action after, taken before action after → turns before action after)
    (reached : Reach init taken cluster) :
    ∃ acting, ∀ party, party ≠ acting → cluster.AtRest party := by
  induction reached with
  | start initial => exact ⟨⟨"", 0⟩, fun party _ => (fresh _ initial).rests party⟩
  | next _ step _ =>
    have inTurn := turn _ _ _ step
    exact ⟨_, fun party other => step_rests inTurn.1 party other (inTurn.2.1 party other)⟩

/-- Runs in turns stay steady. -/
theorem reached_steady
    (fresh : ∀ cluster, init cluster → cluster.Fresh ∧ cluster.Unnamed known)
    (turn : ∀ before action after, taken before action after →
      turns before action after ∧ (¬ fault → action.Healthy))
    (reached : Reach init taken cluster) : cluster.Steady fault known := by
  apply reached.invariant
  · intro cluster initial
    obtain ⟨started, unnamed⟩ := fresh cluster initial
    exact started.steady unnamed
  · intro before action after steady step
    obtain ⟨inTurn, healthy⟩ := turn before action after step
    exact steady.step inTurn healthy

end Runs

end Cluster

end Grass
