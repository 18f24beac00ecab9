import Grass.Lobby.Membership
import Grass.Guarantee.Session

namespace Grass.Cluster

open Lobby Transition

variable {shardId : ShardId} {cluster : Cluster}

/-- Whom a host's roster lists has an entry and, unless a message of it is being
handled, is in that host's game; whoever has no entry is in no roster or record. -/
structure NoGhosts (shardId : ShardId) (cluster : Cluster) : Prop where
  listed : ∀ hostId game id, (cluster.world shardId).gameAt hostId = some game →
    game.isHost = true → game.Lists id → (cluster.world shardId).sockets id ≠ none ∧
      (((cluster.node shardId).reader id).isBusy = false →
        ∃ own, (cluster.world shardId).gameAt id = some own ∧ own.isHost = false ∧
          own.partialHost.id = hostId)
  unlisted : ∀ id, (cluster.world shardId).sockets id = none →
    ∀ hostId game, (cluster.world shardId).gameAt hostId = some game → game.isHost = true →
      ¬ game.Lists id
  unrecorded : ∀ id, (cluster.world shardId).sockets id = none →
    ∀ gameId, cluster.redis (gameKey gameId) ≠ some (.game ⟨shardId, id⟩)

theorem entering_busy {party : Party} {gameId : String} {host : Party}
    (entering : cluster.lobby.stage party = .entering gameId host) :
    ((cluster.node party.shardId).reader party.id).isBusy = true := by
  obtain ⟨oracle, model, pc, busy, -⟩ := busy_of_stage entering (by simp [Stage.Resting])
  simp [busy, Reader.isBusy]

/-- Under every interleaving of handlers, timeouts and closings there are no
ghost participants. -/
theorem no_ghost_participants (shardId : ShardId) (cluster : Cluster)
    (reached : Reach (Started shardId) healthySteps cluster) : cluster.NoGhosts shardId := by
  have sound : cluster.Sound False (shard shardId) := reached_healthy (fun _ _ _ step => step) reached
  have coherent := sound.coherent
  have calm : ¬ False := fun absurd => absurd
  have active : ∀ {party : Party} {stage : Stage Party String},
      cluster.lobby.stage party = stage → stage ≠ .unborn → stage ≠ .retired →
      cluster.lobby.present party := by
    rintro party stage rfl born going
    exact coherent.awake calm party born going
  have listed : ∀ hostId game id, (cluster.world shardId).gameAt hostId = some game →
      game.isHost = true → game.Lists id → (cluster.world shardId).sockets id ≠ none ∧
        (((cluster.node shardId).reader id).isBusy = false →
          ∃ own, (cluster.world shardId).gameAt id = some own ∧ own.isHost = false ∧
            own.partialHost.id = hostId) := by
    intro hostId game id held host lists
    have rostered := coherent.rostered calm ⟨shardId, hostId⟩ ⟨shardId, id⟩
      ⟨_, _, seat_of_host held host, (game.mem_parties shardId id).mpr lists⟩
    rcases rostered with ⟨gameId, taken⟩ | ⟨gameId, entering⟩
    · refine ⟨present_iff.mp (coherent.seated ⟨shardId, id⟩ (by simp [taken])), fun _ => ?_⟩
      obtain ⟨own, has, guest, -, same⟩ := guest_of_seat taken
      exact ⟨own, has, guest, (congrArg Party.id same).symm⟩
    · refine ⟨present_iff.mp (active entering (by simp) (by simp)), fun idle => ?_⟩
      simp [entering_busy entering] at idle
  refine ⟨listed, fun id missing hostId game held host lists =>
    (listed hostId game id held host lists).1 missing, fun id missing gameId record => ?_⟩
  have absent : ¬ cluster.lobby.present ⟨shardId, id⟩ := fun here => present_iff.mp here missing
  have recorded : cluster.lobby.record gameId = some (some ⟨shardId, id⟩) := record_iff.mpr record
  rcases (coherent.recorded ⟨shardId, id⟩ rfl gameId recorded).2 with ⟨_, taken⟩ | opening | ⟨no, -⟩
  · exact absent (coherent.seated ⟨shardId, id⟩ (by simp [taken]))
  · exact absent (active opening (by simp) (by simp))
  · exact no

theorem no_ghost_participants_pair : ∃ cluster : Cluster, cluster.NoGhosts "a" ∧
    ((cluster.world "a").gameAt 1).map (fun game => decide (game.Lists 2)) = some true := by
  obtain ⟨cluster, reached, lists⟩ := session_shows (started_empty "a" [])
    (show ((launch emptyRedis []).play
      (fun _ action => !decide action.lapses && decide action.Healthy) (pair "a" "17" 1 2)).bind
        (fun cluster => ((cluster.world "a").gameAt 1).map fun game => decide (game.Lists 2)) =
          some true by decide +kernel)
  have healthy : Reach (Started "a") healthySteps cluster :=
    reached.mono fun _ _ _ _ step => ⟨step.1.1, of_decide_eq_true step.2⟩
  exact ⟨cluster, no_ghost_participants "a" cluster healthy, lists⟩

/-- The game of every participant is its host's, and lists the participant. -/
def NoDangling (shardId : ShardId) (cluster : Cluster) : Prop :=
  ∀ id game, (cluster.world shardId).gameAt id = some game → game.isHost = false →
    ∃ hosted, (cluster.world shardId).gameAt game.partialHost.id = some hosted ∧
      hosted.isHost = true ∧ hosted.gameId = game.gameId ∧ hosted.Lists id

def HostOfNobody (cluster : Cluster) (party : Party) : Prop :=
  ∀ id game, (cluster.world party.shardId).gameAt id = some game → game.isHost = false →
    game.partialHost.id ≠ party.id

theorem HostOfNobody.seat {party : Party} (nobody : cluster.HostOfNobody party) (guest : Party)
    (gameId : String) : cluster.lobby.seat guest ≠ some (.guest gameId party) := by
  intro taken
  obtain ⟨game, held, visiting, -, same⟩ := guest_of_seat taken
  obtain ⟨shardId, id⟩ := party
  cases same
  exact nobody guest.id game held visiting rfl

/-- A game is ended only by a host that no participant's game names. -/
def EndsAlone (shardId : ShardId) : Transition.Step Cluster Action := fun before action _ =>
  action.party.shardId = shardId → before.Ends action → before.HostOfNobody action.party

theorem noDangling_of_anchored (anchored : Anchored (shard shardId) cluster.lobby) :
    cluster.NoDangling shardId := by
  intro id game held guest
  obtain ⟨members, taken, listed⟩ := anchored ⟨shardId, id⟩ game.gameId
    ⟨shardId, game.partialHost.id⟩ rfl (seat_of_guest held guest)
  obtain ⟨hosted, holds, host, same, rfl⟩ := host_of_seat taken
  exact ⟨hosted, holds, host, same, (hosted.mem_parties shardId id).mp listed⟩

/-- While every game ends alone, no membership dangles. -/
theorem membership_anchored (shardId : ShardId) (cluster : Cluster)
    (reached : Reach (Started shardId) (turns.when (EndsAlone shardId)) cluster) :
    cluster.NoDangling shardId := by
  have steady : ∀ cluster, Reach (Started shardId) (turns.when (EndsAlone shardId)) cluster →
      cluster.Steady True (shard shardId) := fun _ earlier =>
    reached_steady (fun _ => Started.apart)
      (fun _ _ _ step => ⟨step.1, Action.failing⟩) earlier
  refine noDangling_of_anchored (reached_lobby steady (fun _ steady => steady.sound)
    (fun _ _ _ step => ⟨step.1.1, Action.failing⟩) ?_ ?_ reached)
  · intro cluster started guest game host member taken
    simp [(started.1.empty guest).1] at taken
  · intro before action after steady step move anchored
    refine Anchored.move anchored (steady.focused action.party) steady.sound.coherent
      (steady.punctual action.party) (fun ends member guest gameId => ?_) move
    exact (step.2 member ends).seat guest gameId

theorem membership_anchored_pair : ∃ cluster : Cluster, cluster.NoDangling "a" ∧
    ((cluster.world "a").gameAt 2).map (fun game => game.isHost) = some false := by
  obtain ⟨cluster, reached, guest⟩ := session_shows (started_empty "a" [])
    (show ((launch emptyRedis []).play
      (fun before action => !decide action.lapses && !decide (before.Ends action))
        (pair "a" "17" 1 2)).bind (fun cluster =>
          ((cluster.world "a").gameAt 2).map fun game => game.isHost) = some false by
            decide +kernel)
  have alone : Reach (Started "a") (turns.when (EndsAlone "a")) cluster :=
    reached.mono fun _ _ _ _ step =>
      ⟨step.1, fun _ ends => by simpa [checks, ends] using step.2⟩
  exact ⟨cluster, membership_anchored "a" cluster alone, guest⟩

/-- The host leaves, and its participant stays in a game that is over. -/
theorem host_leaves_dangling :
    ¬ ∀ cluster, Reach (Started "a") turns cluster → cluster.NoDangling "a" := by
  intro anchored
  obtain ⟨cluster, reached, stale⟩ := session_shows (started_empty "a" [])
    (show ((launch emptyRedis []).play (fun _ action => !decide action.lapses && true)
      (pair "a" "17" 1 2 ++ Party.leaves ⟨"a", 1⟩ (.calm "17"))).bind (fun cluster =>
        ((cluster.world "a").gameAt 2).map fun game =>
          (game.isHost, game.partialHost.id, ((cluster.world "a").gameAt 1).isSome)) =
            some (false, 1, false) by decide +kernel)
  obtain ⟨game, held, same⟩ := Option.map_eq_some_iff.mp stale
  obtain ⟨guest, host, gone⟩ : game.isHost = false ∧ game.partialHost.id = 1 ∧
      (cluster.world "a").gameAt 1 = none := by simpa using same
  obtain ⟨hosted, holds, -⟩ :=
    anchored cluster (reached.mono fun _ _ _ _ step => step.1) 2 game held guest
  simp [host, gone] at holds

end Grass.Cluster
