import Grass.Lobby.Record
import Grass.Guarantee.Session

namespace Grass.Cluster

open Lobby Transition

variable {shardId : ShardId} {cluster before after : Cluster} {action : Action} {gameId : String}

/-- The step runs the SET by which a Join becomes the host, and Redis takes it. -/
def Publishes (cluster : Cluster) (action : Action) (gameId : String) : Prop :=
  match action.kind, (cluster.node action.party.shardId).reader action.party.id with
  | .advance, .busy oracle _ (.joinSet claimed) => claimed = gameId ∧ oracle.fails .joinSet = false
  | _, _ => False

instance : Decidable (cluster.Publishes action gameId) :=
  decidable_of_iff ((match action.kind, (cluster.node action.party.shardId).reader action.party.id with
    | .advance, .busy oracle _ (.joinSet claimed) =>
      decide (claimed = gameId) && !oracle.fails .joinSet
    | _, _ => false) = true) (by unfold Publishes; split <;> simp)

instance : Decidable (cluster.Draws action gameId) :=
  decidable_of_iff ((match action.kind with
    | .advance => (cluster.requested action.party).any fun asked =>
      asked.2.op = .create ∧ asked.1.gameId = gameId
    | _ => false) = true) (by unfold Draws; split <;> simp_all [Option.any_eq_true])

theorem publishes_of_claiming (stepped : before.step action = some after)
    (claiming : before.lobby.stage action.party = .claiming gameId)
    (opening : after.lobby.stage action.party = .opening gameId) :
    before.Publishes action gameId := by
  obtain ⟨oracle, model, pc, busy, at_⟩ := busy_of_stage claiming (by simp [Stage.Resting])
  obtain rfl := Pc.stage_claiming at_
  obtain ⟨other, last, next, opens, at_⟩ := busy_of_stage opening (by simp [Stage.Resting])
  obtain rfl := Pc.stage_opening at_
  rcases step_reader stepped opens with same | same | same | ⟨earlier, part, runs, ran, started, going⟩
  · simp [busy] at same
  · cases same
  · cases same
  · obtain ⟨rfl, rfl, rfl⟩ := by simpa [busy] using ran
    obtain rfl : _ = part := by simpa [currentSection_busy busy] using started
    cases fails : oracle.fails .joinSet with
    | true => simp [Ctx.runSection, Ctx.joinSet, ctx, fails, Section.fail, Section.stop] at going
    | false => simp [Publishes, runs, busy, fails]

/-- A created game that nobody hosts: its record is empty, and no handler is about to
install it. -/
def Uninitialised (gameId : String) (cluster : Cluster) : Prop :=
  Reach Fresh steps cluster ∧ cluster.redis (gameKey gameId) = some (.text "") ∧
    ∀ party : Party,
      (∀ game, (cluster.world party.shardId).gameAt party.id = some game → game.isHost = true →
        game.gameId ≠ gameId) ∧
      ∀ oracle model, (cluster.node party.shardId).reader party.id ≠
        .busy oracle model (.joinHost gameId)

/-- At most one connection of all processes has a host Game with this id. -/
def OneHost (gameId : String) (cluster : Cluster) : Prop :=
  ∀ first second : Party, ∀ one other,
    (cluster.world first.shardId).gameAt first.id = some one → one.isHost = true →
    one.gameId = gameId →
    (cluster.world second.shardId).gameAt second.id = some other → other.isHost = true →
    other.gameId = gameId → first = second

/-- The id is not drawn again, and its SET is run only where the record still is empty. -/
def PublishesEmpty (gameId : String) : Transition.Step Cluster Action := fun before action _ =>
  ¬ before.Draws action gameId ∧
    (before.Publishes action gameId → before.redis (gameKey gameId) = some (.text ""))

instance (after : Cluster) : Decidable (PublishesEmpty gameId before action after) :=
  inferInstanceAs (Decidable (_ ∧ (_ → _)))

theorem Uninitialised.exclusive (idle : Uninitialised gameId cluster) :
    cluster.lobby.Exclusive gameId := by
  have nobody : ∀ owner, ¬ (cluster.lobby.Hosts owner gameId ∨
      cluster.lobby.stage owner = .opening gameId) := by
    rintro owner (hosts | opening)
    · obtain ⟨game, held, host, same⟩ := hosts_iff.mp hosts
      exact (idle.2.2 owner).1 game held host same
    · obtain ⟨oracle, model, pc, busy, at_⟩ := busy_of_stage opening (by simp [Stage.Resting])
      exact (idle.2.2 owner).2 oracle model (by rw [busy, Pc.stage_opening at_])
  exact ⟨fun _ owner => not_or.mp (nobody owner), fun first _ claims => absurd claims (nobody first)⟩

/-- Under every interleaving, while the record is still empty at every SET, the game
has at most one host. -/
theorem one_host (gameId : String) (cluster : Cluster)
    (reached : Reach (Uninitialised gameId) (steps.when (PublishesEmpty gameId)) cluster) :
    OneHost gameId cluster := by
  have sound : ∀ cluster, Reach (Uninitialised gameId) (steps.when (PublishesEmpty gameId)) cluster →
      cluster.Sound True ∅ := by
    intro cluster reached
    induction reached with
    | start idle => exact reached_steps idle.1
    | next _ step ih => exact ih.step Action.failing step.1
  have exclusive : cluster.lobby.Exclusive gameId := by
    refine reached_lobby sound (fun _ sound => sound) (fun _ _ _ step => ⟨step.1, Action.failing⟩)
      (fun _ idle => idle.exclusive) ?_ reached
    intro before action after sound step move exclusive
    refine Exclusive.move exclusive move step.2.1 fun claiming opening => ?_
    exact record_empty_iff.mpr (step.2.2 (publishes_of_claiming step.1 claiming opening))
  intro first second one other held host same holds hosts also
  exact exclusive.unique first second (.inl (hosts_iff.mpr ⟨one, held, host, same⟩))
    (.inl (hosts_iff.mpr ⟨other, holds, hosts, also⟩))

/-- Redis with one created id. -/
def createdRedis (gameId : String) : Redis :=
  Function.update emptyRedis (gameKey gameId) (some (.text ""))

theorem launch_uninitialised (gameId : String) :
    Uninitialised gameId (launch (createdRedis gameId) []) := by
  have fresh := launch_fresh (createdRedis gameId) []
  refine ⟨.start fresh, by simp [launch, createdRedis], fun party => ⟨fun game held => ?_, ?_⟩⟩
  · have missing : (launch (createdRedis gameId) []).lobby.seat party = none := (fresh.empty party).1
    simp [seat_gameAt, held] at missing
  · simp [launch, Node.fresh]

/-- Two clients, one after the other, join a created game. -/
theorem one_host_pair : ∃ cluster : Cluster, OneHost "17" cluster ∧
    ((cluster.world "a").gameAt 1).map (fun game => (game.isHost, decide (game.Lists 2))) =
      some (true, true) := by
  let host : Party := ⟨"a", 1⟩
  let guest : Party := ⟨"a", 2⟩
  let oracle := Oracle.calm "18"
  obtain ⟨cluster, reached, seen⟩ := run_shows (launch_uninitialised "17")
    (show (run (guarded (fun before action => decide (PublishesEmpty "17" before action before))
      step) (launch (createdRedis "17") []) (host.enters oracle ++ guest.enters oracle ++
        host.hosts oracle "17" ++ guest.joins oracle "17")).bind (fun cluster =>
          ((cluster.world "a").gameAt 1).map fun game => (game.isHost, decide (game.Lists 2))) =
            some (true, true) by decide +kernel)
  have once : Reach (Uninitialised "17") (steps.when (PublishesEmpty "17")) cluster :=
    reached.mono fun _ _ _ _ step => ⟨step.1, of_decide_eq_true step.2⟩
  exact ⟨cluster, one_host "17" cluster once, seen⟩

/-- Every request that is handled is a Join of this game, or introduces its client. -/
def JoinRequests (gameId : String) : Transition.Step Cluster Action := fun before action _ =>
  ∀ oracle request, before.requested action.party = some (oracle, request) →
    request.op = .identify ∨ request.op = .join ∧
      (request.d.bind JoinRequest.fromValue).map JoinRequest.gameId = some gameId

instance (after : Cluster) : Decidable (JoinRequests gameId before action after) :=
  decidable_of_iff ((before.requested action.party).all (fun asked =>
      asked.2.op = .identify ∨ asked.2.op = .join ∧
        (asked.2.d.bind JoinRequest.fromValue).map JoinRequest.gameId = some gameId) = true)
    (by simp [JoinRequests, Option.all_eq_true])

/-- Two clients read the empty record before either writes it, and both become host. -/
theorem two_hosts : ¬ ∀ cluster,
    Reach (Uninitialised "17") (steps.when (JoinRequests "17")) cluster → OneHost "17" cluster := by
  intro once
  let first : Party := ⟨"a", 1⟩
  let second : Party := ⟨"a", 2⟩
  let oracle := Oracle.calm "18"
  let join := [("game_id", Value.string "17")]
  obtain ⟨cluster, reached, seen⟩ := run_shows (launch_uninitialised "17")
    (show (run (guarded (fun before action => decide (JoinRequests "17" before action before)) step)
      (launch (createdRedis "17") []) (first.enters oracle ++ second.enters oracle ++
        first.asks oracle 1 "Join" join ++ second.asks oracle 1 "Join" join ++
        List.replicate 2 ⟨first, .advance⟩ ++ List.replicate 2 ⟨second, .advance⟩)).bind
          (fun cluster => ((cluster.world "a").gameAt 1).bind fun one =>
            ((cluster.world "a").gameAt 2).map fun other =>
              ((one.isHost, one.gameId), other.isHost, other.gameId)) =
            some ((true, "17"), true, "17") by decide +kernel)
  obtain ⟨one, held, seen⟩ := Option.bind_eq_some_iff.mp seen
  obtain ⟨other, holds, same⟩ := Option.map_eq_some_iff.mp seen
  obtain ⟨⟨host, same⟩, also, equal⟩ := by simpa using same
  have joins : Reach (Uninitialised "17") (steps.when (JoinRequests "17")) cluster :=
    reached.mono fun _ _ _ _ step => ⟨step.1, of_decide_eq_true step.2⟩
  have both := once cluster joins first second one other held host same holds also equal
  simp [first, second] at both

end Grass.Cluster
