import Grass.Refinement.Sound

namespace Grass

open Lobby

theorem Roster.parties_erase (shardId : ShardId) (roster : Roster) (id : Uuid) :
    Roster.parties shardId (some (roster.erase id)) =
      Roster.parties shardId (some roster) \ {⟨shardId, id⟩} := by
  ext party
  obtain ⟨home, name⟩ := party
  simp only [parties, Option.some.injEq, exists_eq_left', Set.mem_ofPred_eq, AList.mem_erase,
    Set.mem_sdiff, Set.mem_singleton_iff, Party.mk.injEq]
  tauto

theorem Roster.parties_insert (shardId : ShardId) (roster : Roster) (client : PartialClient) :
    Roster.parties shardId (some (roster.insert client.id client)) =
      insert ⟨shardId, client.id⟩ (Roster.parties shardId (some roster)) := by
  ext party
  obtain ⟨home, name⟩ := party
  simp only [parties, Option.some.injEq, exists_eq_left', Set.mem_ofPred_eq, AList.mem_insert,
    Set.mem_insert_iff, Party.mk.injEq]
  tauto

theorem Roster.parties_empty (shardId : ShardId) : Roster.parties shardId (some ∅) = ∅ := by
  ext party
  simp [parties]

theorem Game.Valid.unregister_seat {game : Game} {id : Uuid} (valid : game.Valid id)
    (order : IterOrder) (closed : SocketSender → Bool) (shardId : ShardId) (clientId : Uuid) :
    (game.unregister order closed clientId).1.seat shardId =
      (game.seat shardId).without ⟨shardId, clientId⟩ := by
  rcases valid.unregister_cases order closed clientId with
    ⟨same, absent⟩ | ⟨host, roster, clients, -, -, _, -, same, -⟩
  · rw [same]
    by_cases host : game.isHost = true
    · obtain ⟨-, roster, clients, -⟩ := valid.hosting host
      have struck := Roster.parties_erase shardId roster clientId
      have gone : Roster.parties shardId (some roster) \ {⟨shardId, clientId⟩} =
          Roster.parties shardId (some roster) := by
        apply Set.sdiff_singleton_eq_self
        simpa [Roster.parties] using absent roster clients
      simp [seat, host, Seat.without, clients, gone]
    · simp [seat, host, Seat.without]
  · rw [same]
    simp [seat, host, Seat.without, clients, Roster.parties_erase]

/-- `expel`, on the map of one process. -/
def strike (shardId : ShardId) (places : Uuid → Option (Option (Seat Party String)))
    (id hostId : Uuid) (other : Uuid) : Option (Option (Seat Party String)) :=
  if other = hostId then (places other).map (Option.map (Seat.without ⟨shardId, id⟩))
  else places other

theorem Cluster.moved_seat_strike {cluster : Cluster} {party : Party} {world after : World}
    {stage last : Stage Party String} {id hostId : Uuid}
    (places : after.places party.shardId =
      strike party.shardId (world.places party.shardId) id hostId) :
    (cluster.moved party after last).seat =
      expel (cluster.moved party world stage).seat ⟨party.shardId, id⟩
        ⟨party.shardId, hostId⟩ := by
  funext other
  obtain ⟨shardId, name⟩ := other
  simp only [moved, places, strike, expel, Party.mk.injEq]
  by_cases here : shardId = party.shardId
  · by_cases same : name = hostId
    · simp only [here, same, and_self, ↓reduceIte]
      cases world.places party.shardId hostId <;> rfl
    · simp [here, same]
  · simp [here]

namespace World

variable {game : Game} {id : Uuid} (oracle : Oracle)

/-- A valid host game shuts down without a panic; only its record can stay behind. -/
theorem shutdownGame_spec (world : World) (valid : game.Valid id) (host : game.isHost = true) :
    ∃ after : World, ∃ last : Game, ∃ exit, world.shutdownGame oracle game = (last, after, exit) ∧
      exit ≠ .panic ∧ after.sockets = world.sockets ∧
      after.redis = if oracle.fails .shutdownPool || oracle.fails .shutdownDel then world.redis
        else (world.del (gameKey game.gameId)).redis := by
  obtain ⟨-, roster, clients, wired⟩ := valid.hosting host
  have told : (sendAll world.closed ((oracle.order.list roster).map fun entry =>
      (entry.2, .gameEvent .shutdown)) : Sending ClientError Unit).exit = .ok () :=
    (wired.sendAll oracle.order world.closed _).1
  unfold shutdownGame
  rw [Game.checkHost_host host, clients]
  simp only [told]
  split
  · rename_i fails
    exact ⟨_, _, _, rfl, by simp, rfl, by simp⟩
  · exact ⟨_, _, _, rfl, PartialClient.sendMessage_calm valid.host.wired _ _, rfl, by simp⟩

/-- The drop of a host game leaves every entry in place, and its record only if
the deletion failed. -/
theorem dropGame_host (world : World) (valid : game.Valid id) (host : game.isHost = true) :
    ∃ after exit, world.dropGame oracle game = (after, exit) ∧ after.sockets = world.sockets ∧
      (after.redis = (world.del (gameKey game.gameId)).redis ∨
        after.redis = world.redis ∧ exit = .panic ∧ ¬ oracle.Healthy) ∧
      (exit = .panic → ¬ oracle.Healthy) := by
  obtain ⟨middle, last, first, shut, calm, sockets, redis⟩ :=
    shutdownGame_spec oracle world valid host
  have deleted : world.dropGame oracle game = middle.deleteRecord oracle game.gameId := by
    rw [dropGame, if_pos host, shut]
    cases first with
    | panic => exact absurd rfl calm
    | ok | err => rfl
  rw [deleted, deleteRecord]
  split
  · rename_i fails
    have sick : ¬ oracle.Healthy := by
      intro healthy
      simp [healthy .dropPool, healthy .dropDel] at fails
    refine ⟨middle, .panic, rfl, sockets, ?_, fun _ => sick⟩
    split at redis
    · exact .inr ⟨redis, rfl, sick⟩
    · exact .inl redis
  · refine ⟨_, _, rfl, sockets, .inl ?_, by simp⟩
    split at redis <;> simp [redis]

theorem unregisterFromHost_spec (shardId : ShardId) {world : World} (worldValid : world.Valid)
    (valid : game.Valid id) :
    ∃ after exit, world.unregisterFromHost oracle game = (after, exit) ∧ exit ≠ .panic ∧
      world.Leads after ∧ after.redis = world.redis ∧
      after.places shardId =
        strike shardId (world.places shardId) id game.partialHost.id := by
  have untouched : (world.places shardId game.partialHost.id).map
      (Option.map (Seat.without ⟨shardId, id⟩)) = world.places shardId game.partialHost.id →
      world.places shardId = strike shardId (world.places shardId) id game.partialHost.id := by
    intro same
    funext other
    unfold strike
    split
    · rename_i here
      rw [here, same]
    · rfl
  cases found : world.sockets game.partialHost.id with
  | none =>
    exact ⟨world, .ok (), by simp [unregisterFromHost, found], by simp, .refl worldValid, rfl,
      untouched (by simp [places, found])⟩
  | some hostClient =>
    cases holding : hostClient.game with
    | none =>
      exact ⟨world, .ok (), by simp [unregisterFromHost, found, holding], by simp,
        .refl worldValid, rfl, untouched (by simp [places, found, holding])⟩
    | some hostGame =>
      have hostValid := worldValid _ _ found
      obtain ⟨nickname, gameValid⟩ := hostValid.playing hostGame holding
      let struck := hostGame.unregister oracle.order world.closed game.partialClient.id
      have computed : world.unregisterFromHost oracle game =
          ((world.put game.partialHost.id { hostClient with game := some struck.1 }).deliver
            struck.2.sent, struck.2.exit) := by
        simp [unregisterFromHost, found, holding, struck]
      refine ⟨_, _, computed, gameValid.unregister_calm oracle.order world.closed _, ?_, rfl, ?_⟩
      · refine ((Leads.refl worldValid).put found (.playing _) ?_).same rfl
        refine ⟨hostValid.named, hostValid.wired, fun held playing => ?_⟩
        cases playing
        exact ⟨nickname, gameValid.unregister ..⟩
      · funext other
        simp only [places_deliver, places_put, Option.map_some, struck,
          gameValid.unregister_seat, valid.owner, strike, Function.update_apply]
        split
        · rename_i here
          simp [here, places, found, holding]
        · rfl

/-- The drop of a guest's game strikes it off whatever game its host holds. -/
theorem leaveGame_spec (shardId : ShardId) {world : World} (worldValid : world.Valid)
    (valid : game.Valid id) :
    ∃ after, world.leaveGame oracle game = (after, .ok ()) ∧ world.Leads after ∧
      after.redis = world.redis ∧
      after.places shardId =
        strike shardId (world.places shardId) id game.partialHost.id := by
  obtain ⟨after, exit, left, calm, leads, redis, places⟩ :=
    unregisterFromHost_spec oracle shardId worldValid valid
  have farewell : ((game.partialClient.sendMessage after.closed
      (.response (.leave true))).ignore : Sending ClientError Unit).exit = .ok () :=
    Sending.ignore_exit (PartialClient.sendMessage_calm valid.self.wired _ _)
  let goodbye : Sending ClientError Unit :=
    (game.partialClient.sendMessage after.closed (.response (.leave true))).ignore
  have computed : world.leaveGame oracle game = (after.deliver goodbye.sent, .ok ()) := by
    rw [leaveGame, left, ← farewell]
    cases exit with
    | panic => exact absurd rfl calm
    | ok | err => rfl
  exact ⟨_, computed, leads.same rfl, redis, places⟩

end World

theorem Lobby.expel_update {P G : Type} [DecidableEq P] (seat : P → Option (Seat P G))
    (party host : P) : expel (Function.update seat party none) party host =
      Function.update (expel seat party host) party none := by
  funext other
  by_cases same : other = party
  · subst same
    simp [expel]
  · simp [expel, same]

/-- Taking a client's game out of the map and dropping it is an unseating. -/
theorem Cluster.unseat {cluster : Cluster} (party : Party) {fault ends : Prop} {client : SocketClient}
    {oracle : Oracle} {world : World} (valid : (cluster.world party.shardId).Valid)
    (healthy : ¬ fault → oracle.Healthy)
    (found : (cluster.world party.shardId).sockets party.id = some client)
    (worldValid : world.Valid) (redis : world.redis = cluster.redis)
    (seats : ∀ stage, (cluster.moved party world stage).seat =
      Function.update cluster.lobby.seat party none)
    (willing : ∀ game, client.game = some game → game.isHost = true → ends) :
    ∃ after exit, world.dropGame? oracle client.game = (after, exit) ∧ world.Leads after ∧
      (exit = .panic → fault) ∧ ∃ unseated,
        Unseat ends (fault ∧ exit = .panic) party cluster.lobby unseated ∧
        (∀ stage, (cluster.moved party after stage).seat = unseated.seat) ∧
        after.redis.records = unseated.record ∧ unseated.stage = cluster.lobby.stage ∧
        unseated.present = cluster.lobby.present := by
  have seat : cluster.lobby.seat party = client.game.map (Game.seat party.shardId) := by
    have found : (cluster.node party.shardId).sockets party.id = some client := found
    simp [lobby, World.places, found]
  have sick : ¬ oracle.Healthy → fault := fun ill => by_contra fun calm => ill (healthy calm)
  cases playing : client.game with
  | none =>
    refine ⟨world, .ok (), rfl, .refl worldValid, by simp, cluster.lobby, .empty ?_ rfl, ?_,
      by rw [redis]; rfl, rfl, rfl⟩
    · simp [seat, playing]
    · intro stage
      rw [seats, Function.update_eq_self_iff, seat, playing]
      rfl
  | some game =>
    obtain ⟨-, gameValid⟩ := (valid _ _ found).playing game playing
    by_cases host : game.isHost = true
    · have taken : cluster.lobby.seat party =
          some (.host game.gameId (Roster.parties party.shardId game.connectedClients)) := by
        simp [seat, playing, Game.seat, host]
      obtain ⟨after, exit, dropped, sockets, records, calm⟩ :=
        World.dropGame_host oracle world gameValid host
      have same : ∀ stage, (cluster.moved party after stage).seat =
          Function.update cluster.lobby.seat party none := by
        intro stage
        rw [← seats stage]
        simp only [moved, World.places_congr party.shardId sockets]
      refine ⟨after, exit, dropped, (World.Leads.refl worldValid).same sockets,
        fun panicked => sick (calm panicked), ?_⟩
      rcases records with deleted | ⟨kept, panicked, ill⟩
      · refine ⟨_, .host (willing game playing host) _ _ taken rfl, same, ?_, rfl, rfl⟩
        rw [deleted, World.del_redis, Redis.records_del, redis]
        rfl
      · refine ⟨_, .lost (willing game playing host) ⟨sick ill, panicked⟩ _ _ taken rfl,
          same, ?_, rfl, rfl⟩
        rw [kept, redis]
        rfl
    · have taken : cluster.lobby.seat party =
          some (.guest game.gameId ⟨party.shardId, game.partialHost.id⟩) := by
        simp [seat, playing, Game.seat, host]
      obtain ⟨after, left, leads, kept, places⟩ :=
        World.leaveGame_spec oracle party.shardId worldValid gameValid
      have dropped : world.dropGame? oracle (some game) = (after, .ok ()) := by
        simp [World.dropGame?, World.dropGame, host, gameValid.host.isLocal, left]
      refine ⟨after, .ok (), dropped, leads, by simp, _, .guest _ _ taken rfl, ?_, ?_, rfl, rfl⟩
      · intro stage
        have struck : (cluster.moved party after stage).seat =
            expel (cluster.moved party world stage).seat party
              ⟨party.shardId, game.partialHost.id⟩ := moved_seat_strike places
        rw [struck, seats]
        exact expel_update ..
      · rw [kept, redis]
        rfl

end Grass
