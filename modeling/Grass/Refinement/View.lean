import Grass.Refinement.Refines

/-! The seats, records and stages of a lobby, read back from the sockets maps,
Redis and the handlers of the cluster it stands for. -/

namespace Grass

open Lobby

/-- The game in a client's entry. -/
def World.gameAt (world : World) (id : Uuid) : Option Game :=
  (world.sockets id).bind SocketClient.game

/-- The participant is a key of `connected_clients`. -/
def Game.Lists (game : Game) (id : Uuid) : Prop :=
  ∃ roster, game.connectedClients = some roster ∧ id ∈ roster

instance (game : Game) (id : Uuid) : Decidable (game.Lists id) :=
  match found : game.connectedClients with
  | none => isFalse fun ⟨_, same, _⟩ => by simp [found] at same
  | some roster => decidable_of_iff (id ∈ roster) (by simp [Game.Lists, found])

theorem Game.mem_parties (game : Game) (shardId : ShardId) (id : Uuid) :
    (⟨shardId, id⟩ : Party) ∈ Roster.parties shardId game.connectedClients ↔ game.Lists id := by
  simp [Roster.parties, Lists]

theorem Game.seat_host {game : Game} (host : game.isHost = true) (shardId : ShardId) :
    game.seat shardId = .host game.gameId (Roster.parties shardId game.connectedClients) := by
  simp [seat, host]

theorem Game.seat_guest {game : Game} (guest : game.isHost = false) (shardId : ShardId) :
    game.seat shardId = .guest game.gameId ⟨shardId, game.partialHost.id⟩ := by
  simp [seat, guest]

theorem World.gameAt_entry {world : World} {id : Uuid} {game : Game}
    (held : world.gameAt id = some game) :
    ∃ client, world.sockets id = some client ∧ client.game = some game :=
  Option.bind_eq_some_iff.mp held

theorem World.Valid.gameAt {world : World} {id : Uuid} {game : Game} (valid : world.Valid)
    (held : world.gameAt id = some game) : game.Valid id := by
  obtain ⟨client, found, playing⟩ := World.gameAt_entry held
  exact ((valid id client found).playing game playing).2

namespace Cluster

variable {cluster : Cluster} {shardId : ShardId} {id : Uuid} {party : Party} {gameId : String}
  {game : Game} {member : Party} {members : Set Party}

theorem seat_gameAt (party : Party) : cluster.lobby.seat party =
    ((cluster.world party.shardId).gameAt party.id).map (Game.seat party.shardId) := by
  simp only [lobby, World.places, World.gameAt]
  cases (cluster.world party.shardId).sockets party.id <;> simp

theorem seat_of_host (held : (cluster.world shardId).gameAt id = some game)
    (host : game.isHost = true) : cluster.lobby.seat ⟨shardId, id⟩ =
      some (.host game.gameId (Roster.parties shardId game.connectedClients)) := by
  simp [seat_gameAt, held, game.seat_host host]

theorem seat_of_guest (held : (cluster.world shardId).gameAt id = some game)
    (guest : game.isHost = false) : cluster.lobby.seat ⟨shardId, id⟩ =
      some (.guest game.gameId ⟨shardId, game.partialHost.id⟩) := by
  simp [seat_gameAt, held, game.seat_guest guest]

theorem host_of_seat (taken : cluster.lobby.seat party = some (.host gameId members)) :
    ∃ game, (cluster.world party.shardId).gameAt party.id = some game ∧ game.isHost = true ∧
      game.gameId = gameId ∧ members = Roster.parties party.shardId game.connectedClients := by
  rw [seat_gameAt] at taken
  obtain ⟨game, held, same⟩ := Option.map_eq_some_iff.mp taken
  cases host : game.isHost with
  | true =>
    obtain ⟨rfl, rfl⟩ := by simpa [game.seat_host host] using same
    exact ⟨game, held, host, rfl, rfl⟩
  | false => simp [game.seat_guest host] at same

theorem guest_of_seat (taken : cluster.lobby.seat party = some (.guest gameId member)) :
    ∃ game, (cluster.world party.shardId).gameAt party.id = some game ∧ game.isHost = false ∧
      game.gameId = gameId ∧ member = ⟨party.shardId, game.partialHost.id⟩ := by
  rw [seat_gameAt] at taken
  obtain ⟨game, held, same⟩ := Option.map_eq_some_iff.mp taken
  cases host : game.isHost with
  | true => simp [game.seat_host host] at same
  | false =>
    obtain ⟨rfl, rfl⟩ := by simpa [game.seat_guest host] using same
    exact ⟨game, held, host, rfl, rfl⟩

theorem hosts_iff : cluster.lobby.Hosts party gameId ↔
    ∃ game, (cluster.world party.shardId).gameAt party.id = some game ∧ game.isHost = true ∧
      game.gameId = gameId := by
  constructor
  · rintro ⟨members, taken⟩
    obtain ⟨game, held, host, same, -⟩ := host_of_seat taken
    exact ⟨game, held, host, same⟩
  · rintro ⟨game, held, host, rfl⟩
    exact ⟨_, seat_of_host held host⟩

theorem present_iff :
    cluster.lobby.present party ↔ (cluster.world party.shardId).sockets party.id ≠ none := by
  simp [lobby, World.places, Option.isSome_iff_ne_none]

/-- A record names a party exactly when it is that serialized `RedisGame`. -/
theorem record_iff : cluster.lobby.record gameId = some (some party) ↔
    cluster.redis (gameKey gameId) = some (.game ⟨party.shardId, party.id⟩) := by
  obtain ⟨shardId, id⟩ := party
  simp only [lobby, Redis.records]
  cases cluster.redis (gameKey gameId) with
  | none => simp
  | some value =>
    cases value with
    | text content =>
      simp only [Option.bind_some, RedisValue.names]
      split <;> simp
    | game record =>
      obtain ⟨recordShard, hostId⟩ := record
      simp [RedisValue.names]

theorem record_empty_iff : cluster.lobby.record gameId = some none ↔
    cluster.redis (gameKey gameId) = some (.text "") := by
  simp only [lobby, Redis.records]
  cases cluster.redis (gameKey gameId) with
  | none => simp
  | some value =>
    cases value with
    | text content =>
      simp only [Option.bind_some, RedisValue.names]
      split <;> simp_all
    | game record => simp [RedisValue.names]

/-- A party that handles no request rests. -/
theorem AtRest.resting (rests : cluster.AtRest party) : (cluster.lobby.stage party).Resting := by
  rw [lobby_stage]
  cases reader : (cluster.node party.shardId).reader party.id with
  | absent => exact .inl rfl
  | idle => exact .inr (.inl rfl)
  | busy oracle model pc => simp [AtRest, reader, Reader.isBusy] at rests
  | ended => exact .inr (.inr rfl)

/-- Any other stage is that of a handler. -/
theorem busy_of_stage {stage : Stage Party String} (at_ : cluster.lobby.stage party = stage)
    (active : ¬ stage.Resting) : ∃ oracle model pc,
      (cluster.node party.shardId).reader party.id = .busy oracle model pc ∧
        pc.stage party.shardId = stage := by
  subst at_
  rw [lobby_stage] at *
  cases reader : (cluster.node party.shardId).reader party.id with
  | absent => exact absurd (.inl (by simp [reader, Reader.stage])) active
  | idle => exact absurd (.inr (.inl (by simp [reader, Reader.stage]))) active
  | busy oracle model pc => exact ⟨oracle, model, pc, rfl, rfl⟩
  | ended => exact absurd (.inr (.inr (by simp [reader, Reader.stage]))) active

/-- Only an advance or a timeout takes a busy reader further. -/
theorem step_busy {fault : Prop} {before after : Cluster} {action : Action} {oracle : Oracle}
    {model : DefaultModel} {pc : Pc} (valid : before.Valid fault)
    (stepped : before.step action = some after)
    (busy : (before.node action.party.shardId).reader action.party.id = .busy oracle model pc) :
    after.lobby.stage action.party = before.lobby.stage action.party ∨
      action.kind = .advance ∨ ∃ await, action.kind = .timeout await := by
  have alive : (before.node action.party.shardId).phase action.party.id ≠ .unborn := by
    intro fresh
    simp [((valid.orderly action.party).unborn fresh).1] at busy
  obtain ⟨party, kind⟩ := action
  cases step_does stepped with
  | connects unborn => exact absurd unborn alive
  | accepts => exact .inl (by simp [lobby_stage, setNode, Node.setPhase, Node.setWorld])
  | receives idle | answers idle | hangs idle => cases busy.symm.trans idle
  | advances => exact .inr (.inl rfl)
  | lapses => exact .inr (.inr ⟨_, rfl⟩)
  | severs => exact .inl (by simp [lobby_stage, setNode])

/-- A party handles a message after its step because it did so before, has just
received one, or has run a section or been timed out. -/
theorem step_reader {before after : Cluster} {action : Action} {oracle : Oracle}
    {model : DefaultModel} {pc : Pc} (stepped : before.step action = some after)
    (busy : (after.node action.party.shardId).reader action.party.id = .busy oracle model pc) :
    (before.node action.party.shardId).reader action.party.id = .busy oracle model pc ∨
      pc = .receive ∨ pc = .timeoutClone ∨ ∃ earlier part, action.kind = .advance ∧
        (before.node action.party.shardId).reader action.party.id = .busy oracle model earlier ∧
        before.currentSection action.party = some part ∧ part.next = .goto pc := by
  obtain ⟨party, kind⟩ := action
  cases step_does stepped with
  | connects => simp [setNode, Node.setPhase, Node.setReader] at busy
  | accepts => exact .inl (by simpa [setNode, Node.setPhase, Node.setWorld] using busy)
  | receives =>
    simp only [update_reader, Reader.busy.injEq] at busy
    exact .inr (.inl busy.2.2.symm)
  | @answers frame =>
    rw [update_reader] at busy
    rcases Reader.after_idle (bareFrame (before.world party.shardId) party.id frame).2
      with same | same <;> simp [same] at busy
  | @advances _ asked _ running =>
    rw [update_reader] at busy
    obtain ⟨going, rfl⟩ := nextReader_busy busy
    obtain rfl : asked = model := by
      simpa [nextReader, going] using busy
    exact .inr (.inr (.inr ⟨_, _, rfl, running, currentSection_busy running, going⟩))
  | lapses =>
    simp only [update_reader, Reader.busy.injEq] at busy
    exact .inr (.inr (.inl busy.2.2.symm))
  | hangs => simp at busy
  | severs => exact .inl (by simpa [setNode] using busy)

/-- The step installs a host's game: the section of a Join after the record is written. -/
def Installs (cluster : Cluster) (action : Action) (gameId : String) : Prop :=
  (action.kind = .advance ∨ ∃ await, action.kind = .timeout await) ∧ ∃ oracle model,
    (cluster.node action.party.shardId).reader action.party.id =
      .busy oracle model (.joinHost gameId)

end Cluster

namespace Pc

variable {pc : Pc} {shardId : ShardId} {gameId : String} {host : Party}

theorem stage_opening (at_ : pc.stage shardId = .opening gameId) : pc = .joinHost gameId := by
  cases pc with
  | joinEnter _ _ _ _ _ welcomed => cases welcomed <;> simp [stage] at at_
  | _ => simp_all [stage]

theorem stage_claiming (at_ : pc.stage shardId = .claiming gameId) : pc = .joinSet gameId := by
  cases pc with
  | joinEnter _ _ _ _ _ welcomed => cases welcomed <;> simp [stage] at at_
  | _ => simp_all [stage]

theorem stage_striking (at_ : pc.stage shardId = .striking gameId) : pc = .joinForeign gameId := by
  cases pc with
  | joinEnter _ _ _ _ _ welcomed => cases welcomed <;> simp [stage] at at_
  | _ => simp_all [stage]

theorem stage_knocking (at_ : pc.stage shardId = .knocking gameId host) :
    ∃ nickname channel, pc = .joinRegister gameId host.id nickname channel ∧
      host.shardId = shardId := by
  cases pc with
  | joinEnter _ _ _ _ _ welcomed => cases welcomed <;> simp [stage] at at_
  | joinRegister other hostId nickname channel =>
    obtain ⟨rfl, rfl⟩ := by simpa [stage] using at_
    exact ⟨nickname, channel, rfl, rfl⟩
  | _ => simp [stage] at at_

theorem stage_entering (at_ : pc.stage shardId = .entering gameId host) :
    ∃ hostNickname hostChannel nickname,
      pc = .joinEnter gameId host.id hostNickname hostChannel nickname true ∧
        host.shardId = shardId := by
  cases pc with
  | joinEnter other hostId hostNickname hostChannel nickname welcomed =>
    cases welcomed with
    | false => simp [stage] at at_
    | true =>
      obtain ⟨rfl, rfl⟩ := by simpa [stage] using at_
      exact ⟨hostNickname, hostChannel, nickname, rfl, rfl⟩
  | _ => simp [stage] at at_

theorem stage_checking (at_ : pc.stage shardId = .checking gameId host) :
    pc = .existsCheck gameId host.id ∧ host.shardId = shardId := by
  cases pc with
  | joinEnter _ _ _ _ _ welcomed => cases welcomed <;> simp [stage] at at_
  | existsCheck other hostId =>
    obtain ⟨rfl, rfl⟩ := by simpa [stage] using at_
    exact ⟨rfl, rfl⟩
  | _ => simp [stage] at at_

end Pc

/-- A party leaves the opening stage only where it installs its game. -/
theorem Cluster.installs_of_opening {fault : Prop} {before after : Cluster} {action : Action}
    {gameId : String} (valid : before.Valid fault) (stepped : before.step action = some after)
    (opening : before.lobby.stage action.party = .opening gameId)
    (leaves : after.lobby.stage action.party ≠ .opening gameId) :
    before.Installs action gameId := by
  obtain ⟨oracle, model, pc, busy, at_⟩ := busy_of_stage opening (by simp [Stage.Resting])
  obtain rfl := Pc.stage_opening at_
  rcases step_busy valid stepped busy with same | runs
  · exact absurd (same.trans opening) leaves
  · exact ⟨runs, oracle, model, busy⟩

end Grass
