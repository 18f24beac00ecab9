import Grass.Lobby.Protocol
import Grass.Refinement.Operation

namespace Grass

/-- The parties of one process whose ids are in the roster. -/
def Roster.parties (shardId : ShardId) (clients : Option Roster) : Set Party :=
  {party | party.shardId = shardId ∧ ∃ roster, clients = some roster ∧ party.id ∈ roster}

def Game.seat (shardId : ShardId) (game : Game) : Seat Party String :=
  if game.isHost then .host game.gameId (Roster.parties shardId game.connectedClients)
  else .guest game.gameId ⟨shardId, game.partialHost.id⟩

/-- What a record says: nothing yet, or who hosts. Text that is no record says nothing. -/
def RedisValue.names : RedisValue → Option (Option Party)
  | .text content => if content = "" then some none else none
  | .game record => some (some ⟨record.shardId, record.hostId⟩)

def Pc.stage (shardId : ShardId) : Pc → Stage Party String
  | .joinSet gameId => .claiming gameId
  | .joinHost gameId => .opening gameId
  | .joinRegister gameId hostId _ _ => .knocking gameId ⟨shardId, hostId⟩
  | .joinPurge gameId => .condemning gameId
  | .joinEnter gameId hostId _ _ _ true => .entering gameId ⟨shardId, hostId⟩
  | .joinForeign gameId => .striking gameId
  | .existsCheck gameId hostId => .checking gameId ⟨shardId, hostId⟩
  | .existsPurge gameId => .condemning gameId
  | .existsReply gameId found => .answering gameId found
  | .timeoutClone | .timeoutReply _ | .timeoutShutdown _ _ | .timeoutDelete _ _
  | .timeoutLeave _ _ => .lapsing
  | _ => .idle

def Reader.stage (shardId : ShardId) : Reader → Stage Party String
  | .absent => .unborn
  | .idle => .idle
  | .busy _ _ pc => pc.stage shardId
  | .ended => .retired

/-- Every entry's seat, by id. -/
def World.places (shardId : ShardId) (world : World) (id : Uuid) :
    Option (Option (Seat Party String)) :=
  (world.sockets id).map fun client => client.game.map (Game.seat shardId)

def Redis.records (redis : Redis) (gameId : String) : Option (Option Party) :=
  (redis (gameKey gameId)).bind RedisValue.names

/-- The request in a message, if there is one. -/
def DefaultModel.request? (model : DefaultModel) : Option Request :=
  match model.d, model.op with
  | some data, .request => Request.fromValue data
  | _, _ => none

def Action.lapses (action : Action) : Prop :=
  match action.kind with
  | .timeout _ => True
  | _ => False

/-- Whether the next step of `accept_connection` drops a game: a failed registration
removes the entry, `on_close` takes the game, and the end removes the entry. -/
def Phase.drops (oracle : Oracle) : Phase → Bool
  | .greeted => oracle.fails .registerPool || oracle.fails .registerSet
  | .serving | .unregistered => true
  | _ => false

namespace Cluster

def lobby (cluster : Cluster) : Lobby Party String where
  seat party := ((cluster.world party.shardId).places party.shardId party.id).join
  record := cluster.redis.records
  stage party := ((cluster.node party.shardId).reader party.id).stage party.shardId
  present party := ((cluster.world party.shardId).places party.shardId party.id).isSome

/-- A join of a foreign record deletes the key that is its game id; a process
looks for every host in its own map. -/
def rules (fault : Prop) : Lobby.Rules Party String where
  fault := fault
  bare struck game := struck = gameKey game
  under party host := ⟨party.shardId, host.id⟩

/-- The request a reader is about to handle, with what it gets from outside. -/
def requested (cluster : Cluster) (party : Party) : Option (Oracle × Request) :=
  match (cluster.node party.shardId).reader party.id with
  | .busy oracle model .receive => model.request?.map (oracle, ·)
  | _ => none

/-- The step may end the party's own game: a Leave, or a step of `accept_connection`
that drops the connection's entry or takes its game out. -/
def Ends (cluster : Cluster) (action : Action) : Prop :=
  match action.kind with
  | .accept oracle =>
    ((cluster.node action.party.shardId).phase action.party.id).drops oracle = true
  | .advance => ∃ oracle request, cluster.requested action.party = some (oracle, request) ∧
      request.op = .leave
  | _ => False

/-- The step is a Create that draws the id. -/
def Draws (cluster : Cluster) (action : Action) (gameId : String) : Prop :=
  match action.kind with
  | .advance => ∃ oracle request, cluster.requested action.party = some (oracle, request) ∧
      request.op = .create ∧ oracle.gameId = gameId
  | _ => False

def intent (cluster : Cluster) (action : Action) : Lobby.Intent String where
  ends := cluster.Ends action
  draws := cluster.Draws action
  lapses := Action.lapses action

/-- The lobby once the party's process has the world and the party the stage. -/
def moved (cluster : Cluster) (party : Party) (world : World) (stage : Stage Party String) :
    Lobby Party String where
  seat other :=
    if other.shardId = party.shardId then (world.places party.shardId other.id).join
    else cluster.lobby.seat other
  record := world.redis.records
  stage := Function.update cluster.lobby.stage party stage
  present other :=
    if other.shardId = party.shardId then (world.places party.shardId other.id).isSome = true
    else cluster.lobby.present other

end Cluster

namespace Ctx

variable {ctx : Ctx} {world : World}

/-- A message that is a request is handled as one. -/
theorem receive_request {request : Request} (asked : ctx.model.request? = some request) :
    ctx.receive world = ctx.handleRequest world request := by
  unfold DefaultModel.request? at asked
  unfold receive
  split at asked
  · rename_i data op given same
    simp [given, same, asked]
  · cases asked

/-- Any other message is an error. -/
theorem receive_cases (ctx : Ctx) (world : World) : (∃ error, ctx.receive world = .fail world error) ∨
    ∃ request, ctx.model.request? = some request ∧
      ctx.receive world = ctx.handleRequest world request := by
  cases asked : ctx.model.request? with
  | some request => exact .inr ⟨request, rfl, receive_request asked⟩
  | none =>
    left
    unfold DefaultModel.request? at asked
    unfold receive
    split
    · exact ⟨_, rfl⟩
    · rename_i data given
      split
      · rename_i op
        simp only [given, op] at asked
        simp [asked]
      · exact ⟨_, rfl⟩

end Ctx

/-! How the pieces of a world show in the lobby. -/

theorem Game.SameRoster.seat {after before : Game} (same : after.SameRoster before)
    (shardId : ShardId) : after.seat shardId = before.seat shardId := by
  have parties : Roster.parties shardId after.connectedClients =
      Roster.parties shardId before.connectedClients := by
    ext party
    simp only [Roster.parties, Set.mem_ofPred_eq, same.members]
  simp only [Game.seat, same.isHost, same.gameId, same.partialHost, parties]

namespace World

variable (shardId : ShardId) {world other : World}

theorem places_congr (same : other.sockets = world.sockets) :
    other.places shardId = world.places shardId := by
  funext id
  simp only [places, same]

@[simp] theorem places_put (id : Uuid) (client : SocketClient) :
    (world.put id client).places shardId = Function.update (world.places shardId) id
      (some (client.game.map (Game.seat shardId))) := by
  funext other
  by_cases same : other = id
  · subst same
    simp [places]
  · simp [places, same]

@[simp] theorem places_remove (id : Uuid) :
    (world.remove id).places shardId = Function.update (world.places shardId) id none := by
  funext other
  by_cases same : other = id
  · subst same
    simp [places]
  · simp [places, same]

@[simp] theorem places_set (key : String) (value : RedisValue) :
    (world.set key value).places shardId = world.places shardId := rfl

@[simp] theorem places_del (key : String) :
    (world.del key).places shardId = world.places shardId := rfl

@[simp] theorem places_deliver (sent : List Delivery) :
    (world.deliver sent).places shardId = world.places shardId := rfl

@[simp] theorem places_send (channel : SocketSender) (message : Message) :
    (world.send channel message).places shardId = world.places shardId :=
  places_congr shardId (send_sockets world)

/-- Rewriting an entry without touching its game shows nowhere. -/
theorem places_same {id : Uuid} {old new : SocketClient} (found : world.sockets id = some old)
    (same : new.game.map (Game.seat shardId) = old.game.map (Game.seat shardId)) :
    (world.put id new).places shardId = world.places shardId := by
  rw [places_put, Function.update_eq_self_iff, same]
  simp [places, found]

end World

namespace Redis

variable (redis : Redis)

theorem records_set (gameId : String) (value : RedisValue) :
    Redis.records (Function.update redis (gameKey gameId) (some value)) =
      Function.update redis.records gameId value.names := by
  funext other
  by_cases same : other = gameId
  · subst same
    simp [records]
  · simp [records, same]

theorem records_del (gameId : String) :
    Redis.records (Function.update redis (gameKey gameId) none) =
      Function.update redis.records gameId none := by
  funext other
  by_cases same : other = gameId
  · subst same
    simp [records]
  · simp [records, same]

/-- Other keys hold no game records. -/
theorem records_other {key : String} (value : Option RedisValue)
    (apart : ∀ gameId, key ≠ gameKey gameId) :
    Redis.records (Function.update redis key value) = redis.records := by
  funext gameId
  simp [records, Function.update_of_ne (apart gameId).symm]

end Redis

namespace Cluster

variable {cluster : Cluster} {party : Party} {world : World} {stage : Stage Party String}

@[simp] theorem world_sockets (shardId : ShardId) :
    (cluster.world shardId).sockets = (cluster.node shardId).sockets := rfl

@[simp] theorem world_redis (shardId : ShardId) : (cluster.world shardId).redis = cluster.redis := rfl

/-- Putting back a process with the sockets of a world and the acting party at a stage. -/
theorem lobby_setNode {node : Node} (sockets : node.sockets = world.sockets)
    (stages : ∀ id, (node.reader id).stage party.shardId =
      Function.update cluster.lobby.stage party stage ⟨party.shardId, id⟩) :
    (cluster.setNode party.shardId world.redis node).lobby = cluster.moved party world stage := by
  have places : ∀ redis, (node.world redis).places party.shardId = world.places party.shardId :=
    fun redis => World.places_congr _ sockets
  have elsewhere : ∀ other : Party, other.shardId ≠ party.shardId → other ≠ party :=
    fun other apart same => apart (congrArg Party.shardId same)
  refine Lobby.ext ?_ rfl ?_ ?_
  · funext other
    by_cases here : other.shardId = party.shardId
    · simp [lobby, moved, setNode, Cluster.world, here, places]
    · simp [lobby, moved, setNode, Cluster.world, here]
      rfl
  · funext other
    by_cases here : other.shardId = party.shardId
    · obtain ⟨shardId, id⟩ := other
      subst here
      simpa [lobby, setNode, moved] using stages id
    · simp [lobby, setNode, moved, here, elsewhere other here]
  · funext other
    by_cases here : other.shardId = party.shardId
    · simp [lobby, moved, setNode, Cluster.world, here, places]
    · simp [lobby, moved, setNode, Cluster.world, here]
      rfl

theorem setReader_stage (reader : Reader) (id : Uuid) :
    (((cluster.node party.shardId).setReader party.id reader).reader id).stage party.shardId =
      Function.update cluster.lobby.stage party (reader.stage party.shardId)
        ⟨party.shardId, id⟩ := by
  by_cases same : id = party.id
  · subst same
    simp [Node.setReader]
  · have apart : (⟨party.shardId, id⟩ : Party) ≠ party := fun equal => same (by rw [← equal])
    simp [Node.setReader, same, apart, lobby]

theorem lobby_update (reader : Reader) :
    (cluster.update party world reader).lobby =
      cluster.moved party world (reader.stage party.shardId) :=
  lobby_setNode rfl fun id => setReader_stage reader id

theorem moved_seat_kept
    (places : world.places party.shardId = (cluster.world party.shardId).places party.shardId) :
    (cluster.moved party world stage).seat = cluster.lobby.seat := by
  funext other
  simp only [moved, places]
  split
  · rename_i here
    simp only [lobby, here]
  · rfl

theorem moved_seat_put {id : Uuid} {place : Option (Seat Party String)}
    (places : world.places party.shardId = Function.update
      ((cluster.world party.shardId).places party.shardId) id (some place)) :
    (cluster.moved party world stage).seat =
      Function.update cluster.lobby.seat ⟨party.shardId, id⟩ place := by
  funext other
  obtain ⟨shardId, name⟩ := other
  simp only [moved, places, Function.update_apply, Party.mk.injEq]
  by_cases here : shardId = party.shardId
  · by_cases same : name = id
    · simp [here, same]
    · simp [here, same, lobby]
  · simp [here]

/-- Presence shows only which ids have entries. -/
theorem moved_present_same (same : ∀ id, world.sockets id = none ↔
    (cluster.world party.shardId).sockets id = none) :
    (cluster.moved party world stage).present = cluster.lobby.present := by
  funext other
  simp only [moved]
  split
  · rename_i here
    simp only [lobby, here, World.places, Option.isSome_map, eq_iff_iff]
    rw [Option.isSome_iff_ne_none, Option.isSome_iff_ne_none]
    exact not_congr (same other.id)
  · rfl

theorem moved_present (leads : (cluster.world party.shardId).Leads world) :
    (cluster.moved party world stage).present = cluster.lobby.present :=
  moved_present_same fun id => (leads.entry id).missing

end Cluster

end Grass
