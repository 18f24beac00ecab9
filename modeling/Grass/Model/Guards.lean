import Grass.Lib.Locking
import Grass.Model.Cluster

namespace Grass

/-- `get` shares its guard; `get_mut`, `insert` and `remove` do not. -/
inductive GuardMode where
  | shared
  | exclusive
deriving DecidableEq, Repr

/-- A guard on the entry of a connection, in the map of its process. -/
structure Guard where
  party : Party
  mode : GuardMode
deriving DecidableEq, Repr

/-- `Drop for Game` takes the entry of a local host. -/
def Game.dropGuards (shardId : ShardId) (game : Game) : List Guard :=
  if !game.isHost && game.partialHost.isLocal then
    [⟨⟨shardId, game.partialHost.id⟩, .exclusive⟩]
  else []

/-- The guards taken by the drop of the game in a client's entry, if there is one. -/
def World.dropGuards (shardId : ShardId) (world : World) (id : Uuid) : List Guard :=
  match (world.sockets id).bind SocketClient.game with
  | none => []
  | some game => game.dropGuards shardId

namespace Ctx

variable (ctx : Ctx) (world : World)

def get (id : Uuid) : Guard := ⟨⟨ctx.shardId, id⟩, .shared⟩

def getMut (id : Uuid) : Guard := ⟨⟨ctx.shardId, id⟩, .exclusive⟩

/-- The client's entry, and what the drop of its game takes while that is held. -/
def dropping : List (List Guard) :=
  [ctx.getMut ctx.clientId :: world.dropGuards ctx.shardId ctx.clientId]

/-- The guards of a request's first section; the host's guard is taken beside the
client's own in a Task, and where the game of a client is dropped. -/
def requestGuards (request : Request) : List (List Guard) :=
  match request.op with
  | .join =>
    match request.d.bind JoinRequest.fromValue with
    | none => []
    | some _ => [[ctx.get ctx.clientId]]
  | .leave => ctx.dropping world
  | .start =>
    match (world.sockets ctx.clientId).bind SocketClient.game with
    | none => [[ctx.getMut ctx.clientId]]
    | some game => if game.isHost then [[ctx.getMut ctx.clientId]] else ctx.dropping world
  | .task =>
    match (world.sockets ctx.clientId).bind SocketClient.game,
      request.d.bind TaskRequest.fromValue with
    | some game, some _ => [[ctx.get ctx.clientId, ctx.get game.partialHost.id]]
    | _, _ => [[ctx.get ctx.clientId]]
  | .compile | .ping => [[ctx.get ctx.clientId]]
  | .identify => [[ctx.getMut ctx.clientId]]
  | .create | .exists => []

/-- The guards of each section. -/
def guards : Pc → List (List Guard)
  | .receive =>
    match ctx.model.d, ctx.model.op with
    | some data, .request => ((Request.fromValue data).map (ctx.requestGuards world)).getD []
    | _, _ => []
  | .joinHost _ => ctx.dropping world
  | .joinEnter _ _ _ _ _ admitted =>
    if admitted then ctx.dropping world else [[ctx.getMut ctx.clientId]]
  | .joinRegister _ hostId _ _ | .compilePrepare hostId _ | .compileValidate hostId _ _ =>
    [[ctx.getMut hostId]]
  | .existsCheck _ hostId => [[ctx.get hostId]]
  | .joinRefuse _ | .compileFail _ | .compileReply _ | .createReply _ | .existsReply _ _
  | .timeoutClone => [[ctx.get ctx.clientId]]
  | .timeoutLeave game _ => [[ctx.getMut game.partialHost.id]]
  | .joinSet _ | .joinPurge _ | .joinForeign _ | .compileRun _ _ _ | .existsPurge _
  | .timeoutReply _ | .timeoutShutdown _ _ | .timeoutDelete _ _ => []

end Ctx

/-- The guards of the next step of `accept_connection`. A client that is removed from
the map is dropped after the removal. -/
def acceptGuards (shardId : ShardId) (id : Uuid) (oracle : Oracle) (world : World) (phase : Phase)
    (reader : Reader) : List (List Guard) :=
  let own : Party := ⟨shardId, id⟩
  let removal : List (List Guard) := [[⟨own, .exclusive⟩], world.dropGuards shardId id]
  match phase with
  | .inserted => [[⟨own, .exclusive⟩]]
  | .greeted =>
    if (world.sockets id).isSome && (oracle.fails .registerPool || oracle.fails .registerSet) then
      [⟨own, .shared⟩] :: removal
    else [[⟨own, .shared⟩]]
  | .serving =>
    match reader with
    | .ended => [⟨own, .exclusive⟩ :: world.dropGuards shardId id]
    | _ => []
  | .closed => [[⟨own, .shared⟩]]
  | .unregistered => removal
  | _ => []

/-- A connection's reader, its `accept_connection`, and whoever closes its channel. -/
inductive Role where
  | reader
  | acceptor
  | receiver
deriving DecidableEq, Repr

structure Agent where
  party : Party
  role : Role
deriving DecidableEq, Repr

def Action.agent (action : Action) : Agent where
  party := action.party
  role := match action.kind with
    | .connect | .accept _ => .acceptor
    | .frame _ _ | .advance | .timeout _ | .hangup => .reader
    | .sever => .receiver

/-- The guards of a step. A section is cancelled under the same guards as it runs. -/
def Cluster.script (cluster : Cluster) (action : Action) : List (List Guard) :=
  let party := action.party
  let node := cluster.node party.shardId
  let world := cluster.world party.shardId
  match action.kind with
  | .connect => if node.phase party.id = .unborn then [[⟨party, .exclusive⟩]] else []
  | .accept oracle =>
    acceptGuards party.shardId party.id oracle world (node.phase party.id) (node.reader party.id)
  | .frame frame _ =>
    match node.reader party.id, frame.model?, frame with
    | .idle, none, .other => []
    | .idle, none, _ => [[⟨party, .shared⟩]]
    | _, _, _ => []
  | .advance | .timeout _ =>
    match node.reader party.id with
    | .busy oracle model pc =>
      let ctx : Ctx := {
        shardId := party.shardId, clientId := party.id, oracle, model
        availableTasks := node.availableTasks }
      ctx.guards world pc
    | _ => []
  | .hangup | .sever => []

/-- Two guards exclude each other where their connections' ids fall on one lock of one
map, and they are not both shared. -/
def Guard.Conflicts {Lock : Type} (lock : Party → Lock) (guard other : Guard) : Prop :=
  guard.party.shardId = other.party.shardId ∧ lock guard.party = lock other.party ∧
    (guard.mode = .exclusive ∨ other.mode = .exclusive)

/-- The processes with their maps, for an assignment of ids to locks. -/
def Cluster.discipline {Lock : Type} (lock : Party → Lock) :
    Locking.Discipline Cluster Action Agent Guard where
  step := Cluster.step
  agent := Action.agent
  script := Cluster.script
  Conflicts := Guard.Conflicts lock
  symm _ _ := fun ⟨process, same, modes⟩ => ⟨process.symm, same.symm, modes.symm⟩

end Grass
