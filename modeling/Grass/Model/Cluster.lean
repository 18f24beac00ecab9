import Grass.Lib.Transition
import Grass.Model.Handler

/-! Connections and server processes: the reader task and `accept_connection` of
every connection, and any number of processes sharing one Redis. -/

namespace Grass

/-- The reader task of a connection: not spawned yet, waiting for a frame,
handling a message, or ended. -/
inductive Reader where
  | absent
  | idle
  | busy (oracle : Oracle) (model : DefaultModel) (pc : Pc)
  | ended

def Reader.isBusy : Reader → Bool
  | .busy _ _ _ => true
  | _ => false

/-- What the reader loop does with the result of `on_message`. -/
def Reader.after : Exit ClientError Bool → Reader
  | .ok shouldClose => if shouldClose then .ended else .idle
  | .err _ => .idle
  | .panic => .ended

/-- `on_message` closes the connection exactly when the handler failed. -/
def handledResult : Exit ClientError Unit → Exit ClientError Bool
  | .ok () => .ok false
  | .err _ => .ok true
  | .panic => .panic

/-- Where `accept_connection` stands. -/
inductive Phase where
  | unborn
  | inserted
  | greeted
  | serving
  | closed
  | unregistered
  | gone
  | crashed
deriving DecidableEq, Repr

/-- Neither opening nor closing. -/
def Phase.settled : Phase → Bool
  | .unborn | .serving | .gone | .crashed => true
  | _ => false

/-- A frame from the client; text comes with the document it parses to, if any. -/
inductive Frame where
  | text (document : Option Value)
  | ping (bytes : List UInt8)
  | pong (bytes : List UInt8)
  | other

/-- One server process. -/
structure Node where
  sockets : Uuid → Option SocketClient
  availableTasks : List GameTask
  wire : List Delivery
  closed : SocketSender → Bool
  reader : Uuid → Reader
  phase : Uuid → Phase

/-- Server processes, by their shard ids, and the Redis they share. -/
structure Cluster where
  redis : Redis
  node : ShardId → Node

/-- A connection of some process. -/
structure Party where
  shardId : ShardId
  id : Uuid
deriving DecidableEq, Repr

inductive ActionKind where
  /-- A new connection is inserted into the map and its reader spawned. -/
  | connect
  /-- `accept_connection` takes its next step. -/
  | accept (oracle : Oracle)
  /-- The reader takes a frame off the websocket. -/
  | frame (frame : Frame) (oracle : Oracle)
  /-- The handler runs its next section. -/
  | advance
  /-- The handler is cancelled by the timeout at one of the section's awaits. -/
  | timeout (await : Nat)
  /-- The websocket ends. -/
  | hangup
  /-- The receiver of the connection's channel goes away. In the code the write task holds it
  until every sender has been dropped, so that this takes a panic of that task or the end of
  the runtime; here it may happen at any time, which allows more runs than the code has. -/
  | sever

structure Action where
  party : Party
  kind : ActionKind

namespace Node

/-- An initial process: no connection yet. -/
def fresh (availableTasks : List GameTask) : Node where
  sockets _ := none
  availableTasks := availableTasks
  wire := []
  closed _ := false
  reader _ := .absent
  phase _ := .unborn

def world (node : Node) (redis : Redis) : World where
  sockets := node.sockets
  redis := redis
  wire := node.wire
  closed := node.closed

def setWorld (node : Node) (world : World) : Node :=
  { node with sockets := world.sockets, wire := world.wire, closed := world.closed }

def setReader (node : Node) (id : Uuid) (reader : Reader) : Node :=
  { node with reader := Function.update node.reader id reader }

def setPhase (node : Node) (id : Uuid) (phase : Phase) : Node :=
  { node with phase := Function.update node.phase id phase }

end Node

/-- `Message::Ping`, `Message::Pong` and text that is no message; only here does
`on_message` not go through the handlers. -/
def bareFrame (world : World) (id : Uuid) (frame : Frame) : World × Exit ClientError Bool :=
  match frame with
  | .other => (world, .ok false)
  | _ =>
    match world.sockets id with
    | none => (world, .panic)
    | some client =>
      let failed := world.closed client.sendChannel
      match frame with
      | .ping bytes =>
        (world.send client.sendChannel (.pong bytes), if failed then .err .sendError else .ok false)
      | .pong bytes =>
        (world.send client.sendChannel (.ping bytes), if failed then .err .sendError else .ok false)
      | _ =>
        (world.send client.sendChannel
          (.error (.invalidMessage "Invalid model, closing connection.")),
          if failed then .err .sendError else .ok true)

def Frame.model? : Frame → Option DefaultModel
  | .text document => document.bind DefaultModel.fromStr
  | _ => none

/-- The drop of the local handle that `accept_connection` keeps: it never saw
`on_close`, and holds no game. -/
def World.dropLocal (world : World) (id : Uuid) : World := world.announceDrop (.new id id)

/-- The next step of `accept_connection` after the insertion. -/
def acceptStep (shardId : ShardId) (id : Uuid) (oracle : Oracle) (world : World) (phase : Phase)
    (reader : Reader) : Option (World × Phase) :=
  let crash (world : World) : Option (World × Phase) := some (world.dropLocal id, .crashed)
  match phase with
  | .inserted =>
    match world.sockets id with
    | none => crash world
    | some client =>
      if world.closed client.sendChannel then crash world
      else some (world.send client.sendChannel (.hello client.id), .greeted)
  | .greeted =>
    match world.sockets id with
    | none => crash world
    | some client =>
      if oracle.fails .registerPool || oracle.fails .registerSet then
        match (world.remove id).dropClient oracle client with
        | (world, .panic) => crash world
        | (world, _) => some (world, .serving)
      else some (world.set (userKey client.id) (.text shardId), .serving)
  | .serving =>
    match reader with
    | .ended =>
      match world.sockets id with
      | none => crash world
      | some client =>
        let client := { client with performedSafeShutdown := true }
        match (world.put id { client with game := none }).dropGame? oracle client.game with
        | (world, .panic) => crash world
        | (world, _) => some (world, .closed)
    | _ => none
  | .closed =>
    match world.sockets id with
    | none => crash world
    | some client =>
      if oracle.fails .unregisterPool || oracle.fails .unregisterDel then
        some (world, .unregistered)
      else some (world.del (userKey client.id), .unregistered)
  | .unregistered =>
    match world.sockets id with
    | none => some (world.dropLocal id, .gone)
    | some client =>
      match (world.remove id).dropClient oracle client with
      | (world, .panic) => crash world
      | (world, _) => some (world.dropLocal id, .gone)
  | _ => none

namespace Cluster

/-- What the handlers of one process see. -/
def world (cluster : Cluster) (shardId : ShardId) : World :=
  (cluster.node shardId).world cluster.redis

def setNode (cluster : Cluster) (shardId : ShardId) (redis : Redis) (node : Node) : Cluster where
  redis := redis
  node := Function.update cluster.node shardId node

/-- The section a busy reader is about to run. -/
def currentSection (cluster : Cluster) (party : Party) : Option Section :=
  match (cluster.node party.shardId).reader party.id with
  | .busy oracle model pc =>
    let ctx : Ctx := {
      shardId := party.shardId, clientId := party.id, oracle, model
      availableTasks := (cluster.node party.shardId).availableTasks }
    some (ctx.runSection (cluster.world party.shardId) pc)
  | _ => none

def nextReader (oracle : Oracle) (model : DefaultModel) : Next → Reader
  | .goto pc => .busy oracle model pc
  | .handled exit => .after (handledResult exit)
  | .returned result => .after result

/-- Put back a world and the acting connection's reader. -/
def update (cluster : Cluster) (party : Party) (world : World) (reader : Reader) : Cluster :=
  cluster.setNode party.shardId world.redis
    (((cluster.node party.shardId).setWorld world).setReader party.id reader)

section Update

variable (cluster : Cluster) (party : Party) (world : World) (reader : Reader)

@[simp] theorem update_world : (cluster.update party world reader).world party.shardId = world := by
  simp [Cluster.world, update, setNode, Node.setReader, Node.setWorld, Node.world]

@[simp] theorem update_reader :
    ((cluster.update party world reader).node party.shardId).reader party.id = reader := by
  simp [update, setNode, Node.setReader]

theorem update_reader_of_ne {id : Uuid} (other : id ≠ party.id) :
    ((cluster.update party world reader).node party.shardId).reader id =
      (cluster.node party.shardId).reader id := by
  simp [update, setNode, Node.setReader, Node.setWorld, other]

end Update

/-- One atomic step of the whole system, `none` where the action is not enabled. -/
def step (cluster : Cluster) (action : Action) : Option Cluster :=
  let party := action.party
  let node := cluster.node party.shardId
  let world := cluster.world party.shardId
  match action.kind with
  | .connect =>
    if node.phase party.id = .unborn then
      some (cluster.setNode party.shardId cluster.redis
        (((node.setWorld (world.put party.id (.new party.id party.id))).setReader party.id
          .idle).setPhase party.id .inserted))
    else none
  | .accept oracle =>
    match acceptStep party.shardId party.id oracle world (node.phase party.id)
        (node.reader party.id) with
    | some (world, phase) =>
      some (cluster.setNode party.shardId world.redis
        ((node.setWorld world).setPhase party.id phase))
    | none => none
  | .frame frame oracle =>
    match node.reader party.id with
    | .idle =>
      match frame.model? with
      | some model => some (cluster.update party world (.busy oracle model .receive))
      | none =>
        let (world, result) := bareFrame world party.id frame
        some (cluster.update party world (.after result))
    | _ => none
  | .advance =>
    match node.reader party.id, cluster.currentSection party with
    | .busy oracle model _, some current =>
      some (cluster.update party current.final (nextReader oracle model current.next))
    | _, _ => none
  | .timeout await =>
    match node.reader party.id, cluster.currentSection party with
    | .busy oracle model _, some current =>
      match current.paused[await]? with
      | some world => some (cluster.update party world (.busy oracle model .timeoutClone))
      | none => none
    | _, _ => none
  | .hangup =>
    match node.reader party.id with
    | .idle => some (cluster.update party world .ended)
    | _ => none
  | .sever =>
    some (cluster.setNode party.shardId cluster.redis
      { node with closed := Function.update node.closed party.id true })

/-- A connection whose reader handles no message and which is neither opening
nor closing. -/
def AtRest (cluster : Cluster) (party : Party) : Prop :=
  ((cluster.node party.shardId).reader party.id).isBusy = false ∧
    ((cluster.node party.shardId).phase party.id).settled = true

instance (cluster : Cluster) (party : Party) : Decidable (cluster.AtRest party) :=
  inferInstanceAs (Decidable (_ ∧ _))

end Cluster

end Grass
