import Mathlib.Logic.Function.Basic
import Grass.Model.Grading

/-! What the handlers of one server process touch: its sockets map, the Redis
store, and the client channels; and the end of a game by `Drop`. -/

namespace Grass

structure SocketClient where
  id : Uuid
  sendChannel : SocketSender
  game : Option Game
  nickname : Option String
  performedSafeShutdown : Bool

def SocketClient.new (id : Uuid) (sendChannel : SocketSender) : SocketClient :=
  { id, sendChannel, game := none, nickname := none, performedSafeShutdown := false }

structure RedisGame where
  shardId : ShardId
  hostId : Uuid
deriving DecidableEq, Repr

/-- A stored string as the server reads it: one that parses as a `RedisGame`,
or any other text (the empty one for a game not yet initialised). -/
inductive RedisValue where
  | text (text : String)
  | game (game : RedisGame)
deriving DecidableEq, Repr

abbrev Redis := String → Option RedisValue

def gameKey (gameId : String) : String := "GAME:" ++ gameId

def userKey (id : Uuid) : String := "SOCKET:USER:" ++ toString id

@[simp] theorem gameKey_inj : gameKey first = gameKey second ↔ first = second := by
  simp [gameKey]

theorem userKey_ne_gameKey (id : Uuid) (gameId : String) : userKey id ≠ gameKey gameId := by
  intro same
  have letters := congrArg String.toList same
  simp [userKey, gameKey] at letters

/-- Every place where the pool or a command may fail. -/
inductive RedisSite where
  | joinPool | joinGet | joinSet | joinGameGone | joinHostGone | joinForeignPool | joinForeignDel
  | createPool | createSet
  | existsPool | existsGet | existsDel
  | shutdownPool | shutdownDel | dropPool | dropDel
  | registerPool | registerSet | unregisterPool | unregisterDel
deriving DecidableEq, Repr

/-- What one request or one step of a connection gets from outside: Redis
failures, hash map iterations, random choices and sandbox answers. -/
structure Oracle where
  fails : RedisSite → Bool
  order : IterOrder
  gameId : String
  choose : List GameTask → Nat → List GameTask
  sandbox : Sandbox

structure World where
  sockets : Uuid → Option SocketClient
  redis : Redis
  /-- Every message enqueued so far, oldest first. -/
  wire : List Delivery
  /-- The channels whose receiver is gone. -/
  closed : SocketSender → Bool

namespace World

def put (world : World) (id : Uuid) (client : SocketClient) : World :=
  { world with sockets := Function.update world.sockets id (some client) }

def remove (world : World) (id : Uuid) : World :=
  { world with sockets := Function.update world.sockets id none }

def set (world : World) (key : String) (value : RedisValue) : World :=
  { world with redis := Function.update world.redis key (some value) }

def del (world : World) (key : String) : World :=
  { world with redis := Function.update world.redis key none }

def deliver (world : World) (sent : List Delivery) : World :=
  { world with wire := world.wire ++ sent }

/-- `SocketClient::send`: fails only on a closed channel. -/
def send (world : World) (channel : SocketSender) (message : Message) : World :=
  if world.closed channel then world else world.deliver [⟨channel, message⟩]

section Fields

variable (world : World) {id : Uuid} {client : SocketClient} {key : String} {value : RedisValue}
  {sent : List Delivery}

@[simp] theorem put_redis : (world.put id client).redis = world.redis := rfl
@[simp] theorem put_wire : (world.put id client).wire = world.wire := rfl
@[simp] theorem put_closed : (world.put id client).closed = world.closed := rfl
@[simp] theorem put_sockets :
    (world.put id client).sockets = Function.update world.sockets id (some client) := rfl
@[simp] theorem remove_redis : (world.remove id).redis = world.redis := rfl
@[simp] theorem remove_closed : (world.remove id).closed = world.closed := rfl
@[simp] theorem remove_sockets :
    (world.remove id).sockets = Function.update world.sockets id none := rfl
@[simp] theorem set_sockets : (world.set key value).sockets = world.sockets := rfl
@[simp] theorem set_wire : (world.set key value).wire = world.wire := rfl
@[simp] theorem set_closed : (world.set key value).closed = world.closed := rfl
@[simp] theorem set_redis :
    (world.set key value).redis = Function.update world.redis key (some value) := rfl
@[simp] theorem del_sockets : (world.del key).sockets = world.sockets := rfl
@[simp] theorem del_wire : (world.del key).wire = world.wire := rfl
@[simp] theorem del_closed : (world.del key).closed = world.closed := rfl
@[simp] theorem del_redis :
    (world.del key).redis = Function.update world.redis key none := rfl
@[simp] theorem deliver_sockets : (world.deliver sent).sockets = world.sockets := rfl
@[simp] theorem deliver_redis : (world.deliver sent).redis = world.redis := rfl
@[simp] theorem deliver_closed : (world.deliver sent).closed = world.closed := rfl
@[simp] theorem deliver_wire : (world.deliver sent).wire = world.wire ++ sent := rfl

@[simp] theorem send_sockets : (world.send channel message).sockets = world.sockets := by
  unfold send
  split <;> rfl

@[simp] theorem send_redis : (world.send channel message).redis = world.redis := by
  unfold send
  split <;> rfl

@[simp] theorem send_closed : (world.send channel message).closed = world.closed := by
  unfold send
  split <;> rfl

end Fields

/-- `Game::shutdown` up to its result: tell the participants, forget them, delete
the record, tell the host. -/
def shutdownGame (oracle : Oracle) (world : World) (game : Game) :
    Game × World × Exit ClientError Unit :=
  match game.checkHost with
  | .ok () =>
    match game.connectedClients with
    | none => (game, world, .panic)
    | some roster =>
      let farewells : Sending ClientError Unit := sendAll world.closed
        ((oracle.order.list roster).map fun entry => (entry.2, .gameEvent .shutdown))
      let world := world.deliver farewells.sent
      match farewells.exit with
      | .ok () =>
        let game := { game with connectedClients := some ∅, shutdown := true }
        if oracle.fails .shutdownPool || oracle.fails .shutdownDel then
          (game, world, .err (.internalServerError "redis"))
        else
          let world := world.del (gameKey game.gameId)
          let goodbye :=
            game.partialHost.sendMessage world.closed (.response (.shutdown true))
          (game, world.deliver goodbye.sent, goodbye.exit)
      | exit => (game, world, exit)
  | exit => (game, world, exit)

/-- The second deletion, of `Drop for Game` itself: both results are unwrapped. -/
def deleteRecord (oracle : Oracle) (world : World) (gameId : String) :
    World × Exit ClientError Unit :=
  if oracle.fails .dropPool || oracle.fails .dropDel then (world, .panic)
  else (world.del (gameKey gameId), .ok ())

/-- Unregister a local participant from whatever game its host holds now. -/
def unregisterFromHost (oracle : Oracle) (world : World) (game : Game) :
    World × Exit Unit Unit :=
  match world.sockets game.partialHost.id with
  | some hostClient =>
    match hostClient.game with
    | some hostGame =>
      let (hostGame, sending) :=
        hostGame.unregister oracle.order world.closed game.partialClient.id
      ((world.put game.partialHost.id { hostClient with game := some hostGame }).deliver
        sending.sent, sending.exit)
    | none => (world, .ok ())
  | none => (world, .ok ())

/-- The drop of a participant's game whose host is local. -/
def leaveGame (oracle : Oracle) (world : World) (game : Game) : World × Exit ClientError Unit :=
  match world.unregisterFromHost oracle game with
  | (world, .panic) => (world, .panic)
  | (world, _) =>
    let goodbye : Sending ClientError Unit :=
      (game.partialClient.sendMessage world.closed (.response (.leave true))).ignore
    (world.deliver goodbye.sent, goodbye.exit)

/-- `Drop for Game`. -/
def dropGame (oracle : Oracle) (world : World) (game : Game) : World × Exit ClientError Unit :=
  if game.isHost then
    match world.shutdownGame oracle game with
    | (_, world, .panic) => (world, .panic)
    | (_, world, _) => world.deleteRecord oracle game.gameId
  else if game.partialHost.isLocal then world.leaveGame oracle game
  else (world, .ok ())

def dropGame? (oracle : Oracle) (world : World) : Option Game → World × Exit ClientError Unit
  | none => (world, .ok ())
  | some game => world.dropGame oracle game

/-- `Drop for SocketClient`, without its fields. -/
def announceDrop (world : World) (client : SocketClient) : World :=
  if client.performedSafeShutdown then world else world.send client.sendChannel .forcedDisconnection

section Announce

variable (world : World) (client : SocketClient)

@[simp] theorem announceDrop_sockets : (world.announceDrop client).sockets = world.sockets := by
  unfold announceDrop
  split
  · rfl
  · exact send_sockets world

@[simp] theorem announceDrop_redis : (world.announceDrop client).redis = world.redis := by
  unfold announceDrop
  split
  · rfl
  · exact send_redis world

@[simp] theorem announceDrop_closed : (world.announceDrop client).closed = world.closed := by
  unfold announceDrop
  split
  · rfl
  · exact send_closed world

end Announce

/-- Dropping a socket client drops its game after it. -/
def dropClient (oracle : Oracle) (world : World) (client : SocketClient) :
    World × Exit ClientError Unit :=
  (world.announceDrop client).dropGame? oracle client.game

/-- Store a game in a client's entry; the value it replaces is dropped. -/
def setGame (oracle : Oracle) (world : World) (id : Uuid) (client : SocketClient) (game : Game) :
    World × Exit ClientError Unit :=
  match world.dropGame? oracle client.game with
  | (world, .panic) => (world, .panic)
  | (world, _) => (world.put id { client with game := some game }, .ok ())

end World

end Grass
