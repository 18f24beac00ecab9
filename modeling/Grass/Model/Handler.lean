import Grass.Model.Request
import Grass.Model.World

/-! `Request::handle_message` and `SocketClient::on_message` as sequences of
atomic sections: each section under a sockets guard, and each Redis command
outside of one, is one section. -/

namespace Grass

/-- What stays fixed while one message is handled. -/
structure Ctx where
  shardId : ShardId
  clientId : Uuid
  oracle : Oracle
  availableTasks : List GameTask
  model : DefaultModel

/-- The section a handler is about to run, with the locals it still needs. -/
inductive Pc where
  | receive
  | joinSet (gameId : String)
  | joinHost (gameId : String)
  | joinRegister (gameId : String) (hostId : Uuid) (nickname : String) (channel : SocketSender)
  | joinPurge (gameId : String)
  | joinEnter (gameId : String) (hostId : Uuid) (hostNickname : String)
      (hostChannel : SocketSender) (nickname : String) (admitted : Bool)
  | joinForeign (gameId : String)
  | joinRefuse (gameId : String)
  | compilePrepare (hostId : Uuid) (request : CompileRequest)
  | compileFail (error : ClientError)
  | compileRun (hostId : Uuid) (request : CompileRequest) (stdin : List String)
  | compileValidate (hostId : Uuid) (request : CompileRequest) (result : SandboxResponse)
  | compileReply (response : CompilationResponse)
  | createReply (gameId : String)
  | existsCheck (gameId : String) (hostId : Uuid)
  | existsPurge (gameId : String)
  | existsReply (gameId : String) (found : Bool)
  | timeoutClone
  | timeoutReply (clone : SocketClient)
  | timeoutShutdown (game : Game) (result : Exit ClientError Bool)
  | timeoutDelete (gameId : String) (result : Exit ClientError Bool)
  | timeoutLeave (game : Game) (result : Exit ClientError Bool)

/-- Where control goes after a section: on, back from `handle_message`, or back
from `on_message` itself. -/
inductive Next where
  | goto (pc : Pc)
  | handled (exit : Exit ClientError Unit)
  | returned (result : Exit ClientError Bool)

/-- One section: the worlds in which it is suspended at its awaits, the world it
ends in, and where control goes. -/
structure Section where
  paused : List World
  final : World
  next : Next

namespace Section

def stop (world : World) (exit : Exit ClientError Unit) : Section :=
  ⟨[], world, .handled exit⟩

def fail (world : World) (error : ClientError) : Section := stop world (.err error)

def panic (world : World) : Section := stop world .panic

def goto (world : World) (pc : Pc) : Section := ⟨[], world, .goto pc⟩

/-- Send the error to the client, whether that works or not, and return it. -/
def refuse (world : World) (client : SocketClient) (error : ClientError) : Section :=
  ⟨[world], world.send client.sendChannel (.error error), .handled (.err error)⟩

/-- Send a response; a closed channel turns the result into `SendError`. -/
def reply (world : World) (channel : SocketSender) (response : Response)
    (exit : Exit ClientError Unit) : Section :=
  ⟨[world], world.send channel (.response response),
    .handled (if world.closed channel then .err .sendError else exit)⟩

/-- The worlds between the sends of a list. -/
def between (world : World) (sent : List Delivery) : List World :=
  (List.range sent.length).map fun count => world.deliver (sent.take count)

end Section

namespace Ctx

variable (ctx : Ctx) (world : World)

/-- Read the record and go on as it says. -/
def joinRead (gameId nickname : String) (client : SocketClient) : Section :=
  match if ctx.oracle.fails .joinGet then none else world.redis (gameKey gameId) with
  | none => .refuse world client .noGameWasFound
  | some (.text text) =>
    if text = "" then .goto world (.joinSet gameId)
    else .fail world (.internalServerError "Failed to parse game")
  | some (.game redisGame) =>
    if redisGame.shardId = ctx.shardId then
      .goto world (.joinRegister gameId redisGame.hostId nickname client.sendChannel)
    else .goto world (.joinForeign gameId)

def handleJoin (d : Option Value) : Section :=
  match d with
  | none => .fail world (.noDataWithOpCode "No data was sent with join request")
  | some data =>
    match JoinRequest.fromValue data with
    | none => .fail world .parsingError
    | some request =>
      match world.sockets ctx.clientId with
      | none => .panic world
      | some client =>
        if client.game.isSome then .refuse world client (.alreadyInGame "Client is already in a game")
        else match client.nickname with
          | none => .refuse world client .clientNotIdentified
          | some nickname =>
            if ctx.oracle.fails .joinPool then
              .refuse world client (.internalServerError "Internal Server Error")
            else ctx.joinRead world request.gameId nickname client

/-- Register as host in Redis. -/
def joinSet (gameId : String) : Section :=
  if ctx.oracle.fails .joinSet then .fail world (.internalServerError "Internal cache error")
  else .goto (world.set (gameKey gameId) (.game ⟨ctx.shardId, ctx.clientId⟩)) (.joinHost gameId)

/-- The requester as a participant of its own or another's game. -/
def localClient (client : SocketClient) (nickname : String) : PartialClient :=
  .new client.id nickname ctx.shardId true (some client.sendChannel)

def joinHost (gameId : String) : Section :=
  match world.sockets ctx.clientId with
  | none => .panic world
  | some client =>
    match client.nickname with
    | none => .panic world
    | some nickname =>
      let self := ctx.localClient client nickname
      match world.setGame ctx.oracle ctx.clientId client (.new true gameId self self) with
      | (world, .ok ()) => .reply world client.sendChannel (.join gameId true true) (.ok ())
      | (world, _) => .panic world

/-- Register with the game the recorded host holds now; its record is deleted
when it holds none. -/
def joinRegister (gameId : String) (hostId : Uuid) (nickname : String)
    (channel : SocketSender) : Section :=
  match world.sockets hostId with
  | none => .goto world (.joinPurge gameId)
  | some hostClient =>
    match hostClient.nickname with
    | none => .panic world
    | some hostNickname =>
      match hostClient.game with
      | none =>
        .fail (if ctx.oracle.fails .joinHostGone then world else world.del (gameKey gameId))
          (.internalServerError "Host was not in the game, could not join it.")
      | some hostGame =>
        let (hostGame, sending) := hostGame.register ctx.oracle.order world.closed
          (.new ctx.clientId nickname ctx.shardId true (some channel))
        let after :=
          (world.put hostId { hostClient with game := some hostGame }).deliver sending.sent
        let enter := Pc.joinEnter gameId hostId hostNickname hostClient.sendChannel nickname
        { paused := Section.between world sending.sent
          final := after
          next := match sending.exit with
            | .ok () => .goto (enter true)
            | .err () => .goto (enter false)
            | .panic => .handled .panic }

/-- Unregister the game if the host is gone. -/
def joinPurge (gameId : String) : Section :=
  .fail (if ctx.oracle.fails .joinGameGone then world else world.del (gameKey gameId))
    (.clientDoesNotExist "Socket client does not exist")

def joinEnter (gameId : String) (hostId : Uuid) (hostNickname : String)
    (hostChannel : SocketSender) (nickname : String) (admitted : Bool) : Section :=
  match world.sockets ctx.clientId with
  | none => .panic world
  | some client =>
    if admitted then
      let host := PartialClient.new hostId hostNickname ctx.shardId true (some hostChannel)
      let game := Game.new false gameId (ctx.localClient client nickname) host
      match world.setGame ctx.oracle ctx.clientId client game with
      | (world, .ok ()) => .reply world client.sendChannel (.join gameId false true) (.ok ())
      | (world, _) => .panic world
    else .reply world client.sendChannel (.join gameId false false) (.ok ())

/-- The record names another shard: delete the given id as it is. -/
def joinForeign (gameId : String) : Section :=
  if ctx.oracle.fails .joinForeignPool then .panic world
  else if ctx.oracle.fails .joinForeignDel then
    .fail world (.internalServerError "Game was corrupt")
  else .goto (world.del gameId) (.joinRefuse gameId)

def joinRefuse (gameId : String) : Section :=
  match world.sockets ctx.clientId with
  | none => .panic world
  | some client =>
    .reply world client.sendChannel (.join gameId false false) (.err .noGameWasFound)

/-- Take the game out of the client's entry and drop it. -/
def takeGame (client : SocketClient) (game : Game) : World × Exit ClientError Unit :=
  (world.put ctx.clientId { client with game := none }).dropGame ctx.oracle game

def handleLeave : Section :=
  match world.sockets ctx.clientId with
  | none => .panic world
  | some client =>
    match client.game with
    | none => .refuse world client (.notInGame "Client was not in a game")
    | some game =>
      let (world, exit) := ctx.takeGame world client game
      .stop world exit

def startHosted (d : Option Value) (client : SocketClient) (game : Game) : Section :=
  match d with
  | none => .panic world
  | some data =>
    match StartRequest.fromValue data with
    | none => .fail world .parsingError
    | some request =>
      let (game, sending) := game.start ctx.oracle.order world.closed ctx.oracle.choose
        ctx.availableTasks request.taskCount
      let world := world.put ctx.clientId { client with game := some game }
      { paused := Section.between world sending.sent
        final := world.deliver sending.sent
        next := .handled (match sending.exit with
          | .ok () => .ok ()
          | .err _ => .err .sendError
          | .panic => .panic) }

def handleStart (d : Option Value) : Section :=
  match world.sockets ctx.clientId with
  | none => .panic world
  | some client =>
    match client.game with
    | none => .refuse world client (.notInGame "Client was not in a game")
    | some game =>
      if game.isHost then ctx.startHosted world d client game
      else
        match ctx.takeGame world client game with
        | (world, .panic) => .panic world
        | (world, _) => .refuse world client (.notGameHost "Client was not the game host")

def handleTask (d : Option Value) : Section :=
  match world.sockets ctx.clientId with
  | none => .panic world
  | some client =>
    match client.game with
    | none => .refuse world client (.notInGame "Client was not in a game")
    | some game =>
      match d with
      | none => .panic world
      | some data =>
        match TaskRequest.fromValue data with
        | none => .fail world .parsingError
        | some request =>
          match world.sockets game.partialHost.id with
          | none => .refuse world client (.internalServerError "Host does not exist")
          | some host =>
            match host.game with
            | none => .refuse world client (.internalServerError "Host was not in the same game")
            | some hostGame =>
              match hostGame.getTaskIndexed request.taskIndex with
              | .ok task => .reply world client.sendChannel (.task task.serialize) (.ok ())
              | .error (some ()) => .refuse world client .outOfRangeTask
              | .error none => .refuse world client .gameNotStarted

def handleCompile (d : Option Value) : Section :=
  match world.sockets ctx.clientId with
  | none => .panic world
  | some client =>
    match client.game with
    | none => .refuse world client (.notInGame "Client was not in a game")
    | some game =>
      match d with
      | none => .panic world
      | some data =>
        match CompileRequest.fromValue data with
        | none => .fail world .parsingError
        | some request => .goto world (.compilePrepare game.partialHost.id request)

/-- The started game the host holds now, or the error of a compile request. -/
def compileGame (hostId : Uuid) : Except ClientError (SocketClient × Game) :=
  match world.sockets hostId with
  | none => .error (.internalServerError "Host does not exist")
  | some host =>
    match host.game with
    | none => .error (.internalServerError "Host was not in the game")
    | some game => if game.isStarted then .ok (host, game) else .error .gameNotStarted

def compilePrepare (hostId : Uuid) (request : CompileRequest) : Section :=
  match compileGame world hostId with
  | .error error => .goto world (.compileFail error)
  | .ok (_, game) =>
    match game.prepareCodeTest request.taskIndex with
    | .ok stdin => .goto world (.compileRun hostId request stdin)
    | .err _ => .goto world (.compileFail (.compilationError "Host was not host"))
    | .panic => .panic world

def compileFail (error : ClientError) : Section :=
  match world.sockets ctx.clientId with
  | none => .panic world
  | some client => .refuse world client error

/-- The public sandbox run; no guard is held. -/
def compileRun (hostId : Uuid) (request : CompileRequest) (stdin : List String) : Section :=
  { paused := [world]
    final := world
    next := match compileCode ctx.oracle.sandbox ctx.clientId request.code stdin with
      | .ok result => .goto (.compileValidate hostId request result)
      | .err _ => .handled (.err (.compilationError "failed to compile"))
      | .panic => .handled .panic }

def compileValidate (hostId : Uuid) (request : CompileRequest) (result : SandboxResponse) :
    Section :=
  match compileGame world hostId with
  | .error error => .goto world (.compileFail error)
  | .ok (host, game) =>
    let (after, sending) := game.validateCodeTest ctx.oracle.order world.closed ctx.oracle.sandbox
      ctx.clientId request.taskIndex request.code result
    let graded := world.put hostId { host with game := some after }
    { paused := match game.publicStage ctx.clientId request.taskIndex result with
        | .answered _ => []
        | .passed _ _ _ => world :: Section.between graded sending.sent
      final := graded.deliver sending.sent
      next := match sending.exit with
        | .ok response => .goto (.compileReply response)
        | .err _ => .goto (.compileFail (.compilationError "Compilation failed"))
        | .panic => .handled .panic }

def compileReply (response : CompilationResponse) : Section :=
  match world.sockets ctx.clientId with
  | none => .panic world
  | some client => .reply world client.sendChannel (.compile response) (.ok ())

def handlePing : Section :=
  match world.sockets ctx.clientId with
  | none => .panic world
  | some client => .reply world client.sendChannel .ping (.ok ())

def handleIdentify (d : Option Value) : Section :=
  match world.sockets ctx.clientId with
  | none => .panic world
  | some client =>
    match client.nickname with
    | some _ => .reply world client.sendChannel (.identify false) (.ok ())
    | none =>
      match d with
      | none => .panic world
      | some data =>
        match IdentifyRequest.fromValue data with
        | none => .fail world .parsingError
        | some request =>
          .reply (world.put ctx.clientId { client with nickname := some request.nickname })
            client.sendChannel (.identify true) (.ok ())

def handleCreate (d : Option Value) : Section :=
  match d with
  | none => .panic world
  | some data =>
    match CreateRequest.fromValue data with
    | none => .fail world .parsingError
    | some _ =>
      if ctx.oracle.fails .createPool || ctx.oracle.fails .createSet then
        .fail world (.internalServerError "Cache error")
      else .goto (world.set (gameKey ctx.oracle.gameId) (.text "")) (.createReply ctx.oracle.gameId)

def createReply (gameId : String) : Section :=
  match world.sockets ctx.clientId with
  | none => .panic world
  | some client => .reply world client.sendChannel (.create gameId) (.ok ())

/-- Read the record and judge it. -/
def existsRead (gameId : String) : Section :=
  match if ctx.oracle.fails .existsGet then none else world.redis (gameKey gameId) with
  | none => .goto world (.existsReply gameId false)
  | some (.text text) =>
    if text = "" then .goto world (.existsReply gameId true)
    else .fail world (.internalServerError "Failed to parse game")
  | some (.game redisGame) => .goto world (.existsCheck gameId redisGame.hostId)

def handleExists (d : Option Value) : Section :=
  match d with
  | none => .panic world
  | some data =>
    match ExistsRequest.fromValue data with
    | none => .fail world .parsingError
    | some request =>
      if ctx.oracle.fails .existsPool then .fail world (.internalServerError "Cache error")
      else ctx.existsRead world request.gameId

/-- Whether the recorded host has an entry in this process's own map. -/
def existsCheck (gameId : String) (hostId : Uuid) : Section :=
  match world.sockets hostId with
  | none => .goto world (.existsPurge gameId)
  | some _ => .goto world (.existsReply gameId true)

def existsPurge (gameId : String) : Section :=
  .goto (if ctx.oracle.fails .existsDel then world else world.del (gameKey gameId))
    (.existsReply gameId false)

def existsReply (found : Bool) : Section :=
  match world.sockets ctx.clientId with
  | none => .panic world
  | some client => .reply world client.sendChannel (.exists found) (.ok ())

/-- `Request::handle_message`, up to the end of its first section. -/
def handleRequest (request : Request) : Section :=
  match request.op with
  | .join => ctx.handleJoin world request.d
  | .leave => ctx.handleLeave world
  | .start => ctx.handleStart world request.d
  | .task => ctx.handleTask world request.d
  | .compile => ctx.handleCompile world request.d
  | .ping => ctx.handlePing world
  | .identify => ctx.handleIdentify world request.d
  | .create => ctx.handleCreate world request.d
  | .exists => ctx.handleExists world request.d

/-- `ClientMessageHandler::handle_message`. -/
def receive : Section :=
  match ctx.model.d with
  | none => .fail world (.noDataWithOpCode "No data was sent with opcode")
  | some data =>
    match ctx.model.op with
    | .request =>
      match Request.fromValue data with
      | none => .fail world .parsingError
      | some request => ctx.handleRequest world request
    | _ => .fail world .invalidOpCode

/-- The timeout branch clones the client's entry. -/
def timeoutClone : Section :=
  match world.sockets ctx.clientId with
  | none => ⟨[], world, .returned .panic⟩
  | some client => .goto world (.timeoutReply client)

/-- It answers through the clone, then drops it: first the clone's own `Drop`,
then that of the game in it. -/
def timeoutReply (clone : SocketClient) : Section :=
  let result : Exit ClientError Bool :=
    if world.closed clone.sendChannel then .err .sendError else .ok false
  let told := world.send clone.sendChannel (.response (.timeout ctx.model))
  let final := told.announceDrop clone
  match clone.game with
  | none => ⟨[], final, .returned result⟩
  | some game =>
    if game.isHost then .goto final (.timeoutShutdown game result)
    else if game.partialHost.isLocal then .goto final (.timeoutLeave game result)
    else ⟨[], final, .returned result⟩

def timeoutShutdown (game : Game) (result : Exit ClientError Bool) : Section :=
  match world.shutdownGame ctx.oracle game with
  | (_, world, .panic) => ⟨[], world, .returned .panic⟩
  | (_, world, _) => .goto world (.timeoutDelete game.gameId result)

def timeoutDelete (gameId : String) (result : Exit ClientError Bool) : Section :=
  match world.deleteRecord ctx.oracle gameId with
  | (world, .ok ()) => ⟨[], world, .returned result⟩
  | (world, _) => ⟨[], world, .returned .panic⟩

def timeoutLeave (game : Game) (result : Exit ClientError Bool) : Section :=
  match world.leaveGame ctx.oracle game with
  | (world, .panic) => ⟨[], world, .returned .panic⟩
  | (world, _) => ⟨[], world, .returned result⟩

/-- The section at each program point. -/
def runSection : Pc → Section
  | .receive => ctx.receive world
  | .joinSet gameId => ctx.joinSet world gameId
  | .joinHost gameId => ctx.joinHost world gameId
  | .joinRegister gameId hostId nickname channel =>
    ctx.joinRegister world gameId hostId nickname channel
  | .joinPurge gameId => ctx.joinPurge world gameId
  | .joinEnter gameId hostId hostNickname hostChannel nickname admitted =>
    ctx.joinEnter world gameId hostId hostNickname hostChannel nickname admitted
  | .joinForeign gameId => ctx.joinForeign world gameId
  | .joinRefuse gameId => ctx.joinRefuse world gameId
  | .compilePrepare hostId request => compilePrepare world hostId request
  | .compileFail error => ctx.compileFail world error
  | .compileRun hostId request stdin => ctx.compileRun world hostId request stdin
  | .compileValidate hostId request result => ctx.compileValidate world hostId request result
  | .compileReply response => ctx.compileReply world response
  | .createReply gameId => ctx.createReply world gameId
  | .existsCheck gameId hostId => existsCheck world gameId hostId
  | .existsPurge gameId => ctx.existsPurge world gameId
  | .existsReply _ found => ctx.existsReply world found
  | .timeoutClone => ctx.timeoutClone world
  | .timeoutReply clone => ctx.timeoutReply world clone
  | .timeoutShutdown game result => ctx.timeoutShutdown world game result
  | .timeoutDelete gameId result => ctx.timeoutDelete world gameId result
  | .timeoutLeave game result => ctx.timeoutLeave world game result

end Ctx

end Grass
