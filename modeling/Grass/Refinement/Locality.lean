import Grass.Model.Guards

namespace Grass

/-- The entry that dropping a game may touch is kept. -/
def Game.DropKept (kept : Uuid → Prop) (game : Game) : Prop :=
  game.isHost = false → game.partialHost.isLocal = true → kept game.partialHost.id

namespace World

variable {kept : Uuid → Prop} [DecidablePred kept] {others : Uuid → Option SocketClient}

/-- The world with other entries wherever they are not kept. -/
def amid (world : World) (kept : Uuid → Prop) [DecidablePred kept]
    (others : Uuid → Option SocketClient) : World :=
  { world with sockets := fun id => if kept id then world.sockets id else others id }

variable {world : World} {id : Uuid}

@[simp] theorem amid_redis : (world.amid kept others).redis = world.redis := rfl
@[simp] theorem amid_closed : (world.amid kept others).closed = world.closed := rfl
@[simp] theorem amid_wire : (world.amid kept others).wire = world.wire := rfl

theorem amid_sockets (holds : kept id) : (world.amid kept others).sockets id = world.sockets id :=
  if_pos holds

theorem amid_update (holds : kept id) (entry : Option SocketClient) :
    Function.update (world.amid kept others).sockets id entry =
      fun other => if kept other then Function.update world.sockets id entry other
        else others other := by
  funext other
  by_cases same : other = id
  · subst same
    simp [holds]
  · simp [amid, same]

theorem amid_put (holds : kept id) (client : SocketClient) :
    (world.amid kept others).put id client = (world.put id client).amid kept others := by
  simp only [put, amid_update holds]
  rfl

theorem amid_remove (holds : kept id) :
    (world.amid kept others).remove id = (world.remove id).amid kept others := by
  simp only [remove, amid_update holds]
  rfl

@[simp] theorem amid_set (key : String) (value : RedisValue) :
    (world.amid kept others).set key value = (world.set key value).amid kept others := rfl

@[simp] theorem amid_del (key : String) :
    (world.amid kept others).del key = (world.del key).amid kept others := rfl

@[simp] theorem amid_deliver (sent : List Delivery) :
    (world.amid kept others).deliver sent = (world.deliver sent).amid kept others := rfl

@[simp] theorem amid_send (channel : SocketSender) (message : Message) :
    (world.amid kept others).send channel message =
      (world.send channel message).amid kept others := by
  unfold send
  split <;> simp_all

@[simp] theorem amid_announceDrop (client : SocketClient) :
    (world.amid kept others).announceDrop client = (world.announceDrop client).amid kept others := by
  unfold announceDrop
  split <;> simp

theorem amid_shutdownGame (oracle : Oracle) (game : Game) :
    (world.amid kept others).shutdownGame oracle game =
      ((world.shutdownGame oracle game).1, (world.shutdownGame oracle game).2.1.amid kept others,
        (world.shutdownGame oracle game).2.2) := by
  unfold shutdownGame
  cases game.checkHost with
  | err | panic => rfl
  | ok =>
    cases game.connectedClients with
    | none => rfl
    | some roster =>
      simp only [amid_closed]
      generalize (sendAll world.closed _ : Sending ClientError Unit) = farewells
      obtain ⟨exit, sent⟩ := farewells
      cases exit with
      | err | panic => rfl
      | ok =>
        dsimp only
        split <;> rfl

theorem amid_deleteRecord (oracle : Oracle) (gameId : String) :
    (world.amid kept others).deleteRecord oracle gameId =
      ((world.deleteRecord oracle gameId).1.amid kept others,
        (world.deleteRecord oracle gameId).2) := by
  unfold deleteRecord
  split <;> rfl

theorem amid_unregisterFromHost (oracle : Oracle) {game : Game} (holds : kept game.partialHost.id) :
    (world.amid kept others).unregisterFromHost oracle game =
      ((world.unregisterFromHost oracle game).1.amid kept others,
        (world.unregisterFromHost oracle game).2) := by
  unfold unregisterFromHost
  rw [amid_sockets holds]
  cases world.sockets game.partialHost.id with
  | none => rfl
  | some host =>
    cases playing : host.game with
    | none => simp only [playing]
    | some hostGame => simp only [playing, amid_closed, amid_put holds, amid_deliver]

theorem amid_leaveGame (oracle : Oracle) {game : Game} (holds : kept game.partialHost.id) :
    (world.amid kept others).leaveGame oracle game =
      ((world.leaveGame oracle game).1.amid kept others, (world.leaveGame oracle game).2) := by
  unfold leaveGame
  rw [amid_unregisterFromHost oracle holds]
  generalize world.unregisterFromHost oracle game = left
  obtain ⟨left, exit⟩ := left
  cases exit <;> rfl

theorem amid_dropGame (oracle : Oracle) {game : Game} (holds : game.DropKept kept) :
    (world.amid kept others).dropGame oracle game =
      ((world.dropGame oracle game).1.amid kept others, (world.dropGame oracle game).2) := by
  unfold dropGame
  cases host : game.isHost with
  | true =>
    simp only [↓reduceIte]
    rw [amid_shutdownGame]
    generalize world.shutdownGame oracle game = ended
    obtain ⟨game, ended, exit⟩ := ended
    cases exit with
    | ok | err => exact amid_deleteRecord ..
    | panic => rfl
  | false =>
    simp only [Bool.false_eq_true, ↓reduceIte]
    split
    · exact amid_leaveGame oracle (holds host ‹_›)
    · rfl

theorem amid_dropGame? (oracle : Oracle) {game : Option Game}
    (holds : ∀ held, game = some held → held.DropKept kept) :
    (world.amid kept others).dropGame? oracle game =
      ((world.dropGame? oracle game).1.amid kept others, (world.dropGame? oracle game).2) := by
  cases game with
  | none => rfl
  | some held => exact amid_dropGame oracle (holds held rfl)

theorem amid_dropClient (oracle : Oracle) {client : SocketClient}
    (holds : ∀ held, client.game = some held → held.DropKept kept) :
    (world.amid kept others).dropClient oracle client =
      ((world.dropClient oracle client).1.amid kept others,
        (world.dropClient oracle client).2) := by
  unfold dropClient
  rw [amid_announceDrop, amid_dropGame? oracle holds]

theorem amid_setGame (oracle : Oracle) {client : SocketClient} (own : kept id)
    (holds : ∀ held, client.game = some held → held.DropKept kept) (game : Game) :
    (world.amid kept others).setGame oracle id client game =
      ((world.setGame oracle id client game).1.amid kept others,
        (world.setGame oracle id client game).2) := by
  unfold setGame
  rw [amid_dropGame? oracle holds]
  generalize world.dropGame? oracle client.game = dropped
  obtain ⟨dropped, exit⟩ := dropped
  cases exit with
  | ok | err => simp only [amid_put own]
  | panic => rfl

end World

namespace Section

variable {kept : Uuid → Prop} [DecidablePred kept] {others : Uuid → Option SocketClient}
  {world : World}

/-- The section with other entries wherever they are not kept. -/
def amid (part : Section) (kept : Uuid → Prop) [DecidablePred kept]
    (others : Uuid → Option SocketClient) : Section where
  paused := part.paused.map fun world => world.amid kept others
  final := part.final.amid kept others
  next := part.next

@[simp] theorem amid_stop (exit : Exit ClientError Unit) :
    stop (world.amid kept others) exit = (stop world exit).amid kept others := rfl

@[simp] theorem amid_fail (error : ClientError) :
    fail (world.amid kept others) error = (fail world error).amid kept others := rfl

@[simp] theorem amid_panic :
    panic (world.amid kept others) = (panic world).amid kept others := rfl

@[simp] theorem amid_goto (pc : Pc) :
    goto (world.amid kept others) pc = (goto world pc).amid kept others := rfl

@[simp] theorem amid_refuse (client : SocketClient) (error : ClientError) :
    refuse (world.amid kept others) client error = (refuse world client error).amid kept others := by
  simp [refuse, amid]

@[simp] theorem amid_reply (channel : SocketSender) (response : Response)
    (exit : Exit ClientError Unit) : reply (world.amid kept others) channel response exit =
      (reply world channel response exit).amid kept others := by
  rw [reply, World.amid_send, World.amid_closed]
  rfl

@[simp] theorem amid_between (sent : List Delivery) :
    between (world.amid kept others) sent =
      (between world sent).map fun world => world.amid kept others := by
  simp [between]

end Section

namespace Ctx

variable {kept : Uuid → Prop} {ctx : Ctx} {world : World}

/-- The guards held are on kept entries only. -/
def Held (kept : Uuid → Prop) (script : List (List Guard)) : Prop :=
  ∀ phase ∈ script, ∀ guard ∈ phase, kept guard.party.id

theorem Held.own {mode : GuardMode} {shardId : ShardId} {id : Uuid} {more : List Guard}
    {phases : List (List Guard)} (held : Held kept ((⟨⟨shardId, id⟩, mode⟩ :: more) :: phases)) :
    kept id :=
  held _ List.mem_cons_self _ List.mem_cons_self

/-- What dropping a client's game may touch is kept where its guards are held. -/
theorem drops_kept {shardId : ShardId} {id : Uuid} {client : SocketClient}
    (held : ∀ guard ∈ world.dropGuards shardId id, kept guard.party.id)
    (found : world.sockets id = some client) (game : Game) (playing : client.game = some game) :
    game.DropKept kept := by
  intro guest isLocal
  refine held ⟨⟨shardId, game.partialHost.id⟩, .exclusive⟩ ?_
  simp [World.dropGuards, found, playing, Game.dropGuards, guest, isLocal]

theorem Held.dropping (held : Held kept (ctx.dropping world)) {client : SocketClient}
    (found : world.sockets ctx.clientId = some client) :
    kept ctx.clientId ∧ ∀ game, client.game = some game → game.DropKept kept :=
  ⟨Held.own held, drops_kept (fun guard member => held _ (List.mem_singleton_self _) guard
    (List.mem_cons_of_mem _ member)) found⟩

variable [DecidablePred kept] {others : Uuid → Option SocketClient}

theorem amid_joinRead (gameId nickname : String) (client : SocketClient) :
    ctx.joinRead (world.amid kept others) gameId nickname client =
      (ctx.joinRead world gameId nickname client).amid kept others := by
  unfold joinRead
  simp only [World.amid_redis]
  repeat' split
  all_goals simp

theorem amid_handleJoin (d : Option Value)
    (held : ∀ request, d.bind JoinRequest.fromValue = some request → kept ctx.clientId) :
    ctx.handleJoin (world.amid kept others) d = (ctx.handleJoin world d).amid kept others := by
  unfold handleJoin
  cases d with
  | none => rfl
  | some data =>
    cases parsed : JoinRequest.fromValue data with
    | none => simp only [parsed, Section.amid_fail]
    | some request =>
      have own := held request parsed
      simp only [parsed, World.amid_sockets own]
      repeat' split
      all_goals simp [amid_joinRead]

theorem amid_takeGame (own : kept ctx.clientId) (client : SocketClient) {game : Game}
    (drops : game.DropKept kept) : ctx.takeGame (world.amid kept others) client game =
      ((ctx.takeGame world client game).1.amid kept others, (ctx.takeGame world client game).2) := by
  unfold takeGame
  rw [World.amid_put own, World.amid_dropGame ctx.oracle drops]

theorem amid_handleLeave (held : Held kept (ctx.dropping world)) :
    ctx.handleLeave (world.amid kept others) = (ctx.handleLeave world).amid kept others := by
  unfold handleLeave
  rw [World.amid_sockets (Held.own held)]
  cases found : world.sockets ctx.clientId with
  | none => rfl
  | some client =>
    obtain ⟨own, drops⟩ := held.dropping found
    cases playing : client.game with
    | none => simp only [playing, Section.amid_refuse]
    | some game => simp only [playing, amid_takeGame own client (drops game playing), Section.amid_stop]

theorem amid_startHosted (own : kept ctx.clientId) (d : Option Value) (client : SocketClient)
    (game : Game) : ctx.startHosted (world.amid kept others) d client game =
      (ctx.startHosted world d client game).amid kept others := by
  unfold startHosted
  cases d with
  | none => rfl
  | some data =>
    cases parsed : StartRequest.fromValue data with
    | none => simp only [parsed, Section.amid_fail]
    | some request => simp [parsed, World.amid_put own, Section.amid]

theorem amid_handleStart (d : Option Value)
    (held : Held kept (match (world.sockets ctx.clientId).bind SocketClient.game with
      | none => [[ctx.getMut ctx.clientId]]
      | some game => if game.isHost then [[ctx.getMut ctx.clientId]] else ctx.dropping world)) :
    ctx.handleStart (world.amid kept others) d = (ctx.handleStart world d).amid kept others := by
  have own : kept ctx.clientId := by
    split at held
    · exact Held.own held
    · split at held <;> exact Held.own held
  unfold handleStart
  rw [World.amid_sockets own]
  cases found : world.sockets ctx.clientId with
  | none => rfl
  | some client =>
    cases playing : client.game with
    | none => simp only [playing, Section.amid_refuse]
    | some game =>
      cases host : game.isHost with
      | true => simp only [playing, host, ↓reduceIte, amid_startHosted own]
      | false =>
        have drops : game.DropKept kept := by
          simp only [found, Option.bind_some, playing, host, Bool.false_eq_true, ↓reduceIte] at held
          exact (held.dropping found).2 game playing
        simp only [playing, host, Bool.false_eq_true, ↓reduceIte, amid_takeGame own client drops]
        generalize ctx.takeGame world client game = taken
        obtain ⟨taken, exit⟩ := taken
        cases exit <;> simp

theorem amid_handleTask (d : Option Value) (own : kept ctx.clientId)
    (held : ∀ client game request, world.sockets ctx.clientId = some client →
      client.game = some game → d.bind TaskRequest.fromValue = some request →
      kept game.partialHost.id) :
    ctx.handleTask (world.amid kept others) d = (ctx.handleTask world d).amid kept others := by
  unfold handleTask
  rw [World.amid_sockets own]
  cases found : world.sockets ctx.clientId with
  | none => rfl
  | some client =>
    cases playing : client.game with
    | none => simp only [playing, Section.amid_refuse]
    | some game =>
      cases d with
      | none => simp only [playing, Section.amid_panic]
      | some data =>
        cases parsed : TaskRequest.fromValue data with
        | none => simp only [playing, parsed, Section.amid_fail]
        | some request =>
          simp only [playing, parsed, World.amid_sockets (held client game request found playing parsed)]
          repeat' split
          all_goals simp

theorem amid_handleCompile (d : Option Value) (own : kept ctx.clientId) :
    ctx.handleCompile (world.amid kept others) d = (ctx.handleCompile world d).amid kept others := by
  unfold handleCompile
  rw [World.amid_sockets own]
  repeat' split
  all_goals simp

theorem amid_handlePing (own : kept ctx.clientId) :
    ctx.handlePing (world.amid kept others) = (ctx.handlePing world).amid kept others := by
  unfold handlePing
  rw [World.amid_sockets own]
  split <;> simp

theorem amid_handleIdentify (d : Option Value) (own : kept ctx.clientId) :
    ctx.handleIdentify (world.amid kept others) d =
      (ctx.handleIdentify world d).amid kept others := by
  unfold handleIdentify
  rw [World.amid_sockets own]
  repeat' split
  all_goals simp [World.amid_put own]

theorem amid_handleCreate (d : Option Value) :
    ctx.handleCreate (world.amid kept others) d = (ctx.handleCreate world d).amid kept others := by
  unfold handleCreate
  repeat' split
  all_goals simp

theorem amid_handleExists (d : Option Value) :
    ctx.handleExists (world.amid kept others) d = (ctx.handleExists world d).amid kept others := by
  unfold handleExists existsRead
  simp only [World.amid_redis]
  repeat' split
  all_goals simp

theorem amid_handleRequest (request : Request) (held : Held kept (ctx.requestGuards world request)) :
    ctx.handleRequest (world.amid kept others) request =
      (ctx.handleRequest world request).amid kept others := by
  obtain ⟨d, op⟩ := request
  cases op with
  | join =>
    refine amid_handleJoin d fun request parsed => ?_
    simp only [requestGuards, parsed] at held
    exact Held.own held
  | leave => exact amid_handleLeave held
  | start => exact amid_handleStart d held
  | task =>
    have own : kept ctx.clientId := by
      simp only [requestGuards] at held
      split at held <;> exact Held.own held
    refine amid_handleTask d own fun client game request found playing parsed => ?_
    simp only [requestGuards, found, Option.bind_some, playing, parsed] at held
    exact held _ (List.mem_singleton_self _) (ctx.get game.partialHost.id) (by simp)
  | compile => exact amid_handleCompile d (Held.own held)
  | ping => exact amid_handlePing (Held.own held)
  | identify => exact amid_handleIdentify d (Held.own held)
  | create => exact amid_handleCreate d
  | «exists» => exact amid_handleExists d

theorem amid_receive (held : Held kept (ctx.guards world .receive)) :
    ctx.receive (world.amid kept others) = (ctx.receive world).amid kept others := by
  unfold receive
  simp only [guards] at held
  cases sent : ctx.model.d with
  | none => rfl
  | some data =>
    cases op : ctx.model.op with
    | request =>
      cases parsed : Request.fromValue data with
      | none => simp only [parsed, Section.amid_fail]
      | some request =>
        simp only [parsed]
        simp only [sent, op, parsed, Option.map_some, Option.getD_some] at held
        exact amid_handleRequest request held
    | _ => rfl

theorem amid_compileGame {hostId : Uuid} (host : kept hostId) :
    compileGame (world.amid kept others) hostId = compileGame world hostId := by
  unfold compileGame
  rw [World.amid_sockets host]

/-- What a section does, and where it is suspended, depends only on entries whose guards
it holds. -/
theorem amid_runSection (pc : Pc) (held : Held kept (ctx.guards world pc)) :
    ctx.runSection (world.amid kept others) pc = (ctx.runSection world pc).amid kept others := by
  cases pc with
  | receive => exact amid_receive held
  | joinSet gameId =>
    simp only [runSection, joinSet]
    split <;> simp
  | joinHost gameId =>
    simp only [runSection, joinHost, World.amid_sockets (Held.own held)]
    cases found : world.sockets ctx.clientId with
    | none => rfl
    | some client =>
      obtain ⟨own, drops⟩ := Held.dropping held found
      cases named : client.nickname with
      | none => simp only [named, Section.amid_panic]
      | some nickname =>
        simp only [named, World.amid_setGame ctx.oracle own drops]
        generalize world.setGame ctx.oracle ctx.clientId client _ = stored
        obtain ⟨stored, exit⟩ := stored
        cases exit <;> simp
  | joinRegister gameId hostId nickname channel =>
    have host := Held.own held
    simp only [runSection, joinRegister, World.amid_sockets host, World.amid_closed,
      World.amid_put host]
    repeat' split
    all_goals simp [Section.amid]
  | joinPurge gameId =>
    simp only [runSection, joinPurge]
    split <;> simp
  | joinEnter gameId hostId hostNickname hostChannel nickname admitted =>
    have own : kept ctx.clientId := by
      cases admitted <;> exact Held.own held
    simp only [runSection, joinEnter, World.amid_sockets own]
    cases found : world.sockets ctx.clientId with
    | none => rfl
    | some client =>
      cases admitted with
      | false => simp
      | true =>
        obtain ⟨-, drops⟩ := Held.dropping held found
        simp only [↓reduceIte, World.amid_setGame ctx.oracle own drops]
        generalize world.setGame ctx.oracle ctx.clientId client _ = stored
        obtain ⟨stored, exit⟩ := stored
        cases exit <;> simp
  | joinForeign gameId =>
    simp only [runSection, joinForeign]
    repeat' split
    all_goals simp
  | joinRefuse gameId =>
    simp only [runSection, joinRefuse, World.amid_sockets (Held.own held)]
    split <;> simp
  | compilePrepare hostId request =>
    simp only [runSection, compilePrepare, amid_compileGame (Held.own held)]
    repeat' split
    all_goals simp
  | compileFail error =>
    simp only [runSection, compileFail, World.amid_sockets (Held.own held)]
    split <;> simp
  | compileRun hostId request stdin =>
    simp only [runSection, compileRun]
    split <;> simp [Section.amid]
  | compileValidate hostId request result =>
    have host := Held.own held
    simp only [runSection, compileValidate, amid_compileGame host]
    cases compileGame world hostId with
    | error error => simp only [Section.amid_goto]
    | ok found =>
      simp only [World.amid_closed, World.amid_put host]
      split <;> simp [Section.amid]
  | compileReply response =>
    simp only [runSection, compileReply, World.amid_sockets (Held.own held)]
    split <;> simp
  | createReply gameId =>
    simp only [runSection, createReply, World.amid_sockets (Held.own held)]
    split <;> simp
  | existsCheck gameId hostId =>
    simp only [runSection, existsCheck, World.amid_sockets (Held.own held)]
    split <;> simp
  | existsPurge gameId =>
    simp only [runSection, existsPurge]
    split <;> simp
  | existsReply gameId found =>
    simp only [runSection, existsReply, World.amid_sockets (Held.own held)]
    split <;> simp
  | timeoutClone =>
    simp only [runSection, timeoutClone, World.amid_sockets (Held.own held)]
    split <;> simp [Section.amid]
  | timeoutReply clone =>
    simp only [runSection, timeoutReply, World.amid_closed, World.amid_send,
      World.amid_announceDrop]
    cases clone.game with
    | none => rfl
    | some game =>
      dsimp only
      split
      · rfl
      · split <;> rfl
  | timeoutShutdown game result =>
    simp only [runSection, timeoutShutdown, World.amid_shutdownGame]
    generalize world.shutdownGame ctx.oracle game = ended
    obtain ⟨game, ended, exit⟩ := ended
    cases exit <;> simp [Section.amid]
  | timeoutDelete gameId result =>
    simp only [runSection, timeoutDelete, World.amid_deleteRecord]
    generalize world.deleteRecord ctx.oracle gameId = deleted
    obtain ⟨deleted, exit⟩ := deleted
    cases exit <;> simp [Section.amid]
  | timeoutLeave game result =>
    simp only [runSection, timeoutLeave, World.amid_leaveGame ctx.oracle (Held.own held)]
    generalize world.leaveGame ctx.oracle game = left
    obtain ⟨left, exit⟩ := left
    cases exit <;> simp [Section.amid]

end Ctx

section Accept

variable {kept : Uuid → Prop} [DecidablePred kept] {others : Uuid → Option SocketClient}
  {world : World} {id : Uuid}

theorem amid_bareFrame {frame : Frame} (own : frame ≠ .other → kept id) :
    bareFrame (world.amid kept others) id frame =
      ((bareFrame world id frame).1.amid kept others, (bareFrame world id frame).2) := by
  unfold bareFrame
  cases frame with
  | other => rfl
  | text | ping | pong =>
    rw [World.amid_sockets (own (by simp))]
    cases world.sockets id with
    | none => rfl
    | some client =>
      simp only [World.amid_send]
      rfl

@[simp] theorem amid_dropLocal :
    (world.amid kept others).dropLocal id = (world.dropLocal id).amid kept others :=
  World.amid_announceDrop _

/-- The next step of `accept_connection` depends only on entries whose guards it holds. -/
theorem amid_acceptStep {shardId : ShardId} {oracle : Oracle} {phase : Phase} {reader : Reader}
    (held : Ctx.Held kept (acceptGuards shardId id oracle world phase reader)) :
    acceptStep shardId id oracle (world.amid kept others) phase reader =
      (acceptStep shardId id oracle world phase reader).map fun made =>
        (made.1.amid kept others, made.2) := by
  cases phase with
  | inserted =>
    simp only [acceptStep, World.amid_sockets (Ctx.Held.own held), World.amid_closed]
    cases world.sockets id with
    | none => simp
    | some client => cases closed : world.closed client.sendChannel <;> simp [closed]
  | greeted =>
    have own : kept id := by
      simp only [acceptGuards] at held
      split at held <;> exact Ctx.Held.own held
    simp only [acceptStep, World.amid_sockets own]
    cases found : world.sockets id with
    | none => simp
    | some client =>
      cases fails : oracle.fails .registerPool || oracle.fails .registerSet with
      | false => simp
      | true =>
        have taken : world.dropGuards shardId id ∈
            acceptGuards shardId id oracle world .greeted reader := by
          simp [acceptGuards, found, fails]
        have drops := Ctx.drops_kept (held _ taken) found
        simp only [↓reduceIte, World.amid_remove own, World.amid_dropClient oracle drops]
        generalize (world.remove id).dropClient oracle client = dropped
        obtain ⟨dropped, exit⟩ := dropped
        cases exit <;> simp
  | serving =>
    cases reader with
    | ended =>
      simp only [acceptStep, World.amid_sockets (Ctx.Held.own held)]
      cases found : world.sockets id with
      | none => simp
      | some client =>
        have drops := Ctx.drops_kept (fun guard member =>
          held _ (List.mem_singleton_self _) guard (List.mem_cons_of_mem _ member)) found
        simp only [World.amid_put (Ctx.Held.own held), World.amid_dropGame? oracle drops]
        generalize (world.put id _).dropGame? oracle client.game = dropped
        obtain ⟨dropped, exit⟩ := dropped
        cases exit <;> simp
    | _ => rfl
  | closed =>
    simp only [acceptStep, World.amid_sockets (Ctx.Held.own held)]
    cases world.sockets id with
    | none => simp
    | some client =>
      dsimp only
      split <;> simp
  | unregistered =>
    have own : kept id := Ctx.Held.own held
    simp only [acceptStep, World.amid_sockets own]
    cases found : world.sockets id with
    | none => simp
    | some client =>
      have taken : world.dropGuards shardId id ∈
          acceptGuards shardId id oracle world .unregistered reader := by
        simp [acceptGuards]
      have drops := Ctx.drops_kept (held _ taken) found
      simp only [World.amid_remove own, World.amid_dropClient oracle drops]
      generalize (world.remove id).dropClient oracle client = dropped
      obtain ⟨dropped, exit⟩ := dropped
      cases exit <;> simp
  | _ => rfl

end Accept

end Grass
