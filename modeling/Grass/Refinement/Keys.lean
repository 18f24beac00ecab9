import Grass.Refinement.Step

namespace Grass

/-- A key as the server writes it: an id under one of its two prefixes, or the bare text
that a client sent. -/
inductive RedisKey where
  | game (gameId : String)
  | user (id : Uuid)
  | bare (text : String)
deriving DecidableEq, Repr

def RedisKey.text : RedisKey → String
  | .game gameId => gameKey gameId
  | .user id => userKey id
  | .bare text => text

/-- The key is made of an id and its prefix. -/
def RedisKey.Built : RedisKey → Prop
  | .bare _ => False
  | _ => True

namespace World

/-- `Game::shutdown` deletes the record once the participants are told. -/
def shutdownKeys (oracle : Oracle) (world : World) (game : Game) : List RedisKey :=
  match game.checkHost, game.connectedClients with
  | .ok (), some roster =>
    let farewells : Sending ClientError Unit := sendAll world.closed
      ((oracle.order.list roster).map fun entry => (entry.2, .gameEvent .shutdown))
    match farewells.exit with
    | .ok () => if oracle.fails .shutdownPool then [] else [.game game.gameId]
    | _ => []
  | _, _ => []

/-- `Drop for Game` deletes it a second time. -/
def deleteKeys (oracle : Oracle) (gameId : String) : List RedisKey :=
  if oracle.fails .dropPool then [] else [.game gameId]

/-- Only the drop of a host's game goes to the store. -/
def dropKeys (oracle : Oracle) (world : World) : Option Game → List RedisKey
  | none => []
  | some game =>
    if game.isHost then
      world.shutdownKeys oracle game ++
        match (world.shutdownGame oracle game).2.2 with
        | .panic => []
        | _ => deleteKeys oracle game.gameId
    else []

end World

namespace Ctx

variable (ctx : Ctx) (world : World)

/-- A Leave drops the game of the entry, and a Create stores an empty record; the game
that a Start by a participant drops is not a host's. -/
def requestKeys (request : Request) : List RedisKey :=
  match request.op with
  | .leave =>
    match world.sockets ctx.clientId with
    | none => []
    | some client =>
      (world.put ctx.clientId { client with game := none }).dropKeys ctx.oracle client.game
  | .create =>
    match request.d.bind CreateRequest.fromValue with
    | none => []
    | some _ => if ctx.oracle.fails .createPool then [] else [.game ctx.oracle.gameId]
  | _ => []

/-- Setting an entry's game drops the one it had. -/
def enterKeys : List RedisKey :=
  match world.sockets ctx.clientId with
  | none => []
  | some client => world.dropKeys ctx.oracle client.game

/-- The keys that the section at each program point passes. -/
def passes : Pc → List RedisKey
  | .receive =>
    match ctx.model.request? with
    | none => []
    | some request => ctx.requestKeys world request
  | .joinSet gameId | .joinPurge gameId | .existsPurge gameId => [.game gameId]
  | .joinHost _ =>
    match world.sockets ctx.clientId with
    | none => []
    | some client => if client.nickname.isSome then ctx.enterKeys world else []
  | .joinRegister gameId hostId _ _ =>
    match world.sockets hostId with
    | none => []
    | some host =>
      match host.nickname, host.game with
      | some _, none => [.game gameId]
      | _, _ => []
  | .joinEnter _ _ _ _ _ admitted => if admitted then ctx.enterKeys world else []
  -- the only site without a prefix
  | .joinForeign gameId => if ctx.oracle.fails .joinForeignPool then [] else [.bare gameId]
  | .timeoutShutdown game _ => world.shutdownKeys ctx.oracle game
  | .timeoutDelete gameId _ => World.deleteKeys ctx.oracle gameId
  | _ => []

end Ctx

/-- The keys that the next step of `accept_connection` passes: `register` and `unregister`,
and the drops of the connection's game. -/
def acceptKeys (id : Uuid) (oracle : Oracle) (world : World) (phase : Phase) (reader : Reader) :
    List RedisKey :=
  match phase with
  | .greeted =>
    match world.sockets id with
    | none => []
    | some client =>
      (if oracle.fails .registerPool then [] else [.user client.id]) ++
        if oracle.fails .registerPool || oracle.fails .registerSet then
          ((world.remove id).announceDrop client).dropKeys oracle client.game
        else []
  | .serving =>
    match reader, world.sockets id with
    | .ended, some client =>
      (world.put id { client with game := none, performedSafeShutdown := true }).dropKeys oracle
        client.game
    | _, _ => []
  | .closed =>
    match world.sockets id with
    | none => []
    | some client => if oracle.fails .unregisterPool then [] else [.user client.id]
  | .unregistered =>
    match world.sockets id with
    | none => []
    | some client => ((world.remove id).announceDrop client).dropKeys oracle client.game
  | _ => []

/-- The keys that a step passes; a timeout cuts a section at an await, after them. -/
def Cluster.passes (cluster : Cluster) (action : Action) : List RedisKey :=
  let party := action.party
  let world := cluster.world party.shardId
  match action.kind with
  | .accept oracle =>
    acceptKeys party.id oracle world ((cluster.node party.shardId).phase party.id)
      ((cluster.node party.shardId).reader party.id)
  | .advance | .timeout _ =>
    match (cluster.node party.shardId).reader party.id with
    | .busy oracle model pc => (cluster.ctx party oracle model).passes world pc
    | _ => []
  | _ => []

/-! No key but the one of a foreign record is a text of a client's own. -/

theorem World.shutdownKeys_built (oracle : Oracle) (world : World) (game : Game) :
    ∀ key ∈ world.shutdownKeys oracle game, key.Built := by
  unfold shutdownKeys
  split
  · dsimp only
    split
    · split <;> simp [RedisKey.Built]
    · simp
  · simp

theorem World.deleteKeys_built (oracle : Oracle) (gameId : String) :
    ∀ key ∈ World.deleteKeys oracle gameId, key.Built := by
  unfold deleteKeys
  split <;> simp [RedisKey.Built]

theorem World.dropKeys_built (oracle : Oracle) (world : World) (held : Option Game) :
    ∀ key ∈ world.dropKeys oracle held, key.Built := by
  unfold dropKeys
  split
  · simp
  · split
    · refine List.forall_mem_append.mpr ⟨shutdownKeys_built _ _ _, ?_⟩
      split
      · simp
      · exact deleteKeys_built _ _
    · simp

theorem Ctx.requestKeys_built (ctx : Ctx) (world : World) (request : Request) :
    ∀ key ∈ ctx.requestKeys world request, key.Built := by
  unfold requestKeys
  repeat' split
  all_goals first
    | exact World.dropKeys_built _ _ _
    | simp [RedisKey.Built]

theorem Ctx.enterKeys_built (ctx : Ctx) (world : World) :
    ∀ key ∈ ctx.enterKeys world, key.Built := by
  unfold enterKeys
  split
  · simp
  · exact World.dropKeys_built _ _ _

theorem Ctx.passes_built (ctx : Ctx) (world : World) {pc : Pc}
    (other : ∀ gameId, pc ≠ .joinForeign gameId) : ∀ key ∈ ctx.passes world pc, key.Built := by
  cases pc <;> simp only [passes]
  case joinForeign gameId => exact absurd rfl (other gameId)
  all_goals
    repeat' split
    all_goals first
      | exact requestKeys_built _ _ _
      | exact enterKeys_built _ _
      | exact World.shutdownKeys_built _ _ _
      | exact World.deleteKeys_built _ _
      | simp [RedisKey.Built]

theorem acceptKeys_built (id : Uuid) (oracle : Oracle) (world : World) (phase : Phase)
    (reader : Reader) : ∀ key ∈ acceptKeys id oracle world phase reader, key.Built := by
  unfold acceptKeys
  split
  case h_1 =>
    split
    · simp
    · rename_i client _
      have registered : ∀ key ∈ (if oracle.fails .registerPool then []
          else [RedisKey.user client.id]), key.Built := by
        split <;> simp [RedisKey.Built]
      refine List.forall_mem_append.mpr ⟨registered, ?_⟩
      split
      · exact World.dropKeys_built _ _ _
      · simp
  all_goals
    repeat' split
    all_goals first
      | exact World.dropKeys_built _ _ _
      | simp [RedisKey.Built]

/-! Every key but the passed ones keeps its value. -/

/-- At most these keys hold something else than before. -/
def World.Writes (keys : List RedisKey) (before after : World) : Prop :=
  ∀ text, (∀ key ∈ keys, key.text ≠ text) → after.redis text = before.redis text

namespace World

variable {keys more : List RedisKey} {before middle after world : World} {key : RedisKey}

theorem Writes.same (same : after.redis = before.redis) : before.Writes keys after :=
  fun _ _ => by rw [same]

theorem Writes.trans (writes : before.Writes keys middle) (later : middle.Writes more after) :
    before.Writes (keys ++ more) after := by
  intro text other
  rw [later text fun key member => other key (List.mem_append_right _ member)]
  exact writes text fun key member => other key (List.mem_append_left _ member)

theorem Writes.then (writes : before.Writes keys middle) (same : after.redis = middle.redis) :
    before.Writes keys after := by
  intro text other
  rw [same]
  exact writes text other

theorem Writes.from (writes : middle.Writes keys after) (same : middle.redis = before.redis) :
    before.Writes keys after := by
  intro text other
  rw [← same]
  exact writes text other

theorem writes_del (key : RedisKey) : world.Writes [key] (world.del key.text) := by
  intro text other
  have apart : text ≠ key.text := fun same => other key (by simp) same.symm
  simp [apart]

theorem writes_set (key : RedisKey) (value : RedisValue) :
    world.Writes [key] (world.set key.text value) := by
  intro text other
  have apart : text ≠ key.text := fun same => other key (by simp) same.symm
  simp [apart]

theorem shutdownGame_writes (oracle : Oracle) (game : Game) :
    world.Writes (world.shutdownKeys oracle game) (world.shutdownGame oracle game).2.1 := by
  unfold shutdownGame shutdownKeys
  cases game.checkHost with
  | ok value =>
    cases value
    cases game.connectedClients with
    | none => exact .same rfl
    | some roster =>
      cases told : (sendAll world.closed ((oracle.order.list roster).map fun entry =>
        (entry.2, .gameEvent .shutdown)) : Sending ClientError Unit).exit with
      | ok value =>
        simp only [told]
        cases pool : oracle.fails .shutdownPool with
        | true => exact .same (by simp)
        | false =>
          cases deletes : oracle.fails .shutdownDel with
          | true => exact .same (by simp)
          | false =>
            exact ((@writes_del (world.deliver _) (.game game.gameId)).from rfl).then rfl
      | err error =>
        simp only [told]
        exact .same rfl
      | panic =>
        simp only [told]
        exact .same rfl
  | err error => exact .same rfl
  | panic => exact .same rfl

theorem deleteRecord_writes (oracle : Oracle) (gameId : String) :
    world.Writes (deleteKeys oracle gameId) (world.deleteRecord oracle gameId).1 := by
  unfold deleteRecord deleteKeys
  cases pool : oracle.fails .dropPool with
  | true => exact .same (by simp)
  | false =>
    cases deletes : oracle.fails .dropDel with
    | true => exact .same (by simp)
    | false => exact writes_del (.game gameId)

theorem unregisterFromHost_redis (oracle : Oracle) (game : Game) :
    (world.unregisterFromHost oracle game).1.redis = world.redis := by
  unfold unregisterFromHost
  repeat' split
  all_goals rfl

theorem leaveGame_redis (oracle : Oracle) (game : Game) :
    (world.leaveGame oracle game).1.redis = world.redis := by
  have struck := @unregisterFromHost_redis world oracle game
  unfold leaveGame
  split
  · rename_i left
    rwa [left] at struck
  · rename_i left
    rw [left] at struck
    exact struck

theorem dropGame?_writes (oracle : Oracle) (held : Option Game) :
    world.Writes (world.dropKeys oracle held) (world.dropGame? oracle held).1 := by
  cases held with
  | none => exact .same rfl
  | some game =>
    have shut := @shutdownGame_writes world oracle game
    rw [dropGame?, dropGame, dropKeys]
    split
    · generalize world.shutdownGame oracle game = ended at shut ⊢
      obtain ⟨_, after, exit⟩ := ended
      cases exit with
      | panic => simpa using shut
      | ok | err => exact shut.trans (deleteRecord_writes oracle game.gameId)
    · split
      · exact .same (leaveGame_redis oracle game)
      · exact .same rfl

theorem setGame_writes {oracle : Oracle} {id : Uuid} {client : SocketClient} {game : Game}
    {exit : Exit ClientError Unit} (set : world.setGame oracle id client game = (after, exit)) :
    world.Writes (world.dropKeys oracle client.game) after := by
  have dropped := @dropGame?_writes world oracle client.game
  unfold setGame at set
  split at set <;> cases set
  · rename_i ended
    rwa [ended] at dropped
  · rename_i ended
    rw [ended] at dropped
    exact dropped.then rfl

end World

namespace Section

variable {keys : List RedisKey} {before world : World}

/-- In whatever world the section is left. -/
def Writes (keys : List RedisKey) (before : World) (part : Section) : Prop :=
  ∀ after ∈ part.final :: part.paused, before.Writes keys after

theorem Writes.stop (writes : before.Writes keys world) (exit : Exit ClientError Unit) :
    Writes keys before (.stop world exit) := by
  simpa [Writes, Section.stop] using writes

theorem Writes.goto (writes : before.Writes keys world) (pc : Pc) :
    Writes keys before (.goto world pc) := by
  simpa [Writes, Section.goto] using writes

theorem Writes.returned (writes : before.Writes keys world) (result : Exit ClientError Bool) :
    Writes keys before ⟨[], world, .returned result⟩ := by
  simpa [Writes] using writes

theorem Writes.refuse (writes : before.Writes keys world) (client : SocketClient)
    (error : ClientError) : Writes keys before (.refuse world client error) := by
  simpa [Writes, Section.refuse] using ⟨writes.then (World.send_redis world), writes⟩

theorem Writes.reply (writes : before.Writes keys world) (channel : SocketSender)
    (response : Response) (exit : Exit ClientError Unit) :
    Writes keys before (.reply world channel response exit) := by
  simpa [Writes, Section.reply] using ⟨writes.then (World.send_redis world), writes⟩

theorem between_redis {sent : List Delivery} {after : World}
    (member : after ∈ between world sent) : after.redis = world.redis := by
  obtain ⟨count, -, rfl⟩ := List.mem_map.mp member
  rfl

end Section

namespace Ctx

variable {ctx : Ctx} {world : World}

theorem handleLeave_writes {request : Request} (leave : request.op = .leave) :
    (ctx.handleLeave world).Writes (ctx.requestKeys world request) world := by
  unfold handleLeave requestKeys
  simp only [leave]
  cases world.sockets ctx.clientId with
  | none => exact .stop (.same rfl) _
  | some client =>
    dsimp only
    cases client.game with
    | none => exact .refuse (.same rfl) _ _
    | some game => exact .stop ((World.dropGame?_writes ctx.oracle (some game)).from rfl) _

theorem takeGame_visiting {client : SocketClient} {game : Game} (visiting : game.isHost = false) :
    (ctx.takeGame world client game).1.redis = world.redis := by
  simp only [takeGame, World.dropGame, visiting, Bool.false_eq_true, if_false]
  split
  · exact World.leaveGame_redis ctx.oracle game
  · rfl

theorem handleStart_redis (d : Option Value) :
    (ctx.handleStart world d).Writes [] world := by
  unfold handleStart
  split
  · exact .stop (.same rfl) _
  · rename_i client found
    split
    · exact .refuse (.same rfl) _ _
    · rename_i game playing
      split
      · unfold startHosted
        split
        · exact .stop (.same rfl) _
        · split
          · exact .stop (.same rfl) _
          · intro after member
            rcases List.mem_cons.mp member with rfl | paused
            · exact .same rfl
            · exact .same ((Section.between_redis paused).trans rfl)
      · rename_i visiting
        have kept := @takeGame_visiting ctx world client game (by simpa using visiting)
        split
        · rename_i ended
          rw [ended] at kept
          exact .stop (.same kept) _
        · rename_i ended
          rw [ended] at kept
          exact .refuse (.same kept) _ _

theorem handleCreate_writes {request : Request} (create : request.op = .create) :
    (ctx.handleCreate world request.d).Writes (ctx.requestKeys world request) world := by
  unfold handleCreate requestKeys
  simp only [create]
  cases request.d with
  | none => exact .stop (.same rfl) _
  | some data =>
    simp only [Option.bind_some]
    cases CreateRequest.fromValue data with
    | none => exact .stop (.same rfl) _
    | some made =>
      cases pool : ctx.oracle.fails .createPool with
      | true => exact .stop (.same rfl) _
      | false =>
        cases sets : ctx.oracle.fails .createSet with
        | true => exact .stop (.same rfl) _
        | false => exact .goto (World.writes_set (.game ctx.oracle.gameId) _) _

theorem handleRequest_writes (request : Request) :
    (ctx.handleRequest world request).Writes (ctx.requestKeys world request) world := by
  unfold handleRequest
  split
  case h_2 leave => exact handleLeave_writes leave
  case h_3 start =>
    simp only [requestKeys, start]
    exact handleStart_redis _
  case h_8 create => exact handleCreate_writes create
  all_goals first
    | unfold handleJoin joinRead
    | unfold handleTask
    | unfold handleCompile
    | unfold handlePing
    | unfold handleIdentify
    | unfold handleExists existsRead
  all_goals
    repeat' split
    all_goals first
      | exact .stop (.same rfl) _
      | exact .refuse (.same rfl) _ _
      | exact .reply (.same rfl) _ _ _
      | exact .goto (.same rfl) _

theorem receive_writes : (ctx.receive world).Writes (ctx.passes world .receive) world := by
  cases asked : ctx.model.request? with
  | none =>
    rcases ctx.receive_cases world with ⟨error, fails⟩ | ⟨request, other, -⟩
    · rw [fails]
      exact .stop (.same rfl) _
    · rw [asked] at other
      cases other
  | some request =>
    simp only [passes, asked]
    rw [receive_request asked]
    exact handleRequest_writes request

theorem joinHost_writes (gameId : String) :
    (ctx.joinHost world gameId).Writes (ctx.passes world (.joinHost gameId)) world := by
  unfold joinHost
  simp only [passes, enterKeys]
  cases world.sockets ctx.clientId with
  | none => exact .stop (.same rfl) _
  | some client =>
    dsimp only
    cases client.nickname with
    | none => exact .stop (.same rfl) _
    | some nickname =>
      simp only [Option.isSome_some, if_true]
      split
      · rename_i done
        exact .reply (World.setGame_writes done) _ _ _
      · rename_i done
        exact .stop (World.setGame_writes done) _

theorem joinRegister_writes (gameId : String) (hostId : Uuid) (nickname : String)
    (channel : SocketSender) : (ctx.joinRegister world gameId hostId nickname channel).Writes
      (ctx.passes world (.joinRegister gameId hostId nickname channel)) world := by
  unfold joinRegister
  simp only [passes]
  cases world.sockets hostId with
  | none => exact .goto (.same rfl) _
  | some host =>
    dsimp only
    cases host.nickname with
    | none => exact .stop (.same rfl) _
    | some hostNickname =>
      dsimp only
      cases host.game with
      | none =>
        dsimp only
        split
        · exact .stop (.same rfl) _
        · exact .stop (World.writes_del (.game gameId)) _
      | some hostGame =>
        intro after member
        rcases List.mem_cons.mp member with rfl | paused
        · exact .same rfl
        · exact .same (Section.between_redis paused)

theorem joinEnter_writes (gameId : String) (hostId : Uuid) (hostNickname : String)
    (hostChannel : SocketSender) (nickname : String) (admitted : Bool) :
    (ctx.joinEnter world gameId hostId hostNickname hostChannel nickname admitted).Writes
      (ctx.passes world (.joinEnter gameId hostId hostNickname hostChannel nickname admitted))
      world := by
  unfold joinEnter
  simp only [passes, enterKeys]
  cases world.sockets ctx.clientId with
  | none => exact .stop (.same rfl) _
  | some client =>
    cases admitted with
    | false => exact .reply (.same rfl) _ _ _
    | true =>
      simp only [if_true]
      split
      · rename_i done
        exact .reply (World.setGame_writes done) _ _ _
      · rename_i done
        exact .stop (World.setGame_writes done) _

theorem compileValidate_redis (hostId : Uuid) (request : CompileRequest)
    (result : SandboxResponse) :
    (ctx.compileValidate world hostId request result).Writes [] world := by
  unfold compileValidate
  split
  · exact .goto (.same rfl) _
  · intro after member
    rcases List.mem_cons.mp member with rfl | paused
    · exact .same rfl
    · dsimp only at paused
      split at paused
      · cases paused
      · rcases List.mem_cons.mp paused with rfl | between
        · exact .same rfl
        · exact .same ((Section.between_redis between).trans rfl)

/-- A section changes the store only at the keys it passes. -/
theorem runSection_writes (pc : Pc) :
    (ctx.runSection world pc).Writes (ctx.passes world pc) world := by
  cases pc <;> simp only [runSection]
  case receive => exact receive_writes
  case joinHost gameId => exact joinHost_writes gameId
  case joinRegister gameId hostId nickname channel =>
    exact joinRegister_writes gameId hostId nickname channel
  case joinEnter gameId hostId hostNickname hostChannel nickname admitted =>
    exact joinEnter_writes gameId hostId hostNickname hostChannel nickname admitted
  case compileRun => simpa [compileRun, Section.Writes] using World.Writes.same rfl
  case compileValidate => exact compileValidate_redis _ _ _
  case joinSet gameId =>
    unfold joinSet
    split
    · exact .stop (.same rfl) _
    · exact .goto (World.writes_set (.game gameId) _) _
  case joinPurge gameId =>
    unfold joinPurge
    split
    · exact .stop (.same rfl) _
    · exact .stop (World.writes_del (.game gameId)) _
  case existsPurge gameId =>
    unfold existsPurge
    split
    · exact .goto (.same rfl) _
    · exact .goto (World.writes_del (.game gameId)) _
  case joinForeign gameId =>
    unfold joinForeign
    simp only [passes]
    split
    · exact .stop (.same rfl) _
    · split
      · exact .stop (.same rfl) _
      · exact .goto (World.writes_del (.bare gameId)) _
  case timeoutShutdown game result =>
    have shut := @World.shutdownGame_writes world ctx.oracle game
    unfold timeoutShutdown
    split
    · rename_i ended
      rw [ended] at shut
      exact .returned shut _
    · rename_i ended
      rw [ended] at shut
      exact .goto shut _
  case timeoutDelete gameId result =>
    have deleted := @World.deleteRecord_writes world ctx.oracle gameId
    unfold timeoutDelete
    split
    · rename_i ended
      rw [ended] at deleted
      exact .returned deleted _
    · rename_i ended
      rw [ended] at deleted
      exact .returned deleted _
  case timeoutReply clone =>
    have told : ((world.send clone.sendChannel (.response (.timeout ctx.model))).announceDrop
        clone).redis = world.redis := by simp
    unfold timeoutReply
    repeat' split
    all_goals first
      | exact .returned (.same told) _
      | exact .goto (.same told) _
  case timeoutLeave game result =>
    have left := @World.leaveGame_redis world ctx.oracle game
    unfold timeoutLeave
    split
    · rename_i ended
      rw [ended] at left
      exact .returned (.same left) _
    · rename_i ended
      rw [ended] at left
      exact .returned (.same left) _
  all_goals first
    | unfold joinRefuse
    | unfold compilePrepare
    | unfold compileFail
    | unfold compileReply
    | unfold createReply
    | unfold existsCheck
    | unfold existsReply
    | unfold timeoutClone
  all_goals
    repeat' split
    all_goals first
      | exact .stop (.same rfl) _
      | exact .refuse (.same rfl) _ _
      | exact .reply (.same rfl) _ _ _
      | exact .goto (.same rfl) _
      | exact .returned (.same rfl) _

end Ctx

/-- Without an entry, `accept_connection` passes no key. -/
theorem acceptStep_missing {shardId : ShardId} {id : Uuid} {oracle : Oracle} {world after : World}
    {phase next : Phase} {reader : Reader} (missing : world.sockets id = none)
    (stepped : acceptStep shardId id oracle world phase reader = some (after, next)) :
    after.redis = world.redis := by
  have drops : (world.dropLocal id).redis = world.redis := World.announceDrop_redis _ _
  unfold acceptStep at stepped
  cases phase <;> simp only [missing] at stepped
  case unborn | gone | crashed => cases stepped
  case serving =>
    split at stepped <;> cases stepped
    exact drops
  all_goals
    cases stepped
    exact drops

theorem acceptStep_writes {shardId : ShardId} {id : Uuid} {oracle : Oracle} {world after : World}
    {phase next : Phase} {reader : Reader}
    (stepped : acceptStep shardId id oracle world phase reader = some (after, next)) :
    world.Writes (acceptKeys id oracle world phase reader) after := by
  cases found : world.sockets id with
  | none => exact .same (acceptStep_missing found stepped)
  | some client =>
    have crash : ∀ {keys : List RedisKey} {middle : World}, world.Writes keys middle →
        world.Writes keys (middle.dropLocal id) :=
      fun writes => writes.then (World.announceDrop_redis _ _)
    have expelled : world.Writes (((world.remove id).announceDrop client).dropKeys oracle
        client.game) ((world.remove id).dropClient oracle client).1 :=
      (World.dropGame?_writes oracle client.game).from (by simp)
    unfold acceptStep at stepped
    unfold acceptKeys
    cases phase <;> simp only [found] at stepped ⊢
    case unborn | gone | crashed => cases stepped
    case inserted =>
      split at stepped <;> cases stepped
      · exact crash (.same rfl)
      · exact .same (World.send_redis world)
    case greeted =>
      have registered : world.Writes
          (if oracle.fails .registerPool then [] else [.user client.id]) world := .same rfl
      split at stepped
      · rename_i failed
        simp only [failed, if_true]
        split at stepped <;> cases stepped
        · rename_i ended
          rw [ended] at expelled
          exact crash (registered.trans expelled)
        · rename_i ended
          rw [ended] at expelled
          exact registered.trans expelled
      · rename_i works
        cases stepped
        simp only [works]
        split
        · rename_i pool
          simp [pool] at works
        · exact World.writes_set (.user client.id) _
    case serving =>
      cases reader <;> simp only at stepped ⊢
      case absent | idle | busy => cases stepped
      have taken : world.Writes _ ((world.put id { client with
          game := none, performedSafeShutdown := true }).dropGame? oracle client.game).1 :=
        (World.dropGame?_writes oracle client.game).from rfl
      split at stepped <;> cases stepped
      · rename_i ended
        rw [ended] at taken
        exact crash taken
      · rename_i ended
        rw [ended] at taken
        exact taken
    case closed =>
      split at stepped <;> cases stepped
      · exact .same rfl
      · rename_i works
        split
        · rename_i pool
          simp [pool] at works
        · exact World.writes_del (.user client.id)
    case unregistered =>
      split at stepped <;> cases stepped
      · rename_i ended
        rw [ended] at expelled
        exact crash expelled
      · rename_i ended
        rw [ended] at expelled
        exact crash expelled

namespace Cluster

/-- A step changes the store only at the keys it passes. -/
theorem step_writes {before after : Cluster} {action : Action}
    (stepped : before.step action = some after) (text : String)
    (other : ∀ key ∈ before.passes action, key.text ≠ text) :
    after.redis text = before.redis text := by
  have does := step_does stepped
  obtain ⟨party, kind⟩ := action
  simp only [passes] at other
  cases does with
  | connects | receives | hangs | severs => rfl
  | accepts accepted => exact acceptStep_writes accepted text other
  | answers idle bare =>
    rename_i frame oracle
    show (bareFrame (before.world party.shardId) party.id frame).1.redis text = before.redis text
    rcases bareFrame_cases (before.world party.shardId) party.id frame with same | ⟨_, _, -, -, same⟩
    · rw [same]
      rfl
    · rw [same, World.send_redis]
      rfl
  | advances busy =>
    simp only [busy] at other
    exact Ctx.runSection_writes _ _ List.mem_cons_self text other
  | lapses busy paused =>
    simp only [busy] at other
    exact Ctx.runSection_writes _ _ (List.mem_cons_of_mem _ (List.mem_of_getElem? paused)) text other

end Cluster

end Grass
