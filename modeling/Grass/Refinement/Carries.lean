import Grass.Refinement.Traffic

/-! What each section of a handler may enqueue, and on whose channels. -/

namespace Grass

variable {allowed : Delivery → Prop} {known wider : Uuid → Prop} {id : Uuid}

/-- Whom a handler holds on to between two sections is known. -/
def Pc.Known (known : Uuid → Prop) (id : Uuid) : Pc → Prop
  | .joinEnter _ hostId _ _ _ _ => known hostId
  | .timeoutReply clone => clone.Known known id
  | .timeoutShutdown game _ | .timeoutLeave game _ => game.Known known
  | _ => True

theorem Pc.Known.mono {pc : Pc} (mentions : pc.Known known id) (more : ∀ id, known id → wider id) :
    pc.Known wider id := by
  cases pc with
  | joinEnter _ hostId => exact more hostId mentions
  | timeoutReply clone => exact SocketClient.Known.mono mentions more
  | timeoutShutdown | timeoutLeave => exact Game.Known.mono mentions more
  | _ => trivial

/-- Where everybody is known. -/
theorem Pc.Valid.mentions {world : World} {pc : Pc} (valid : pc.Valid world id) :
    pc.Known (fun _ => True) id := by
  cases pc with
  | timeoutReply clone => exact ⟨valid, fun _ _ => ⟨trivial, trivial, fun _ _ => trivial⟩⟩
  | timeoutShutdown | timeoutLeave => exact ⟨trivial, fun _ _ => trivial⟩
  | _ => trivial

namespace Section

variable {before world : World} {part : Section} {client : SocketClient}

/-- In whatever world the section is left, only allowed messages have been enqueued. -/
structure Carries (known : Uuid → Prop) (allowed : Delivery → Prop) (id : Uuid) (world : World)
    (part : Section) : Prop where
  left : ∀ after ∈ part.final :: part.paused, world.Carries known allowed after
  next : ∀ pc, part.next = .goto pc → pc.Known known id

section Carries

variable (carries : before.Carries known allowed world)

include carries

theorem Carries.stop (exit : Exit ClientError Unit) :
    Carries known allowed id before (.stop world exit) := by
  exact ⟨by simpa [Section.stop] using carries, fun _ going => by cases going⟩

theorem Carries.goto {pc : Pc} (mentions : pc.Known known id) :
    Carries known allowed id before (.goto world pc) := by
  refine ⟨by simpa [Section.goto] using carries, ?_⟩
  rintro _ ⟨⟩
  exact mentions

theorem Carries.returned (result : Exit ClientError Bool) :
    Carries known allowed id before ⟨[], world, .returned result⟩ := by
  exact ⟨by simpa using carries, fun _ going => by cases going⟩

variable (permits : Permits allowed known id before.closed)

include permits

theorem Carries.refuse (wired : client.sendChannel = id) (error : ClientError) :
    Carries known allowed id before (.refuse world client error) := by
  have told : before.Carries known allowed (world.send client.sendChannel (.error error)) := by
    rw [wired]
    exact carries.send (permits.own _ (by simp))
  exact ⟨by simpa [Section.refuse] using ⟨told, carries⟩, fun _ going => by cases going⟩

theorem Carries.reply (wired : client.sendChannel = id) (response : Response)
    (exit : Exit ClientError Unit) :
    Carries known allowed id before (.reply world client.sendChannel response exit) := by
  have told : before.Carries known allowed
      (world.send client.sendChannel (.response response)) := by
    rw [wired]
    exact carries.send (permits.own _ (by simp))
  exact ⟨by simpa [Section.reply] using ⟨told, carries⟩, fun _ going => by cases going⟩

end Carries

/-- A list of messages may be cut off after any of them. -/
theorem between_carries (carries : before.Carries known allowed world) {sent : List Delivery}
    (each : ∀ delivery ∈ sent, allowed delivery) :
    ∀ after ∈ between world sent, before.Carries known allowed after := by
  intro after member
  obtain ⟨count, -, rfl⟩ := List.mem_map.mp member
  exact carries.deliver fun delivery listed => each delivery (List.mem_of_mem_take listed)

end Section

namespace Ctx

variable {ctx : Ctx} {world : World}

section Walk

variable (knows : world.Knows known) (permits : Permits allowed known ctx.clientId world.closed)

include knows permits

theorem handleJoin_carries (d : Option Value) :
    (ctx.handleJoin world d).Carries known allowed ctx.clientId world := by
  unfold handleJoin
  split
  · exact .stop (.refl knows) _
  · split
    · exact .stop (.refl knows) _
    · split
      · exact .stop (.refl knows) _
      · rename_i client found
        have wired := knows.wired found
        unfold joinRead
        repeat' split
        all_goals first
          | exact .refuse (.refl knows) permits wired _
          | exact .goto (.refl knows) trivial
          | exact .stop (.refl knows) _

theorem joinHost_carries (self : known ctx.clientId) (gameId : String) :
    (ctx.joinHost world gameId).Carries known allowed ctx.clientId world := by
  unfold joinHost
  split
  · exact .stop (.refl knows) _
  · rename_i client found
    have entry := knows _ _ found
    split
    · exact .stop (.refl knows) _
    · rename_i nickname named
      let me := ctx.localClient client nickname
      have identified : client.nickname.isSome := by simp [named]
      have own : (Game.new true gameId me me).Valid ctx.clientId := by
        have valid := Game.Valid.new ctx.clientId ctx.clientId true gameId nickname nickname
          ctx.shardId fun _ => rfl
        simpa [me, localClient, entry.valid.named, entry.valid.wired] using valid
      have mentions : (Game.new true gameId me me).Known known := by
        refine ⟨?_, fun key listed => ?_⟩
        · simpa [Game.new, me, localClient, PartialClient.new, entry.valid.named] using self
        · obtain ⟨_, same, member⟩ := listed
          obtain rfl := Option.some.inj same
          simp at member
      have set := (World.Carries.refl knows).setGame permits ctx.oracle entry identified self own
        mentions
      dsimp only
      split
      · rename_i done
        rw [done] at set
        exact .reply set permits entry.valid.wired ..
      · rename_i done
        rw [done] at set
        exact .stop set _

theorem joinRegister_carries (self : known ctx.clientId) (gameId : String) (hostId : Uuid)
    (nickname : String) (channel : SocketSender) (wired : channel = ctx.clientId) :
    (ctx.joinRegister world gameId hostId nickname channel).Carries known allowed ctx.clientId
      world := by
  unfold joinRegister
  split
  · exact .goto (.refl knows) trivial
  · rename_i hostClient found
    have entry := knows _ _ found
    split
    · exact .stop (.refl knows) _
    · rename_i hostNickname named
      have identified : hostClient.nickname.isSome := by simp [named]
      split
      · refine .stop ?_ _
        split
        · exact .refl knows
        · exact (World.Carries.refl knows).del
      · rename_i hostGame playing
        have valid := (entry.valid.playing hostGame playing).2
        obtain ⟨host, members⟩ := entry.playing hostGame playing
        have own : (PartialClient.new ctx.clientId nickname ctx.shardId true (some channel)).Own :=
          ⟨rfl, by simp [PartialClient.new, wired]⟩
        obtain ⟨within, mentions⟩ := valid.register_within permits.event members ctx.oracle.order
          own self
        have registered := valid.register ctx.oracle.order world.closed own
        constructor
        · intro after member
          rcases List.mem_cons.mp member with rfl | paused
          · exact ((World.Carries.refl knows).put host
              (entry.withGame identified registered host mentions)).deliver within.sent
          · exact Section.between_carries (.refl knows) within.sent after paused
        · intro pc going
          dsimp only at going
          split at going <;> cases going <;> exact host

theorem joinEnter_carries (self : known ctx.clientId) (gameId : String) (hostId : Uuid)
    (hostNickname : String) (hostChannel : SocketSender) (nickname : String) (admitted : Bool)
    (host : known hostId) (wired : hostChannel = hostId) (identified : world.Named ctx.clientId) :
    (ctx.joinEnter world gameId hostId hostNickname hostChannel nickname admitted).Carries known
      allowed ctx.clientId world := by
  subst wired
  unfold joinEnter
  split
  · exact .stop (.refl knows) _
  · rename_i client found
    have entry := knows _ _ found
    split
    · let game := Game.new false gameId (ctx.localClient client nickname)
        (.new hostChannel hostNickname ctx.shardId true (some hostChannel))
      have valid : game.Valid ctx.clientId := by
        have made := Game.Valid.new ctx.clientId hostChannel false gameId nickname hostNickname
          ctx.shardId (by simp)
        simpa [game, localClient, entry.valid.named, entry.valid.wired] using made
      have mentions : game.Known known := by
        refine ⟨host, fun key listed => ?_⟩
        obtain ⟨_, same, -⟩ := listed
        cases same
      have set := (World.Carries.refl knows).setGame permits ctx.oracle entry
        (identified client found) self valid mentions
      dsimp only
      split
      · rename_i done
        rw [done] at set
        exact .reply set permits entry.valid.wired ..
      · rename_i done
        rw [done] at set
        exact .stop set _
    · exact .reply (.refl knows) permits entry.valid.wired ..

theorem takeGame_carries {client : SocketClient} {game : Game}
    (found : world.sockets ctx.clientId = some client) (playing : client.game = some game) :
    world.Carries known allowed (ctx.takeGame world client game).1 := by
  have entry := knows _ _ found
  have vacant := (@World.Carries.refl allowed known world knows).put (entry.playing game playing).1
    (entry.vacated client.performedSafeShutdown)
  have valid : ∀ other, some game = some other → other.Valid ctx.clientId := by
    rintro _ ⟨⟩
    exact (entry.valid.playing game playing).2
  have mentions : ∀ other, some game = some other → other.Known known := by
    rintro _ ⟨⟩
    exact (entry.playing game playing).2
  exact vacant.dropGame? permits ctx.oracle valid mentions

theorem handleLeave_carries :
    (ctx.handleLeave world).Carries known allowed ctx.clientId world := by
  unfold handleLeave
  split
  · exact .stop (.refl knows) _
  · rename_i client found
    split
    · exact .refuse (.refl knows) permits (knows.wired found) _
    · rename_i playing
      exact .stop (takeGame_carries knows permits found playing) _

theorem handleStart_carries (d : Option Value) :
    (ctx.handleStart world d).Carries known allowed ctx.clientId world := by
  unfold handleStart
  split
  · exact .stop (.refl knows) _
  · rename_i client found
    have entry := knows _ _ found
    split
    · exact .refuse (.refl knows) permits entry.valid.wired _
    · rename_i game playing
      obtain ⟨identified, valid⟩ := entry.valid.playing game playing
      split
      · unfold startHosted
        split
        · exact .stop (.refl knows) _
        · split
          · exact .stop (.refl knows) _
          · rename_i request _
            obtain ⟨self, members⟩ := entry.playing game playing
            obtain ⟨within, mentions⟩ := valid.start_within permits.event members ctx.oracle.order
              ctx.oracle.choose ctx.availableTasks request.taskCount
            have started := (valid.start ctx.oracle.order world.closed ctx.oracle.choose
              ctx.availableTasks request.taskCount).1
            have stored := (@World.Carries.refl allowed known world knows).put self
              (entry.withGame identified started self mentions)
            constructor
            · intro after member
              rcases List.mem_cons.mp member with rfl | paused
              · exact stored.deliver within.sent
              · exact Section.between_carries stored within.sent after paused
            · intro pc going
              cases going
      · have taken := takeGame_carries knows permits found playing
        split
        · rename_i ended
          rw [ended] at taken
          exact .stop taken _
        · rename_i ended
          rw [ended] at taken
          exact .refuse taken permits entry.valid.wired _

theorem compileValidate_carries (hostId : Uuid) (request : CompileRequest)
    (result : SandboxResponse) :
    (ctx.compileValidate world hostId request result).Carries known allowed ctx.clientId world := by
  unfold compileValidate
  split
  · exact .goto (.refl knows) trivial
  · rename_i host game graded
    obtain ⟨found, playing, -⟩ := compileGame_found graded
    have entry := knows _ _ found
    obtain ⟨identified, valid⟩ := entry.valid.playing game playing
    obtain ⟨self, members⟩ := entry.playing game playing
    obtain ⟨within, mentions⟩ := valid.validateCodeTest_within permits.event members ctx.oracle.order
      ctx.oracle.sandbox ctx.clientId request.taskIndex request.code result
    have validated := (valid.validateCodeTest ctx.oracle.order world.closed ctx.oracle.sandbox
      ctx.clientId request.taskIndex request.code result).1
    have stored := (@World.Carries.refl allowed known world knows).put self
      (entry.withGame identified validated self mentions)
    constructor
    · intro after member
      rcases List.mem_cons.mp member with rfl | paused
      · exact stored.deliver within.sent
      · dsimp only at paused
        split at paused
        · cases paused
        · rcases List.mem_cons.mp paused with rfl | between
          · exact .refl knows
          · exact Section.between_carries stored within.sent after between
    · intro pc going
      dsimp only at going
      split at going <;> cases going <;> trivial

theorem handleIdentify_carries (self : known ctx.clientId) (d : Option Value) :
    (ctx.handleIdentify world d).Carries known allowed ctx.clientId world := by
  unfold handleIdentify
  split
  · exact .stop (.refl knows) _
  · rename_i client found
    have entry := knows _ _ found
    have wired := entry.valid.wired
    split
    · exact .reply (.refl knows) permits wired ..
    · split
      · exact .stop (.refl knows) _
      · split
        · exact .stop (.refl knows) _
        · rename_i request _
          have renamed : SocketClient.Known known ctx.clientId
              { client with nickname := some request.nickname } :=
            ⟨⟨entry.valid.named, wired, fun game playing =>
              ⟨rfl, (entry.valid.playing game playing).2⟩⟩, entry.playing⟩
          exact .reply ((World.Carries.refl knows).put self renamed) permits wired ..

theorem receive_carries (self : known ctx.clientId) :
    (ctx.receive world).Carries known allowed ctx.clientId world := by
  rcases ctx.receive_cases world with ⟨error, fails⟩ | ⟨request, asked, handles⟩
  · rw [fails]
    exact .stop (.refl knows) _
  · rw [handles]
    unfold handleRequest
    split
    · exact handleJoin_carries knows permits _
    · exact handleLeave_carries knows permits
    · exact handleStart_carries knows permits _
    case h_7 => exact handleIdentify_carries knows permits self _
    all_goals first
      | unfold handleTask
      | unfold handleCompile
      | unfold handlePing
      | unfold handleCreate
      | unfold handleExists existsRead
    all_goals
      repeat' split
      all_goals first
        | exact .stop (.refl knows) _
        | exact .refuse (.refl knows) permits (knows.wired (by assumption)) _
        | exact .reply (.refl knows) permits (knows.wired (by assumption)) ..
        | exact .goto (.refl knows) trivial
        | exact .goto (World.Carries.refl knows).set trivial

/-- Every section but the reply of the timeout branch. -/
theorem runSection_carries (self : known ctx.clientId) {pc : Pc}
    (relies : pc.Valid world ctx.clientId) (mentions : pc.Known known ctx.clientId)
    (other : ∀ clone, pc ≠ .timeoutReply clone) :
    (ctx.runSection world pc).Carries known allowed ctx.clientId world := by
  have still := @World.Carries.refl allowed known world knows
  cases pc <;> simp only [runSection]
  case receive => exact receive_carries knows permits self
  case joinHost gameId => exact joinHost_carries knows permits self gameId
  case joinRegister gameId hostId nickname channel =>
    exact joinRegister_carries knows permits self gameId hostId nickname channel relies.2
  case joinEnter gameId hostId hostNickname hostChannel nickname admitted =>
    exact joinEnter_carries knows permits self gameId hostId hostNickname hostChannel nickname
      admitted mentions relies.2 relies.1
  case compileRun =>
    constructor
    · simp [compileRun, still]
    · intro pc going
      simp only [compileRun] at going
      split at going <;> cases going
      trivial
  case compileValidate => exact compileValidate_carries knows permits ..
  case timeoutClone =>
    unfold timeoutClone
    split
    · exact .returned still _
    · rename_i client found
      exact .goto still (knows _ _ found)
  case timeoutReply clone => exact absurd rfl (other clone)
  case timeoutShutdown game result =>
    have shut := still.shutdownGame permits ctx.oracle relies.1 mentions
    unfold timeoutShutdown
    split
    · rename_i ended
      rw [ended] at shut
      exact .returned shut _
    · rename_i ended
      rw [ended] at shut
      exact .goto shut trivial
  case timeoutDelete gameId result =>
    have deleted := still.deleteRecord ctx.oracle gameId
    unfold timeoutDelete
    split
    · rename_i ended
      rw [ended] at deleted
      exact .returned deleted _
    · rename_i ended
      rw [ended] at deleted
      exact .returned deleted _
  case timeoutLeave game result =>
    have left := still.leaveGame permits ctx.oracle relies.1
    unfold timeoutLeave
    split
    · rename_i ended
      rw [ended] at left
      exact .returned left _
    · rename_i ended
      rw [ended] at left
      exact .returned left _
  all_goals first
    | unfold joinSet
    | unfold joinPurge
    | unfold joinForeign
    | unfold joinRefuse
    | unfold compilePrepare
    | unfold compileFail
    | unfold compileReply
    | unfold createReply
    | unfold existsCheck
    | unfold existsPurge
    | unfold existsReply
  all_goals
    repeat' split
    all_goals first
      | exact .stop still _
      | exact .stop still.del _
      | exact .refuse still permits (knows.wired (by assumption)) _
      | exact .reply still permits (knows.wired (by assumption)) ..
      | exact .goto still trivial
      | exact .goto still.set trivial
      | exact .goto still.del trivial

/-- The timeout branch answers through the clone, and drops it. -/
theorem timeoutReply_carries (clone : SocketClient) (valid : clone.Valid ctx.clientId)
    (mentions : clone.Known known ctx.clientId)
    (forced : clone.performedSafeShutdown = false → world.closed ctx.clientId = false →
      allowed ⟨ctx.clientId, .forcedDisconnection⟩) :
    (ctx.timeoutReply world clone).Carries known allowed ctx.clientId world := by
  have answered : world.Carries known allowed
      (world.send clone.sendChannel (.response (.timeout ctx.model))) := by
    rw [valid.wired]
    exact (World.Carries.refl knows).send (permits.own _ (by simp))
  have told := answered.announceDrop valid.wired forced
  unfold timeoutReply
  dsimp only
  split
  · exact .returned told _
  · rename_i game playing
    split
    · exact .goto told (mentions.playing game playing).2
    · split
      · exact .goto told (mentions.playing game playing).2
      · exact .returned told _

end Walk

end Ctx

section Connection

variable {shardId : ShardId} {oracle : Oracle} {world after : World} {phase next : Phase}
  {reader : Reader} (knows : world.Knows known) (permits : Permits allowed known id world.closed)
  (self : known id)

include knows permits

theorem bareFrame_carries (frame : Frame) :
    world.Carries known allowed (bareFrame world id frame).1 := by
  rcases bareFrame_cases world id frame with same | ⟨client, message, found, bare, same⟩
  · rw [same]
    exact .refl knows
  · rw [same, knows.wired found]
    refine (World.Carries.refl knows).send (permits.own message ?_)
    rintro rfl
    exact bare

include self

/-- A step of `accept_connection`; a dropped entry or handle tells of the disconnection. -/
theorem acceptStep_carries
    (forced : world.closed id = false → allowed ⟨id, .forcedDisconnection⟩)
    (stepped : acceptStep shardId id oracle world phase reader = some (after, next)) :
    world.Carries known allowed after := by
  have still := @World.Carries.refl allowed known world knows
  have playing : ∀ {client}, world.sockets id = some client →
      (∀ game, client.game = some game → game.Valid id) ∧
        ∀ game, client.game = some game → game.Known known :=
    fun found => ⟨fun game held => ((knows _ _ found).valid.playing game held).2,
      fun game held => ((knows _ _ found).playing game held).2⟩
  have expelled : ∀ {client}, world.sockets id = some client →
      world.Carries known allowed ((world.remove id).dropClient oracle client).1 := by
    intro client found
    obtain ⟨valid, mentions⟩ := playing found
    exact ((still.remove self).announceDrop (knows.wired found) fun _ => forced).dropGame?
      permits oracle valid mentions
  have closed : ∀ {client}, world.sockets id = some client →
      world.Carries known allowed ((world.put id
        { client with game := none, performedSafeShutdown := true }).dropGame? oracle
          client.game).1 := by
    intro client found
    obtain ⟨valid, mentions⟩ := playing found
    exact (still.put self ((knows _ _ found).vacated true)).dropGame? permits oracle valid mentions
  cases acceptStep_accepts stepped with
  | greets found =>
    rw [knows.wired found]
    exact still.send (permits.own _ (by simp))
  | registers => exact still.set
  | expels found => exact expelled found
  | closes found => exact closed found
  | stays => exact still
  | unregisters => exact still.del
  | drops left =>
    have gone : ∀ {middle}, world.Carries known allowed middle →
        world.Carries known allowed (middle.dropLocal id) :=
      fun carries => carries.announceDrop rfl fun _ => forced
    cases left with
    | untouched => exact gone still
    | expelled found => exact gone (expelled found)
    | closed found => exact gone (closed found)

end Connection

namespace Cluster

variable {fault : Prop} {before after : Cluster} {action : Action}

/-- Each step enqueues only what it may, changes only entries of known clients, and
mentions nobody else. -/
theorem step_carries (valid : before.Valid fault) (stepped : before.step action = some after)
    (kept : action.kind ≠ .sever) (knows : (before.world action.party.shardId).Knows known)
    (permits : Permits allowed known action.party.id (before.world action.party.shardId).closed)
    (self : known action.party.id)
    (forced : (before.world action.party.shardId).closed action.party.id = false →
      allowed ⟨action.party.id, .forcedDisconnection⟩)
    (mentions : ∀ oracle model pc,
      (before.node action.party.shardId).reader action.party.id = .busy oracle model pc →
        pc.Known known action.party.id) :
    (before.world action.party.shardId).Carries known allowed (after.world action.party.shardId) ∧
      ∀ oracle model pc,
        (after.node action.party.shardId).reader action.party.id = .busy oracle model pc →
          pc.Known known action.party.id := by
  have still := @World.Carries.refl allowed known _ knows
  obtain ⟨party, kind⟩ := action
  have runs : ∀ {oracle model pc}, (before.node party.shardId).reader party.id =
      .busy oracle model pc →
        ((before.ctx party oracle model).runSection (before.world party.shardId) pc).Carries known
          allowed party.id (before.world party.shardId) := by
    intro oracle model pc busy
    have relies := ((valid.orderly party).relies oracle model pc busy).1
    cases pc with
    | timeoutReply clone =>
      exact @Ctx.timeoutReply_carries _ _ (before.ctx party oracle model) _ knows permits clone
        relies (mentions _ _ _ busy) fun _ => forced
    | _ =>
      exact @Ctx.runSection_carries _ _ (before.ctx party oracle model) _ knows permits self _ relies
        (mentions _ _ _ busy) (by simp)
  have nowhere : ∀ {result : Exit ClientError Bool} {oracle model pc},
      Reader.after result ≠ .busy oracle model pc := by
    intro result oracle model pc
    rcases Reader.after_idle result with same | same <;> simp [same]
  cases step_does stepped with
  | connects =>
    refine ⟨?_, fun oracle model pc busy => by simp [setNode, Node.setReader, Node.setPhase] at busy⟩
    have fresh : (SocketClient.new party.id party.id).Known known party.id :=
      ⟨.new party.id, fun _ playing => by cases playing⟩
    simpa [Cluster.world, setNode, Node.world, Node.setPhase, Node.setReader, Node.setWorld,
      World.put] using still.put self fresh
  | accepts accepted =>
    refine ⟨?_, fun oracle model pc busy => mentions oracle model pc ?_⟩
    · simpa [Cluster.world, setNode, Node.world, Node.setPhase, Node.setWorld] using
        acceptStep_carries knows permits self forced accepted
    · simpa [setNode, Node.setPhase, Node.setWorld] using busy
  | receives =>
    refine ⟨by simpa using still, fun oracle model pc busy => ?_⟩
    simp only [update_reader, Reader.busy.injEq] at busy
    obtain ⟨-, -, rfl⟩ := busy
    trivial
  | answers =>
    refine ⟨by simpa using bareFrame_carries knows permits _, fun oracle model pc busy => ?_⟩
    simp only [update_reader] at busy
    exact absurd busy nowhere
  | advances busy =>
    have walk := runs busy
    refine ⟨by simpa using walk.left _ List.mem_cons_self, fun oracle model pc later => ?_⟩
    simp only [update_reader] at later
    exact walk.next pc (nextReader_busy later).1
  | lapses busy paused =>
    refine ⟨?_, fun oracle model pc later => ?_⟩
    · simpa using (runs busy).left _ (List.mem_cons_of_mem _ (List.mem_of_getElem? paused))
    · simp only [update_reader, Reader.busy.injEq] at later
      obtain ⟨-, -, rfl⟩ := later
      trivial
  | hangs => exact ⟨by simpa using still, fun oracle model pc busy => by simp at busy⟩
  | severs => exact absurd rfl kept

end Cluster

end Grass
