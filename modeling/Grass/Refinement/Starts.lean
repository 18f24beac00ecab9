import Grass.Refinement.Tasks

namespace Grass

namespace Ctx

variable {ctx : Ctx} (world : World)

theorem joinRead_tasks (gameId nickname : String) (client : SocketClient) :
    (ctx.joinRead world gameId nickname client).StartsNone world := by
  unfold joinRead
  split
  · exact .refuse (.same rfl) ..
  · split
    · exact .goto (.same rfl) not_false
    · exact .stop (.same rfl) _
  · split <;> exact .goto (.same rfl) not_false

theorem handleJoin_tasks (d : Option Value) : (ctx.handleJoin world d).StartsNone world := by
  unfold handleJoin
  split
  · exact .stop (.same rfl) _
  · split
    · exact .stop (.same rfl) _
    · split
      · exact .stop (.same rfl) _
      · split
        · exact .refuse (.same rfl) ..
        · split
          · exact .refuse (.same rfl) ..
          · split
            · exact .refuse (.same rfl) ..
            · exact joinRead_tasks world ..

theorem joinHost_tasks (gameId : String) : (ctx.joinHost world gameId).StartsNone world := by
  unfold joinHost
  split
  · exact .stop (.same rfl) _
  · rename_i client _
    split
    · exact .stop (.same rfl) _
    · rename_i nickname _
      let self := ctx.localClient client nickname
      have set := World.setGame_tasks ctx.oracle world ctx.clientId client
        (.new true gameId self self) rfl
      dsimp only
      split
      · rename_i done
        rw [done] at set
        exact .reply set ..
      · rename_i done
        rw [done] at set
        exact .stop set _

theorem joinRegister_tasks (gameId : String) (hostId : Uuid) (nickname : String)
    (channel : SocketSender) :
    (ctx.joinRegister world gameId hostId nickname channel).StartsNone world := by
  unfold joinRegister
  split
  · exact .goto (.same rfl) not_false
  · rename_i hostClient found
    split
    · exact .stop (.same rfl) _
    · split
      · refine .stop (.same ?_) _
        split <;> rfl
      · rename_i hostGame playing
        refine ⟨fun after member => ?_, fun next going => ?_⟩
        · rcases List.mem_cons.mp member with rfl | paused
          · exact (World.StartsNone.putGame found playing (hostGame.register_tasks ..)).trans
              (.same rfl)
          · exact Section.between_tasks (.same rfl) _ after paused
        · dsimp only at going
          split at going <;> cases going <;> exact not_false

theorem joinEnter_tasks (gameId : String) (hostId : Uuid) (hostNickname : String)
    (hostChannel : SocketSender) (nickname : String) (admitted : Bool) :
    (ctx.joinEnter world gameId hostId hostNickname hostChannel nickname admitted).StartsNone
      world := by
  unfold joinEnter
  split
  · exact .stop (.same rfl) _
  · rename_i client found
    split
    · let host := PartialClient.new hostId hostNickname ctx.shardId true (some hostChannel)
      have set := World.setGame_tasks ctx.oracle world ctx.clientId client
        (.new false gameId (ctx.localClient client nickname) host) rfl
      dsimp only
      split
      · rename_i done
        rw [done] at set
        exact .reply set ..
      · rename_i done
        rw [done] at set
        exact .stop set _
    · exact .reply (.same rfl) ..

theorem takeGame_tasks (client : SocketClient) (game : Game) :
    world.StartsNone (ctx.takeGame world client game).1 :=
  (World.StartsNone.putVacant rfl).trans (World.dropGame_tasks ..)

theorem handleLeave_tasks : (ctx.handleLeave world).StartsNone world := by
  unfold handleLeave
  split
  · exact .stop (.same rfl) _
  · split
    · exact .refuse (.same rfl) ..
    · exact .stop (takeGame_tasks world ..) _

/-- A Start is about to begin the host's game with these tasks. -/
structure Starts (ctx : Ctx) (world : World) (pc : Pc) (tasks : List GameTask) : Prop where
  receives : pc = .receive
  asked : ∃ request data start, ctx.model.request? = some request ∧ request.op = .start ∧
    request.d = some data ∧ StartRequest.fromValue data = some start ∧
    tasks = ctx.oracle.choose ctx.availableTasks start.taskCount
  hosts : ∃ game, world.gameAt ctx.clientId = some game ∧ game.isHost = true ∧
    game.isStarted = false

/-- The section begins nothing but its own client's game, and goes on to run or to grade
a submission only in a Compile. -/
structure Runs (ctx : Ctx) (world : World) (pc : Pc) (part : Section) : Prop where
  left : ∀ after ∈ part.final :: part.paused, ∀ id tasks, after.tasksAt id = some tasks →
    world.tasksAt id = some tasks ∨ (id = ctx.clientId ∧ ctx.Starts world pc tasks)
  next : ∀ following, part.next = .goto following → following.Submits →
    (∃ hostId request, pc = .compilePrepare hostId request) ∨
      ∃ hostId request stdin, pc = .compileRun hostId request stdin

variable {world} in
theorem Runs.calm {part : Section} {pc : Pc} (none : part.StartsNone world) :
    ctx.Runs world pc part where
  left after member id tasks running := .inl ((none.left after member).earlier id tasks running)
  next following going submits := absurd submits (none.next following going)

theorem startHosted_runs {request : Request} (asked : ctx.model.request? = some request)
    (start : request.op = .start) {client : SocketClient} {game : Game}
    (found : world.sockets ctx.clientId = some client) (playing : client.game = some game) :
    ctx.Runs world .receive (ctx.startHosted world request.d client game) := by
  unfold startHosted
  split
  · exact .calm (.stop (.same rfl) _)
  · rename_i data given
    split
    · exact .calm (.stop (.same rfl) _)
    · rename_i parsed decoded
      let started := game.start ctx.oracle.order world.closed ctx.oracle.choose
        ctx.availableTasks parsed.taskCount
      refine ⟨fun after member id tasks running => ?_, fun _ going => by cases going⟩
      have same : after.sockets = (world.put ctx.clientId
          { client with game := some started.1 }).sockets := by
        rcases List.mem_cons.mp member with rfl | paused
        · rfl
        · obtain ⟨count, -, rfl⟩ := List.mem_map.mp paused
          rfl
      have running := (World.StartsNone.same same).earlier id tasks running
      rcases game.start_tasks ctx.oracle.order world.closed ctx.oracle.choose ctx.availableTasks
        parsed.taskCount with kept | ⟨host, waiting, chosen⟩
      · exact .inl ((World.StartsNone.putGame found playing kept).earlier id tasks running)
      · by_cases own : id = ctx.clientId
        · subst own
          obtain ⟨held, here, -, rfl⟩ := World.tasksAt_iff.mp running
          obtain rfl : started.1 = held := by simpa [World.gameAt] using here
          exact .inr ⟨rfl, rfl, ⟨request, data, parsed, asked, start, given, decoded, chosen⟩,
            game, by simp [World.gameAt, found, playing], host, waiting⟩
        · left
          simpa [World.tasksAt, World.gameAt, own] using running

/-- A Start begins its own client's game, if that waits for it. -/
theorem handleStart_runs {request : Request} (asked : ctx.model.request? = some request)
    (start : request.op = .start) : ctx.Runs world .receive (ctx.handleStart world request.d) := by
  unfold handleStart
  split
  · exact .calm (.stop (.same rfl) _)
  · rename_i client found
    split
    · exact .calm (.refuse (.same rfl) ..)
    · rename_i game playing
      split
      · exact startHosted_runs world asked start found playing
      · have taken : world.StartsNone (ctx.takeGame world client game).1 := takeGame_tasks world ..
        split
        · rename_i panicked
          rw [panicked] at taken
          exact .calm (.stop taken _)
        · rename_i left
          rw [left] at taken
          exact .calm (.refuse taken ..)

theorem handleTask_tasks (d : Option Value) : (ctx.handleTask world d).StartsNone world := by
  unfold handleTask
  repeat' split
  all_goals first
    | exact .stop (.same rfl) _
    | exact .refuse (.same rfl) ..
    | exact .reply (.same rfl) ..

theorem handleCompile_tasks (d : Option Value) : (ctx.handleCompile world d).StartsNone world := by
  unfold handleCompile
  split
  · exact .stop (.same rfl) _
  · split
    · exact .refuse (.same rfl) ..
    · split
      · exact .stop (.same rfl) _
      · split
        · exact .stop (.same rfl) _
        · exact .goto (.same rfl) not_false

theorem compilePrepare_runs (hostId : Uuid) (request : CompileRequest) :
    ctx.Runs world (.compilePrepare hostId request) (compilePrepare world hostId request) where
  left := by
    intro after member id tasks running
    left
    obtain rfl : after = world := by
      unfold compilePrepare at member
      split at member
      · simpa [Section.goto] using member
      · split at member <;> simpa [Section.goto, Section.panic, Section.stop] using member
    exact running
  next _ _ _ := .inl ⟨hostId, request, rfl⟩

theorem compileRun_runs (hostId : Uuid) (request : CompileRequest) (stdin : List String) :
    ctx.Runs world (.compileRun hostId request stdin) (ctx.compileRun world hostId request stdin) where
  left after member id tasks running := by
    obtain rfl : after = world := by simpa [compileRun] using member
    exact .inl running
  next _ _ _ := .inr ⟨hostId, request, stdin, rfl⟩

theorem compileValidate_tasks (hostId : Uuid) (request : CompileRequest) (result : SandboxResponse) :
    (ctx.compileValidate world hostId request result).StartsNone world := by
  unfold compileValidate
  split
  · exact .goto (.same rfl) not_false
  · rename_i host game same
    obtain ⟨found, playing, -⟩ := compileGame_found same
    have graded := World.StartsNone.putGame found playing
      (game.validateCodeTest_tasks ctx.oracle.order world.closed ctx.oracle.sandbox ctx.clientId
        request.taskIndex request.code result)
    refine ⟨fun after member => ?_, fun next going => ?_⟩
    · rcases List.mem_cons.mp member with rfl | paused
      · exact graded.trans (.same rfl)
      · dsimp only at paused
        split at paused
        · cases paused
        · rcases List.mem_cons.mp paused with rfl | between
          · exact .same rfl
          · exact Section.between_tasks graded _ after between
    · dsimp only at going
      split at going <;> cases going <;> exact not_false

theorem handleIdentify_tasks (d : Option Value) : (ctx.handleIdentify world d).StartsNone world := by
  unfold handleIdentify
  split
  · exact .stop (.same rfl) _
  · rename_i client found
    split
    · exact .reply (.same rfl) ..
    · split
      · exact .stop (.same rfl) _
      · split
        · exact .stop (.same rfl) _
        · refine .reply (.put fun game playing started => ?_) ..
          exact World.tasksAt_iff.mpr ⟨game, by simpa [World.gameAt, found] using playing, started, rfl⟩

theorem handleCreate_tasks (d : Option Value) : (ctx.handleCreate world d).StartsNone world := by
  unfold handleCreate
  split
  · exact .stop (.same rfl) _
  · split
    · exact .stop (.same rfl) _
    · split
      · exact .stop (.same rfl) _
      · exact .goto (.same (World.set_sockets world)) not_false

theorem handleExists_tasks (d : Option Value) : (ctx.handleExists world d).StartsNone world := by
  unfold handleExists
  split
  · exact .stop (.same rfl) _
  · split
    · exact .stop (.same rfl) _
    · split
      · exact .stop (.same rfl) _
      · unfold existsRead
        split
        · exact .goto (.same rfl) not_false
        · split
          · exact .goto (.same rfl) not_false
          · exact .stop (.same rfl) _
        · exact .goto (.same rfl) not_false

/-- A section that only answers on the client's channel. -/
theorem replies_tasks (response : Response) (exit : Exit ClientError Unit) :
    Section.StartsNone world (match world.sockets ctx.clientId with
      | none => .panic world
      | some client => .reply world client.sendChannel response exit) := by
  split
  · exact .stop (.same rfl) _
  · exact .reply (.same rfl) ..

theorem timeoutReply_tasks (clone : SocketClient) :
    (ctx.timeoutReply world clone).StartsNone world := by
  have told : ((world.send clone.sendChannel (.response (.timeout ctx.model))).announceDrop
      clone).sockets = world.sockets :=
    (World.announceDrop_sockets ..).trans (World.send_sockets world)
  unfold timeoutReply
  dsimp only
  split
  · exact .returned (.same told) _
  · split
    · exact .goto (.same told) not_false
    · split
      · exact .goto (.same told) not_false
      · exact .returned (.same told) _

theorem timeoutShutdown_tasks (game : Game) (result : Exit ClientError Bool) :
    (ctx.timeoutShutdown world game result).StartsNone world := by
  have shut := World.shutdownGame_sockets ctx.oracle world game
  unfold timeoutShutdown
  split
  · rename_i panicked
    rw [panicked] at shut
    exact .returned (.same shut) _
  · rename_i ended
    rw [ended] at shut
    exact .goto (.same shut) not_false

theorem timeoutDelete_tasks (gameId : String) (result : Exit ClientError Bool) :
    (ctx.timeoutDelete world gameId result).StartsNone world := by
  have deleted := World.deleteRecord_sockets ctx.oracle world gameId
  unfold timeoutDelete
  split
  · rename_i done
    rw [done] at deleted
    exact .returned (.same deleted) _
  · rename_i done
    rw [done] at deleted
    exact .returned (.same deleted) _

theorem timeoutLeave_tasks (game : Game) (result : Exit ClientError Bool) :
    (ctx.timeoutLeave world game result).StartsNone world := by
  have left := World.leaveGame_tasks ctx.oracle world game
  unfold timeoutLeave
  split
  · rename_i panicked
    rw [panicked] at left
    exact .returned left _
  · rename_i ended
    rw [ended] at left
    exact .returned left _

variable {world}

theorem receive_runs : ctx.Runs world .receive (ctx.receive world) := by
  have calm : ∀ {part : Section}, part.StartsNone world → ctx.Runs world .receive part :=
    fun none => .calm none
  rcases ctx.receive_cases world with ⟨error, fails⟩ | ⟨request, asked, handles⟩
  · rw [fails]
    exact calm (.stop (.same rfl) _)
  · rw [handles]
    unfold handleRequest
    split
    · exact calm (handleJoin_tasks ..)
    · exact calm (handleLeave_tasks ..)
    · rename_i start
      exact handleStart_runs world asked start
    · exact calm (handleTask_tasks ..)
    · exact calm (handleCompile_tasks ..)
    · exact calm (replies_tasks ..)
    · exact calm (handleIdentify_tasks ..)
    · exact calm (handleCreate_tasks ..)
    · exact calm (handleExists_tasks ..)

/-- Every section does. -/
theorem runSection_runs (pc : Pc) : ctx.Runs world pc (ctx.runSection world pc) := by
  have calm : ∀ {part : Section}, part.StartsNone world → ctx.Runs world pc part :=
    fun none => .calm none
  have kept : ∀ {after : World}, after.sockets = world.sockets → world.StartsNone after := .same
  cases pc <;> simp only [runSection]
  case receive => exact receive_runs
  case joinSet =>
    unfold joinSet
    split
    · exact calm (.stop (.same rfl) _)
    · exact calm (.goto (kept (World.set_sockets world)) not_false)
  case joinHost => exact calm (joinHost_tasks ..)
  case joinRegister => exact calm (joinRegister_tasks ..)
  case joinPurge =>
    refine calm (.stop (kept ?_) _)
    split <;> rfl
  case joinEnter => exact calm (joinEnter_tasks ..)
  case joinForeign =>
    unfold joinForeign
    split
    · exact calm (.stop (.same rfl) _)
    · split
      · exact calm (.stop (.same rfl) _)
      · exact calm (.goto (kept (World.del_sockets world)) not_false)
  case joinRefuse => exact calm (replies_tasks ..)
  case compilePrepare => exact compilePrepare_runs ..
  case compileFail =>
    unfold compileFail
    split
    · exact calm (.stop (.same rfl) _)
    · exact calm (.refuse (.same rfl) ..)
  case compileRun => exact compileRun_runs ..
  case compileValidate => exact calm (compileValidate_tasks ..)
  case compileReply => exact calm (replies_tasks ..)
  case createReply => exact calm (replies_tasks ..)
  case existsCheck =>
    unfold existsCheck
    split <;> exact calm (.goto (.same rfl) not_false)
  case existsPurge =>
    refine calm (.goto (kept ?_) not_false)
    split <;> rfl
  case existsReply => exact calm (replies_tasks ..)
  case timeoutClone =>
    unfold timeoutClone
    split
    · exact calm (.returned (.same rfl) _)
    · exact calm (.goto (.same rfl) not_false)
  case timeoutReply => exact calm (timeoutReply_tasks ..)
  case timeoutShutdown => exact calm (timeoutShutdown_tasks ..)
  case timeoutDelete => exact calm (timeoutDelete_tasks ..)
  case timeoutLeave => exact calm (timeoutLeave_tasks ..)

end Ctx

theorem bareFrame_sockets (world : World) (id : Uuid) (frame : Frame) :
    (bareFrame world id frame).1.sockets = world.sockets := by
  rcases bareFrame_cases world id frame with same | ⟨client, message, -, -, same⟩
  · rw [same]
  · rw [same, World.send_sockets]

/-- `accept_connection` starts no game. -/
theorem acceptStep_tasks {shardId : ShardId} {id : Uuid} {oracle : Oracle} {world after : World}
    {phase next : Phase} {reader : Reader}
    (stepped : acceptStep shardId id oracle world phase reader = some (after, next)) :
    world.StartsNone after := by
  have removed : ∀ client : SocketClient,
      world.StartsNone ((world.remove id).dropClient oracle client).1 :=
    fun client => World.StartsNone.remove.trans (World.dropClient_tasks ..)
  have emptied : ∀ client : SocketClient, world.StartsNone ((world.put id
      { client with game := none, performedSafeShutdown := true }).dropGame? oracle client.game).1 :=
    fun client => (World.StartsNone.putVacant rfl).trans (World.dropGame?_tasks ..)
  have left : ∀ {middle : World}, Leaving id oracle world middle → world.StartsNone middle := by
    rintro middle (_ | ⟨found⟩ | ⟨found⟩)
    · exact .same rfl
    · exact removed _
    · exact emptied _
  cases acceptStep_accepts stepped with
  | greets found => exact .same (World.send_sockets world)
  | registers found => exact .same (World.set_sockets world)
  | expels found => exact removed _
  | closes found => exact emptied _
  | stays => exact .same rfl
  | unregisters found => exact .same (World.del_sockets world)
  | drops leaving done => exact (left leaving).trans (.same (World.announceDrop_sockets ..))

namespace Cluster

variable {before after : Cluster} {action : Action} {tasks : List GameTask}

/-- The section about to run, or to be cancelled, begins the game of its own client. -/
def Starts (cluster : Cluster) (action : Action) (tasks : List GameTask) : Prop :=
  (action.kind = .advance ∨ ∃ await, action.kind = .timeout await) ∧ ∃ oracle model pc,
    (cluster.node action.party.shardId).reader action.party.id = .busy oracle model pc ∧
    (cluster.ctx action.party oracle model).Starts (cluster.world action.party.shardId) pc tasks

theorem tasksAt_setNode {acting : Party} {redis : Redis} {node : Node} {world : World}
    {begins : Prop} (sockets : node.sockets = world.sockets)
    (starts : ∀ id, world.tasksAt id = some tasks →
      (before.world acting.shardId).tasksAt id = some tasks ∨ (id = acting.id ∧ begins))
    {party : Party}
    (running : ((before.setNode acting.shardId redis node).world party.shardId).tasksAt party.id =
      some tasks) :
    (before.world party.shardId).tasksAt party.id = some tasks ∨ (party = acting ∧ begins) := by
  obtain ⟨shardId, id⟩ := party
  by_cases here : shardId = acting.shardId
  · subst here
    have begun : world.tasksAt id = some tasks := by
      simpa [setNode, Cluster.world, Node.world, World.tasksAt, World.gameAt, sockets] using running
    refine (starts id begun).imp_right ?_
    rintro ⟨rfl, begins⟩
    exact ⟨rfl, begins⟩
  · left
    simpa [setNode, here, Cluster.world, Node.world, World.tasksAt, World.gameAt] using running

/-- After any step, a game is started only if it was before, or if the step is a Start
of its host. -/
theorem step_tasks (stepped : before.step action = some after) {party : Party}
    (running : (after.world party.shardId).tasksAt party.id = some tasks) :
    (before.world party.shardId).tasksAt party.id = some tasks ∨
      (party = action.party ∧ before.Starts action tasks) := by
  obtain ⟨acting, kind⟩ := action
  have kept : ∀ {world : World}, (before.world acting.shardId).StartsNone world →
      ∀ id, world.tasksAt id = some tasks →
        (before.world acting.shardId).tasksAt id = some tasks ∨
          (id = acting.id ∧ before.Starts ⟨acting, kind⟩ tasks) :=
    fun starts id running => .inl (starts.earlier id tasks running)
  have still : (before.world acting.shardId).StartsNone (before.world acting.shardId) := .same rfl
  cases step_does stepped with
  | connects =>
    have opened : (before.world acting.shardId).StartsNone
        ((before.world acting.shardId).put acting.id (.new acting.id acting.id)) := .putVacant rfl
    exact tasksAt_setNode rfl (kept opened) running
  | accepts accepted => exact tasksAt_setNode rfl (kept (acceptStep_tasks accepted)) running
  | receives | hangs => exact tasksAt_setNode (by rfl) (kept still) running
  | answers =>
    exact tasksAt_setNode rfl
      (kept (.same (bareFrame_sockets (before.world acting.shardId) acting.id _))) running
  | @advances oracle model pc busy =>
    refine tasksAt_setNode rfl (fun id begun => ?_) running
    exact (((before.ctx acting oracle model).runSection_runs pc).left _ List.mem_cons_self id tasks
      begun).imp_right fun own => ⟨own.1, .inl rfl, oracle, model, pc, busy, own.2⟩
  | @lapses oracle model pc await _ busy paused =>
    refine tasksAt_setNode rfl (fun id begun => ?_) running
    exact (((before.ctx acting oracle model).runSection_runs pc).left _
      (List.mem_cons_of_mem _ (List.mem_of_getElem? paused)) id tasks begun).imp_right
        fun own => ⟨own.1, .inr ⟨await, rfl⟩, oracle, model, pc, busy, own.2⟩
  | severs => exact tasksAt_setNode (by rfl) (kept still) running

end Cluster

end Grass
