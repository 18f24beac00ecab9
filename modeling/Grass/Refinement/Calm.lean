import Grass.Refinement.Comparison
import Grass.Refinement.Drop
import Grass.Refinement.Quiet

namespace Grass

/-- The reports that are flipped are there. -/
theorem failureReport_some (checked : Checked) : (failureReport checked).isSome := by
  have marked := markPassed_all (checked.finished.map failedReport)
  rw [List.length_map] at marked
  rw [failureReport, marked]
  rfl

namespace Game

variable {game : Game} {id : Uuid}

theorem Valid.start_calm (valid : game.Valid id) (order : IterOrder) (closed : SocketSender → Bool)
    (choose : List GameTask → Nat → List GameTask) (availableTasks : List GameTask)
    (taskCount : Nat) :
    (game.start order closed choose availableTasks taskCount).2.exit ≠ .panic := by
  cases host : game.isHost with
  | false =>
    rw [Game.start, checkHost_guest host]
    simp
  | true =>
    obtain ⟨-, roster, clients, wired⟩ := valid.hosting host
    rw [Game.start, checkHost_host host]
    by_cases started : game.isStarted = true
    · simp [started]
    · by_cases filled : (choose availableTasks taskCount).length = taskCount
      · simp only [started, filled, clients, Bool.false_eq_true, ↓reduceIte, ne_eq,
          not_true_eq_false]
        rw [Sending.ignore_exit]
        · simp
        · apply Hosts.sendGlobal_calm
          exact ⟨host, rfl, wired.progress _, ⟨valid.host.isLocal, valid.host.channel⟩⟩
      · simp [started, filled]

theorem prepareCodeTest_calm (taskIndex : Nat) : game.prepareCodeTest taskIndex ≠ .panic := by
  cases host : game.isHost with
  | false => simp [prepareCodeTest, checkHost_guest host]
  | true =>
    simp only [prepareCodeTest, checkHost_host host]
    split <;> simp

/-- The public tests of a valid game are judged without a panic. -/
theorem Valid.publicStage_calm (valid : game.Valid id) :
    game.publicStage clientId taskIndex result ≠ .answered .panic := by
  unfold publicStage
  split
  · simp
  · rename_i found
    split
    · simp
    · rename_i panicked
      cases host : game.isHost with
      | true => simp [participant, host] at panicked
      | false =>
        have started := (getTaskIndexed_ok found).1
        simp [(valid.visiting host).2] at started
    · split
      · simp
      · split
        · simp
        · rename_i checked _
          split
          · obtain ⟨reports, made⟩ := Option.isSome_iff_exists.mp (failureReport_some checked)
            simp [made]
          · simp

/-- The answer of the private run is as expected on all of the task's private tests. -/
def PassesPrivate (sandbox : Sandbox) (clientId : Uuid) (code : String) (task : GameTask) : Prop :=
  ∃ answer checked,
    sandbox clientId code (task.privateTestCases.map TestCase.stdin) = some answer ∧
    answer.success = true ∧
    checkOutputs task.privateTestCases 0 answer.stdout .none = some checked ∧
    checked.finished.length = task.privateTestCases.length

/-- The private stage of a host's game panics where there is no progress to record a
passed submission in. -/
theorem Hosts.privateStage_panics {roster : Roster} (hosts : game.Hosts roster) (order : IterOrder)
    (closed : SocketSender → Bool) (sandbox : Sandbox) (clientId : Uuid) (taskIndex : Nat)
    (code : String) (task : GameTask) (reports : List PublicTestProgress) :
    (game.privateStage order closed sandbox clientId taskIndex code task .host
        reports).2.exit = .panic ↔
      game.partialHost.taskProgress = none ∧ PassesPrivate sandbox clientId code task := by
  unfold privateStage compileCode PassesPrivate
  cases ran : sandbox clientId code (task.privateTestCases.map TestCase.stdin) with
  | none => simp
  | some answer =>
    cases succeeded : answer.success with
    | false => simp [succeeded]
    | true =>
      cases compared : checkOutputs task.privateTestCases 0 answer.stdout .none with
      | none => simp [succeeded, compared]
      | some checked =>
        by_cases complete : checked.finished.length = task.privateTestCases.length
        · cases progress : game.partialHost.taskProgress with
          | none => simp [creditTask, progress, succeeded, compared, complete]
          | some kept =>
            let credited : Game := { game with partialHost := { game.partialHost with
              taskProgress := some (kept.insert taskIndex true) } }
            have wired : credited.Hosts roster :=
              ⟨hosts.isHost, hosts.clients, hosts.roster, ⟨hosts.host.isLocal, hosts.host.channel⟩⟩
            have told : ((credited.sendGlobal order closed (.gameEvent (.taskFinished task.serialize
                taskIndex clientId)) (some [clientId])).ignore : Sending ClientError Unit).exit =
                  .ok () :=
              Sending.ignore_exit (wired.sendGlobal_calm order closed _ _)
            have recorded : game.creditTask .host taskIndex = some credited := by
              simp [creditTask, progress, credited]
            simp only [succeeded, compared, complete, recorded]
            simp [Sending.bind_exit_ok _ told]
        · simp [succeeded, compared, complete]

/-- The submission passes all public and all private tests. -/
def Passes (game : Game) (sandbox : Sandbox) (clientId : Uuid) (taskIndex : Nat) (code : String)
    (result : SandboxResponse) : Prop :=
  ∃ task who reports, game.publicStage clientId taskIndex result = .passed task who reports ∧
    PassesPrivate sandbox clientId code task

/-- The grading of a valid game panics exactly where a submission passes and there is no
progress to record it in. -/
theorem Valid.validateCodeTest_panics (valid : game.Valid id) (order : IterOrder)
    (closed : SocketSender → Bool) (sandbox : Sandbox) (clientId : Uuid) (taskIndex : Nat)
    (code : String) (result : SandboxResponse) :
    (game.validateCodeTest order closed sandbox clientId taskIndex code result).2.exit = .panic ↔
      game.partialHost.taskProgress = none ∧
        game.Passes sandbox clientId taskIndex code result := by
  unfold Game.validateCodeTest
  split
  · rename_i exit staged
    constructor
    · intro panicked
      obtain rfl : exit = .panic := panicked
      exact absurd staged valid.publicStage_calm
    · rintro ⟨-, task, who, reports, passed, -⟩
      simp [staged] at passed
  · rename_i task who reports staged
    obtain ⟨host, rfl⟩ := valid.passed_host staged
    obtain ⟨roster, hosts⟩ := valid.hosts host
    rw [hosts.privateStage_panics]
    constructor
    · rintro ⟨untracked, passes⟩
      exact ⟨untracked, task, _, reports, staged, passes⟩
    · rintro ⟨untracked, other, _, _, passed, passes⟩
      obtain ⟨rfl, -, -⟩ := by simpa [staged] using passed
      exact ⟨untracked, passes⟩

end Game

namespace Section

/-- The section does not end in a panic. -/
def Calm (part : Section) : Prop := part.next ≠ .handled .panic

variable {world : World}

theorem Calm.fail {error : ClientError} : (fail world error).Calm := by
  simp [Calm, Section.fail, stop]

theorem Calm.goto {pc : Pc} : (goto world pc).Calm := by
  simp [Calm, Section.goto]

theorem Calm.refuse {client : SocketClient} {error : ClientError} :
    (refuse world client error).Calm := by
  simp [Calm, Section.refuse]

theorem Calm.reply {channel : SocketSender} {response : Response} {exit : Exit ClientError Unit}
    (calm : exit ≠ .panic) : (reply world channel response exit).Calm := by
  simp only [Calm, Section.reply, ne_eq, Next.handled.injEq]
  split
  · simp
  · exact calm

end Section

namespace World

variable {world : World} {id : Uuid} {client : SocketClient} {game : Game}

/-- A game taken out of a valid entry leaves the map valid. -/
theorem Valid.take (valid : world.Valid) (found : world.sockets id = some client) :
    (world.put id { client with game := none }).Valid :=
  have entry := valid id client found
  valid.put ⟨entry.named, entry.wired, fun _ playing => by cases playing⟩

/-- Where no game is replaced, storing one succeeds. -/
theorem setGame_vacant (oracle : Oracle) (vacant : client.game = none) (game : Game) :
    world.setGame oracle id client game =
      (world.put id { client with game := some game }, .ok ()) := by
  simp [setGame, dropGame?, vacant]

end World

namespace Ctx

open Section

variable {ctx : Ctx} {world : World} {client : SocketClient} {game : Game}

/-- Taking a guest's game out and dropping it does not panic. -/
theorem takeGame_guest (valid : world.Valid) (found : world.sockets ctx.clientId = some client)
    (playing : client.game = some game) (guest : game.isHost = false) :
    (ctx.takeGame world client game).2 = .ok () := by
  have gameValid := ((valid _ _ found).playing game playing).2
  obtain ⟨after, left, -⟩ :=
    World.leaveGame_spec ctx.oracle ctx.shardId (valid.take found) gameValid
  simp [takeGame, World.dropGame, guest, gameValid.host.isLocal, left]

theorem joinRead_calm (gameId nickname : String) (client : SocketClient) :
    (ctx.joinRead world gameId nickname client).Calm := by
  unfold joinRead
  generalize (if ctx.oracle.fails .joinGet then none else world.redis (gameKey gameId)) = stored
  cases stored with
  | none => exact .refuse
  | some value =>
    cases value with
    | text text =>
      simp only
      split
      · exact .goto
      · exact .fail
    | game redisGame =>
      simp only
      split
      · exact .goto
      · exact .goto

section Present

variable (found : world.sockets ctx.clientId = some client)

include found

theorem handleJoin_calm (d : Option Value) : (ctx.handleJoin world d).Calm := by
  unfold handleJoin
  split
  · exact .fail
  · split
    · exact .fail
    · simp only [found]
      split
      · exact .refuse
      · split
        · exact .refuse
        · split
          · exact .refuse
          · exact joinRead_calm _ _ _

theorem joinHost_calm (gameId : String) (named : client.nickname.isSome)
    (vacant : client.game = none) : (ctx.joinHost world gameId).Calm := by
  obtain ⟨nickname, known⟩ := Option.isSome_iff_exists.mp named
  simp only [joinHost, found, known, World.setGame_vacant ctx.oracle vacant]
  exact .reply (by simp)

theorem joinEnter_calm (gameId : String) (hostId : Uuid) (hostNickname : String)
    (hostChannel : SocketSender) (nickname : String) (admitted : Bool)
    (vacant : admitted = true → client.game = none) :
    (ctx.joinEnter world gameId hostId hostNickname hostChannel nickname admitted).Calm := by
  simp only [joinEnter, found]
  split
  · rename_i welcome
    simp only [World.setGame_vacant ctx.oracle (vacant welcome)]
    exact .reply (by simp)
  · exact .reply (by simp)

theorem joinRefuse_calm (gameId : String) : (ctx.joinRefuse world gameId).Calm := by
  simp only [joinRefuse, found]
  exact .reply (by simp)

theorem handleTask_calm {d : Option Value} (data : d ≠ none) : (ctx.handleTask world d).Calm := by
  obtain ⟨value, rfl⟩ := Option.ne_none_iff_exists'.mp data
  simp only [handleTask, found]
  split
  · exact .refuse
  · split
    · exact .fail
    · split
      · exact .refuse
      · split
        · exact .refuse
        · split
          · exact .reply (by simp)
          · exact .refuse
          · exact .refuse

theorem handleCompile_calm {d : Option Value} (data : d ≠ none) :
    (ctx.handleCompile world d).Calm := by
  obtain ⟨value, rfl⟩ := Option.ne_none_iff_exists'.mp data
  simp only [handleCompile, found]
  split
  · exact .refuse
  · split
    · exact .fail
    · exact .goto

theorem handleStart_calm (valid : world.Valid) {d : Option Value} (data : d ≠ none) :
    (ctx.handleStart world d).Calm := by
  obtain ⟨value, rfl⟩ := Option.ne_none_iff_exists'.mp data
  simp only [handleStart, found]
  split
  · exact .refuse
  · rename_i game playing
    have gameValid := ((valid _ _ found).playing game playing).2
    split
    · unfold startHosted
      simp only
      split
      · exact .fail
      · have calm := gameValid.start_calm ctx.oracle.order world.closed ctx.oracle.choose
          ctx.availableTasks
        simp only [Calm, ne_eq, Next.handled.injEq]
        split
        · simp
        · simp
        · rename_i panicked
          exact absurd panicked (calm _)
    · rename_i guest
      have left := takeGame_guest valid found playing (by simpa using guest)
      split
      · rename_i panicked
        simp [panicked] at left
      · exact .refuse

theorem compileFail_calm (error : ClientError) : (ctx.compileFail world error).Calm := by
  simp only [compileFail, found]
  exact .refuse

theorem compileReply_calm (response : CompilationResponse) :
    (ctx.compileReply world response).Calm := by
  simp only [compileReply, found]
  exact .reply (by simp)

end Present

theorem compilePrepare_calm (hostId : Uuid) (request : CompileRequest) :
    (compilePrepare world hostId request).Calm := by
  unfold compilePrepare
  split
  · exact .goto
  · split
    · exact .goto
    · exact .goto
    · rename_i panicked
      exact absurd panicked (Game.prepareCodeTest_calm _)

theorem compileRun_calm (hostId : Uuid) (request : CompileRequest) (stdin : List String) :
    (ctx.compileRun world hostId request stdin).Calm := by
  simp only [Calm, compileRun, compileCode]
  cases ctx.oracle.sandbox ctx.clientId request.code stdin <;> simp

/-- The validation panics exactly where it finds a started game without progress, and
the submission passes. -/
theorem compileValidate_calm (valid : world.Valid) (hostId : Uuid) (request : CompileRequest)
    (result : SandboxResponse) : (ctx.compileValidate world hostId request result).Calm ↔
      ¬ ∃ host game, compileGame world hostId = .ok (host, game) ∧
        game.partialHost.taskProgress = none ∧
        game.Passes ctx.oracle.sandbox ctx.clientId request.taskIndex request.code result := by
  rw [Calm, ne_eq, not_iff_not]
  unfold compileValidate
  split
  · rename_i error missed
    simp [Section.goto, missed]
  · rename_i host game graded
    obtain ⟨present, playing, -⟩ := compileGame_found graded
    have panics := ((valid _ _ present).playing game playing).2.validateCodeTest_panics
      ctx.oracle.order world.closed ctx.oracle.sandbox ctx.clientId request.taskIndex request.code
      result
    have same : (∃ host' game', compileGame world hostId = .ok (host', game') ∧
        game'.partialHost.taskProgress = none ∧ game'.Passes ctx.oracle.sandbox ctx.clientId
          request.taskIndex request.code result) ↔
        game.partialHost.taskProgress = none ∧ game.Passes ctx.oracle.sandbox ctx.clientId
          request.taskIndex request.code result := by
      simp [graded]
    rw [same, ← panics]
    simp only
    split
    · rename_i finished
      simp [finished]
    · rename_i refused
      simp [refused]
    · rename_i panicked
      simp [panicked]

theorem joinSet_calm (gameId : String) : (ctx.joinSet world gameId).Calm := by
  unfold joinSet
  split
  · exact .fail
  · exact .goto

theorem joinPurge_calm (gameId : String) : (ctx.joinPurge world gameId).Calm := .fail

/-- A registration finds whom it registers with identified. -/
theorem joinRegister_calm (valid : world.Valid) (gameId : String) (hostId : Uuid)
    (nickname : String) (named : world.Named hostId) :
    (ctx.joinRegister world gameId hostId nickname ctx.clientId).Calm := by
  unfold joinRegister
  split
  · exact .goto
  · rename_i hostClient present
    obtain ⟨hostNickname, known⟩ := Option.isSome_iff_exists.mp (named hostClient present)
    simp only [known]
    split
    · exact .fail
    · rename_i hostGame playing
      have own := PartialClient.Own.new ctx.clientId nickname ctx.shardId
      rcases ((valid _ _ present).playing hostGame playing).2.register_cases ctx.oracle.order
        world.closed own with ⟨-, refused⟩ | ⟨-, -, roster, -, -, entered, finished⟩
      · simp [Calm, refused]
      · simp [Calm, entered, finished]

theorem joinForeign_calm (healthy : ctx.oracle.Healthy) (gameId : String) :
    (ctx.joinForeign world gameId).Calm := by
  simp only [joinForeign, healthy .joinForeignPool, healthy .joinForeignDel]
  exact .goto

end Ctx

end Grass
