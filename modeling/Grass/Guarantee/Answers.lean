import Grass.Guarantee.Membership

namespace Grass

open Lobby Transition

/-- Whose game a Compile request under way is graded against. -/
def Pc.grades : Pc → Option Uuid
  | .compilePrepare hostId _ | .compileRun hostId _ _ | .compileValidate hostId _ _ => some hostId
  | _ => none

namespace Next

def grades : Next → Option Uuid
  | .goto pc => pc.grades
  | _ => none

@[simp] theorem grades_goto (pc : Pc) : (Next.goto pc).grades = pc.grades := rfl

@[simp] theorem grades_handled (exit : Exit ClientError Unit) :
    (Next.handled exit).grades = none := rfl

@[simp] theorem grades_returned (result : Exit ClientError Bool) :
    (Next.returned result).grades = none := rfl

end Next

namespace Section

/-- What a section enqueues. -/
def sends (world : World) (part : Section) : List Delivery :=
  part.final.wire.drop world.wire.length

variable (world : World)

@[simp] theorem stop_grades (exit : Exit ClientError Unit) :
    (stop world exit).next.grades = none := rfl

@[simp] theorem fail_grades (error : ClientError) : (fail world error).next.grades = none := rfl

@[simp] theorem panic_grades : (panic world).next.grades = none := rfl

@[simp] theorem goto_grades (pc : Pc) : (goto world pc).next.grades = pc.grades := rfl

@[simp] theorem refuse_grades (client : SocketClient) (error : ClientError) :
    (refuse world client error).next.grades = none := rfl

@[simp] theorem reply_grades (channel : SocketSender) (response : Response)
    (exit : Exit ClientError Unit) : (reply world channel response exit).next.grades = none := rfl

end Section

namespace Ctx

variable {ctx : Ctx} {world : World} {hostId : Uuid}

theorem handleCompile_grades (d : Option Value)
    (grades : (ctx.handleCompile world d).next.grades = some hostId) :
    ∃ own, world.gameAt ctx.clientId = some own ∧ own.partialHost.id = hostId := by
  unfold handleCompile at grades
  split at grades
  · simp at grades
  · rename_i client found
    split at grades
    · simp at grades
    · rename_i game playing
      repeat' split at grades
      all_goals simp [Pc.grades] at grades
      exact ⟨game, by simp [World.gameAt, found, playing], grades⟩

theorem handleRequest_grades (request : Request)
    (grades : (ctx.handleRequest world request).next.grades = some hostId) :
    ∃ own, world.gameAt ctx.clientId = some own ∧ own.partialHost.id = hostId := by
  unfold handleRequest at grades
  cases op : request.op <;> simp only [op] at grades
  case compile => exact handleCompile_grades request.d grades
  all_goals
    simp only [handleJoin, joinRead, handleLeave, handleStart, startHosted, handleTask, handlePing,
      handleIdentify, handleCreate, handleExists, existsRead] at grades
    repeat' split at grades
    all_goals simp [Pc.grades] at grades

/-- The host is settled when the request is read, and stays the same. -/
theorem runSection_grades {pc : Pc}
    (grades : (ctx.runSection world pc).next.grades = some hostId) :
    pc.grades = some hostId ∨ (pc = .receive ∧
      ∃ own, world.gameAt ctx.clientId = some own ∧ own.partialHost.id = hostId) := by
  cases pc <;> simp only [runSection] at grades
  case receive =>
    refine .inr ⟨rfl, ?_⟩
    rcases ctx.receive_cases world with ⟨error, fails⟩ | ⟨request, -, handles⟩
    · simp [fails] at grades
    · rw [handles] at grades
      exact handleRequest_grades _ grades
  case compilePrepare host request =>
    left
    unfold compilePrepare at grades
    repeat' split at grades
    all_goals simp [Pc.grades] at grades
    exact congrArg some grades
  case compileRun host request stdin =>
    left
    unfold compileRun at grades
    simp only at grades
    split at grades
    all_goals simp [Pc.grades] at grades
    exact congrArg some grades
  case compileValidate host request result =>
    unfold compileValidate at grades
    simp only at grades
    repeat' split at grades
    all_goals simp [Pc.grades] at grades
  all_goals
    simp only [joinSet, joinHost, joinRegister, joinPurge, joinEnter, joinForeign, joinRefuse,
      compileFail, compileReply, createReply, existsCheck, existsPurge, existsReply, timeoutClone,
      timeoutReply, timeoutShutdown, timeoutDelete, timeoutLeave] at grades
    repeat' split at grades
    all_goals simp [Pc.grades] at grades

/-- A Task is answered from the started game in the entry of the host. -/
theorem handleTask_answers {d : Option Value} {channel : SocketSender} {task : SerializedTask}
    (answered : (ctx.handleTask world d).sends world = [⟨channel, .response (.task task)⟩]) :
    ∃ own hosted, world.gameAt ctx.clientId = some own ∧
      world.gameAt own.partialHost.id = some hosted ∧ hosted.isStarted = true := by
  have refused : ∀ client error, (Section.refuse world client error).sends world ≠
      [⟨channel, .response (.task task)⟩] := by
    intro client error
    simp only [Section.sends, Section.refuse, World.send]
    split <;> simp
  have silent : ∀ exit, (Section.stop world exit).sends world ≠
      [⟨channel, .response (.task task)⟩] := by
    simp [Section.sends, Section.stop]
  unfold handleTask at answered
  split at answered
  · exact absurd answered (silent _)
  · rename_i client found
    split at answered
    · exact absurd answered (refused client _)
    · rename_i own playing
      split at answered
      · exact absurd answered (silent _)
      · split at answered
        · exact absurd answered (silent _)
        · split at answered
          · exact absurd answered (refused client _)
          · rename_i host present
            split at answered
            · exact absurd answered (refused client _)
            · rename_i hosted held
              refine ⟨own, hosted, by simp [World.gameAt, found, playing],
                by simp [World.gameAt, present, held], ?_⟩
              by_contra waiting
              simp only [Game.getTaskIndexed, waiting] at answered
              exact refused client _ answered

end Ctx

namespace Cluster

variable {shardId : ShardId} {cluster before after : Cluster} {action : Action} {fault : Prop}
  {known : Set Party}

/-- The game a Compile under way is graded against is that of its client's host. -/
def Compiling (cluster : Cluster) : Prop :=
  ∀ (party : Party) oracle model pc hostId,
    (cluster.node party.shardId).reader party.id = .busy oracle model pc →
    pc.grades = some hostId → ∀ own, (cluster.world party.shardId).gameAt party.id = some own →
    own.partialHost.id = hostId

theorem seat_names {world later : World} {id : Uuid} {old new : Game} (valid : world.Valid)
    (laterValid : later.Valid) (held : world.gameAt id = some old)
    (holds : later.gameAt id = some new) (same : new.seat shardId = old.seat shardId) :
    new.partialHost.id = old.partialHost.id := by
  have oldValid := valid.gameAt held
  have newValid := laterValid.gameAt holds
  cases hosting : old.isHost <;> cases hosted : new.isHost <;>
    simp only [Game.seat, hosting, hosted] at same
  · exact congrArg Party.id (Seat.guest.inj same).2
  · simp at same
  · simp at same
  · rw [(newValid.hosting hosted).1, (oldValid.hosting hosting).1]

theorem Pc.grades_idle {pc : Pc} {hostId : Uuid} (grades : pc.grades = some hostId)
    (shardId : ShardId) : pc.stage shardId = .idle := by
  cases pc <;> simp [Pc.grades] at grades <;> rfl

/-- In turns, a Compile keeps the host of its client's game. -/
theorem Compiling.step (compiling : before.Compiling) (steady : before.Steady fault known)
    (later : after.Steady fault known) (turn : turns before action after)
    (healthy : ¬ fault → action.Healthy) : after.Compiling := by
  intro party oracle model pc hostId busy grades own holds
  by_cases acting : party = action.party
  · subst acting
    have earlier : before.lobby.stage action.party = .idle ∧
        ∀ old, (before.world action.party.shardId).gameAt action.party.id = some old →
          old.partialHost.id = hostId := by
      rcases step_reader turn.1 busy with same | rfl | rfl | ⟨first, part, -, ran, started, going⟩
      · refine ⟨?_, compiling action.party oracle model pc hostId same grades⟩
        rw [lobby_stage, same]
        exact Pc.grades_idle grades _
      · simp [Pc.grades] at grades
      · simp [Pc.grades] at grades
      · obtain rfl : _ = part := by simpa [currentSection_busy ran] using started
        have sectionGrades := (congrArg Next.grades going).trans grades
        rcases Ctx.runSection_grades sectionGrades with same | ⟨rfl, old, held, names⟩
        · refine ⟨?_, compiling action.party oracle model first hostId ran same⟩
          rw [lobby_stage, ran]
          exact Pc.grades_idle same _
        · refine ⟨by rw [lobby_stage, ran]; rfl, fun other has => ?_⟩
          obtain rfl : old = other := Option.some.inj (held.symm.trans has)
          exact names
    have stays : after.lobby.stage action.party = .idle := by
      rw [lobby_stage, busy]
      exact Pc.grades_idle grades _
    have taken : after.lobby.seat action.party = some (own.seat action.party.shardId) := by
      simp [seat_gameAt, holds]
    rcases (steady.sound.move healthy turn.1).idled earlier.1 stays with kept | lost
    · rw [kept, seat_gameAt] at taken
      obtain ⟨old, held, same⟩ := Option.map_eq_some_iff.mp taken
      rw [seat_names (steady.sound.valid.entries _) (later.sound.valid.entries _) held holds
        same.symm]
      exact earlier.2 old held
    · simp [lost] at taken
  · have rests := step_rests turn.1 party acting (turn.2.1 party acting)
    simp [AtRest, busy, Reader.isBusy] at rests

/-- The next section of the handler sends a TaskResponse. -/
def TaskAnswered (cluster : Cluster) (party : Party) : Prop :=
  ∃ oracle request part channel task, cluster.requested party = some (oracle, request) ∧
    request.op = .task ∧ cluster.currentSection party = some part ∧
    part.sends (cluster.world party.shardId) = [⟨channel, .response (.task task)⟩]

/-- The next section of the handler computes a CompilationResponse against the game
of that host. -/
def Graded (cluster : Cluster) (party : Party) (hostId : Uuid) : Prop :=
  ∃ oracle model request result part response,
    (cluster.node party.shardId).reader party.id =
      .busy oracle model (.compileValidate hostId request result) ∧
    cluster.currentSection party = some part ∧ part.next = .goto (.compileReply response)

/-- Whenever a connection's Task or Compile is answered, it is from the game that its
own game's host holds, which has the id of its own game and it as host or participant. -/
def AnswersOwn (shardId : ShardId) (cluster : Cluster) : Prop :=
  ∀ id, ∀ own, (cluster.world shardId).gameAt id = some own →
    ∀ hostId, (cluster.TaskAnswered ⟨shardId, id⟩ ∧ hostId = own.partialHost.id ∨
      cluster.Graded ⟨shardId, id⟩ hostId) →
    own.partialHost.id = hostId ∧ ∃ hosted, (cluster.world shardId).gameAt hostId = some hosted ∧
      hosted.gameId = own.gameId ∧ (hosted.isHost = true ∧ hostId = id ∨ hosted.Lists id)

/-- A host's game is installed only by a connection that no participant's game names. -/
def InstallsAlone (shardId : ShardId) : Transition.Step Cluster Action := fun before action _ =>
  action.party.shardId = shardId → ∀ gameId, before.Installs action gameId →
    before.HostOfNobody action.party

/-- The game an answer comes from has started. -/
theorem answered_started {id hostId : Uuid} {own : Game}
    (held : (cluster.world shardId).gameAt id = some own)
    (answers : cluster.TaskAnswered ⟨shardId, id⟩ ∧ hostId = own.partialHost.id ∨
      cluster.Graded ⟨shardId, id⟩ hostId) :
    ∃ hosted, (cluster.world shardId).gameAt hostId = some hosted ∧ hosted.isStarted = true := by
  rcases answers with ⟨⟨oracle, request, part, channel, task, asked, op, running, wire⟩, rfl⟩ |
    ⟨oracle, model, request, result, part, response, busy, running, going⟩
  · unfold requested at asked
    split at asked
    · rename_i model busy
      obtain ⟨decoded, given, rfl, rfl⟩ : ∃ decoded, model.request? = some decoded ∧ _ = oracle ∧
          decoded = request := by simpa using asked
      obtain rfl : _ = part := by simpa [currentSection_busy busy] using running
      rw [Ctx.runSection, Ctx.receive_request given, Ctx.handleRequest] at wire
      simp only [op] at wire
      obtain ⟨same, hosted, has, holds, started⟩ := Ctx.handleTask_answers wire
      obtain rfl : own = same := Option.some.inj (held.symm.trans has)
      exact ⟨hosted, holds, started⟩
    · cases asked
  · obtain rfl : _ = part := by simpa [currentSection_busy busy] using running
    simp only [Ctx.runSection, Ctx.compileValidate] at going
    split at going
    · simp [Section.goto] at going
    · rename_i host game graded
      obtain ⟨found, playing, started⟩ := Ctx.compileGame_found graded
      exact ⟨game, by rw [World.gameAt, found]; exact playing, started⟩

/-- While hosts install their games alone, requests are answered from the client's own game. -/
theorem answers_own (shardId : ShardId) (cluster : Cluster)
    (reached : Reach (Started shardId) (turns.when (InstallsAlone shardId)) cluster) :
    cluster.AnswersOwn shardId := by
  have steady : ∀ cluster, Reach (Started shardId) (turns.when (InstallsAlone shardId)) cluster →
      cluster.Steady True (shard shardId) := fun _ earlier =>
    reached_steady (fun _ => Started.apart)
      (fun _ _ _ step => ⟨step.1, Action.failing⟩) earlier
  have aligned : Aligned (shard shardId) cluster.lobby := by
    refine reached_lobby steady (fun _ steady => steady.sound)
      (fun _ _ _ step => ⟨step.1.1, Action.failing⟩) ?_ ?_ reached
    · intro cluster started guest game host member taken
      simp [(started.1.empty guest).1] at taken
    · intro before action after steady step move aligned
      refine Aligned.move aligned (steady.focused action.party) steady.sound.coherent
        (steady.punctual action.party) (fun member gameId opening leaves guest held => ?_) move
      have installs := installs_of_opening steady.sound.valid step.1.1 opening leaves
      exact (step.2 member gameId installs).seat guest held
  have compiling : cluster.Compiling := by
    refine reached.invariant_using steady ?_ ?_
    · intro cluster started party oracle model pc hostId busy
      have unborn := (started.1.empty party).2
      simp only [lobby_stage, busy] at unborn
      exact absurd unborn (Pc.stage_awake pc _).1
    · intro before action after known later compiling step
      exact compiling.step known later step.1 Action.failing
  have valid := (steady cluster reached).sound.valid.entries shardId
  intro id own held hostId answers
  have names : own.partialHost.id = hostId := by
    rcases answers with ⟨-, rfl⟩ | ⟨oracle, model, request, result, -, -, busy, -⟩
    · rfl
    · exact compiling ⟨shardId, id⟩ oracle model _ hostId busy rfl own held
  obtain ⟨hosted, holds, started⟩ := answered_started held answers
  have host : hosted.isHost = true := by
    by_contra guest
    have waiting := ((valid.gameAt holds).visiting (by simpa using guest)).2
    simp [started] at waiting
  refine ⟨names, hosted, holds, ?_⟩
  cases hosting : own.isHost with
  | true =>
    have self := ((valid.gameAt held).hosting hosting).1
    obtain rfl : hostId = id := names.symm.trans self
    obtain rfl : own = hosted := Option.some.inj (held.symm.trans holds)
    exact ⟨rfl, .inl ⟨host, rfl⟩⟩
  | false =>
    have taken := seat_of_guest held hosting
    rw [names] at taken
    obtain ⟨same, listed⟩ := aligned ⟨shardId, id⟩ own.gameId ⟨shardId, hostId⟩ rfl taken
      hosted.gameId _ (seat_of_host holds host)
    exact ⟨same, .inr ((hosted.mem_parties shardId id).mp listed)⟩

/-- Some of the listed connections' games names this one as its host. -/
def namesHost (who : List Party) (cluster : Cluster) (party : Party) : Bool :=
  who.any fun other => ((cluster.world party.shardId).gameAt other.id).any fun game =>
    !game.isHost && game.partialHost.id == party.id

theorem hostOfNobody_of_names {who : List Party} {party : Party}
    (absent : ∀ other, other ∉ who → (cluster.world other.shardId).sockets other.id = none)
    (unnamed : cluster.namesHost who party = false) : cluster.HostOfNobody party := by
  intro id game held guest names
  by_cases member : (⟨party.shardId, id⟩ : Party) ∈ who
  · have checked := List.any_eq_false.mp unnamed _ member
    simp [held, guest, names] at checked
  · have missing := absent ⟨party.shardId, id⟩ member
    simp [World.gameAt, missing] at held

/-- A host and its participant, the game started, and the participant asking for a task. -/
def round (shardId : ShardId) (hostId id : Uuid) (gameId : String) : List Action :=
  Party.asks ⟨shardId, hostId⟩ (.calm gameId) 1 "Start" [("task_count", .integer 1)] ++
    Party.asks ⟨shardId, id⟩ (.calm gameId) 0 "Task" [("task_index", .integer 0)]

def sampleTask : GameTask := ⟨5, "add", [⟨"1 2", "3", 0⟩], [⟨"3 4", "7", 0⟩]⟩

/-- Only the two connections act, and neither installs a game while the other's names it. -/
def twoAlone (before : Cluster) (action : Action) : Bool :=
  let who : List Party := [⟨"a", 1⟩, ⟨"a", 2⟩]
  let installs := match (before.node action.party.shardId).reader action.party.id with
    | .busy _ _ (.joinHost _) => true
    | _ => false
  decide (action.party ∈ who) && !(installs && before.namesHost who action.party)

/-- What the next section of a connection's handler is for, and what it sends. -/
def lookAhead (party : Party) (cluster : Cluster) : Option (RequestOpCode × List Delivery) :=
  (cluster.requested party).bind fun asked => (cluster.currentSection party).map fun part =>
    (asked.2.op, part.sends (cluster.world party.shardId))

theorem lookAhead_task {party : Party} {channel : SocketSender} {task : SerializedTask}
    (seen : lookAhead party cluster = some (.task, [⟨channel, .response (.task task)⟩])) :
    cluster.TaskAnswered party := by
  obtain ⟨⟨oracle, request⟩, asked, seen⟩ := Option.bind_eq_some_iff.mp seen
  obtain ⟨part, running, same⟩ := Option.map_eq_some_iff.mp seen
  obtain ⟨op, sends⟩ := Prod.mk.inj same
  exact ⟨oracle, request, part, channel, task, asked, op, running, sends⟩

theorem answers_own_round : ∃ cluster : Cluster, cluster.AnswersOwn "a" ∧
    cluster.TaskAnswered ⟨"a", 2⟩ := by
  obtain ⟨cluster, reached, seen⟩ := session_shows (started_empty "a" [sampleTask])
    (show ((launch emptyRedis [sampleTask]).play
      (fun before action => !decide action.lapses && twoAlone before action)
        (pair "a" "17" 1 2 ++ round "a" 1 2 "17")).bind (lookAhead ⟨"a", 2⟩) =
          some (.task, [⟨2, .response (.task sampleTask.serialize)⟩]) by rfl)
  have alone : Reach (Started "a") (turns.when (InstallsAlone "a")) cluster := by
    refine reached.mono fun before action after earlier step => ⟨step.1, ?_⟩
    rintro - gameId ⟨-, oracle, model, busy⟩
    have checked := step.2
    simp only [checks, twoAlone, busy, Bool.true_and, Bool.and_eq_true, Bool.not_eq_true'] at checked
    refine hostOfNobody_of_names
      (fun other idle => (reached_unborn (fun _ _ guards => ?_) earlier other idle).2) checked.2
    simp only [twoAlone, Bool.and_eq_true, decide_eq_true_eq] at guards
    exact guards.1
  exact ⟨cluster, answers_own "a" cluster alone, lookAhead_task seen⟩

/-- The host leaves and hosts another game, and the participant left behind is
answered from that one. -/
theorem rehosted_answers :
    ¬ ∀ cluster, Reach (Started "a") turns cluster → cluster.AnswersOwn "a" := by
  intro answersOwn
  let host : Party := ⟨"a", 1⟩
  obtain ⟨cluster, reached, seen⟩ := session_shows (started_empty "a" [sampleTask])
    (show ((launch emptyRedis [sampleTask]).play (fun _ action => !decide action.lapses && true)
      (pair "a" "17" 1 2 ++ host.leaves (.calm "18") ++ host.creates (.calm "18") ++
        host.hosts (.calm "18") "18" ++ round "a" 1 2 "18")).bind (fun cluster =>
          (lookAhead ⟨"a", 2⟩ cluster).bind fun seen =>
            ((cluster.world "a").gameAt 2).bind fun own =>
              ((cluster.world "a").gameAt own.partialHost.id).map fun hosted =>
                (seen, own.gameId, hosted.gameId)) =
          some ((.task, [⟨2, .response (.task sampleTask.serialize)⟩]), "17", "18") by rfl)
  obtain ⟨answer, ahead, seen⟩ := Option.bind_eq_some_iff.mp seen
  obtain ⟨own, held, seen⟩ := Option.bind_eq_some_iff.mp seen
  obtain ⟨hosted, holds, same⟩ := Option.map_eq_some_iff.mp seen
  simp only [Prod.mk.injEq] at same
  obtain ⟨rfl, ownId, hostedId⟩ := same
  obtain ⟨-, other, has, same, -⟩ := answersOwn cluster (reached.mono fun _ _ _ _ step => step.1)
    2 own held _ (.inl ⟨lookAhead_task ahead, rfl⟩)
  obtain rfl : hosted = other := Option.some.inj (holds.symm.trans has)
  simp [ownId, hostedId] at same

end Cluster

end Grass
