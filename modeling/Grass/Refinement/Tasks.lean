import Grass.Refinement.View

namespace Grass

namespace Game

variable {game : Game}

/-- Both are started or not, and have the same tasks. -/
structure SameTasks (after before : Game) : Prop where
  isStarted : after.isStarted = before.isStarted
  tasks : after.tasks = before.tasks

theorem SameTasks.refl (game : Game) : game.SameTasks game := ⟨rfl, rfl⟩

theorem register_tasks (order : IterOrder) (closed : SocketSender → Bool) (newcomer : PartialClient) :
    (game.register order closed newcomer).1.SameTasks game := by
  unfold register
  split
  · exact .refl game
  · split
    · exact .refl game
    · dsimp only
      split
      · exact ⟨rfl, rfl⟩
      · exact .refl game

theorem unregister_tasks (order : IterOrder) (closed : SocketSender → Bool) (clientId : Uuid) :
    (game.unregister order closed clientId).1.SameTasks game := by
  unfold unregister
  split
  · split
    · exact .refl game
    · split
      · exact ⟨rfl, rfl⟩
      · exact .refl game
  · exact .refl game

theorem creditTask_tasks {who : Participant} {taskIndex : Nat} {after : Game}
    (credited : game.creditTask who taskIndex = some after) : after.SameTasks game := by
  cases who with
  | host =>
    simp only [creditTask, Option.pure_def, Option.bind_eq_bind, Option.bind_eq_some_iff,
      Option.some.injEq] at credited
    obtain ⟨progress, -, rfl⟩ := credited
    exact ⟨rfl, rfl⟩
  | member id =>
    simp only [creditTask, Option.pure_def, Option.bind_eq_bind, Option.bind_eq_some_iff,
      Option.some.injEq] at credited
    obtain ⟨roster, -, client, -, progress, -, rfl⟩ := credited
    exact ⟨rfl, rfl⟩

theorem validateCodeTest_tasks (order : IterOrder) (closed : SocketSender → Bool)
    (sandbox : Sandbox) (clientId : Uuid) (taskIndex : Nat) (code : String)
    (result : SandboxResponse) :
    (game.validateCodeTest order closed sandbox clientId taskIndex code result).1.SameTasks game := by
  rcases validateCodeTest_cases order closed sandbox clientId taskIndex code result with
    same | ⟨task, who, reports, -, credited⟩
  · rw [same]
    exact .refl game
  · exact creditTask_tasks credited

/-- A start takes effect only on an unstarted game of a host, and gives it the tasks chosen. -/
theorem start_tasks (order : IterOrder) (closed : SocketSender → Bool)
    (choose : List GameTask → Nat → List GameTask) (availableTasks : List GameTask)
    (taskCount : Nat) :
    (game.start order closed choose availableTasks taskCount).1.SameTasks game ∨
      (game.isHost = true ∧ game.isStarted = false ∧
        (game.start order closed choose availableTasks taskCount).1.tasks =
          choose availableTasks taskCount) := by
  cases host : game.isHost with
  | false =>
    rw [start, checkHost_guest host]
    exact .inl (.refl game)
  | true =>
    rw [start, checkHost_host host]
    cases started : game.isStarted with
    | true => exact .inl ⟨by simp [started], by simp⟩
    | false =>
      refine .inr ⟨rfl, rfl, ?_⟩
      simp only [Bool.false_eq_true, ↓reduceIte]
      split
      · rfl
      · split <;> rfl

end Game

namespace World

variable {world before middle after : World} {id : Uuid}

/-- The tasks of the started game in a client's entry. -/
def tasksAt (world : World) (id : Uuid) : Option (List GameTask) :=
  (world.gameAt id).bind fun game => if game.isStarted then some game.tasks else none

theorem tasksAt_iff {tasks : List GameTask} : world.tasksAt id = some tasks ↔
    ∃ game, world.gameAt id = some game ∧ game.isStarted = true ∧ game.tasks = tasks := by
  simp only [tasksAt, Option.bind_eq_some_iff, Option.ite_none_right_eq_some, Option.some.injEq]

/-- Every game started afterwards was started before, with the same tasks. -/
structure StartsNone (before after : World) : Prop where
  earlier : ∀ id tasks, after.tasksAt id = some tasks → before.tasksAt id = some tasks

theorem StartsNone.same (sockets : after.sockets = before.sockets) : before.StartsNone after := by
  constructor
  intro id tasks running
  simpa only [tasksAt, gameAt, sockets] using running

theorem StartsNone.trans (first : before.StartsNone middle) (second : middle.StartsNone after) :
    before.StartsNone after :=
  ⟨fun id tasks running => first.earlier id tasks (second.earlier id tasks running)⟩

theorem StartsNone.put {client : SocketClient} (kept : ∀ game, client.game = some game →
      game.isStarted = true → world.tasksAt id = some game.tasks) :
    world.StartsNone (world.put id client) := by
  constructor
  intro other tasks running
  by_cases same : other = id
  · subst same
    obtain ⟨game, held, started, rfl⟩ := tasksAt_iff.mp running
    exact kept game (by simpa [gameAt] using held) started
  · simpa [tasksAt, gameAt, same] using running

/-- The entry's game is replaced by one with the same tasks. -/
theorem StartsNone.putGame {client : SocketClient} {old new : Game}
    (found : world.sockets id = some client) (playing : client.game = some old)
    (same : new.SameTasks old) :
    world.StartsNone (world.put id { client with game := some new }) := by
  apply StartsNone.put
  rintro game ⟨⟩ started
  rw [same.tasks]
  exact tasksAt_iff.mpr ⟨old, by simp [gameAt, found, playing], by rw [← same.isStarted, started], rfl⟩

/-- The entry's game is taken out. -/
theorem StartsNone.putVacant {client : SocketClient} (empty : client.game = none) :
    world.StartsNone (world.put id client) := by
  apply StartsNone.put
  intro game playing
  simp [empty] at playing

theorem StartsNone.remove : world.StartsNone (world.remove id) := by
  constructor
  intro other tasks running
  by_cases same : other = id
  · subst same
    simp [tasksAt, gameAt] at running
  · simpa [tasksAt, gameAt, same] using running

theorem shutdownGame_sockets (oracle : Oracle) (world : World) (game : Game) :
    (world.shutdownGame oracle game).2.1.sockets = world.sockets := by
  unfold shutdownGame
  split
  · split
    · rfl
    · dsimp only
      split
      · split <;> rfl
      · rfl
  · rfl

theorem deleteRecord_sockets (oracle : Oracle) (world : World) (gameId : String) :
    (world.deleteRecord oracle gameId).1.sockets = world.sockets := by
  unfold deleteRecord
  split <;> rfl

theorem unregisterFromHost_tasks (oracle : Oracle) (world : World) (game : Game) :
    world.StartsNone (world.unregisterFromHost oracle game).1 := by
  unfold unregisterFromHost
  split
  · rename_i hostClient found
    split
    · rename_i hostGame playing
      exact (StartsNone.putGame found playing (hostGame.unregister_tasks ..)).trans (.same rfl)
    · exact .same rfl
  · exact .same rfl

theorem leaveGame_tasks (oracle : Oracle) (world : World) (game : Game) :
    world.StartsNone (world.leaveGame oracle game).1 := by
  have struck := unregisterFromHost_tasks oracle world game
  unfold leaveGame
  split
  · rename_i panicked
    rwa [panicked] at struck
  · rename_i unregistered
    rw [unregistered] at struck
    exact struck.trans (.same rfl)

theorem dropGame_tasks (oracle : Oracle) (world : World) (game : Game) :
    world.StartsNone (world.dropGame oracle game).1 := by
  unfold dropGame
  split
  · have shut := shutdownGame_sockets oracle world game
    split
    · rename_i panicked
      rw [panicked] at shut
      exact .same shut
    · rename_i ended
      rw [ended] at shut
      exact .same ((deleteRecord_sockets ..).trans shut)
  · split
    · exact leaveGame_tasks oracle world game
    · exact .same rfl

theorem dropGame?_tasks (oracle : Oracle) (world : World) (held : Option Game) :
    world.StartsNone (world.dropGame? oracle held).1 := by
  cases held with
  | none => exact .same rfl
  | some game => exact dropGame_tasks oracle world game

theorem dropClient_tasks (oracle : Oracle) (world : World) (client : SocketClient) :
    world.StartsNone (world.dropClient oracle client).1 :=
  StartsNone.trans (.same (announceDrop_sockets world client)) (dropGame?_tasks oracle _ client.game)

theorem setGame_tasks (oracle : Oracle) (world : World) (id : Uuid) (client : SocketClient)
    (game : Game) (fresh : game.isStarted = false) :
    world.StartsNone (world.setGame oracle id client game).1 := by
  have dropped := dropGame?_tasks oracle world client.game
  unfold setGame
  split
  · rename_i panicked
    rwa [panicked] at dropped
  · rename_i ended
    rw [ended] at dropped
    apply dropped.trans
    apply StartsNone.put
    rintro other ⟨⟩ started
    simp [fresh] at started

end World

/-- The handler is about to run a submission, or to grade it. -/
def Pc.Submits : Pc → Prop
  | .compileRun _ _ _ | .compileValidate _ _ _ => True
  | _ => False

namespace Section

variable {world : World} {part : Section}

/-- The section may be left only in worlds where nothing new is started, and it does not
go on to run or to grade a submission. -/
structure StartsNone (world : World) (part : Section) : Prop where
  left : ∀ after ∈ part.final :: part.paused, world.StartsNone after
  next : ∀ pc, part.next = .goto pc → ¬ pc.Submits

theorem StartsNone.stop {before : World} (starts : before.StartsNone world)
    (exit : Exit ClientError Unit) : StartsNone before (.stop world exit) := by
  exact ⟨by simpa [Section.stop] using starts, fun _ going => by cases going⟩

theorem StartsNone.goto {before : World} (starts : before.StartsNone world) {pc : Pc}
    (other : ¬ pc.Submits) : StartsNone before (.goto world pc) := by
  refine ⟨by simpa [Section.goto] using starts, ?_⟩
  rintro _ ⟨⟩
  exact other

theorem StartsNone.returned {before : World} (starts : before.StartsNone world)
    (result : Exit ClientError Bool) : StartsNone before ⟨[], world, .returned result⟩ := by
  exact ⟨by simpa using starts, fun _ going => by cases going⟩

theorem StartsNone.refuse {before : World} (starts : before.StartsNone world)
    (client : SocketClient) (error : ClientError) :
    StartsNone before (.refuse world client error) := by
  have told : before.StartsNone (world.send client.sendChannel (.error error)) :=
    starts.trans (.same (World.send_sockets world))
  exact ⟨by simpa [Section.refuse] using ⟨told, starts⟩, fun _ going => by cases going⟩

theorem StartsNone.reply {before : World} (starts : before.StartsNone world)
    (channel : SocketSender) (response : Response) (exit : Exit ClientError Unit) :
    StartsNone before (.reply world channel response exit) := by
  have told : before.StartsNone (world.send channel (.response response)) :=
    starts.trans (.same (World.send_sockets world))
  exact ⟨by simpa [Section.reply] using ⟨told, starts⟩, fun _ going => by cases going⟩

theorem between_tasks {before : World} (starts : before.StartsNone world) (sent : List Delivery) :
    ∀ after ∈ between world sent, before.StartsNone after := by
  intro after member
  obtain ⟨count, -, rfl⟩ := List.mem_map.mp member
  exact starts.trans (.same rfl)

end Section

end Grass
