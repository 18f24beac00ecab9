import Grass.Guarantee.Verdict
import Grass.Refinement.Calm
import Grass.Refinement.Starts
import Grass.Refinement.Told

/-! What a step of a connection does to the host games of its process, and what of it
is told: nothing, one call on one of them, a new game, or the end of its own. -/

namespace Grass

open Lobby Transition

/-- The host game in a client's entry. -/
def World.hostedAt (world : World) (id : Uuid) : Option Game :=
  (world.gameAt id).filter Game.isHost

/-- An answer to the client itself, which is no event of a game. -/
def Delivery.Answers (id : Uuid) (delivery : Delivery) : Prop :=
  delivery.channel = id ∧ ∀ event, delivery.message ≠ .gameEvent event

/-- One message is sent, if at all. -/
theorem PartialClient.Own.reaches {client : PartialClient} (own : client.Own)
    {closed : SocketSender → Bool} {message : Message} {delivery : Delivery}
    (told : delivery ∈ (client.sendMessage closed message).sent) :
    delivery = ⟨client.id, message⟩ := by
  rw [own.sent] at told
  split at told
  · cases told
  · exact List.mem_singleton.mp told

/-- The section that opens a game, or enters a host's roster, is about to run. -/
def Stage.Enters (stage : Stage Party String) : Prop :=
  (∃ gameId, stage = .opening gameId) ∨ ∃ gameId host, stage = .knocking gameId host

theorem Stage.Enters.seating {stage : Stage Party String} (enters : stage.Enters) :
    Seating stage :=
  enters.elim (fun opens => .inr (.inl opens)) fun knocks => .inr (.inr (.inl knocks))

namespace Game

/-- What a call sends. -/
def callSent (game : Game) (made : Call) : List Delivery :=
  match made.operation with
  | .register newcomer => (game.register made.order made.closed newcomer).2.sent
  | .unregister clientId => (game.unregister made.order made.closed clientId).2.sent
  | .start choose availableTasks taskCount =>
    (game.start made.order made.closed choose availableTasks taskCount).2.sent
  | .prepareCodeTest _ => []
  | .validateCodeTest sandbox clientId taskIndex code result =>
    (game.validateCodeTest made.order made.closed sandbox clientId taskIndex code result).2.sent

theorem register_shut {game : Game} (shut : game.isPublic = false) (order : IterOrder)
    (closed : SocketSender → Bool) (newcomer : PartialClient) :
    game.register order closed newcomer = (game, ⟨.err (), []⟩) := by
  simp [Game.register, shut]

/-- A run whose outputs are all compared as expected meets the tests. -/
theorem checkOutputs_meets {tests : List TestCase} {result : SandboxResponse} {checked : Checked}
    (ran : result.success = true) (compared : checkOutputs tests 0 result.stdout .none = some checked)
    (complete : checked.finished.length = tests.length) : result.Meets tests := by
  rw [checkOutputs_eq] at compared
  split at compared
  · rename_i fits
    obtain rfl := Option.some.inj compared
    exact ⟨ran, (finished_length_iff fits).mp complete⟩
  · cases compared

theorem publicStage_meets {game : Game} {clientId : Uuid} {taskIndex : Nat} {task : GameTask}
    {result : SandboxResponse} {who : Participant} {reports : List PublicTestProgress}
    (staged : game.publicStage clientId taskIndex result = .passed task who reports) :
    result.Meets task.publicTestCases := by
  unfold publicStage at staged
  split at staged
  · cases staged
  · split at staged
    · cases staged
    · cases staged
    · split at staged
      · cases staged
      · rename_i ran
        split at staged
        · cases staged
        · rename_i compared
          split at staged
          · split at staged <;> cases staged
          · rename_i complete
            cases staged
            exact checkOutputs_meets (by simpa using ran) compared (not_not.mp complete)

/-- A grading credits and announces a task whose tests the submission has all passed, or
changes and tells nothing. -/
theorem validateCodeTest_credits (game : Game) (order : IterOrder) (closed : SocketSender → Bool)
    (sandbox : Sandbox) (clientId : Uuid) (taskIndex : Nat) (code : String)
    (result : SandboxResponse) :
    ((game.validateCodeTest order closed sandbox clientId taskIndex code result).1 = game ∧
        (game.validateCodeTest order closed sandbox clientId taskIndex code result).2.sent = []) ∨
      ∃ task who credited, game.isStarted = true ∧ game.tasks[taskIndex]? = some task ∧
        game.participant clientId = .ok who ∧
        game.Accepts sandbox clientId taskIndex code result ∧
        game.creditTask who taskIndex = some credited ∧
        (game.validateCodeTest order closed sandbox clientId taskIndex code result).1 = credited ∧
        (game.validateCodeTest order closed sandbox clientId taskIndex code result).2.sent =
          (credited.sendGlobal order closed (.gameEvent (.taskFinished task.serialize taskIndex
            clientId)) (some [clientId])).sent := by
  unfold Game.validateCodeTest
  split
  · exact .inl ⟨rfl, rfl⟩
  · rename_i task who reports staged
    obtain ⟨found, known⟩ := publicStage_passed staged
    obtain ⟨started, there⟩ := getTaskIndexed_ok found
    unfold privateStage compileCode
    cases answered : sandbox clientId code (task.privateTestCases.map TestCase.stdin) with
    | none => exact .inl ⟨rfl, rfl⟩
    | some answer =>
      dsimp only
      split
      · exact .inl ⟨rfl, rfl⟩
      · rename_i ran
        split
        · exact .inl ⟨rfl, rfl⟩
        · rename_i compared
          split
          · exact .inl ⟨rfl, rfl⟩
          · rename_i complete
            have met : answer.Meets task.privateTestCases :=
              checkOutputs_meets (by simpa using ran) compared (not_not.mp complete)
            split
            · exact .inl ⟨rfl, rfl⟩
            · rename_i credited same
              exact .inr ⟨task, who, credited, started, there, known,
                ⟨task, there, publicStage_meets staged, answer, answered, met⟩, same, rfl,
                Sending.ignore_bind_sent _ _⟩

/-- What a connection is about: to enter a game, to start its own with this many tasks so
chosen, or to have this submission graded in the game of this host. -/
structure Errand where
  enters : Prop
  starts : (List GameTask → Nat → List GameTask) → Nat → Prop
  submits : Uuid → Sandbox → Nat → String → SandboxResponse → Prop

/-- Whatever the one is about, the other is. -/
structure Errand.Within (errand more : Errand) : Prop where
  enters : errand.enters → more.enters
  starts : ∀ choose taskCount, errand.starts choose taskCount → more.starts choose taskCount
  submits : ∀ hostId sandbox taskIndex code result,
    errand.submits hostId sandbox taskIndex code result →
      more.submits hostId sandbox taskIndex code result

theorem Errand.Within.refl (errand : Errand) : errand.Within errand :=
  ⟨fun enters => enters, fun _ _ starts => starts, fun _ _ _ _ _ submits => submits⟩

/-- The operation is one that the connection `id` makes on its own behalf, on the game
of `hostId`, in a process with these tasks; it registers only on the way into a game,
starts only its own as it asks for, and grades only the submission at hand. -/
def Operation.By (id hostId : Uuid) (tasks : List GameTask) (errand : Errand) : Operation → Prop
  | .register newcomer =>
    errand.enters ∧ newcomer.id = id ∧ newcomer.Own ∧ newcomer.taskProgress = none
  | .unregister clientId => clientId = id
  | .start choose availableTasks taskCount =>
    hostId = id ∧ availableTasks = tasks ∧ errand.starts choose taskCount
  | .prepareCodeTest _ => True
  | .validateCodeTest sandbox clientId taskIndex code result =>
    clientId = id ∧ errand.submits hostId sandbox taskIndex code result

theorem Operation.By.mono {id hostId : Uuid} {tasks : List GameTask} {errand more : Errand}
    {operation : Operation} (within : errand.Within more)
    (by_ : operation.By id hostId tasks errand) : operation.By id hostId tasks more := by
  cases operation with
  | register newcomer => exact ⟨within.enters by_.1, by_.2⟩
  | start choose availableTasks taskCount =>
    exact ⟨by_.1, by_.2.1, within.starts choose taskCount by_.2.2⟩
  | validateCodeTest sandbox clientId taskIndex code result =>
    exact ⟨by_.1, within.submits hostId sandbox taskIndex code result by_.2⟩
  | unregister | prepareCodeTest => exact by_

/-- No call makes a host's game a guest's. -/
theorem Valid.call_isHost {game : Game} {id : Uuid} (valid : game.Valid id) (made : Call) :
    (game.call made).isHost = game.isHost := by
  obtain ⟨order, closed, operation⟩ := made
  cases operation with
  | register newcomer =>
    simp only [call, Game.register]
    split
    · rfl
    · split
      · rfl
      · split <;> rfl
  | unregister clientId =>
    simp only [call]
    rcases valid.unregister_cases order closed clientId with
      ⟨same, -⟩ | ⟨-, _, -, -, -, _, -, same, -⟩ <;> rw [same]
  | start choose availableTasks taskCount => exact (valid.start ..).2.isHost
  | prepareCodeTest taskIndex => rfl
  | validateCodeTest sandbox clientId taskIndex code result =>
    exact (valid.validateCodeTest ..).2.isHost

/-- What the end of a game sends to its participants. -/
def farewells (order : IterOrder) (closed : SocketSender → Bool) (roster : Roster) :
    List Delivery :=
  (order.list roster).flatMap fun entry =>
    (entry.2.sendMessage closed (.gameEvent .shutdown)).sent

end Game

namespace World

variable {world before middle after : World} {id hostId : Uuid} {tasks : List GameTask}
  {errand : Game.Errand}

theorem hostedAt_iff {game : Game} :
    world.hostedAt id = some game ↔ world.gameAt id = some game ∧ game.isHost = true :=
  Option.filter_eq_some_iff

theorem hostedAt_congr (same : after.sockets = before.sockets) : after.hostedAt = before.hostedAt := by
  funext id
  simp only [hostedAt, gameAt, same]

@[simp] theorem hostedAt_put (client : SocketClient) : (world.put id client).hostedAt =
    Function.update world.hostedAt id (client.game.filter Game.isHost) := by
  funext other
  by_cases same : other = id
  · subst same
    simp [hostedAt, gameAt]
  · simp [hostedAt, gameAt, same]

@[simp] theorem hostedAt_remove :
    (world.remove id).hostedAt = Function.update world.hostedAt id none := by
  funext other
  by_cases same : other = id
  · subst same
    simp [hostedAt, gameAt]
  · simp [hostedAt, gameAt, same]

theorem send_remove_wire {channel : SocketSender} {message : Message} :
    ((world.remove id).send channel message).wire = (world.send channel message).wire := by
  cases open_ : world.closed channel <;> simp [send, remove, deliver, open_]

theorem hostedAt_entry {client : SocketClient} (found : world.sockets id = some client) :
    world.hostedAt id = client.game.filter Game.isHost := by
  simp [hostedAt, gameAt, found]

/-- Between the two worlds these messages were enqueued. -/
def Sends (before after : World) (told : List Delivery → Prop) : Prop :=
  ∃ sent, after.wire = before.wire ++ sent ∧ told sent

/-- These messages were enqueued, and besides at most answers to the client. -/
def Spreads (id : Uuid) (news : List Delivery) (before after : World) : Prop :=
  before.Sends after fun sent => ∃ first last, sent = first ++ news ++ last ∧
    (∀ delivery ∈ first, delivery.Answers id) ∧ ∀ delivery ∈ last, delivery.Answers id

/-- The host games stay as they are, and nobody but the client is told anything. -/
structure Aside (id : Uuid) (before after : World) : Prop where
  hosted : after.hostedAt = before.hostedAt
  closed : after.closed = before.closed
  told : before.Sends after fun sent => ∀ delivery ∈ sent, delivery.Answers id

theorem Aside.refl (id : Uuid) (world : World) : world.Aside id world :=
  ⟨rfl, rfl, [], by simp, by simp⟩

theorem Aside.trans (first : before.Aside id middle) (second : middle.Aside id after) :
    before.Aside id after := by
  obtain ⟨earlier, sent, answers⟩ := first.told
  obtain ⟨later, given, replies⟩ := second.told
  refine ⟨second.hosted.trans first.hosted, second.closed.trans first.closed, earlier ++ later,
    by rw [given, sent, List.append_assoc], fun delivery member => ?_⟩
  rcases List.mem_append.mp member with old | new
  · exact answers delivery old
  · exact replies delivery new

theorem Aside.same (hosted : after.hostedAt = before.hostedAt) (closed : after.closed = before.closed)
    (wire : after.wire = before.wire) : before.Aside id after :=
  ⟨hosted, closed, [], by simp [wire], by simp⟩

theorem Aside.deliver {sent : List Delivery} (answers : ∀ delivery ∈ sent, delivery.Answers id) :
    world.Aside id (world.deliver sent) :=
  ⟨hostedAt_congr rfl, rfl, sent, rfl, answers⟩

theorem Aside.send {channel : SocketSender} {message : Message} (wired : channel = id)
    (plain : ∀ event, message ≠ .gameEvent event) : world.Aside id (world.send channel message) := by
  unfold World.send
  split
  · exact .refl id world
  · exact .deliver (by simp [Delivery.Answers, wired, plain])

theorem Aside.announceDrop {client : SocketClient} (wired : client.sendChannel = id) :
    world.Aside id (world.announceDrop client) := by
  unfold World.announceDrop
  split
  · exact .refl id world
  · exact .send wired (by simp)

/-- What the host games of a process go through while the connection `id` acts, and what
of it is told; where it is lapsing, only part of that may have been. -/
inductive Plays (id : Uuid) (tasks : List GameTask) (errand : Game.Errand) (lapsing : Prop)
    (before after : World) : Prop where
  | aside (aside : before.Aside id after)
  | stray (allowed : lapsing) (hosted : after.hostedAt = before.hostedAt)
  | calls (hostId : Uuid) (game : Game) (made : Game.Call) (held : before.hostedAt hostId = some game)
      (by_ : made.operation.By id hostId tasks errand) (heard : made.closed = before.closed)
      (hosted : after.hostedAt = Function.update before.hostedAt hostId (some (game.call made)))
      (told : ¬ lapsing → before.Spreads id (game.callSent made) after)
  | opens (allowed : errand.enters) (gameId : String) (self : PartialClient) (named : self.id = id)
      (own : self.Own) (fresh : self.taskProgress = none) (vacant : before.hostedAt id = none)
      (hosted : after.hostedAt =
        Function.update before.hostedAt id (some (.new true gameId self self)))
      (told : before.Sends after fun sent => ∀ delivery ∈ sent, delivery.Answers id)
  | ends (game : Game) (roster : Roster) (order : IterOrder) (held : before.hostedAt id = some game)
      (clients : game.connectedClients = some roster)
      (hosted : after.hostedAt = Function.update before.hostedAt id none)
      (told : before.Spreads id (Game.farewells order before.closed roster) after)

theorem Spreads.only {news : List Delivery} (wire : after.wire = before.wire ++ news) :
    before.Spreads id news after :=
  ⟨news, wire, [], [], by simp, by simp, by simp⟩

theorem Spreads.aside_before {news : List Delivery} (aside : before.Aside id middle)
    (spreads : middle.Spreads id news after) : before.Spreads id news after := by
  obtain ⟨sent, earlier, answers⟩ := aside.told
  obtain ⟨_, later, first, last, rfl, replies, ends⟩ := spreads
  refine ⟨sent ++ (first ++ news ++ last), by rw [later, earlier, List.append_assoc], sent ++ first,
    last, by simp, fun delivery member => ?_, ends⟩
  rcases List.mem_append.mp member with old | new
  · exact answers delivery old
  · exact replies delivery new

theorem Spreads.aside_after {news : List Delivery} (spreads : before.Spreads id news middle)
    (aside : middle.Aside id after) : before.Spreads id news after := by
  obtain ⟨sent, later, answers⟩ := aside.told
  obtain ⟨_, earlier, first, last, rfl, replies, ends⟩ := spreads
  refine ⟨first ++ news ++ last ++ sent, by rw [later, earlier, List.append_assoc], first,
    last ++ sent, by simp, replies, fun delivery member => ?_⟩
  rcases List.mem_append.mp member with old | new
  · exact ends delivery old
  · exact answers delivery new

section Plays

variable {lapsing : Prop}

/-- The client may be answered before. -/
theorem Plays.aside_before (aside : before.Aside id middle)
    (plays : middle.Plays id tasks errand lapsing after) :
    before.Plays id tasks errand lapsing after := by
  cases plays with
  | aside later => exact .aside (aside.trans later)
  | stray allowed same => exact .stray allowed (same.trans aside.hosted)
  | calls hostId game made held by_ heard result told =>
    exact .calls hostId game made (aside.hosted ▸ held) by_ (heard.trans aside.closed)
      (aside.hosted ▸ result) fun calm => (told calm).aside_before aside
  | opens allowed gameId self named own fresh free result told =>
    obtain ⟨sent, earlier, answers⟩ := aside.told
    obtain ⟨given, later, replies⟩ := told
    refine .opens allowed gameId self named own fresh (aside.hosted ▸ free)
      (aside.hosted ▸ result) ⟨sent ++ given, by rw [later, earlier, List.append_assoc],
        fun delivery member => ?_⟩
    rcases List.mem_append.mp member with old | new
    · exact answers delivery old
    · exact replies delivery new
  | ends game roster order held clients result told =>
    exact .ends game roster order (aside.hosted ▸ held) clients (aside.hosted ▸ result)
      (aside.closed ▸ told.aside_before aside)

/-- The client may be answered afterwards. -/
theorem Plays.aside_after (plays : before.Plays id tasks errand lapsing middle)
    (aside : middle.Aside id after) : before.Plays id tasks errand lapsing after := by
  cases plays with
  | aside first => exact .aside (first.trans aside)
  | stray allowed same => exact .stray allowed (aside.hosted.trans same)
  | calls hostId game made held by_ heard result told =>
    exact .calls hostId game made held by_ heard (aside.hosted.trans result) fun calm =>
      (told calm).aside_after aside
  | opens allowed gameId self named own fresh free result told =>
    obtain ⟨sent, earlier, replies⟩ := told
    obtain ⟨later, given, answers⟩ := aside.told
    refine .opens allowed gameId self named own fresh free (aside.hosted.trans result)
      ⟨sent ++ later, by rw [given, earlier, List.append_assoc], fun delivery member => ?_⟩
    rcases List.mem_append.mp member with old | new
    · exact replies delivery old
    · exact answers delivery new
  | ends game roster order held clients result told =>
    exact .ends game roster order held clients (aside.hosted.trans result) (told.aside_after aside)

theorem Plays.mono {free : Game.Errand} {more : Prop} (within : errand.Within free)
    (allows : lapsing → more)
    (plays : before.Plays id tasks errand lapsing after) : before.Plays id tasks free more after := by
  cases plays with
  | aside aside => exact .aside aside
  | stray allowed same => exact .stray (allows allowed) same
  | calls hostId game made held by_ heard result told =>
    exact .calls hostId game made held (by_.mono within) heard result fun calm => told fun lapsed =>
      calm (allows lapsed)
  | opens allowed gameId self named own fresh vacant result told =>
    exact .opens (within.enters allowed) gameId self named own fresh vacant result told
  | ends game roster order held clients result told =>
    exact .ends game roster order held clients result told

/-- What was fully told may also be told of a lapsing request. -/
theorem Plays.lapse (plays : before.Plays id tasks errand False after) :
    before.Plays id tasks errand lapsing after :=
  plays.mono (.refl errand) False.elim

end Plays

section Drop

variable {oracle : Oracle} {game : Game}

/-- A shutdown says farewell to the participants, then answers the host. -/
theorem shutdownGame_told (valid : game.Valid id) {roster : Roster} (hosts : game.Hosts roster) :
    (world.shutdownGame oracle game).2.1.closed = world.closed ∧
      world.Spreads id (Game.farewells oracle.order world.closed roster)
        (world.shutdownGame oracle game).2.1 := by
  have told := @Roster.Valid.sendAll ClientError roster hosts.roster oracle.order world.closed
    (.gameEvent .shutdown)
  unfold shutdownGame
  rw [Game.checkHost_host hosts.isHost, hosts.clients]
  simp only [told.1]
  split
  · exact ⟨rfl, .only (by rw [deliver_wire, told.2]; rfl)⟩
  · refine ⟨rfl, _, List.append_assoc .., [], _, by rw [told.2]; rfl, by simp,
      fun delivery member => ?_⟩
    rw [hosts.host.reaches member]
    exact ⟨(valid.hosting hosts.isHost).1, by simp⟩

theorem deleteRecord_aside (gameId : String) :
    world.Aside id (world.deleteRecord oracle gameId).1 := by
  refine .same (hostedAt_congr (deleteRecord_sockets ..)) ?_ ?_ <;>
    (unfold deleteRecord; split <;> rfl)

/-- A guest's game that is dropped strikes the guest off whatever game its host holds. -/
theorem leaveGame_plays (worldValid : world.Valid) (valid : game.Valid id) :
    world.Plays id tasks errand False (world.leaveGame oracle game).1 := by
  have goodbye : ∀ closed, ∀ delivery ∈ ((game.partialClient.sendMessage closed
      (.response (.leave true))).ignore : Sending ClientError Unit).sent, delivery.Answers id := by
    intro closed delivery member
    rw [Sending.ignore_sent] at member
    rw [valid.self.reaches member]
    exact ⟨valid.owner, by simp⟩
  have struck : world.Plays id tasks errand False (world.unregisterFromHost oracle game).1 := by
    unfold unregisterFromHost
    split
    · rename_i hostClient found
      split
      · rename_i hostGame playing
        have hostValid := ((worldValid _ _ found).playing hostGame playing).2
        let made : Game.Call := ⟨oracle.order, world.closed, .unregister game.partialClient.id⟩
        have later := hostValid.call_isHost made
        have stored : (world.put game.partialHost.id
              { hostClient with game := some (hostGame.call made) }).hostedAt =
            Function.update world.hostedAt game.partialHost.id
              ((some (hostGame.call made)).filter Game.isHost) := hostedAt_put _
        cases host : hostGame.isHost with
        | true =>
          refine .calls game.partialHost.id hostGame made ?_ valid.owner rfl (stored.trans ?_)
            fun _ => .only rfl
          · simp [hostedAt_entry found, playing, host]
          · simp [Option.filter_some, later, host]
        | false =>
          refine .aside (.same (stored.trans ?_) rfl ?_)
          · refine Function.update_eq_self_iff.mpr ?_
            simp [hostedAt_entry found, playing, Option.filter_some, later, host]
          · simp [Game.unregister, host]
      · exact .aside (.refl id world)
    · exact .aside (.refl id world)
  unfold leaveGame
  split
  · rename_i left
    rwa [left] at struck
  · rename_i left
    rw [left] at struck
    exact struck.aside_after (.deliver (goodbye _))

/-- The drop of a game that has been taken out of its client's entry. -/
theorem dropGame?_plays {held : Option Game} (worldValid : world.Valid)
    (valid : ∀ game, held = some game → game.Valid id) (before : World)
    (hosted : world.hostedAt = Function.update before.hostedAt id none)
    (earlier : before.gameAt id = held) (wire : world.wire = before.wire)
    (closed : world.closed = before.closed) :
    before.Plays id tasks errand False (world.dropGame? oracle held).1 := by
  have vacated : held.filter Game.isHost = none → world.hostedAt = before.hostedAt := by
    intro guest
    rw [hosted, Function.update_eq_self_iff, hostedAt, earlier, guest]
  cases held with
  | none => exact .aside (.same (vacated rfl) closed wire)
  | some game =>
    have gameValid := valid game rfl
    cases host : game.isHost with
    | true =>
      obtain ⟨roster, hosts⟩ := gameValid.hosts host
      obtain ⟨later, told⟩ := @shutdownGame_told world id oracle game gameValid roster hosts
      have sockets := shutdownGame_sockets oracle world game
      have ended : before.Plays id tasks errand False (world.shutdownGame oracle game).2.1 := by
        refine .ends game roster oracle.order (hostedAt_iff.mpr ⟨earlier, host⟩) hosts.clients
          ((hostedAt_congr sockets).trans hosted) ?_
        rw [← closed]
        obtain ⟨sent, given, right⟩ := told
        exact ⟨sent, by rw [given, wire], right⟩
      rw [dropGame?, dropGame, if_pos host]
      split
      · rename_i shut
        rwa [shut] at ended
      · rename_i shut
        rw [shut] at ended
        exact ended.aside_after (deleteRecord_aside _)
    | false =>
      have left := @leaveGame_plays world id tasks errand oracle game worldValid gameValid
      rw [dropGame?, dropGame, if_neg (by simp [host]), if_pos gameValid.host.isLocal]
      exact left.aside_before (.same (vacated (by simp [host])) closed wire)

end Drop

end World

/-- What a section, left at its end or at an await, does to the host games. -/
structure Section.Plays (id : Uuid) (tasks : List GameTask) (errand : Game.Errand)
    (lapsing : Prop) (world : World) (part : Section) : Prop where
  final : world.Plays id tasks errand lapsing part.final
  paused : ∀ after ∈ part.paused, world.Plays id tasks errand True after

namespace Section

variable {id : Uuid} {tasks : List GameTask} {errand : Game.Errand} {lapsing : Prop}
  {before world : World}

theorem Plays.stop (plays : before.Plays id tasks errand False world) (exit : Exit ClientError Unit) :
    Plays id tasks errand lapsing before (.stop world exit) :=
  ⟨plays.lapse, by simp [Section.stop]⟩

theorem Plays.goto (plays : before.Plays id tasks errand False world) (pc : Pc) :
    Plays id tasks errand lapsing before (.goto world pc) :=
  ⟨plays.lapse, by simp [Section.goto]⟩

theorem Plays.returned (plays : before.Plays id tasks errand lapsing world)
    (result : Exit ClientError Bool) :
    Plays id tasks errand lapsing before ⟨[], world, .returned result⟩ :=
  ⟨plays, by simp⟩

theorem Plays.refuse (plays : before.Plays id tasks errand False world) {client : SocketClient}
    (wired : client.sendChannel = id) (error : ClientError) :
    Plays id tasks errand lapsing before (.refuse world client error) where
  final := (plays.aside_after (.send wired (by simp))).lapse
  paused after member := by
    obtain rfl : after = world := by simpa [Section.refuse] using member
    exact plays.lapse

theorem Plays.reply (plays : before.Plays id tasks errand False world) {channel : SocketSender}
    (wired : channel = id) (response : Response) (exit : Exit ClientError Unit) :
    Plays id tasks errand lapsing before (.reply world channel response exit) where
  final := (plays.aside_after (.send wired (by simp))).lapse
  paused after member := by
    obtain rfl : after = world := by simpa [Section.reply] using member
    exact plays.lapse

end Section

/-- The request is to start with this many tasks. -/
def DefaultModel.AsksStart (model : DefaultModel) (taskCount : Nat) : Prop :=
  ∃ request data, model.request? = some request ∧ request.op = .start ∧ request.d = some data ∧
    StartRequest.fromValue data = some ⟨taskCount⟩

namespace Ctx

/-- What the handler is about at a section. -/
def errand (ctx : Ctx) (pc : Pc) : Game.Errand where
  enters := (pc.stage ctx.shardId).Enters
  starts choose taskCount :=
    pc = .receive ∧ ctx.oracle.choose = choose ∧ ctx.model.AsksStart taskCount
  submits hostId sandbox taskIndex code result :=
    pc = .compileValidate hostId ⟨code, taskIndex⟩ result ∧ ctx.oracle.sandbox = sandbox

variable {ctx : Ctx} {world : World} {id : Uuid} {tasks : List GameTask} {errand : Game.Errand}
  {lapsing : Prop}

/-- An entry that shows the same host game. -/
theorem aside_put {other : Uuid} {client new : SocketClient}
    (found : world.sockets id = some client)
    (same : new.game.filter Game.isHost = client.game.filter Game.isHost) :
    world.Aside other (world.put id new) := by
  refine .same ?_ rfl rfl
  rw [World.hostedAt_put, Function.update_eq_self_iff, World.hostedAt_entry found, same]

section Call

variable {hostId : Uuid} {client : SocketClient} {game : Game} (host : game.isHost = true)

include host

theorem hostedAt_held (found : world.sockets hostId = some client)
    (playing : client.game = some game) : world.hostedAt hostId = some game := by
  simp [World.hostedAt_entry found, playing, Option.filter_some, host]

variable (valid : game.Valid hostId) (made : Game.Call)

include valid

theorem hostedAt_called (sent : List Delivery) :
    ((world.put hostId { client with game := some (game.call made) }).deliver sent).hostedAt =
      Function.update world.hostedAt hostId (some (game.call made)) := by
  refine (World.hostedAt_congr rfl).trans ((World.hostedAt_put _).trans ?_)
  simp [Option.filter_some, valid.call_isHost made, host]

variable (found : world.sockets hostId = some client) (playing : client.game = some game)
  (by_ : made.operation.By id hostId tasks errand) (heard : made.closed = world.closed)

include found playing by_ heard

/-- A call on the host game in an entry, and what it sends. -/
theorem calls_put : world.Plays id tasks errand False
    ((world.put hostId { client with game := some (game.call made) }).deliver
      (game.callSent made)) :=
  .calls hostId game made (hostedAt_held host found playing) by_ heard
    (hostedAt_called host valid made _) fun _ => .only rfl

/-- The same call, with only part of what it sends enqueued. -/
theorem calls_between {sent : List Delivery} {after : World} (paused : after ∈ Section.between
      (world.put hostId { client with game := some (game.call made) }) sent) :
    world.Plays id tasks errand True after := by
  obtain ⟨count, -, rfl⟩ := List.mem_map.mp paused
  exact .calls hostId game made (hostedAt_held host found playing) by_ heard
    (hostedAt_called host valid made _) fun calm => absurd trivial calm

end Call

section Sections

variable (valid : world.Valid)

include valid

theorem handleJoin_plays (d : Option Value) :
    (ctx.handleJoin world d).Plays ctx.clientId tasks errand lapsing world := by
  have still := @World.Plays.aside ctx.clientId tasks errand False world world (.refl _ _)
  unfold handleJoin
  split
  · exact .stop still _
  · split
    · exact .stop still _
    · split
      · exact .stop still _
      · rename_i client found
        have wired := valid.wired found
        split
        · exact .refuse still wired _
        · split
          · exact .refuse still wired _
          · split
            · exact .refuse still wired _
            · unfold joinRead
              split
              · exact .refuse still wired _
              · split
                · exact .goto still _
                · exact .stop still _
              · split <;> exact .goto still _

theorem joinHost_plays (vacant : world.gameAt ctx.clientId = none) (allowed : errand.enters)
    (gameId : String) :
    (ctx.joinHost world gameId).Plays ctx.clientId tasks errand lapsing world := by
  unfold joinHost
  split
  · exact .stop (.aside (.refl _ _)) _
  · rename_i client found
    have empty : client.game = none := by simpa [World.gameAt, found] using vacant
    split
    · exact .stop (.aside (.refl _ _)) _
    · rename_i nickname _
      dsimp only
      rw [World.setGame_vacant ctx.oracle empty]
      have entry := valid _ _ found
      refine .reply (.opens allowed gameId (ctx.localClient client nickname) entry.named ?_ rfl ?_ ?_
        ⟨[], by simp, by simp⟩) entry.wired ..
      · simp only [localClient, entry.wired, ← entry.named]
        exact .new ..
      · simp [World.hostedAt, vacant]
      · simp [Option.filter_some, Game.new]

theorem joinRegister_plays (gameId : String) (hostId : Uuid) (nickname : String)
    {channel : SocketSender} (wired : channel = ctx.clientId) (allowed : errand.enters) :
    (ctx.joinRegister world gameId hostId nickname channel).Plays ctx.clientId tasks errand lapsing
      world := by
  unfold joinRegister
  split
  · exact .goto (.aside (.refl _ _)) _
  · rename_i hostClient found
    split
    · exact .stop (.aside (.refl _ _)) _
    · split
      · refine .stop (.aside (.same ?_ ?_ ?_)) _ <;> split <;> rfl
      · rename_i hostGame playing
        have hostValid := ((valid _ _ found).playing hostGame playing).2
        let newcomer : PartialClient := .new ctx.clientId nickname ctx.shardId true (some channel)
        have own : newcomer.Own := ⟨rfl, by simp [newcomer, PartialClient.new, wired]⟩
        let made : Game.Call := ⟨ctx.oracle.order, world.closed, .register newcomer⟩
        constructor
        · cases host : hostGame.isHost with
          | true =>
            exact (calls_put host hostValid made found playing ⟨allowed, rfl, own, rfl⟩ rfl).lapse
          | false =>
            have refused : hostGame.register ctx.oracle.order world.closed newcomer =
                (hostGame, ⟨.err (), []⟩) := by
              simp [Game.register, host]
            dsimp only
            rw [refused]
            refine (World.Plays.aside ((aside_put found ?_).trans (.deliver (by simp)))).lapse
            rw [playing]
        · intro after paused
          obtain ⟨count, -, rfl⟩ := List.mem_map.mp paused
          exact .stray trivial (World.hostedAt_congr rfl)

theorem joinEnter_plays (gameId : String) (hostId : Uuid) (hostNickname : String)
    (hostChannel : SocketSender) (nickname : String) (admitted : Bool)
    (vacant : admitted = true → world.gameAt ctx.clientId = none) :
    (ctx.joinEnter world gameId hostId hostNickname hostChannel nickname admitted).Plays ctx.clientId
      tasks errand lapsing world := by
  unfold joinEnter
  split
  · exact .stop (.aside (.refl _ _)) _
  · rename_i client found
    have wired := valid.wired found
    split
    · rename_i enters
      have empty : client.game = none := by simpa [World.gameAt, found] using vacant enters
      dsimp only
      rw [World.setGame_vacant ctx.oracle empty]
      refine .reply (.aside (aside_put found ?_)) wired ..
      simp [empty, Option.filter_some, Game.new]
    · exact .reply (.aside (.refl _ _)) wired ..

/-- Taking a game out of the client's entry and dropping it. -/
theorem takeGame_plays {client : SocketClient} {game : Game}
    (found : world.sockets ctx.clientId = some client) (playing : client.game = some game) :
    world.Plays ctx.clientId tasks errand False (ctx.takeGame world client game).1 := by
  refine @World.dropGame?_plays _ _ _ _ _ (some game) (valid.take found) ?_ world ?_ ?_ rfl rfl
  · rintro _ ⟨⟩
    exact ((valid _ _ found).playing game playing).2
  · simp
  · simp [World.gameAt, found, playing]

theorem handleLeave_plays :
    (ctx.handleLeave world).Plays ctx.clientId tasks errand lapsing world := by
  unfold handleLeave
  split
  · exact .stop (.aside (.refl _ _)) _
  · rename_i client found
    split
    · exact .refuse (.aside (.refl _ _)) (valid.wired found) _
    · rename_i game playing
      exact .stop (takeGame_plays valid found playing) _

theorem handleStart_plays (d : Option Value)
    (starts : ∀ data taskCount, d = some data → StartRequest.fromValue data = some ⟨taskCount⟩ →
      errand.starts ctx.oracle.choose taskCount) :
    (ctx.handleStart world d).Plays ctx.clientId ctx.availableTasks errand lapsing world := by
  unfold handleStart
  split
  · exact .stop (.aside (.refl _ _)) _
  · rename_i client found
    split
    · exact .refuse (.aside (.refl _ _)) (valid.wired found) _
    · rename_i game playing
      split
      · rename_i host
        unfold startHosted
        split
        · exact .stop (.aside (.refl _ _)) _
        · split
          · exact .stop (.aside (.refl _ _)) _
          · rename_i data _ request parsed
            have gameValid := ((valid _ _ found).playing game playing).2
            let made : Game.Call := ⟨ctx.oracle.order, world.closed,
              .start ctx.oracle.choose ctx.availableTasks request.taskCount⟩
            have by_ : made.operation.By ctx.clientId ctx.clientId ctx.availableTasks errand :=
              ⟨rfl, rfl, starts data request.taskCount rfl parsed⟩
            exact ⟨(calls_put host gameValid made found playing by_ rfl).lapse,
              fun after paused => calls_between host gameValid made found playing by_ rfl paused⟩
      · have taken :=
          @takeGame_plays ctx world ctx.availableTasks errand valid client game found playing
        split
        · rename_i left
          rw [left] at taken
          exact .stop taken _
        · rename_i left
          rw [left] at taken
          exact .refuse taken (valid.wired found) _

theorem compileValidate_plays (hostId : Uuid) (request : CompileRequest) (result : SandboxResponse)
    (submits : errand.submits hostId ctx.oracle.sandbox request.taskIndex request.code result) :
    (ctx.compileValidate world hostId request result).Plays ctx.clientId tasks errand lapsing
      world := by
  unfold compileValidate
  split
  · exact .goto (.aside (.refl _ _)) _
  · rename_i host game graded
    obtain ⟨found, playing, started⟩ := compileGame_found graded
    have gameValid := ((valid _ _ found).playing game playing).2
    have hosting : game.isHost = true := by
      by_contra guest
      simp [(gameValid.visiting (by simpa using guest)).2] at started
    let made : Game.Call := ⟨ctx.oracle.order, world.closed,
      .validateCodeTest ctx.oracle.sandbox ctx.clientId request.taskIndex request.code result⟩
    refine ⟨(calls_put hosting gameValid made found playing ⟨rfl, submits⟩ rfl).lapse,
      fun after paused => ?_⟩
    dsimp only at paused
    split at paused
    · cases paused
    · rcases List.mem_cons.mp paused with rfl | between
      · exact .aside (.refl _ _)
      · exact calls_between hosting gameValid made found playing ⟨rfl, submits⟩ rfl between

theorem handleIdentify_plays (d : Option Value) :
    (ctx.handleIdentify world d).Plays ctx.clientId tasks errand lapsing world := by
  unfold handleIdentify
  split
  · exact .stop (.aside (.refl _ _)) _
  · rename_i client found
    split
    · exact .reply (.aside (.refl _ _)) (valid.wired found) ..
    · split
      · exact .stop (.aside (.refl _ _)) _
      · split
        · exact .stop (.aside (.refl _ _)) _
        · refine .reply (.aside (aside_put found ?_)) (valid.wired found) ..
          rfl

theorem receive_plays
    (starts : ∀ taskCount, ctx.model.AsksStart taskCount → errand.starts ctx.oracle.choose taskCount) :
    (ctx.receive world).Plays ctx.clientId ctx.availableTasks errand lapsing world := by
  have still := @World.Plays.aside ctx.clientId ctx.availableTasks errand False world world (.refl _ _)
  rcases ctx.receive_cases world with ⟨error, fails⟩ | ⟨request, asked, handles⟩
  · rw [fails]
    exact .stop still _
  · rw [handles]
    unfold handleRequest
    split
    · exact handleJoin_plays valid _
    · exact handleLeave_plays valid
    · rename_i start
      exact handleStart_plays valid _ fun data taskCount given parsed =>
        starts taskCount ⟨request, data, asked, start, given, parsed⟩
    case h_7 => exact handleIdentify_plays valid _
    all_goals first
      | unfold handleTask
      | unfold handleCompile
      | unfold handlePing
      | unfold handleCreate
      | unfold handleExists existsRead
    all_goals
      repeat' split
      all_goals first
        | exact .stop still _
        | exact .refuse still (valid.wired (by assumption)) _
        | exact .reply still (valid.wired (by assumption)) ..
        | exact .goto still _
        | (refine .goto (.aside (.same ?_ ?_ ?_)) _ <;> rfl)

/-- What any section does; only the drop of a clone may tell others anything else. -/
theorem runSection_plays {pc : Pc} (relies : pc.Valid world ctx.clientId)
    (vacant : Seating (pc.stage ctx.shardId) → world.gameAt ctx.clientId = none) :
    (ctx.runSection world pc).Plays ctx.clientId ctx.availableTasks
      (ctx.errand pc) (pc.stage ctx.shardId = .lapsing) world := by
  have still := @World.Plays.aside ctx.clientId ctx.availableTasks (ctx.errand pc) False world world
    (.refl _ _)
  cases pc <;> simp only [runSection]
  case receive => exact receive_plays valid fun taskCount asks => ⟨rfl, rfl, asks⟩
  case joinHost gameId =>
    exact joinHost_plays valid (vacant (.inr (.inl ⟨gameId, rfl⟩))) (Or.inl ⟨gameId, rfl⟩) gameId
  case joinRegister gameId hostId nickname channel =>
    exact joinRegister_plays valid gameId hostId nickname relies.2 (Or.inr ⟨_, _, rfl⟩)
  case joinEnter gameId hostId hostNickname hostChannel nickname admitted =>
    refine joinEnter_plays valid gameId hostId hostNickname hostChannel nickname admitted ?_
    rintro rfl
    exact vacant (.inr (.inr (.inr ⟨_, _, rfl⟩)))
  case joinPurge =>
    refine .stop (.aside (.same ?_ ?_ ?_)) _ <;> split <;> rfl
  case existsPurge =>
    refine .goto (.aside (.same ?_ ?_ ?_)) _ <;> split <;> rfl
  case compileRun hostId request stdin =>
    refine ⟨.aside (.refl _ _), fun after paused => ?_⟩
    obtain rfl : after = world := by simpa [compileRun] using paused
    exact .aside (.refl _ _)
  case compileValidate hostId request result =>
    exact compileValidate_plays valid hostId request result ⟨rfl, rfl⟩
  case timeoutClone =>
    unfold timeoutClone
    split
    · exact .returned still.lapse _
    · exact .goto still _
  case timeoutReply clone =>
    have wired : clone.sendChannel = ctx.clientId := relies.wired
    have told : world.Plays ctx.clientId ctx.availableTasks (ctx.errand (.timeoutReply clone)) False
        ((world.send clone.sendChannel (.response (.timeout ctx.model))).announceDrop clone) :=
      (still.aside_after (.send wired (by simp))).aside_after (.announceDrop wired)
    unfold timeoutReply
    dsimp only
    split
    · exact .returned told.lapse _
    · split
      · exact .goto told _
      · split
        · exact .goto told _
        · exact .returned told.lapse _
  case timeoutShutdown game result =>
    have sockets := World.shutdownGame_sockets ctx.oracle world game
    unfold timeoutShutdown
    split
    · rename_i shut
      rw [shut] at sockets
      exact .returned (.stray rfl (World.hostedAt_congr sockets)) _
    · rename_i shut
      rw [shut] at sockets
      exact ⟨.stray rfl (World.hostedAt_congr sockets), by simp [Section.goto]⟩
  case timeoutDelete gameId result =>
    have deleted := @World.deleteRecord_aside world ctx.clientId ctx.oracle gameId
    unfold timeoutDelete
    split
    · rename_i done
      rw [done] at deleted
      exact .returned (.aside deleted) _
    · rename_i done
      rw [done] at deleted
      exact .returned (.aside deleted) _
  case timeoutLeave game result =>
    have left := @World.leaveGame_plays world ctx.clientId ctx.availableTasks
      (ctx.errand (.timeoutLeave game result)) ctx.oracle game valid relies.1
    unfold timeoutLeave
    split
    · rename_i done
      rw [done] at left
      exact .returned left.lapse _
    · rename_i done
      rw [done] at left
      exact .returned left.lapse _
  all_goals first
    | unfold joinSet
    | unfold joinForeign
    | unfold joinRefuse
    | unfold compilePrepare
    | unfold compileFail
    | unfold compileReply
    | unfold createReply
    | unfold existsCheck
    | unfold existsReply
  all_goals
    repeat' split
    all_goals first
      | exact .stop still _
      | exact .refuse still (valid.wired (by assumption)) _
      | exact .reply still (valid.wired (by assumption)) ..
      | exact .goto still _
      | (refine .goto (.aside (.same ?_ ?_ ?_)) _ <;> rfl)

end Sections

end Ctx

section Connection

variable {shardId : ShardId} {id : Uuid} {tasks : List GameTask} {errand : Game.Errand}
  {oracle : Oracle} {world after : World} {phase next : Phase} {reader : Reader}

theorem bareFrame_aside (valid : world.Valid) (frame : Frame) :
    world.Aside id (bareFrame world id frame).1 := by
  rcases bareFrame_cases world id frame with same | ⟨client, message, found, bare, same⟩
  · rw [same]
    exact .refl _ _
  · rw [same]
    refine .send (valid.wired found) fun event same => ?_
    subst same
    exact bare

theorem Leaving.plays (valid : world.Valid) (left : Leaving id oracle world after) :
    world.Plays id tasks errand False after := by
  have playing : ∀ {client}, world.sockets id = some client →
      ∀ game, client.game = some game → game.Valid id :=
    fun found game held => ((valid _ _ found).playing game held).2
  cases left with
  | untouched => exact .aside (.refl _ _)
  | @expelled client found =>
    -- the notice of the disconnection goes out before the entry's game is dropped
    have announced : world.Aside id (world.announceDrop client) := .announceDrop (valid.wired found)
    refine World.Plays.aside_before announced (World.dropGame?_plays ?_ (playing found) _ ?_ ?_ ?_ ?_)
    · intro other entry present
      rw [World.announceDrop_sockets] at present
      by_cases same : other = id
      · simp [same] at present
      · exact valid other entry (by simpa [same] using present)
    · rw [announced.hosted, ← World.hostedAt_remove]
      exact World.hostedAt_congr (World.announceDrop_sockets ..)
    · simp [World.gameAt, found]
    · simp only [World.announceDrop]
      split
      · rfl
      · exact World.send_remove_wire
    · simp
  | @closed client found =>
    have entry := valid _ _ found
    refine World.dropGame?_plays ?_ (playing found) world ?_ ?_ rfl rfl
    · exact valid.put ⟨entry.named, entry.wired, by simp⟩
    · simp
    · simp [World.gameAt, found]

theorem acceptStep_plays (valid : world.Valid)
    (stepped : acceptStep shardId id oracle world phase reader = some (after, next)) :
    world.Plays id tasks errand False after := by
  have wired : ∀ {client}, world.sockets id = some client → client.sendChannel = id :=
    valid.wired
  cases acceptStep_accepts stepped with
  | greets found => exact .aside (.send (wired found) (by simp))
  | registers found => exact .aside (.same rfl rfl rfl)
  | expels found => exact (Leaving.expelled found).plays valid
  | closes found => exact (Leaving.closed found).plays valid
  | stays => exact .aside (.refl _ _)
  | unregisters found => exact .aside (.same rfl rfl rfl)
  | drops left done => exact (left.plays valid).aside_after (.announceDrop rfl)

end Connection

namespace Cluster

variable {fault : Prop} {known : Set Party} {cluster before after : Cluster} {party : Party}
  {action : Action}

theorem hostedAt_setNode {shardId : ShardId} {redis : Redis} {node : Node} (world : World)
    (same : node.sockets = world.sockets) :
    ((cluster.setNode shardId redis node).world shardId).hostedAt = world.hostedAt :=
  World.hostedAt_congr (by simp [setNode, Cluster.world, Node.world, same])

/-- No connection that is taking a seat holds a game. -/
theorem Sound.gameAt_seating (sound : cluster.Sound fault known)
    (seating : Seating (cluster.lobby.stage party)) :
    (cluster.world party.shardId).gameAt party.id = none := by
  simpa [seat_gameAt] using sound.coherent.vacant party seating

theorem Sound.section_plays (sound : before.Sound fault known) {oracle : Oracle}
    {model : DefaultModel} {pc : Pc}
    (busy : (before.node party.shardId).reader party.id = .busy oracle model pc) :
    ((before.ctx party oracle model).runSection (before.world party.shardId) pc).Plays party.id
      (before.node party.shardId).availableTasks ((before.ctx party oracle model).errand pc)
      (before.lobby.stage party = .lapsing) (before.world party.shardId) := by
  have ready := sound.valid.ready sound.coherent busy
  have at_ : before.lobby.stage party = pc.stage party.shardId := ready.stage
  rw [at_]
  exact Ctx.runSection_plays ready.world ready.relies fun seating =>
    sound.gameAt_seating (by rwa [at_])

/-- The step may run a section that enters a game. -/
def Seats (cluster : Cluster) (action : Action) : Prop :=
  (cluster.lobby.stage action.party).Enters ∧ ∀ oracle, action.kind ≠ .accept oracle

/-- The acting connection's submission to the host's game has come back from its public
run, and is about to be graded. -/
def Submits (cluster : Cluster) (action : Action) (hostId : Uuid) (sandbox : Sandbox)
    (taskIndex : Nat) (code : String) (result : SandboxResponse) : Prop :=
  ∃ oracle model, oracle.sandbox = sandbox ∧
    (cluster.node action.party.shardId).reader action.party.id =
      .busy oracle model (.compileValidate hostId ⟨code, taskIndex⟩ result)

/-- The acting connection's request is to start with this many tasks, so chosen. -/
def AsksStart (cluster : Cluster) (action : Action)
    (choose : List GameTask → Nat → List GameTask) (taskCount : Nat) : Prop :=
  ∃ oracle model, oracle.choose = choose ∧
    (cluster.node action.party.shardId).reader action.party.id = .busy oracle model .receive ∧
    model.AsksStart taskCount

def errand (cluster : Cluster) (action : Action) : Game.Errand :=
  ⟨cluster.Seats action, cluster.AsksStart action, cluster.Submits action⟩

/-- What a handler's section is about, its step is about. -/
theorem Sound.errand_busy (sound : before.Sound fault known) {oracle : Oracle} {model : DefaultModel}
    {pc : Pc} (busy : (before.node action.party.shardId).reader action.party.id =
      .busy oracle model pc) (handles : ∀ oracle, action.kind ≠ .accept oracle) :
    ((before.ctx action.party oracle model).errand pc).Within (before.errand action) where
  enters enters := by
    have at_ : before.lobby.stage action.party = pc.stage action.party.shardId :=
      (sound.valid.ready sound.coherent busy).stage
    exact ⟨at_.symm ▸ enters, handles⟩
  starts choose taskCount := by
    rintro ⟨rfl, same, asks⟩
    exact ⟨oracle, model, same, busy, asks⟩
  submits hostId sandbox taskIndex code result := by
    rintro ⟨rfl, same⟩
    exact ⟨oracle, model, same, busy⟩

/-- What a step does to the host games of the acting connection's process. -/
theorem Sound.step_plays (sound : before.Sound fault known)
    (stepped : before.step action = some after) (open_ : action.kind ≠ .sever) :
    (before.world action.party.shardId).Plays action.party.id
      (before.node action.party.shardId).availableTasks
      (before.errand action) (action.lapses ∨ before.lobby.stage action.party = .lapsing)
      (after.world action.party.shardId) := by
  obtain ⟨party, kind⟩ := action
  have valid := sound.valid.entries party.shardId
  cases step_does stepped with
  | connects unborn =>
    have missing := ((sound.valid.orderly party).unborn unborn).2
    have entered : ((before.world party.shardId).put party.id (.new party.id party.id)).sockets =
        Function.update (before.node party.shardId).sockets party.id
          (some (.new party.id party.id)) := rfl
    refine .aside (.same ?_ ?_ ?_)
    · refine (hostedAt_setNode _ entered.symm).trans ?_
      simp [World.hostedAt, World.gameAt, missing, SocketClient.new]
    · simp [setNode, Node.setPhase, Node.setReader, Node.setWorld, Node.world, world]
    · simp [setNode, Node.setPhase, Node.setReader, Node.setWorld, Node.world, world]
  | @accepts oracle made next accepted =>
    have same : (before.setNode party.shardId made.redis
        (((before.node party.shardId).setWorld made).setPhase party.id next)).world party.shardId =
          made := by
      simp [setNode, Node.setPhase, Node.setWorld, Node.world, world]
    rw [same]
    exact (acceptStep_plays valid accepted).lapse
  | receives idle parses =>
    rw [update_world]
    exact .aside (.refl _ _)
  | answers idle bare =>
    rw [update_world]
    exact .aside (bareFrame_aside valid _)
  | advances busy =>
    rw [update_world]
    have within := @Sound.errand_busy _ _ _ ⟨party, .advance⟩ sound _ _ _ busy (by simp)
    exact (sound.section_plays busy).final.mono within .inr
  | @lapses _ _ _ await _ busy paused =>
    rw [update_world]
    have within := @Sound.errand_busy _ _ _ ⟨party, .timeout await⟩ sound _ _ _ busy (by simp)
    exact ((sound.section_plays busy).paused _ (List.mem_of_getElem? paused)).mono within
      fun _ => .inl trivial
  | hangs idle =>
    rw [update_world]
    exact .aside (.refl _ _)
  | severs => exact absurd rfl open_

end Cluster

end Grass
