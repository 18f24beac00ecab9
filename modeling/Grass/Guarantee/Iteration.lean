import Grass.Lib.Shuffle
import Grass.Guarantee.Ending
import Grass.Guarantee.Roster

/-! The operations of a game and the sections of a handler where hash maps are iterated in
another order: what they leave in Redis and in the maps, and what they tell every client. -/

namespace Grass

open Lobby Transition Replica Shuffle

/-- The news a newcomer gets of each of those already there. -/
def Message.Arrival (message : Message) : Prop :=
  ∃ gameId clientId nickname, message = .gameEvent (.connectedClient gameId clientId nickname)

/-- Every client is sent the same, but for the order of neighbouring arrivals. -/
def Alike (sent other : List Delivery) : Prop :=
  ∀ id, Shuffled Message.Arrival (mail id sent) (mail id other)

section Alike

variable {sent other earlier later : List Delivery}

@[simp] theorem Alike.refl (sent : List Delivery) : Alike sent sent := fun _ => .refl _

theorem Alike.of_mail (same : ∀ id, mail id sent = mail id other) : Alike sent other := by
  intro id
  rw [same]
  exact .refl _

theorem Alike.append (heads : Alike earlier later) (tails : Alike sent other) :
    Alike (earlier ++ sent) (later ++ other) := by
  intro id
  rw [mail_append, mail_append]
  exact (heads id).append (tails id)

/-- Arrivals commute in what a client takes the others to be. -/
theorem Alike.believes (alike : Alike sent other) (id : Uuid) :
    believes (mail id sent) = believes (mail id other) := by
  simp only [Grass.believes, replay, List.foldl_filterMap]
  refine (alike id).foldl (fun view first second come there => ?_) ∅
  obtain ⟨_, firstId, firstName, rfl⟩ := come
  obtain ⟨_, secondId, secondName, rfl⟩ := there
  exact Finset.insert_comm (secondId, secondName) (firstId, firstName) view

end Alike

namespace Sending

variable {ε ε' α β : Type}

/-- The same end, and alike on the way to it. -/
structure Alike (first second : Sending ε α) : Prop where
  exit : first.exit = second.exit
  sent : Grass.Alike first.sent second.sent

theorem Alike.refl (sending : Sending ε α) : sending.Alike sending := ⟨rfl, .refl _⟩

theorem Alike.ignore {first second : Sending ε α} (alike : first.Alike second) :
    (first.ignore : Sending ε' Unit).Alike second.ignore where
  exit := by simp only [Sending.ignore, alike.exit]; split <;> rfl
  sent := by simpa using alike.sent

theorem Alike.bind {first second : Sending ε α} (alike : first.Alike second)
    {next : α → Sending ε β} : (first >>= next).Alike (second >>= next) := by
  obtain ⟨exit, sent⟩ := first
  obtain ⟨_, other⟩ := second
  obtain rfl := alike.exit
  cases exit with
  | ok value => exact ⟨rfl, alike.sent.append (.refl _)⟩
  | err | panic => exact ⟨rfl, alike.sent⟩

end Sending

namespace Game

variable {game : Game} {roster : Roster} {closed : SocketSender → Bool}

/-- A host's game has a wired roster without the host. -/
def Seated (game : Game) : Prop :=
  game.isHost = true → ∃ roster, game.Hosts roster ∧ game.partialHost.id ∉ roster

/-- The same game, and alike on the way to it. -/
def Told {ε α : Type} (first second : Game × Sending ε α) : Prop :=
  first.1 = second.1 ∧ first.2.Alike second.2

theorem Told.refl {ε α : Type} (result : Game × Sending ε α) : Told result result :=
  ⟨rfl, .refl _⟩

theorem Seated.sendGlobal_alike (seated : game.Seated) (order other : IterOrder)
    (message : Message) (skipClientIds : Option (List Uuid)) :
    (game.sendGlobal order closed message skipClientIds).Alike
      (game.sendGlobal other closed message skipClientIds) := by
  cases host : game.isHost with
  | false =>
    -- a guest fails the check before anything is sent
    simp only [sendGlobal, checkHost_guest host]
    exact .refl _
  | true =>
    obtain ⟨roster, hosts, apart⟩ := seated host
    constructor
    · rw [(hosts.staffed.sendGlobal order closed message skipClientIds).1,
        (hosts.staffed.sendGlobal other closed message skipClientIds).1]
    · refine .of_mail fun id => ?_
      rw [hosts.broadcast_mail apart, hosts.broadcast_mail apart]

/-- The newcomer is told of those who are there in the order of the iteration. -/
theorem Hosts.announce_alike (hosts : game.Hosts roster) (apart : game.partialHost.id ∉ roster)
    {newcomer : PartialClient} (own : newcomer.Own) (order other : IterOrder) :
    (game.announce order closed roster newcomer).Alike
      (game.announce other closed roster newcomer) where
  exit := by rw [hosts.announce_exit order closed own, hosts.announce_exit other closed own]
  sent := by
    have seated : game.Seated := fun _ => ⟨roster, hosts, apart⟩
    rw [announce_sent own, announce_sent own]
    refine .append (fun id => .of_perm ?_ fun message told => ?_)
      (.append (.refl _) (seated.sendGlobal_alike order other _ _).sent)
    · have listed : (order.list roster).Perm (other.list roster) :=
        (order.perm roster).trans (other.perm roster).symm
      exact (((listed.map _).flatMap_right _).filter _).map _
    · obtain ⟨item, member, sent⟩ := List.mem_flatMap.mp (mem_mail.mp told)
      obtain ⟨entry, -, rfl⟩ := List.mem_map.mp member
      cases own.reaches sent
      exact ⟨_, _, _, rfl⟩

theorem Seated.register_alike (seated : game.Seated) {newcomer : PartialClient}
    (own : newcomer.Own) (order other : IterOrder) :
    Told (game.register order closed newcomer) (game.register other closed newcomer) := by
  unfold register
  split
  · exact .refl _
  · rename_i admits
    obtain ⟨roster, hosts, apart⟩ := seated (by simp_all)
    simp only [hosts.clients, hosts.announce_exit _ _ own]
    exact ⟨rfl, hosts.announce_alike apart own order other⟩

theorem Seated.unregister_alike (seated : game.Seated) (order other : IterOrder)
    (clientId : Uuid) :
    Told (game.unregister order closed clientId) (game.unregister other closed clientId) := by
  unfold unregister
  split
  · rename_i host
    obtain ⟨roster, hosts, apart⟩ := seated host
    simp only [hosts.clients]
    split
    · have later : Seated { game with connectedClients := some (roster.erase clientId) } :=
        fun _ => ⟨_, hosts.withRoster (hosts.roster.erase clientId),
          fun member => apart (AList.mem_erase.mp member).2⟩
      exact ⟨rfl, (later.sendGlobal_alike order other _ _).ignore⟩
    · exact .refl _
  · exact .refl _

theorem Seated.start_alike (seated : game.Seated) (order other : IterOrder)
    (choose : List GameTask → Nat → List GameTask) (availableTasks : List GameTask)
    (taskCount : Nat) :
    Told (game.start order closed choose availableTasks taskCount)
      (game.start other closed choose availableTasks taskCount) := by
  unfold start
  cases host : game.isHost with
  | false =>
    rw [checkHost_guest host]
    exact .refl _
  | true =>
    obtain ⟨roster, hosts, apart⟩ := seated host
    rw [checkHost_host host]
    simp only [hosts.clients]
    split
    · exact .refl _
    · split
      · exact .refl _
      · refine ⟨rfl, Sending.Alike.ignore ?_⟩
        apply Seated.sendGlobal_alike
        intro _
        exact ⟨_, ⟨rfl, rfl, hosts.roster.progress _, hosts.host.isLocal, hosts.host.channel⟩,
          by simpa using apart⟩

/-- A credit changes no roster of a host. -/
theorem Seated.credited (seated : game.Seated) {who : Participant} {clientId : Uuid}
    (known : game.participant clientId = .ok who) {taskIndex : Nat} {after : Game}
    (credited : game.creditTask who taskIndex = some after) : after.Seated := by
  cases host : game.isHost with
  | false =>
    cases who with
    | host =>
      simp only [creditTask, Option.pure_def, Option.bind_eq_bind, Option.bind_eq_some_iff,
        Option.some.injEq] at credited
      obtain ⟨_, -, rfl⟩ := credited
      exact fun hosting => by simp [host] at hosting
    | member =>
      simp only [creditTask, Option.pure_def, Option.bind_eq_bind, Option.bind_eq_some_iff,
        Option.some.injEq] at credited
      obtain ⟨_, -, _, -, _, -, rfl⟩ := credited
      exact fun hosting => by simp [host] at hosting
  | true =>
    obtain ⟨roster, hosts, apart⟩ := seated host
    obtain rfl : Participant.host = who := by simpa [participant, host] using known
    simp only [creditTask, Option.pure_def, Option.bind_eq_bind, Option.bind_eq_some_iff,
      Option.some.injEq] at credited
    obtain ⟨_, -, rfl⟩ := credited
    exact fun _ => ⟨roster, ⟨host, hosts.clients, hosts.roster, hosts.host.isLocal,
      hosts.host.channel⟩, apart⟩

theorem Seated.validateCodeTest_alike (seated : game.Seated) (order other : IterOrder)
    (sandbox : Sandbox) (clientId : Uuid) (taskIndex : Nat) (code : String)
    (result : SandboxResponse) :
    Told (game.validateCodeTest order closed sandbox clientId taskIndex code result)
      (game.validateCodeTest other closed sandbox clientId taskIndex code result) := by
  unfold validateCodeTest
  split
  · exact .refl _
  · rename_i task who reports staged
    have known := (publicStage_passed staged).2
    unfold privateStage
    split
    · exact .refl _
    · exact .refl _
    · split
      · exact .refl _
      · split
        · exact .refl _
        · split
          · exact .refl _
          · split
            · exact .refl _
            · -- only a credited submission is told of
              rename_i credited
              exact ⟨rfl,
                ((seated.credited known credited).sendGlobal_alike order other _ _).ignore.bind⟩

/-- Everybody there is bidden farewell, in the order of the iteration. -/
theorem farewells_alike (valid : roster.Valid) (order other : IterOrder) :
    Sending.Alike
      (sendAll closed ((order.list roster).map fun entry => (entry.2, .gameEvent .shutdown)) :
        Sending ClientError Unit)
      (sendAll closed ((other.list roster).map fun entry => (entry.2, .gameEvent .shutdown))) := by
  obtain ⟨finished, sent⟩ := @Roster.Valid.sendAll ClientError _ valid order closed _
  obtain ⟨finishes, sends⟩ := @Roster.Valid.sendAll ClientError _ valid other closed _
  refine ⟨finished.trans finishes.symm, .of_mail fun id => ?_⟩
  rw [sent, sends]
  exact congrArg (List.map Delivery.message) ((deliveredTo_farewells valid order closed id).trans
    (deliveredTo_farewells valid other closed id).symm)

end Game

/-- The same answers from outside, with another iteration order. -/
def Oracle.reorder (oracle : Oracle) (order : IterOrder) : Oracle := { oracle with order }

section Reorder

variable (oracle : Oracle) (order : IterOrder)

@[simp] theorem Oracle.reorder_fails : (oracle.reorder order).fails = oracle.fails := rfl
@[simp] theorem Oracle.reorder_order : (oracle.reorder order).order = order := rfl
@[simp] theorem Oracle.reorder_gameId : (oracle.reorder order).gameId = oracle.gameId := rfl
@[simp] theorem Oracle.reorder_choose : (oracle.reorder order).choose = oracle.choose := rfl
@[simp] theorem Oracle.reorder_sandbox : (oracle.reorder order).sandbox = oracle.sandbox := rfl

end Reorder

namespace World

/-- The same maps, records and open channels, and alike on the wire. -/
structure Alike (world other : World) : Prop where
  sockets : other.sockets = world.sockets
  redis : other.redis = world.redis
  closed : other.closed = world.closed
  wire : Grass.Alike world.wire other.wire

/-- The games in the map are seated. -/
def Seated (world : World) : Prop := ∀ id game, world.gameAt id = some game → game.Seated

/-- The same result, in worlds that are alike. -/
def Ends {α : Type} (first second : World × α) : Prop :=
  ∃ left right value, first = (left, value) ∧ second = (right, value) ∧ left.Alike right

variable {world other : World}

theorem Seated.entry {id : Uuid} {client : SocketClient} {game : Game} (seated : world.Seated)
    (found : world.sockets id = some client) (playing : client.game = some game) : game.Seated :=
  seated id game (by simp [gameAt, found, playing])

theorem Seated.congr (seated : world.Seated) (same : other.sockets = world.sockets) :
    other.Seated := by
  intro id game held
  exact seated id game (by rwa [gameAt, same] at held)

/-- Without one of the games, or without an entry. -/
theorem Seated.without (seated : world.Seated) (id : Uuid)
    (vacant : other.gameAt id = none) (kept : ∀ party, party ≠ id →
      other.sockets party = world.sockets party) : other.Seated := by
  intro party game held
  by_cases same : party = id
  · simp [same, vacant] at held
  · exact seated party game (by rwa [gameAt, kept party same] at held)

theorem Seated.take {id : Uuid} (seated : world.Seated) (client : SocketClient) :
    (world.put id { client with game := none }).Seated :=
  seated.without id (by simp [gameAt]) fun party apart => by simp [apart]

theorem Seated.remove (seated : world.Seated) (id : Uuid) : (world.remove id).Seated :=
  seated.without id (by simp [gameAt]) fun party apart => by simp [apart]

section Alike

variable (alike : world.Alike other)

include alike

theorem Alike.ends {α : Type} (value : α) : Ends (world, value) (other, value) :=
  ⟨_, _, _, rfl, rfl, alike⟩

@[simp] theorem Alike.put (id : Uuid) (client : SocketClient) :
    (world.put id client).Alike (other.put id client) :=
  ⟨by simp [alike.sockets], alike.redis, alike.closed, alike.wire⟩

theorem Alike.remove (id : Uuid) : (world.remove id).Alike (other.remove id) :=
  ⟨by simp [alike.sockets], alike.redis, alike.closed, alike.wire⟩

@[simp] theorem Alike.set (key : String) (value : RedisValue) :
    (world.set key value).Alike (other.set key value) :=
  ⟨alike.sockets, by simp [alike.redis], alike.closed, alike.wire⟩

@[simp] theorem Alike.del (key : String) : (world.del key).Alike (other.del key) :=
  ⟨alike.sockets, by simp [alike.redis], alike.closed, alike.wire⟩

theorem Alike.deliver {sent told : List Delivery} (same : Grass.Alike sent told) :
    (world.deliver sent).Alike (other.deliver told) :=
  ⟨alike.sockets, alike.redis, alike.closed, alike.wire.append same⟩

@[simp] theorem Alike.send (channel : SocketSender) (message : Message) :
    (world.send channel message).Alike (other.send channel message) := by
  unfold World.send
  rw [alike.closed]
  split
  · exact alike
  · exact alike.deliver (.refl _)

theorem Alike.announceDrop (client : SocketClient) :
    (world.announceDrop client).Alike (other.announceDrop client) := by
  unfold World.announceDrop
  split
  · exact alike
  · exact alike.send ..

variable (oracle : Oracle) (order : IterOrder)

theorem Alike.shutdownGame {game : Game}
    (staffed : game.isHost = true → ∃ roster, game.Hosts roster) :
    ∃ after left right exit, world.shutdownGame oracle game = (after, left, exit) ∧
      other.shutdownGame (oracle.reorder order) game = (after, right, exit) ∧ left.Alike right := by
  unfold World.shutdownGame
  cases host : game.isHost with
  | false =>
    rw [Game.checkHost_guest host]
    exact ⟨_, _, _, _, rfl, rfl, alike⟩
  | true =>
    obtain ⟨roster, hosts⟩ := staffed host
    have told := @Game.farewells_alike roster world.closed hosts.roster oracle.order order
    have finished := (@Roster.Valid.sendAll ClientError _ hosts.roster oracle.order world.closed
      (.gameEvent .shutdown)).1
    have finishes := told.exit.symm.trans finished
    simp only [Game.checkHost_host host, hosts.clients, alike.closed, Oracle.reorder_fails,
      Oracle.reorder_order, finished, finishes, del_closed, deliver_closed]
    split
    · exact ⟨_, _, _, _, rfl, rfl, alike.deliver told.sent⟩
    · exact ⟨_, _, _, _, rfl, rfl, ((alike.deliver told.sent).del _).deliver (.refl _)⟩

theorem Alike.deleteRecord (gameId : String) :
    Ends (world.deleteRecord oracle gameId) (other.deleteRecord (oracle.reorder order) gameId) := by
  unfold World.deleteRecord
  by_cases fails : oracle.fails .dropPool || oracle.fails .dropDel
  · simp only [Oracle.reorder_fails, fails, ↓reduceIte]
    exact alike.ends _
  · simp only [Oracle.reorder_fails, fails]
    exact (alike.del _).ends _

theorem Alike.unregisterFromHost (seated : world.Seated) (game : Game) :
    Ends (world.unregisterFromHost oracle game)
      (other.unregisterFromHost (oracle.reorder order) game) := by
  unfold World.unregisterFromHost
  rw [alike.sockets]
  split
  · rename_i hostClient found
    split
    · rename_i hostGame playing
      obtain ⟨same, told⟩ := @Game.Seated.unregister_alike _ world.closed
        (seated.entry found playing) oracle.order order game.partialClient.id
      simp only [Oracle.reorder_order, alike.closed, same, told.exit]
      exact ((alike.put _ _).deliver told.sent).ends _
    · exact alike.ends _
  · exact alike.ends _

theorem Alike.leaveGame (seated : world.Seated) (game : Game) :
    Ends (world.leaveGame oracle game) (other.leaveGame (oracle.reorder order) game) := by
  unfold World.leaveGame
  obtain ⟨left, right, exit, first, second, alike⟩ :=
    alike.unregisterFromHost oracle order seated game
  rw [first, second]
  cases exit with
  | panic => exact alike.ends _
  | ok | err =>
    simp only [alike.closed]
    exact (alike.deliver (.refl _)).ends _

theorem Alike.dropGame (seated : world.Seated) {game : Game} (taken : game.Seated) :
    Ends (world.dropGame oracle game) (other.dropGame (oracle.reorder order) game) := by
  unfold World.dropGame
  split
  · obtain ⟨after, left, right, exit, first, second, alike⟩ :=
      alike.shutdownGame oracle order fun host => (taken host).imp fun _ there => there.1
    rw [first, second]
    cases exit with
    | panic => exact alike.ends _
    | ok | err => exact alike.deleteRecord oracle order game.gameId
  · split
    · exact alike.leaveGame oracle order seated game
    · exact alike.ends _

theorem Alike.dropGame? (seated : world.Seated) {game : Option Game}
    (taken : ∀ held, game = some held → held.Seated) :
    Ends (world.dropGame? oracle game) (other.dropGame? (oracle.reorder order) game) := by
  cases game with
  | none => exact alike.ends _
  | some held => exact alike.dropGame oracle order seated (taken held rfl)

theorem Alike.dropClient (seated : world.Seated) {client : SocketClient}
    (taken : ∀ held, client.game = some held → held.Seated) :
    Ends (world.dropClient oracle client) (other.dropClient (oracle.reorder order) client) :=
  (alike.announceDrop client).dropGame? oracle order
    (seated.congr (announceDrop_sockets ..)) taken

theorem Alike.setGame (seated : world.Seated) (id : Uuid) {client : SocketClient}
    (taken : ∀ held, client.game = some held → held.Seated) (game : Game) :
    Ends (world.setGame oracle id client game)
      (other.setGame (oracle.reorder order) id client game) := by
  unfold World.setGame
  obtain ⟨left, right, exit, first, second, alike⟩ := alike.dropGame? oracle order seated taken
  rw [first, second]
  cases exit with
  | panic => exact alike.ends _
  | ok | err => exact (alike.put id _).ends _

end Alike

end World

namespace Section

variable {world other : World}

/-- Alike at the end, with control going the same way. -/
structure Alike (first second : Section) : Prop where
  final : first.final.Alike second.final
  next : first.next = second.next

@[simp] theorem Alike.stop (alike : world.Alike other) (exit : Exit ClientError Unit) :
    (stop world exit).Alike (stop other exit) := ⟨alike, rfl⟩

@[simp] theorem Alike.fail (alike : world.Alike other) (error : ClientError) :
    (fail world error).Alike (fail other error) := ⟨alike, rfl⟩

@[simp] theorem Alike.panic (alike : world.Alike other) : (panic world).Alike (panic other) :=
  ⟨alike, rfl⟩

@[simp] theorem Alike.goto (alike : world.Alike other) (pc : Pc) :
    (goto world pc).Alike (goto other pc) := ⟨alike, rfl⟩

@[simp] theorem Alike.refuse (alike : world.Alike other) (client : SocketClient)
    (error : ClientError) : (refuse world client error).Alike (refuse other client error) :=
  ⟨alike.send .., rfl⟩

@[simp] theorem Alike.reply (alike : world.Alike other) (channel : SocketSender)
    (response : Response) (exit : Exit ClientError Unit) :
    (reply world channel response exit).Alike (reply other channel response exit) :=
  ⟨alike.send .., by simp only [Section.reply, alike.closed]⟩

end Section

namespace Ctx

/-- The same message in hand, with another iteration order. -/
def reorder (ctx : Ctx) (order : IterOrder) : Ctx := { ctx with oracle := ctx.oracle.reorder order }

section Reorder

variable (ctx : Ctx) (order : IterOrder)

@[simp] theorem reorder_shardId : (ctx.reorder order).shardId = ctx.shardId := rfl
@[simp] theorem reorder_clientId : (ctx.reorder order).clientId = ctx.clientId := rfl
@[simp] theorem reorder_oracle : (ctx.reorder order).oracle = ctx.oracle.reorder order := rfl
@[simp] theorem reorder_availableTasks :
    (ctx.reorder order).availableTasks = ctx.availableTasks := rfl
@[simp] theorem reorder_model : (ctx.reorder order).model = ctx.model := rfl
@[simp] theorem reorder_localClient (client : SocketClient) (nickname : String) :
    (ctx.reorder order).localClient client nickname = ctx.localClient client nickname := rfl

end Reorder

variable {ctx : Ctx} {world other : World} (alike : world.Alike other) (order : IterOrder)

include alike

theorem joinRead_alike (gameId nickname : String) (client : SocketClient) :
    (ctx.joinRead world gameId nickname client).Alike
      ((ctx.reorder order).joinRead other gameId nickname client) := by
  unfold joinRead
  simp only [alike.redis, reorder_oracle, reorder_shardId, Oracle.reorder_fails]
  repeat' split
  all_goals simp [*]

theorem handleJoin_alike (d : Option Value) :
    (ctx.handleJoin world d).Alike ((ctx.reorder order).handleJoin other d) := by
  unfold handleJoin
  simp only [alike.sockets, reorder_oracle, reorder_clientId, Oracle.reorder_fails]
  repeat' split
  all_goals simp [*, joinRead_alike]

theorem takeGame_alike (seated : world.Seated) (client : SocketClient) {game : Game}
    (taken : game.Seated) : World.Ends (ctx.takeGame world client game)
      ((ctx.reorder order).takeGame other client game) :=
  (alike.put ..).dropGame ctx.oracle order (seated.take client) taken

theorem handleLeave_alike (seated : world.Seated) :
    (ctx.handleLeave world).Alike ((ctx.reorder order).handleLeave other) := by
  unfold handleLeave
  rw [alike.sockets, reorder_clientId]
  split
  · simp [*]
  · rename_i client found
    split
    · simp [*]
    · rename_i game playing
      obtain ⟨left, right, exit, first, second, alike⟩ :=
        takeGame_alike alike order seated client (seated.entry found playing)
      rw [first, second]
      exact .stop alike exit

theorem startHosted_alike (d : Option Value) (client : SocketClient) {game : Game}
    (seated : game.Seated) : (ctx.startHosted world d client game).Alike
      ((ctx.reorder order).startHosted other d client game) := by
  unfold startHosted
  split
  · simp [*]
  · split
    · simp [*]
    · rename_i request _
      obtain ⟨same, told⟩ := @Game.Seated.start_alike _ world.closed seated ctx.oracle.order order
        ctx.oracle.choose ctx.availableTasks request.taskCount
      simp only [reorder_oracle, reorder_clientId, reorder_availableTasks, Oracle.reorder_order,
        Oracle.reorder_choose, alike.closed, same, told.exit]
      exact ⟨(alike.put ..).deliver told.sent, rfl⟩

theorem handleStart_alike (seated : world.Seated) (d : Option Value) :
    (ctx.handleStart world d).Alike ((ctx.reorder order).handleStart other d) := by
  unfold handleStart
  rw [alike.sockets, reorder_clientId]
  split
  · simp [*]
  · rename_i client found
    split
    · simp [*]
    · rename_i game playing
      have taken := seated.entry found playing
      split
      · exact startHosted_alike alike order d client taken
      · obtain ⟨left, right, exit, first, second, alike⟩ :=
          takeGame_alike alike order seated client taken
        rw [first, second]
        cases exit <;> simp [*]

theorem handleRequest_alike (seated : world.Seated) (request : Request) :
    (ctx.handleRequest world request).Alike ((ctx.reorder order).handleRequest other request) := by
  obtain ⟨d, op⟩ := request
  cases op with
  | join => exact handleJoin_alike alike order d
  | leave => exact handleLeave_alike alike order seated
  | start => exact handleStart_alike alike order seated d
  | _ =>
    -- the others neither iterate over a roster nor drop a game
    simp only [handleRequest, handleTask, handleCompile, handlePing, handleIdentify, handleCreate,
      handleExists, existsRead, alike.sockets, alike.redis, reorder_oracle, reorder_clientId,
      Oracle.reorder_fails, Oracle.reorder_gameId]
    repeat' split
    all_goals simp [*]

theorem receive_alike (seated : world.Seated) :
    (ctx.receive world).Alike ((ctx.reorder order).receive other) := by
  unfold receive
  rw [reorder_model]
  repeat' split
  all_goals simp [*, handleRequest_alike]

theorem setGame_alike (seated : world.Seated) {client : SocketClient}
    (found : world.sockets ctx.clientId = some client) (game : Game) :
    World.Ends (world.setGame ctx.oracle ctx.clientId client game)
      (other.setGame (ctx.oracle.reorder order) ctx.clientId client game) :=
  alike.setGame ctx.oracle order seated ctx.clientId
    (fun _ playing => seated.entry found playing) game

theorem joinHost_alike (seated : world.Seated) (gameId : String) :
    (ctx.joinHost world gameId).Alike ((ctx.reorder order).joinHost other gameId) := by
  unfold joinHost
  rw [alike.sockets, reorder_clientId]
  split
  · simp [*]
  · rename_i client found
    split
    · simp [*]
    · obtain ⟨left, right, exit, first, second, alike⟩ :=
        setGame_alike alike order seated found _
      simp only [reorder_localClient, reorder_oracle]
      rw [first, second]
      cases exit <;> simp [*]

theorem joinEnter_alike (seated : world.Seated) (gameId : String) (hostId : Uuid)
    (hostNickname : String) (hostChannel : SocketSender) (nickname : String) (admitted : Bool) :
    (ctx.joinEnter world gameId hostId hostNickname hostChannel nickname admitted).Alike
      ((ctx.reorder order).joinEnter other gameId hostId hostNickname hostChannel nickname
        admitted) := by
  unfold joinEnter
  rw [alike.sockets, reorder_clientId]
  split
  · simp [*]
  · rename_i client found
    split
    · obtain ⟨left, right, exit, first, second, alike⟩ :=
        setGame_alike alike order seated found _
      simp only [reorder_localClient, reorder_oracle, reorder_shardId]
      rw [first, second]
      cases exit <;> simp [*]
    · simp [*]

theorem joinRegister_alike (seated : world.Seated) (gameId : String) (hostId : Uuid)
    (nickname : String) :
    (ctx.joinRegister world gameId hostId nickname ctx.clientId).Alike
      ((ctx.reorder order).joinRegister other gameId hostId nickname ctx.clientId) := by
  unfold joinRegister
  rw [alike.sockets]
  split
  · simp [*]
  · rename_i hostClient found
    split
    · simp [*]
    · split
      · simp only [reorder_oracle, Oracle.reorder_fails]
        split <;> simp [*]
      · rename_i hostGame playing
        obtain ⟨same, told⟩ := @Game.Seated.register_alike _ world.closed
          (seated.entry found playing) _ (PartialClient.Own.new ctx.clientId nickname ctx.shardId)
          ctx.oracle.order order
        simp only [reorder_oracle, reorder_clientId, reorder_shardId, Oracle.reorder_order,
          alike.closed, same, told.exit]
        exact ⟨(alike.put ..).deliver told.sent, rfl⟩

theorem compileValidate_alike (seated : world.Seated) (hostId : Uuid) (request : CompileRequest)
    (result : SandboxResponse) : (ctx.compileValidate world hostId request result).Alike
      ((ctx.reorder order).compileValidate other hostId request result) := by
  unfold compileValidate
  have same : compileGame other hostId = compileGame world hostId := by
    simp only [compileGame, alike.sockets]
  rw [same]
  split
  · simp [*]
  · rename_i host game held
    have playing : world.gameAt hostId = some game := by
      unfold compileGame at held
      repeat' split at held
      all_goals cases held
      simp [World.gameAt, *]
    obtain ⟨same, told⟩ := @Game.Seated.validateCodeTest_alike _ world.closed
      (seated hostId game playing) ctx.oracle.order order ctx.oracle.sandbox ctx.clientId
      request.taskIndex request.code result
    simp only [reorder_oracle, reorder_clientId, Oracle.reorder_order, Oracle.reorder_sandbox,
      alike.closed, same, told.exit]
    exact ⟨(alike.put ..).deliver told.sent, rfl⟩

theorem timeoutShutdown_alike {game : Game}
    (staffed : game.isHost = true → ∃ roster, game.Hosts roster) (result : Exit ClientError Bool) :
    (ctx.timeoutShutdown world game result).Alike
      ((ctx.reorder order).timeoutShutdown other game result) := by
  unfold timeoutShutdown
  obtain ⟨after, left, right, exit, first, second, alike⟩ :=
    alike.shutdownGame ctx.oracle order staffed
  rw [reorder_oracle, first, second]
  cases exit
  all_goals exact ⟨alike, rfl⟩

theorem timeoutDelete_alike (gameId : String) (result : Exit ClientError Bool) :
    (ctx.timeoutDelete world gameId result).Alike
      ((ctx.reorder order).timeoutDelete other gameId result) := by
  unfold timeoutDelete
  obtain ⟨left, right, exit, first, second, alike⟩ := alike.deleteRecord ctx.oracle order gameId
  rw [reorder_oracle, first, second]
  cases exit
  all_goals exact ⟨alike, rfl⟩

theorem timeoutLeave_alike (seated : world.Seated) (game : Game)
    (result : Exit ClientError Bool) : (ctx.timeoutLeave world game result).Alike
      ((ctx.reorder order).timeoutLeave other game result) := by
  unfold timeoutLeave
  obtain ⟨left, right, exit, first, second, alike⟩ := alike.leaveGame ctx.oracle order seated game
  rw [reorder_oracle, first, second]
  cases exit
  all_goals exact ⟨alike, rfl⟩

theorem timeoutReply_alike (clone : SocketClient) :
    (ctx.timeoutReply world clone).Alike ((ctx.reorder order).timeoutReply other clone) := by
  have told := (alike.send clone.sendChannel (.response (.timeout ctx.model))).announceDrop clone
  unfold timeoutReply
  simp only [alike.closed, reorder_model]
  repeat' split
  all_goals exact ⟨told, rfl⟩

/-- No section shows the iteration order but in what it tells a newcomer. -/
theorem runSection_alike (seated : world.Seated) {pc : Pc} (valid : pc.Valid world ctx.clientId) :
    (ctx.runSection world pc).Alike ((ctx.reorder order).runSection other pc) := by
  cases pc with
  | receive => exact receive_alike alike order seated
  | joinHost gameId => exact joinHost_alike alike order seated gameId
  | joinRegister gameId hostId nickname channel =>
    obtain ⟨-, rfl⟩ := valid
    exact joinRegister_alike alike order seated gameId hostId nickname
  | joinEnter => exact joinEnter_alike alike order seated ..
  | compileValidate => exact compileValidate_alike alike order seated ..
  | compileRun hostId request stdin => exact ⟨alike, rfl⟩
  | timeoutClone =>
    simp only [runSection, timeoutClone, alike.sockets, reorder_clientId]
    split
    · exact ⟨alike, rfl⟩
    · exact .goto alike _
  | timeoutReply clone => exact timeoutReply_alike alike order clone
  | timeoutShutdown game result =>
    exact timeoutShutdown_alike alike order (fun host => valid.1.hosts host) result
  | timeoutDelete gameId result => exact timeoutDelete_alike alike order gameId result
  | timeoutLeave game result => exact timeoutLeave_alike alike order seated game result
  | _ =>
    simp only [runSection, joinSet, joinPurge, joinForeign, joinRefuse, compilePrepare,
      compileGame, compileFail, compileReply, createReply, existsCheck, existsPurge, existsReply,
      alike.sockets, reorder_oracle, reorder_shardId, reorder_clientId,
      Oracle.reorder_fails]
    repeat' split
    all_goals simp [*]

end Ctx

end Grass
