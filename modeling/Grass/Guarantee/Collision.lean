import Grass.Guarantee.Session
import Grass.Model.Guards
import Grass.Refinement.Calm

/-! Runs under guards, and one in which a client waits for itself: its game's host is on
the same lock. -/

namespace Grass

open Transition

namespace Cluster

variable {Lock : Type} {lock : Party → Lock} {clients : Set Party} {cluster before after : Cluster}
  {party : Party} {action : Action}

/-- A run of the processes in which only some clients act, and take the guards of what
they do. -/
def lockTurns (lock : Party → Lock) (clients : Set Party) :
    Transition.Step (Locking.Table Cluster Agent Guard) (Locking.Turn Action) :=
  (discipline lock).turns.when fun _ turn _ => turn.action.party ∈ clients

/-- Nothing has happened yet. -/
def Unlocked (table : Locking.Table Cluster Agent Guard) : Prop :=
  ∃ cluster : Cluster, cluster.Fresh ∧ table = Locking.Discipline.clear cluster

theorem carried_out (member : action.party ∈ clients) (stepped : before.step action = some after)
    (short : ∀ phase ∈ before.script action, phase.length ≤ 1)
    (reached : Reach Unlocked (lockTurns lock clients) (Locking.Discipline.clear before)) :
    Reach Unlocked (lockTurns lock clients) (Locking.Discipline.clear after) := by
  have taken : (discipline lock).step before action = some after := stepped
  refine Locking.Discipline.reach_perform ?_ taken short reached
  rintro _ turn _ rfl
  exact member

section Collision

variable {shardId : ShardId} {id other : Uuid}

/-- Two identified clients of a process with open channels, and a game's record. -/
structure Pair (id other : Uuid) (world : World) (client guest : SocketClient)
    (record : RedisValue) : Prop where
  client : world.sockets id = some client
  guest : world.sockets other = some guest
  record : world.redis (gameKey "17") = some record
  opened : ∀ channel, world.closed channel = false

/-- With nobody holding a guard, a run has come to these entries, and to these readers of
the two clients. -/
def Stands (lock : Party → Lock) (clients : Set Party) (shardId : ShardId) (id other : Uuid)
    (client guest : SocketClient) (record : RedisValue) (reader next : Reader) : Prop :=
  ∃ cluster : Cluster, Reach Unlocked (lockTurns lock clients) (Locking.Discipline.clear cluster) ∧
    Pair id other (cluster.world shardId) client guest record ∧
    (cluster.node shardId).reader id = reader ∧ (cluster.node shardId).reader other = next

variable {client guest : SocketClient} {record : RedisValue} {reader next : Reader}

theorem Stands.swap (stands : Stands lock clients shardId id other client guest record reader next) :
    Stands lock clients shardId other id guest client record next reader := by
  obtain ⟨cluster, reached, pair, first, second⟩ := stands
  exact ⟨cluster, reached, ⟨pair.guest, pair.client, pair.record, pair.opened⟩, second, first⟩

/-- The first client sends a request. -/
theorem Stands.frame (apart : id ≠ other) (member : ⟨shardId, id⟩ ∈ clients)
    (stands : Stands lock clients shardId id other client guest record .idle next) (frame : Frame)
    {model : DefaultModel} (framed : frame.model? = some model) (oracle : Oracle) :
    Stands lock clients shardId id other client guest record (.busy oracle model .receive) next := by
  obtain ⟨cluster, reached, pair, first, second⟩ := stands
  let action : Action := ⟨⟨shardId, id⟩, .frame frame oracle⟩
  have stepped : cluster.step action = some (cluster.update ⟨shardId, id⟩ (cluster.world shardId)
      (.busy oracle model .receive)) := by
    simp [Cluster.step, action, first, framed]
  refine ⟨_, carried_out member stepped ?_ reached, ?_, ?_, ?_⟩
  · intro phase listed
    have listed : phase ∈ cluster.script action := listed
    simp [script, action, first, framed] at listed
  · rw [update_world cluster ⟨shardId, id⟩]
    exact pair
  · exact update_reader cluster ⟨shardId, id⟩ _ _
  · rw [update_reader_of_ne cluster ⟨shardId, id⟩ _ _ (Ne.symm apart), second]

/-- The first client's handler runs a section. -/
theorem Stands.advance (apart : id ≠ other) (member : ⟨shardId, id⟩ ∈ clients) {oracle : Oracle}
    {model : DefaultModel} {pc : Pc}
    (stands : Stands lock clients shardId id other client guest record (.busy oracle model pc) next)
    {newClient newGuest : SocketClient} {newRecord : RedisValue} (control : Next)
    (part : ∀ availableTasks world, Pair id other world client guest record →
      let ctx : Ctx := ⟨shardId, id, oracle, availableTasks, model⟩
      (∀ phase ∈ ctx.guards world pc, phase.length ≤ 1) ∧
        Pair id other (ctx.runSection world pc).final newClient newGuest newRecord ∧
        (ctx.runSection world pc).next = control) :
    Stands lock clients shardId id other newClient newGuest newRecord
      (nextReader oracle model control) next := by
  obtain ⟨cluster, reached, pair, first, second⟩ := stands
  obtain ⟨short, after, goes⟩ := part (cluster.node shardId).availableTasks _ pair
  let action : Action := ⟨⟨shardId, id⟩, .advance⟩
  let ctx : Ctx := ⟨shardId, id, oracle, (cluster.node shardId).availableTasks, model⟩
  have stepped : cluster.step action = some (cluster.update ⟨shardId, id⟩
      (ctx.runSection (cluster.world shardId) pc).final (nextReader oracle model control)) := by
    simp [Cluster.step, action, currentSection, first, ctx, ← goes]
  refine ⟨_, carried_out member stepped ?_ reached, ?_, ?_, ?_⟩
  · intro phase listed
    have listed : phase ∈ cluster.script action := listed
    simp only [script, action, first] at listed
    exact short phase listed
  · rw [update_world cluster ⟨shardId, id⟩]
    exact after
  · exact update_reader cluster ⟨shardId, id⟩ _ _
  · rw [update_reader_of_ne cluster ⟨shardId, id⟩ _ _ (Ne.symm apart), second]

section Sections

variable {world : World} {ctx : Ctx}

theorem Pair.send (pair : Pair id other world client guest record) (channel : SocketSender)
    (message : Message) : Pair id other (world.send channel message) client guest record :=
  ⟨by simp [pair.client], by simp [pair.guest], by simp [pair.record], by simp [pair.opened]⟩

theorem Pair.deliver (pair : Pair id other world client guest record) (sent : List Delivery) :
    Pair id other (world.deliver sent) client guest record :=
  ⟨pair.client, pair.guest, pair.record, pair.opened⟩

theorem Pair.put (pair : Pair id other world client guest record) (apart : id ≠ other)
    (changed : SocketClient) : Pair id other (world.put id changed) changed guest record :=
  ⟨by simp, by simp [apart.symm, pair.guest], pair.record, pair.opened⟩

theorem Pair.putGuest (pair : Pair id other world client guest record) (apart : id ≠ other)
    (changed : SocketClient) : Pair id other (world.put other changed) client changed record :=
  ⟨by simp [apart, pair.client], by simp, pair.record, pair.opened⟩

theorem Pair.set (pair : Pair id other world client guest record) (value : RedisValue) :
    Pair id other (world.set (gameKey "17") value) client guest value :=
  ⟨pair.client, pair.guest, by simp, pair.opened⟩

/-- Identify, by a client without a nickname. -/
theorem Pair.identify (pair : Pair id other world client guest record) (apart : id ≠ other)
    (own : ctx.clientId = id) (unnamed : client.nickname = none)
    (asked : ctx.model.request? = some ⟨some (.object [("nickname", .string "n")]), .identify⟩) :
    Pair id other (ctx.runSection world .receive).final { client with nickname := some "n" } guest
        record ∧ (ctx.runSection world .receive).next = .handled (.ok ()) := by
  subst own
  have decoded : IdentifyRequest.fromValue (.object [("nickname", .string "n")]) = some ⟨"n"⟩ := rfl
  simp only [Ctx.runSection, Ctx.receive_request asked, Ctx.handleRequest, Ctx.handleIdentify,
    pair.client, unnamed, decoded]
  refine ⟨((pair.put apart _).send ..), ?_⟩
  simp [Section.reply, pair.opened]

theorem Pair.joinEmpty (pair : Pair id other world client guest (.text "")) (own : ctx.clientId = id)
    (named : client.nickname = some "n") (vacant : client.game = none)
    (healthy : ∀ site, ctx.oracle.fails site = false)
    (asked : ctx.model.request? = some ⟨some (.object [("game_id", .string "17")]), .join⟩) :
    Pair id other (ctx.runSection world .receive).final client guest (.text "") ∧
      (ctx.runSection world .receive).next = .goto (.joinSet "17") := by
  subst own
  have decoded : JoinRequest.fromValue (.object [("game_id", .string "17")]) = some ⟨"17"⟩ := rfl
  simp [pair, Ctx.runSection, Ctx.receive_request asked, Ctx.handleRequest, Ctx.handleJoin, decoded,
    pair.client, vacant, named, healthy, Ctx.joinRead, pair.record, Section.goto]

/-- A Join of the game of a host of this process. -/
theorem Pair.joinHosted {owner : Uuid}
    (pair : Pair id other world client guest (.game ⟨ctx.shardId, owner⟩)) (own : ctx.clientId = id)
    (named : client.nickname = some "n") (wired : client.sendChannel = id) (vacant : client.game = none)
    (healthy : ∀ site, ctx.oracle.fails site = false)
    (asked : ctx.model.request? = some ⟨some (.object [("game_id", .string "17")]), .join⟩) :
    Pair id other (ctx.runSection world .receive).final client guest (.game ⟨ctx.shardId, owner⟩) ∧
      (ctx.runSection world .receive).next =
        .goto (.joinRegister "17" owner "n" id) := by
  subst own
  have decoded : JoinRequest.fromValue (.object [("game_id", .string "17")]) = some ⟨"17"⟩ := rfl
  simp [pair, Ctx.runSection, Ctx.receive_request asked, Ctx.handleRequest, Ctx.handleJoin, decoded,
    pair.client, vacant, named, wired, healthy, Ctx.joinRead, pair.record, Section.goto]

theorem Pair.joinSet (pair : Pair id other world client guest record)
    (healthy : ∀ site, ctx.oracle.fails site = false) :
    Pair id other (ctx.runSection world (.joinSet "17")).final client guest
        (.game ⟨ctx.shardId, ctx.clientId⟩) ∧
      (ctx.runSection world (.joinSet "17")).next = .goto (.joinHost "17") := by
  simp only [Ctx.runSection, Ctx.joinSet, healthy, Bool.false_eq_true, ↓reduceIte, Section.goto,
    and_true]
  exact pair.set _

theorem Pair.joinHost (pair : Pair id other world client guest record) (apart : id ≠ other)
    (own : ctx.clientId = id) (named : client.nickname = some "n") (vacant : client.game = none) :
    Pair id other (ctx.runSection world (.joinHost "17")).final { client with game := some (.new true
        "17" (ctx.localClient client "n") (ctx.localClient client "n")) } guest record ∧
      (ctx.runSection world (.joinHost "17")).next = .handled (.ok ()) := by
  subst own
  let self := ctx.localClient client "n"
  have replies : ctx.runSection world (.joinHost "17") = .reply
      (world.put ctx.clientId { client with game := some (.new true "17" self self) })
      client.sendChannel (.join "17" true true) (.ok ()) := by
    simp [Ctx.runSection, Ctx.joinHost, pair.client, named, World.setGame_vacant ctx.oracle vacant,
      self]
  rw [replies]
  refine ⟨(pair.put apart _).send .., ?_⟩
  simp [Section.reply, pair.opened]

/-- The host's roster takes the client. -/
theorem Pair.joinRegister {game : Game} (pair : Pair id other world client guest record)
    (apart : id ≠ other) (own : ctx.clientId = id) (named : guest.nickname = some "n")
    (playing : guest.game = some game) (valid : game.Valid other) (host : game.isHost = true)
    (isPublic : game.isPublic = true) (empty : game.connectedClients = some ∅) :
    Pair id other (ctx.runSection world (.joinRegister "17" other "n" id)).final client
        { guest with game := some { game with
            connectedClients := some (AList.insert id (.new id "n" ctx.shardId true (some id)) ∅) } }
        record ∧
      (ctx.runSection world (.joinRegister "17" other "n" id)).next =
        .goto (.joinEnter "17" other "n" guest.sendChannel "n" true) := by
  subst own
  let newcomer := PartialClient.new ctx.clientId "n" ctx.shardId true (some ctx.clientId)
  rcases valid.register_cases ctx.oracle.order world.closed (.new ctx.clientId "n" ctx.shardId :
    newcomer.Own) with ⟨refused, -⟩ | ⟨-, -, roster, clients, -, registered, done⟩
  · simp [host, isPublic] at refused
  · obtain rfl : ∅ = roster := by simpa [empty] using clients
    simp only [Ctx.runSection, Ctx.joinRegister, pair.guest, named, playing]
    rw [registered]
    refine ⟨(pair.putGuest apart _).deliver _, ?_⟩
    rw [done]

theorem Pair.joinEnter (pair : Pair id other world client guest record) (apart : id ≠ other)
    (own : ctx.clientId = id) (vacant : client.game = none) (channel : SocketSender) :
    Pair id other (ctx.runSection world (.joinEnter "17" other "n" channel "n" true)).final
        { client with game := some (.new false "17" (ctx.localClient client "n")
          (.new other "n" ctx.shardId true (some channel))) } guest record ∧
      (ctx.runSection world (.joinEnter "17" other "n" channel "n" true)).next =
        .handled (.ok ()) := by
  subst own
  have replies : ctx.runSection world (.joinEnter "17" other "n" channel "n" true) = .reply
      (world.put ctx.clientId { client with game := some (.new false "17"
        (ctx.localClient client "n") (.new other "n" ctx.shardId true (some channel))) })
      client.sendChannel (.join "17" false true) (.ok ()) := by
    simp [Ctx.runSection, Ctx.joinEnter, pair.client, World.setGame_vacant ctx.oracle vacant]
  rw [replies]
  refine ⟨(pair.put apart _).send .., ?_⟩
  simp [Section.reply, pair.opened]

end Sections

theorem step_connect (fresh : (cluster.node party.shardId).phase party.id = .unborn) :
    ∃ after, cluster.step ⟨party, .connect⟩ = some after ∧
      after.world party.shardId =
        (cluster.world party.shardId).put party.id (.new party.id party.id) ∧
      (after.node party.shardId).reader =
        Function.update (cluster.node party.shardId).reader party.id .idle ∧
      (after.node party.shardId).phase =
        Function.update (cluster.node party.shardId).phase party.id .inserted := by
  refine ⟨_, by simp only [Cluster.step, fresh, ↓reduceIte]; rfl, ?_, ?_, ?_⟩
  · simp [Cluster.world, setNode, Node.setPhase, Node.setReader, Node.setWorld, Node.world, World.put]
  · simp [setNode, Node.setPhase, Node.setReader, Node.setWorld]
  · simp [setNode, Node.setPhase, Node.setReader, Node.setWorld]

/-- Both clients connect, and the game is created. -/
theorem connected (apart : id ≠ other) (member : ⟨shardId, id⟩ ∈ clients)
    (another : ⟨shardId, other⟩ ∈ clients) :
    Stands lock clients shardId id other (.new id id) (.new other other) (.text "") .idle .idle := by
  let started : Cluster := launch (fun _ => some (.text "")) []
  obtain ⟨middle, connects, world, readers, phases⟩ :=
    @step_connect started ⟨shardId, id⟩ (by simp [started, launch, Node.fresh])
  obtain ⟨cluster, again, world', readers', -⟩ :=
    @step_connect middle ⟨shardId, other⟩ (by simp [phases, apart.symm, started, launch, Node.fresh])
  have single : ∀ (cluster : Cluster) (party : Party),
      ∀ phase ∈ cluster.script ⟨party, .connect⟩, phase.length ≤ 1 := by
    intro cluster party phase listed
    simp only [script] at listed
    split at listed
    · simp [List.mem_singleton.mp listed]
    · cases listed
  have unlocked : Reach Unlocked (lockTurns lock clients) (Locking.Discipline.clear started) :=
    .start ⟨started, launch_fresh _ [], rfl⟩
  refine ⟨cluster, carried_out another again (single middle _)
    (carried_out member connects (single started _) unlocked), ⟨?_, ?_, ?_, ?_⟩, ?_, ?_⟩
  · simp [world', world, apart]
  · simp [world']
  · simp only [world', world, World.put_redis]
    rfl
  · intro channel
    simp only [world', world, World.put_closed]
    rfl
  · simp [readers', readers, apart]
  · simp [readers']

/-- The first client introduces itself. -/
theorem Stands.identified (apart : id ≠ other) (member : ⟨shardId, id⟩ ∈ clients)
    (unnamed : client.nickname = none)
    (stands : Stands lock clients shardId id other client guest record .idle next) :
    Stands lock clients shardId id other { client with nickname := some "n" } guest record .idle
      next := by
  have asked := stands.frame apart member
    (.text (some (requestText "Identify" [("nickname", .string "n")]))) rfl (.calm "17")
  refine asked.advance apart member (.handled (.ok ())) fun availableTasks world pair =>
    ⟨?_, pair.identify apart rfl unnamed rfl⟩
  show ∀ phase ∈ [[(⟨⟨shardId, id⟩, .exclusive⟩ : Guard)]], phase.length ≤ 1
  simp

def joinText : Frame := .text (some (requestText "Join" [("game_id", .string "17")]))

def joinModel : DefaultModel :=
  ⟨.request, some (.object [("op", .string "Join"), ("d", .object [("game_id", .string "17")])])⟩

theorem joinText_model : joinText.model? = some joinModel := rfl

def leaveText : Frame := .text (some (requestText "Leave" []))

def leaveModel : DefaultModel :=
  ⟨.request, some (.object [("op", .string "Leave"), ("d", .object [])])⟩

theorem leaveText_model : leaveText.model? = some leaveModel := rfl

/-- The first client's Join finds the game not initialised, and makes it the host. -/
theorem Stands.hosted (apart : id ≠ other) (member : ⟨shardId, id⟩ ∈ clients)
    (named : client.nickname = some "n") (vacant : client.game = none)
    (stands : Stands lock clients shardId id other client guest (.text "") .idle next) :
    let self := PartialClient.new client.id "n" shardId true (some client.sendChannel)
    Stands lock clients shardId id other { client with game := some (.new true "17" self self) } guest
      (.game ⟨shardId, id⟩) .idle next := by
  have read : ∀ phase ∈ [[(⟨⟨shardId, id⟩, .shared⟩ : Guard)]], phase.length ≤ 1 := by simp
  have asked := stands.frame apart member joinText joinText_model (.calm "17")
  have claimed : Stands lock clients shardId id other client guest (.text "")
      (.busy (.calm "17") joinModel (.joinSet "17")) next :=
    asked.advance apart member (.goto (.joinSet "17")) fun availableTasks world pair =>
      ⟨read, pair.joinEmpty rfl named vacant (fun _ => rfl) rfl⟩
  have recorded : Stands lock clients shardId id other client guest (.game ⟨shardId, id⟩)
      (.busy (.calm "17") joinModel (.joinHost "17")) next :=
    claimed.advance apart member (.goto (.joinHost "17")) fun availableTasks world pair =>
      ⟨fun phase listed => (by cases listed), pair.joinSet fun _ => rfl⟩
  refine recorded.advance apart member (.handled (.ok ())) fun availableTasks world pair =>
    ⟨fun phase listed => ?_, pair.joinHost apart rfl named vacant⟩
  have listed : phase ∈ [(⟨⟨shardId, id⟩, .exclusive⟩ : Guard) :: world.dropGuards shardId id] :=
    listed
  simp [List.mem_singleton.mp listed, World.dropGuards, pair.client, vacant]

/-- The first client's Join enters the game of the second. -/
theorem Stands.entered {game : Game} (apart : id ≠ other) (member : ⟨shardId, id⟩ ∈ clients)
    (named : client.nickname = some "n") (wired : client.sendChannel = id)
    (vacant : client.game = none) (known : guest.nickname = some "n")
    (playing : guest.game = some game) (valid : game.Valid other) (host : game.isHost = true)
    (isPublic : game.isPublic = true) (empty : game.connectedClients = some ∅)
    (stands : Stands lock clients shardId id other client guest (.game ⟨shardId, other⟩) .idle next) :
    ∃ newClient newGuest guestGame, newClient.game = some guestGame ∧ guestGame.isHost = false ∧
      guestGame.partialHost.id = other ∧ guestGame.partialHost.isLocal = true ∧
      Stands lock clients shardId id other newClient newGuest (.game ⟨shardId, other⟩) .idle next := by
  have asked := stands.frame apart member joinText joinText_model (.calm "17")
  have knocked : Stands lock clients shardId id other client guest (.game ⟨shardId, other⟩)
      (.busy (.calm "17") joinModel (.joinRegister "17" other "n" id)) next := by
    refine asked.advance apart member (.goto (.joinRegister "17" other "n" id))
      fun availableTasks world pair => ⟨?_, ?_⟩
    · show ∀ phase ∈ [[(⟨⟨shardId, id⟩, .shared⟩ : Guard)]], phase.length ≤ 1
      simp
    · exact pair.joinHosted rfl named wired vacant (fun _ => rfl) rfl
  let listing : Game := { game with
    connectedClients := some (AList.insert id (.new id "n" shardId true (some id)) ∅) }
  have admitted : Stands lock clients shardId id other client { guest with game := some listing }
      (.game ⟨shardId, other⟩)
      (.busy (.calm "17") joinModel (.joinEnter "17" other "n" guest.sendChannel "n" true)) next := by
    refine knocked.advance apart member
      (.goto (.joinEnter "17" other "n" guest.sendChannel "n" true))
      fun availableTasks world pair => ⟨?_, ?_⟩
    · show ∀ phase ∈ [[(⟨⟨shardId, other⟩, .exclusive⟩ : Guard)]], phase.length ≤ 1
      simp
    · exact pair.joinRegister apart rfl known playing valid host isPublic empty
  let visiting : Game := .new false "17" (.new client.id "n" shardId true (some client.sendChannel))
    (.new other "n" shardId true (some guest.sendChannel))
  have seated : Stands lock clients shardId id other { client with game := some visiting }
      { guest with game := some listing } (.game ⟨shardId, other⟩) .idle next := by
    refine admitted.advance apart member (.handled (.ok ())) fun availableTasks world pair =>
      ⟨fun phase listed => ?_, pair.joinEnter apart rfl vacant guest.sendChannel⟩
    have listed : phase ∈ [(⟨⟨shardId, id⟩, .exclusive⟩ : Guard) :: world.dropGuards shardId id] :=
      listed
    simp [List.mem_singleton.mp listed, World.dropGuards, pair.client, vacant]
  exact ⟨_, _, visiting, rfl, rfl, rfl, rfl, seated⟩

/-- A guest of a host on the same lock leaves: it takes its own entry, and waits for
itself. -/
theorem collision_deadlocks (apart : id ≠ other) (member : ⟨shardId, id⟩ ∈ clients)
    (another : ⟨shardId, other⟩ ∈ clients) (same : lock ⟨shardId, id⟩ = lock ⟨shardId, other⟩) :
    ∃ table, Reach Unlocked (lockTurns lock clients) table ∧ (discipline lock).Deadlocked table := by
  have own : ∀ name : Uuid, Game.Valid name (.new true "17" (.new name "n" shardId true (some name))
      (.new name "n" shardId true (some name))) := fun name =>
    .new name name true "17" "n" "n" shardId fun _ => rfl
  have opened : Stands lock clients shardId other id (.new other other) (.new id id) (.text "") .idle
    .idle := connected apart.symm another member
  have hosted := ((opened.identified apart.symm another rfl).hosted apart.symm another rfl rfl).swap
  obtain ⟨client, guest, game, playing, isGuest, hostId, isLocal, seated⟩ :=
    (hosted.identified apart member rfl).entered apart member rfl rfl rfl rfl rfl (own other) rfl rfl
      rfl
  obtain ⟨cluster, reached, pair, busy, -⟩ :=
    seated.frame apart member leaveText leaveText_model (.calm "17")
  let action : Action := ⟨⟨shardId, id⟩, .advance⟩
  let mine : Guard := ⟨⟨shardId, id⟩, .exclusive⟩
  let host : Guard := ⟨⟨shardId, other⟩, .exclusive⟩
  have script : cluster.script action = [[mine, host]] := by
    have drops : (cluster.world shardId).dropGuards shardId id = [host] := by
      simp [World.dropGuards, pair.client, playing, Game.dropGuards, isGuest, isLocal, hostId, host]
    have leaves : ∀ ctx : Ctx, ctx.model = leaveModel →
        ctx.guards (cluster.world shardId) .receive = ctx.dropping (cluster.world shardId) := by
      rintro ⟨_, _, _, _, _⟩ rfl
      rfl
    simp only [Cluster.script, action, busy]
    rw [leaves _ rfl, Ctx.dropping, drops]
    rfl
  let table : Locking.Table Cluster Agent Guard :=
    ⟨cluster, Function.update (fun _ => []) action.agent [mine], fun _ => 0⟩
  have takes : (discipline lock).turns (Locking.Discipline.clear cluster) (.take action) table := by
    refine ⟨mine, ⟨[mine, host], ?_, ⟨[host], rfl⟩⟩, fun _ _ held => (by cases held), rfl⟩
    show (cluster.script action)[0]? = _
    rw [script]
    rfl
  refine ⟨table, .next reached ⟨takes, member⟩, action.agent, .single ⟨action, host, rfl, ?_, mine, ?_,
    rfl, same.symm, .inl rfl⟩⟩
  · refine ⟨[mine, host], ?_, ?_⟩
    · show (cluster.script action)[0]? = _
      rw [script]
      rfl
    · show table.held action.agent ++ [host] <+: _
      simp [table]
  · simp [table]

end Collision

end Cluster

end Grass
