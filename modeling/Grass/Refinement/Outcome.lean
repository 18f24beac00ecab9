import Grass.Refinement.Calm
import Grass.Refinement.Carries

/-! How a section of a request's handler ends: it goes on, and has answered nothing yet, or
it returns Ok, and has acknowledged the request once. -/

namespace Grass

variable {op : RequestOpCode} {id : Uuid}

/-- Messages that answer a request of the kind: responses, and for a Start its event. -/
def Message.answers (op : RequestOpCode) : Message → Bool
  | .response _ => true
  | .gameEvent (.start _) => op = .start
  | _ => false

/-- The response of a request of the kind, made by a host or not. -/
def Response.acknowledges (host : Bool) : RequestOpCode → Response → Bool
  | .join, .join _ _ _ | .task, .task _ | .compile, .compile _ | .ping, .ping
  | .identify, .identify _ | .create, .create _ | .exists, .exists _ => true
  | .leave, .leave _ => !host
  | .leave, .shutdown _ => host
  | _, _ => false

/-- The one message by which a request of the kind is acknowledged. -/
def Message.acknowledges (host : Bool) (op : RequestOpCode) : Message → Bool
  | .response reply => reply.acknowledges host op
  | .gameEvent (.start _) => op = .start
  | _ => false

theorem Message.event_silent (other : op ≠ .start) (event : GameEvent) :
    (Message.gameEvent event).answers op = false := by
  cases event <;> simp [answers, other]

/-- A host's Leave is acknowledged by a Shutdown response. -/
theorem Message.shutdown_of_leave {message : Message}
    (acknowledges : message.acknowledges true .leave = true) :
    ∃ success, message = .response (.shutdown success) := by
  cases message with
  | response reply =>
    cases reply with
    | shutdown success => exact ⟨success, rfl⟩
    | _ => cases acknowledges
  | gameEvent event => cases event <;> cases acknowledges
  | _ => cases acknowledges

/-- The client's answers among the messages enqueued. -/
def answersTo (op : RequestOpCode) (id : Uuid) (sent : List Delivery) : List Delivery :=
  sent.filter fun delivery => delivery.channel = id && delivery.message.answers op

section AnswersTo

variable {sent more : List Delivery}

@[simp] theorem answersTo_append :
    answersTo op id (sent ++ more) = answersTo op id sent ++ answersTo op id more := by
  simp [answersTo]

theorem answersTo_one {message : Message} (answers : message.answers op = true) :
    answersTo op id [⟨id, message⟩] = [⟨id, message⟩] := by
  simp [answersTo, answers]

theorem answersTo_silent
    (silent : ∀ delivery ∈ sent, delivery.channel = id → delivery.message.answers op = false) :
    answersTo op id sent = [] := by
  apply List.filter_eq_nil_iff.mpr
  intro delivery member
  by_cases own : delivery.channel = id
  · simp [silent delivery member own]
  · simp [own]

end AnswersTo

namespace World

variable {before world : World} {answers more : List Delivery}

/-- What the client has been answered on the way. -/
structure Answers (op : RequestOpCode) (id : Uuid) (answers : List Delivery)
    (before after : World) : Prop where
  closed : after.closed = before.closed
  wire : ∃ sent, after.wire = before.wire ++ sent ∧ answersTo op id sent = answers

theorem Answers.refl (world : World) : world.Answers op id [] world :=
  ⟨rfl, [], by simp, rfl⟩

section Answers

variable (answered : before.Answers op id answers world)

include answered

theorem Answers.same {after : World} (closed : after.closed = world.closed)
    (wire : after.wire = world.wire) : before.Answers op id answers after :=
  ⟨closed.trans answered.closed, by rw [wire]; exact answered.wire⟩

theorem Answers.put {key : Uuid} {client : SocketClient} :
    before.Answers op id answers (world.put key client) := answered.same rfl rfl

theorem Answers.set {key : String} {value : RedisValue} :
    before.Answers op id answers (world.set key value) := answered.same rfl rfl

theorem Answers.del {key : String} : before.Answers op id answers (world.del key) :=
  answered.same rfl rfl

theorem Answers.since {earlier : World} (closed : before.closed = earlier.closed)
    (wire : before.wire = earlier.wire) : earlier.Answers op id answers world :=
  ⟨answered.closed.trans closed, by rw [← wire]; exact answered.wire⟩

theorem Answers.deliver {sent : List Delivery} (next : answersTo op id sent = more) :
    before.Answers op id (answers ++ more) (world.deliver sent) := by
  obtain ⟨earlier, same, listed⟩ := answered.wire
  exact ⟨answered.closed, earlier ++ sent, by simp [same], by simp [listed, next]⟩

/-- Messages that answer nothing. -/
theorem Answers.quiet {sent : List Delivery}
    (silent : ∀ delivery ∈ sent, delivery.channel = id → delivery.message.answers op = false) :
    before.Answers op id answers (world.deliver sent) := by
  simpa using answered.deliver (answersTo_silent silent)

theorem Answers.within {ε α : Type} {sending : Sending ε α}
    (within : sending.Within fun delivery => delivery.message.answers op = false) :
    before.Answers op id answers (world.deliver sending.sent) :=
  answered.quiet fun delivery member _ => within.sent delivery member

theorem Answers.tell {channel : SocketSender} {message : Message}
    (silent : message.answers op = false) :
    before.Answers op id answers (world.send channel message) := by
  unfold World.send
  split
  · exact answered
  · apply answered.quiet
    intro delivery member _
    obtain rfl : delivery = ⟨channel, message⟩ := by simpa using member
    exact silent

theorem Answers.send {message : Message} (hears : before.closed id = false)
    (answer : message.answers op = true) :
    before.Answers op id (answers ++ [⟨id, message⟩]) (world.send id message) := by
  rw [← answered.closed] at hears
  rw [World.send, if_neg (by simp [hears])]
  exact answered.deliver (answersTo_one answer)

end Answers

/-- Events answer only a Start. -/
theorem announces_silent (other : op ≠ .start) (closed : SocketSender → Bool) :
    Announces (fun delivery => delivery.message.answers op = false) (fun _ => True) closed :=
  fun _ event _ _ => Message.event_silent other event

section Leave

variable {game : Game} (oracle : Oracle)

/-- The others hear of an unregistration by events. -/
theorem unregisterFromHost_silent (valid : world.Valid) (other : op ≠ .start) :
    world.Answers op id [] (world.unregisterFromHost oracle game).1 := by
  unfold unregisterFromHost
  split
  · rename_i hostClient found
    split
    · rename_i hostGame playing
      have hostValid := ((valid _ _ found).playing hostGame playing).2
      obtain ⟨within, -⟩ := hostValid.unregister_within (announces_silent other world.closed)
        ⟨trivial, fun _ _ => trivial⟩ oracle.order game.partialClient.id
      exact (Answers.refl world).put.within within
    · exact .refl world
  · exact .refl world

/-- A guest that leaves is told so once. -/
theorem leaveGame_answers (valid : world.Valid) (own : game.Valid id)
    (hears : world.closed id = false) : world.Answers .leave id [⟨id, .response (.leave true)⟩]
      (world.leaveGame oracle game).1 := by
  obtain ⟨after, exit, left, calm, -⟩ := unregisterFromHost_spec oracle "" valid own
  have struck : world.Answers .leave id [] after := by
    have silent := @unregisterFromHost_silent .leave id world game oracle valid (by simp)
    rwa [left] at silent
  rw [← struck.closed] at hears
  have told : ((game.partialClient.sendMessage after.closed (.response (.leave true))).ignore :
      Sending ClientError Unit).sent = [⟨id, .response (.leave true)⟩] := by
    rw [Sending.ignore_sent, own.self.sent, own.owner, if_neg (by simp [hears])]
  have answered := struck.deliver (@answersTo_one .leave id (.response (.leave true)) rfl)
  rw [leaveGame, left]
  cases exit with
  | panic => exact absurd rfl calm
  | ok | err =>
    simp only [told]
    exact answered

/-- A host that leaves is told once that the game is shut down; its participants get events. -/
theorem dropGame_answers (healthy : oracle.Healthy) (valid : game.Valid id)
    (host : game.isHost = true) (hears : world.closed id = false) :
    world.Answers .leave id [⟨id, .response (.shutdown true)⟩] (world.dropGame oracle game).1 := by
  obtain ⟨own, -⟩ := valid.hosting host
  obtain ⟨roster, hosts⟩ := valid.hosts host
  let farewells : Sending ClientError Unit := sendAll world.closed
    ((oracle.order.list roster).map fun entry => (entry.2, .gameEvent .shutdown))
  have finished : farewells.exit = .ok () :=
    (hosts.roster.sendAll oracle.order world.closed _).1
  have within : farewells.Within fun delivery => delivery.message.answers .leave = false :=
    valid.tell_within (announces_silent (by simp) world.closed) ⟨trivial, fun _ _ => trivial⟩
      hosts.clients oracle.order (fun _ member => member) .shutdown
  have goodbye : game.partialHost.sendMessage world.closed (.response (.shutdown true)) =
      ⟨.ok (), [⟨id, .response (.shutdown true)⟩]⟩ := by
    simp [PartialClient.sendMessage, hosts.host.isLocal, hosts.host.channel, own, hears]
  have told : world.Answers .leave id []
      ((world.deliver farewells.sent).del (gameKey game.gameId)) :=
    ((Answers.refl world).within within).del
  have answered := told.deliver (@answersTo_one .leave id (.response (.shutdown true)) rfl)
  rw [dropGame, if_pos host, shutdownGame, Game.checkHost_host host, hosts.clients]
  simp only [show (sendAll world.closed _ : Sending ClientError Unit) = farewells from rfl, finished,
    healthy .shutdownPool, healthy .shutdownDel, deleteRecord, healthy .dropPool, healthy .dropDel]
  simp only [deliver_closed, del_closed, goodbye]
  exact answered.del

end Leave

end World

/-- The kind of request whose handler the section belongs to, after its first section. -/
def Pc.opCode : Pc → Option RequestOpCode
  | .joinSet _ | .joinHost _ | .joinRegister _ _ _ _ | .joinPurge _ | .joinEnter _ _ _ _ _ _
  | .joinForeign _ | .joinRefuse _ => some .join
  | .compilePrepare _ _ | .compileFail _ | .compileRun _ _ _ | .compileValidate _ _ _
  | .compileReply _ => some .compile
  | .createReply _ => some .create
  | .existsCheck _ _ | .existsPurge _ | .existsReply _ _ => some .exists
  | _ => none

/-- A Start is handled in one section. -/
theorem Pc.opCode_ne_start {pc : Pc} (handles : pc.opCode = some op) : op ≠ .start := by
  intro start
  subst start
  cases pc <;> simp [Pc.opCode] at handles

/-- How many sections a handler that is not cancelled may still run. -/
def Pc.sections : Pc → Nat
  | .receive => 5
  | .compilePrepare _ _ => 4
  | .compileRun _ _ _ | .existsCheck _ _ => 3
  | .compileValidate _ _ _ | .existsPurge _ | .joinSet _ | .joinRegister _ _ _ _
  | .joinForeign _ => 2
  | _ => 1

namespace Section

variable {before world : World} {part : Section} {host : Bool} {left : Nat}

/-- The section goes on in the same handler, with nothing answered and fewer sections left,
or it returns; if with Ok, it has enqueued the acknowledgement and no other answer. -/
structure Outcome (op : RequestOpCode) (host : Bool) (left : Nat) (id : Uuid) (before : World)
    (part : Section) : Prop where
  goes : ∀ pc, part.next = .goto pc →
    pc.opCode = some op ∧ pc.sections < left ∧ before.Answers op id [] part.final
  ends : part.next = .handled (.ok ()) → ∃ message : Message,
    message.acknowledges host op = true ∧ before.Answers op id [⟨id, message⟩] part.final
  handles : ∀ result, part.next ≠ .returned result

theorem Outcome.handled {paused : List World} {exit : Exit ClientError Unit}
    (acknowledged : exit = .ok () → ∃ message : Message,
      message.acknowledges host op = true ∧ before.Answers op id [⟨id, message⟩] world) :
    Outcome op host left id before ⟨paused, world, .handled exit⟩ where
  goes _ going := by cases going
  ends ended := acknowledged (by simpa using ended)
  handles _ returned := by cases returned

/-- A section that does not return Ok need not have answered. -/
theorem Outcome.refused {paused : List World} {exit : Exit ClientError Unit}
    (refused : exit ≠ .ok ()) :
    Outcome op host left id before ⟨paused, world, .handled exit⟩ :=
  .handled fun ended => absurd ended refused

theorem Outcome.fail (error : ClientError) :
    Outcome op host left id before (.fail world error) :=
  .refused (by simp)

theorem Outcome.panic : Outcome op host left id before (.panic world) := .refused (by simp)

theorem Outcome.refuse (client : SocketClient) (error : ClientError) :
    Outcome op host left id before (.refuse world client error) :=
  .refused (by simp)

theorem Outcome.goto {paused : List World} {pc : Pc} (same : pc.opCode = some op)
    (fewer : pc.sections < left) (answered : before.Answers op id [] world) :
    Outcome op host left id before ⟨paused, world, .goto pc⟩ where
  goes _ going := by
    cases going
    exact ⟨same, fewer, answered⟩
  ends ended := by cases ended
  handles _ returned := by cases returned

/-- A reply acknowledges the request, where the client's channel is open. -/
theorem Outcome.reply {channel : SocketSender} {response : Response}
    (answered : before.Answers op id [] world) (wired : channel = id)
    (hears : before.closed id = false) (answers : response.acknowledges host op = true)
    (exit : Exit ClientError Unit) :
    Outcome op host left id before (.reply world channel response exit) := by
  subst wired
  exact .handled fun _ => ⟨.response response, answers, by simpa using answered.send hears rfl⟩

end Section

namespace Ctx

open Section

variable {ctx : Ctx} {world : World} {host : Bool} {client : SocketClient}

theorem handleJoin_outcome (d : Option Value) :
    (ctx.handleJoin world d).Outcome .join host 5 ctx.clientId world := by
  have still := @World.Answers.refl .join ctx.clientId world
  unfold handleJoin joinRead
  repeat' split
  all_goals first
    | exact .fail _
    | exact .panic
    | exact .refuse _ _
    | exact .goto rfl (by simp [Pc.sections]) still

section Walk

variable (valid : world.Valid)

include valid

theorem joinRegister_outcome (gameId : String) (hostId : Uuid) (nickname : String)
    (channel : SocketSender) (wired : channel = ctx.clientId) :
    (ctx.joinRegister world gameId hostId nickname channel).Outcome .join host 2 ctx.clientId
      world := by
  have still := @World.Answers.refl .join ctx.clientId world
  unfold joinRegister
  split
  · exact .goto rfl (by simp [Pc.sections]) still
  · rename_i hostClient found
    split
    · exact .panic
    · split
      · exact .fail _
      · rename_i hostGame playing
        have hostValid := ((valid _ _ found).playing hostGame playing).2
        have own : (PartialClient.new ctx.clientId nickname ctx.shardId true (some channel)).Own :=
          ⟨rfl, by simp [PartialClient.new, wired]⟩
        obtain ⟨within, -⟩ := hostValid.register_within
          (World.announces_silent (show RequestOpCode.join ≠ .start by simp) world.closed)
          ⟨trivial, fun _ _ => trivial⟩ ctx.oracle.order own trivial
        generalize hostGame.register ctx.oracle.order world.closed
          (.new ctx.clientId nickname ctx.shardId true (some channel)) = registered at within ⊢
        obtain ⟨after, exit, sent⟩ := registered
        cases exit with
        | ok => exact .goto rfl (by simp [Pc.sections]) (still.put.within within)
        | err => exact .goto rfl (by simp [Pc.sections]) (still.put.within within)
        | panic => exact .refused (by simp)

theorem compileValidate_outcome (hostId : Uuid) (request : CompileRequest)
    (result : SandboxResponse) :
    (ctx.compileValidate world hostId request result).Outcome .compile host 2 ctx.clientId
      world := by
  have still := @World.Answers.refl .compile ctx.clientId world
  unfold compileValidate
  split
  · exact .goto rfl (by simp [Pc.sections]) still
  · rename_i hostClient game graded
    obtain ⟨found, playing, -⟩ := compileGame_found graded
    have gameValid := ((valid _ _ found).playing game playing).2
    obtain ⟨within, -⟩ := gameValid.validateCodeTest_within
      (World.announces_silent (show RequestOpCode.compile ≠ .start by simp) world.closed)
      ⟨trivial, fun _ _ => trivial⟩ ctx.oracle.order ctx.oracle.sandbox ctx.clientId
      request.taskIndex request.code result
    generalize game.validateCodeTest ctx.oracle.order world.closed ctx.oracle.sandbox ctx.clientId
      request.taskIndex request.code result = validated at within ⊢
    obtain ⟨after, exit, sent⟩ := validated
    cases exit with
    | ok response => exact .goto rfl (by simp [Pc.sections]) (still.put.within within)
    | err error => exact .goto rfl (by simp [Pc.sections]) (still.put.within within)
    | panic => exact .refused (by simp)

variable (hears : world.closed ctx.clientId = false)

include hears

/-- A client that holds no game stores one, and is told that it joined. -/
theorem setGame_outcome {left : Nat} (found : world.sockets ctx.clientId = some client)
    (vacant : client.game = none) (game : Game) (gameId : String) (asHost : Bool) :
    Section.Outcome .join host left ctx.clientId world
      (match world.setGame ctx.oracle ctx.clientId client game with
      | (world, .ok ()) => .reply world client.sendChannel (.join gameId asHost true) (.ok ())
      | (world, _) => .panic world) := by
  rw [World.setGame_vacant ctx.oracle vacant]
  exact Outcome.reply (World.Answers.refl world).put (valid.wired found) hears (by rfl) (.ok ())

theorem joinHost_outcome (gameId : String)
    (vacant : ∀ client, world.sockets ctx.clientId = some client → client.game = none) :
    (ctx.joinHost world gameId).Outcome .join host 1 ctx.clientId world := by
  unfold joinHost
  split
  · exact .panic
  · rename_i client found
    split
    · exact .panic
    · exact setGame_outcome valid hears found (vacant client found) ..

theorem joinEnter_outcome (gameId : String) (hostId : Uuid) (hostNickname : String)
    (hostChannel : SocketSender) (nickname : String) (admitted : Bool)
    (vacant : admitted = true → ∀ client, world.sockets ctx.clientId = some client →
      client.game = none) :
    (ctx.joinEnter world gameId hostId hostNickname hostChannel nickname admitted).Outcome .join
      host 1 ctx.clientId world := by
  unfold joinEnter
  split
  · exact .panic
  · rename_i client found
    split
    · rename_i welcome
      exact setGame_outcome valid hears found (vacant welcome client found) ..
    · exact .reply (.refl world) (valid.wired found) hears (by rfl) _

/-- A Leave is answered by the drop of the game. -/
theorem handleLeave_outcome (healthy : ctx.oracle.Healthy) :
    (ctx.handleLeave world).Outcome .leave ((world.gameAt ctx.clientId).any Game.isHost) 5
      ctx.clientId world := by
  unfold handleLeave
  split
  · exact .panic
  · rename_i client found
    split
    · exact .refuse _ _
    · rename_i game playing
      have own := ((valid _ _ found).playing game playing).2
      have held : world.gameAt ctx.clientId = some game := by simp [World.gameAt, found, playing]
      have taken := valid.take found
      rw [held]
      refine @Outcome.handled .leave ctx.clientId world (ctx.takeGame world client game).1 _ 5 []
        (ctx.takeGame world client game).2 fun _ => ?_
      unfold takeGame
      cases role : game.isHost with
      | true =>
        have shut := World.dropGame_answers ctx.oracle healthy own role
          (show (world.put ctx.clientId { client with game := none }).closed ctx.clientId = false
            from hears)
        exact ⟨.response (.shutdown true),
          by simp [Message.acknowledges, Response.acknowledges, role], shut.since rfl rfl⟩
      | false =>
        have left : world.Answers .leave ctx.clientId [⟨ctx.clientId, .response (.leave true)⟩]
            (World.leaveGame ctx.oracle (world.put ctx.clientId { client with game := none })
              game).1 :=
          (World.leaveGame_answers ctx.oracle taken own hears).since rfl rfl
        refine ⟨.response (.leave true),
          by simp [Message.acknowledges, Response.acknowledges, role], ?_⟩
        simpa [World.dropGame, role, own.host.isLocal] using left

end Walk

end Ctx

end Grass
