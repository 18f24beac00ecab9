import Grass.Guarantee.Session
import Grass.Refinement.Calm

/-! What becomes of a game's record while a client initialises the game and others
ask for it. -/

namespace Grass

open Transition

/-- The message is a Join or an Exists request for this game. -/
def DefaultModel.AsksFor (gameId : String) (model : DefaultModel) : Prop :=
  ∃ request, model.request? = some request ∧
    ((request.op = .join ∧
        (request.d.bind JoinRequest.fromValue).map JoinRequest.gameId = some gameId) ∨
      (request.op = .exists ∧
        (request.d.bind ExistsRequest.fromValue).map ExistsRequest.gameId = some gameId))

namespace World

/-- The record names a connection of this process, and that has an entry. -/
def Recorded (shardId : ShardId) (gameId : String) (world : World) : Prop :=
  ∃ hostId, world.redis (gameKey gameId) = some (.game ⟨shardId, hostId⟩) ∧
    world.sockets hostId ≠ none

/-- The client has an entry and is in no game. -/
def Vacant (world : World) (id : Uuid) : Prop :=
  ∃ client, world.sockets id = some client ∧ client.game = none

/-- The client's entry holds a host game with this id. -/
def Hosting (world : World) (id : Uuid) (gameId : String) : Prop :=
  ∃ client game, world.sockets id = some client ∧ client.game = some game ∧
    game.isHost = true ∧ game.gameId = gameId

/-- The record names a connection with an entry, or it is empty still and the host to
be has no game yet. -/
def Settled (shardId : ShardId) (gameId : String) (hostId : Uuid) (world : World) : Prop :=
  world.Recorded shardId gameId ∨
    (world.redis (gameKey gameId) = some (.text "") ∧ ¬ world.Hosting hostId gameId)

/-- What the other handlers may rely on after a section of one of them: nobody's entry
is gone, nobody else got a game, and the record still names somebody if it did. -/
structure Follows (shardId : ShardId) (gameId : String) (acting : Uuid) (before after : World) :
    Prop where
  present : ∀ id, before.sockets id ≠ none → after.sockets id ≠ none
  vacant : ∀ id, id ≠ acting → before.Vacant id → after.Vacant id
  recorded : before.Recorded shardId gameId → after.Recorded shardId gameId

variable {shardId : ShardId} {gameId : String} {acting : Uuid} {before after : World}

theorem Follows.same (sockets : after.sockets = before.sockets) (redis : after.redis = before.redis) :
    before.Follows shardId gameId acting after := by
  constructor
  · rw [sockets]
    exact fun _ here => here
  · rintro id - ⟨client, found, empty⟩
    exact ⟨client, by rw [sockets, found], empty⟩
  · rintro ⟨hostId, record, here⟩
    exact ⟨hostId, by rw [redis, record], by rwa [sockets]⟩

theorem Follows.trans {middle : World} (first : before.Follows shardId gameId acting middle)
    (second : middle.Follows shardId gameId acting after) :
    before.Follows shardId gameId acting after :=
  ⟨fun id here => second.present id (first.present id here),
    fun id other empty => second.vacant id other (first.vacant id other empty),
    fun earlier => second.recorded (first.recorded earlier)⟩

theorem Follows.put {id : Uuid} {old new : SocketClient} (found : before.sockets id = some old)
    (own : id = acting ∨ old.game ≠ none) :
    before.Follows shardId gameId acting (before.put id new) := by
  have present : ∀ other, before.sockets other ≠ none → (before.put id new).sockets other ≠ none := by
    intro other here
    by_cases same : other = id
    · subst same
      simp
    · simpa [same] using here
  refine ⟨present, ?_, ?_⟩
  · rintro other apart ⟨client, held, empty⟩
    have different : other ≠ id := by
      rintro rfl
      obtain rfl : old = client := Option.some.inj (found.symm.trans held)
      exact own.elim apart fun plays => plays empty
    exact ⟨client, by simpa [different] using held, empty⟩
  · rintro ⟨hostId, record, here⟩
    exact ⟨hostId, record, present hostId here⟩

theorem Settled.same {hostId : Uuid} (settled : before.Settled shardId gameId hostId)
    (sockets : after.sockets = before.sockets) (redis : after.redis = before.redis) :
    after.Settled shardId gameId hostId := by
  simpa only [Settled, Recorded, Hosting, sockets, redis] using settled

end World

/-- What holds when a handler of the client `id` is about to run a section of one of
these requests. -/
def Pc.Initialises (shardId : ShardId) (gameId : String) (world : World) (id : Uuid)
    (model : DefaultModel) : Pc → Prop
  | .receive => model.AsksFor gameId
  | .joinSet asked => asked = gameId ∧ world.Vacant id
  | .joinHost asked => asked = gameId ∧ world.Vacant id ∧ world.Recorded shardId gameId
  | .joinRegister asked hostId _ _ =>
    asked = gameId ∧ world.Vacant id ∧ world.Recorded shardId gameId ∧ world.sockets hostId ≠ none
  | .joinEnter asked _ _ _ _ _ =>
    asked = gameId ∧ world.Vacant id ∧ world.Recorded shardId gameId
  | .existsCheck asked hostId =>
    asked = gameId ∧ world.Recorded shardId gameId ∧ world.sockets hostId ≠ none
  | .existsReply _ _ => True
  | _ => False

theorem Pc.Initialises.follows {shardId : ShardId} {gameId : String} {before after : World}
    {id acting : Uuid} {model : DefaultModel} {pc : Pc}
    (initialises : pc.Initialises shardId gameId before id model) (other : id ≠ acting)
    (follows : before.Follows shardId gameId acting after) :
    pc.Initialises shardId gameId after id model := by
  cases pc with
  | receive | existsReply => exact initialises
  | joinSet => exact ⟨initialises.1, follows.vacant id other initialises.2⟩
  | joinHost | joinEnter =>
    obtain ⟨same, vacant, recorded⟩ := initialises
    exact ⟨same, follows.vacant id other vacant, follows.recorded recorded⟩
  | joinRegister =>
    obtain ⟨same, vacant, recorded, here⟩ := initialises
    exact ⟨same, follows.vacant id other vacant, follows.recorded recorded, follows.present _ here⟩
  | existsCheck =>
    obtain ⟨same, recorded, here⟩ := initialises
    exact ⟨same, follows.recorded recorded, follows.present _ here⟩
  | _ => exact initialises.elim

/-- The section keeps what the others rely on and the record as it should be, and its
handler may go on. -/
structure Section.Initialises (ctx : Ctx) (gameId : String) (hostId : Uuid) (before : World)
    (part : Section) : Prop where
  follows : before.Follows ctx.shardId gameId ctx.clientId part.final
  settled : part.final.Settled ctx.shardId gameId hostId
  next : ∀ pc, part.next = .goto pc →
    pc.Initialises ctx.shardId gameId part.final ctx.clientId ctx.model

namespace Section.Initialises

variable {ctx : Ctx} {gameId : String} {hostId : Uuid} {world before : World}

theorem stop (settled : world.Settled ctx.shardId gameId hostId) (exit : Exit ClientError Unit) :
    Section.Initialises ctx gameId hostId world (.stop world exit) :=
  ⟨.same rfl rfl, settled, fun _ going => by cases going⟩

theorem refuse (settled : world.Settled ctx.shardId gameId hostId) (client : SocketClient)
    (error : ClientError) :
    Section.Initialises ctx gameId hostId world (.refuse world client error) :=
  ⟨.same (by simp [Section.refuse]) (by simp [Section.refuse]),
    settled.same (by simp [Section.refuse]) (by simp [Section.refuse]),
    fun _ going => by cases going⟩

theorem reply (follows : before.Follows ctx.shardId gameId ctx.clientId world)
    (settled : world.Settled ctx.shardId gameId hostId) (channel : SocketSender)
    (response : Response) (exit : Exit ClientError Unit) :
    Section.Initialises ctx gameId hostId before (.reply world channel response exit) where
  follows := follows.trans (.same (by simp [Section.reply]) (by simp [Section.reply]))
  settled := settled.same (by simp [Section.reply]) (by simp [Section.reply])
  next _ going := by cases going

theorem goto (settled : world.Settled ctx.shardId gameId hostId) {pc : Pc}
    (next : pc.Initialises ctx.shardId gameId world ctx.clientId ctx.model) :
    Section.Initialises ctx gameId hostId world (.goto world pc) :=
  ⟨.same rfl rfl, settled, fun _ going => by cases going; exact next⟩

end Section.Initialises

namespace Ctx

variable {ctx : Ctx} {world : World} {gameId : String} {hostId : Uuid}
  (settled : world.Settled ctx.shardId gameId hostId)

include settled

theorem joinRead_initialises (nickname : String) {client : SocketClient}
    (found : world.sockets ctx.clientId = some client) (empty : client.game = none) :
    (ctx.joinRead world gameId nickname client).Initialises ctx gameId hostId world := by
  have vacant : world.Vacant ctx.clientId := ⟨client, found, empty⟩
  unfold joinRead
  by_cases fails : ctx.oracle.fails .joinGet = true
  · simp only [fails, ↓reduceIte]
    exact .refuse settled ..
  · simp only [fails, Bool.false_eq_true, ↓reduceIte]
    have stored := settled
    rcases stored with ⟨owner, record, here⟩ | ⟨record, -⟩
    · simp only [record, ↓reduceIte]
      exact .goto settled ⟨rfl, vacant, ⟨owner, record, here⟩, here⟩
    · simp only [record, ↓reduceIte]
      exact .goto settled ⟨rfl, vacant⟩

theorem handleJoin_initialises {d : Option Value}
    (asks : (d.bind JoinRequest.fromValue).map JoinRequest.gameId = some gameId) :
    (ctx.handleJoin world d).Initialises ctx gameId hostId world := by
  obtain ⟨request, given, rfl⟩ := Option.map_eq_some_iff.mp asks
  obtain ⟨data, rfl, decoded⟩ := Option.bind_eq_some_iff.mp given
  simp only [handleJoin, decoded]
  split
  · exact .stop settled _
  · rename_i client found
    split
    · exact .refuse settled ..
    · rename_i empty
      split
      · exact .refuse settled ..
      · split
        · exact .refuse settled ..
        · exact joinRead_initialises settled _ found (by simpa using empty)

theorem handleExists_initialises {d : Option Value}
    (asks : (d.bind ExistsRequest.fromValue).map ExistsRequest.gameId = some gameId) :
    (ctx.handleExists world d).Initialises ctx gameId hostId world := by
  obtain ⟨request, given, rfl⟩ := Option.map_eq_some_iff.mp asks
  obtain ⟨data, rfl, decoded⟩ := Option.bind_eq_some_iff.mp given
  simp only [handleExists, decoded]
  split
  · exact .stop settled _
  · unfold existsRead
    by_cases fails : ctx.oracle.fails .existsGet = true
    · simp only [fails, ↓reduceIte]
      exact .goto settled trivial
    · simp only [fails, Bool.false_eq_true, ↓reduceIte]
      have stored := settled
      rcases stored with ⟨owner, record, here⟩ | ⟨record, -⟩
      · simp only [record]
        exact .goto settled ⟨rfl, ⟨owner, record, here⟩, here⟩
      · simp only [record, ↓reduceIte]
        exact .goto settled trivial

omit settled in
theorem joinSet_initialises (vacant : world.Vacant ctx.clientId)
    (settled : world.Settled ctx.shardId gameId hostId) :
    (ctx.joinSet world gameId).Initialises ctx gameId hostId world := by
  obtain ⟨client, found, empty⟩ := vacant
  unfold joinSet
  split
  · exact .stop settled _
  · have here : world.sockets ctx.clientId ≠ none := by simp [found]
    have recorded : (world.set (gameKey gameId) (.game ⟨ctx.shardId, ctx.clientId⟩)).Recorded
        ctx.shardId gameId := ⟨ctx.clientId, by simp, here⟩
    refine ⟨⟨fun _ here => here, fun _ _ empty => empty, fun _ => recorded⟩, .inl recorded, ?_⟩
    rintro pc ⟨⟩
    exact ⟨rfl, ⟨client, found, empty⟩, recorded⟩

omit settled in
theorem joinHost_initialises (vacant : world.Vacant ctx.clientId)
    (recorded : world.Recorded ctx.shardId gameId) :
    (ctx.joinHost world gameId).Initialises ctx gameId hostId world := by
  obtain ⟨client, found, empty⟩ := vacant
  simp only [joinHost, found]
  split
  · exact .stop (.inl recorded) _
  · simp only [World.setGame_vacant ctx.oracle empty]
    have follows : ∀ new, world.Follows ctx.shardId gameId ctx.clientId (world.put ctx.clientId new) :=
      fun _ => .put found (.inl rfl)
    exact .reply (follows _) (.inl ((follows _).recorded recorded)) ..

omit settled in
theorem joinEnter_initialises (vacant : world.Vacant ctx.clientId)
    (recorded : world.Recorded ctx.shardId gameId) (owner : Uuid) (hostNickname : String)
    (hostChannel : SocketSender) (nickname : String) (admitted : Bool) :
    (ctx.joinEnter world gameId owner hostNickname hostChannel nickname admitted).Initialises ctx
      gameId hostId world := by
  obtain ⟨client, found, empty⟩ := vacant
  simp only [joinEnter, found]
  split
  · simp only [World.setGame_vacant ctx.oracle empty]
    have follows : ∀ new, world.Follows ctx.shardId gameId ctx.clientId (world.put ctx.clientId new) :=
      fun _ => .put found (.inl rfl)
    exact .reply (follows _) (.inl ((follows _).recorded recorded)) ..
  · exact .reply (.same rfl rfl) (.inl recorded) ..

omit settled in
/-- A registration that does not find its host without a game. -/
theorem joinRegister_initialises (vacant : world.Vacant ctx.clientId)
    (recorded : world.Recorded ctx.shardId gameId) {owner : Uuid} (here : world.sockets owner ≠ none)
    (spares : world.Vacant owner → ctx.oracle.fails .joinHostGone = true) (nickname : String)
    (channel : SocketSender) :
    (ctx.joinRegister world gameId owner nickname channel).Initialises ctx gameId hostId world := by
  obtain ⟨hostClient, found⟩ := Option.ne_none_iff_exists'.mp here
  simp only [joinRegister, found]
  split
  · exact .stop (.inl recorded) _
  · split
    · rename_i empty
      simp only [spares ⟨hostClient, found, empty⟩, ↓reduceIte]
      exact .stop (.inl recorded) _
    · rename_i hostGame playing
      have follows : ∀ new, world.Follows ctx.shardId gameId ctx.clientId (world.put owner new) :=
        fun _ => .put found (.inr (by simp [playing]))
      have apart : ctx.clientId ≠ owner := by
        rintro rfl
        obtain ⟨client, same, empty⟩ := vacant
        obtain rfl : hostClient = client := Option.some.inj (found.symm.trans same)
        simp [playing] at empty
      obtain ⟨client, own, empty⟩ := vacant
      refine ⟨(follows _).trans (.same rfl rfl), .inl ((follows _).recorded recorded),
        fun pc going => ?_⟩
      have entered : ∃ hostNickname hostChannel admitted,
          pc = .joinEnter gameId owner hostNickname hostChannel nickname admitted := by
        dsimp only at going
        split at going <;> cases going
        · exact ⟨_, _, _, rfl⟩
        · exact ⟨_, _, _, rfl⟩
      obtain ⟨hostNickname, hostChannel, admitted, rfl⟩ := entered
      exact ⟨rfl, ⟨client, by simpa [apart] using own, empty⟩,
        (follows _).recorded recorded⟩

/-- Every section these requests run. -/
theorem runSection_initialises {pc : Pc}
    (initialises : pc.Initialises ctx.shardId gameId world ctx.clientId ctx.model)
    (spares : ∀ asked owner nickname channel, pc = .joinRegister asked owner nickname channel →
      world.Vacant owner → ctx.oracle.fails .joinHostGone = true) :
    (ctx.runSection world pc).Initialises ctx gameId hostId world := by
  cases pc with
  | receive =>
    obtain ⟨request, asked, ⟨join, names⟩ | ⟨«exists», names⟩⟩ := initialises
    · rw [runSection, receive_request asked, handleRequest]
      simp only [join]
      exact handleJoin_initialises settled names
    · rw [runSection, receive_request asked, handleRequest]
      simp only [«exists»]
      exact handleExists_initialises settled names
  | joinSet =>
    obtain ⟨rfl, vacant⟩ := initialises
    exact joinSet_initialises vacant settled
  | joinHost =>
    obtain ⟨rfl, vacant, recorded⟩ := initialises
    exact joinHost_initialises vacant recorded
  | joinRegister asked owner nickname channel =>
    obtain ⟨rfl, vacant, recorded, here⟩ := initialises
    exact joinRegister_initialises vacant recorded here (spares asked owner nickname channel rfl)
      nickname channel
  | joinEnter asked owner hostNickname hostChannel nickname admitted =>
    obtain ⟨rfl, vacant, recorded⟩ := initialises
    exact joinEnter_initialises vacant recorded ..
  | existsCheck asked owner =>
    obtain ⟨rfl, recorded, here⟩ := initialises
    obtain ⟨hostClient, found⟩ := Option.ne_none_iff_exists'.mp here
    simp only [runSection, existsCheck, found]
    exact .goto settled trivial
  | existsReply asked found =>
    simp only [runSection, existsReply]
    split
    · exact .stop settled _
    · exact .reply (.same rfl rfl) settled ..
  | _ => exact initialises.elim

end Ctx

namespace Cluster

variable {gameId : String} {host : Party} {cluster before after : Cluster} {action : Action}

/-- A reached state in which the game is created and not initialised, the host to be
has introduced itself and is in no game, and its process handles no request. -/
structure Awaits (gameId : String) (host : Party) (cluster : Cluster) : Prop where
  reached : Reach Fresh steps cluster
  record : cluster.redis (gameKey gameId) = some (.text "")
  ready : ∃ client, (cluster.world host.shardId).sockets host.id = some client ∧
    client.nickname.isSome ∧ client.game = none
  idle : ∀ id, ((cluster.node host.shardId).reader id).isBusy = false

/-- Identified clients of one process send Join and Exists requests for one game, and
these are handled. -/
def Requests (shardId : ShardId) (gameId : String) : Transition.Step Cluster Action :=
  fun before action _ => action.party.shardId = shardId ∧
    match action.kind with
    | .frame frame _ => (∃ model, frame.model? = some model ∧ model.AsksFor gameId) ∧
        ∃ client, (before.world shardId).sockets action.party.id = some client ∧
          client.nickname.isSome
    | .advance => True
    | _ => False

/-- A Join finds the recorded host without a game, and deletes the record. -/
def Evicts (cluster : Cluster) (action : Action) : Prop :=
  match action.kind, (cluster.node action.party.shardId).reader action.party.id with
  | .advance, .busy oracle _ (.joinRegister _ hostId _ _) =>
    (cluster.world action.party.shardId).Vacant hostId ∧ oracle.fails .joinHostGone = false
  | _, _ => False

def spares : Transition.Step Cluster Action := fun before action _ => ¬ before.Evicts action

/-- Once every request is handled, a client that holds a host game has a record that
says so. -/
def RecordKept (gameId : String) (host : Party) (cluster : Cluster) : Prop :=
  (∀ id, ((cluster.node host.shardId).reader id).isBusy = false) →
    (cluster.world host.shardId).Hosting host.id gameId →
    ∃ value, cluster.redis (gameKey gameId) = some value ∧ value ≠ .text ""

/-- What holds while the game is being initialised. -/
structure Initialising (gameId : String) (host : Party) (cluster : Cluster) : Prop where
  settled : (cluster.world host.shardId).Settled host.shardId gameId host.id
  handlers : ∀ id oracle model pc, (cluster.node host.shardId).reader id = .busy oracle model pc →
    pc.Initialises host.shardId gameId (cluster.world host.shardId) id model

theorem Awaits.initialising (awaits : Awaits gameId host cluster) :
    cluster.Initialising gameId host where
  settled := by
    refine .inr ⟨awaits.record, ?_⟩
    rintro ⟨client, game, found, playing, -⟩
    obtain ⟨other, same, -, empty⟩ := awaits.ready
    obtain rfl : client = other := Option.some.inj (found.symm.trans same)
    simp [playing] at empty
  handlers id oracle model pc busy := by
    have idle := awaits.idle id
    simp [busy, Reader.isBusy] at idle

theorem Initialising.update (initialising : before.Initialising gameId host) {acting : Uuid}
    {world : World} {reader : Reader} (settled : world.Settled host.shardId gameId host.id)
    (follows : (before.world host.shardId).Follows host.shardId gameId acting world)
    (own : ∀ oracle model pc, reader = .busy oracle model pc →
      pc.Initialises host.shardId gameId world acting model) :
    (before.update ⟨host.shardId, acting⟩ world reader).Initialising gameId host where
  settled := by
    rw [update_world before ⟨host.shardId, acting⟩]
    exact settled
  handlers id oracle model pc busy := by
    rw [update_world before ⟨host.shardId, acting⟩]
    by_cases same : id = acting
    · subst same
      rw [update_reader before ⟨host.shardId, id⟩] at busy
      exact own oracle model pc busy
    · rw [update_reader_of_ne before ⟨host.shardId, acting⟩ world reader same] at busy
      exact (initialising.handlers id oracle model pc busy).follows same follows

theorem Initialising.step (initialising : before.Initialising gameId host)
    (stepped : before.step action = some after)
    (asks : Requests host.shardId gameId before action after) (kept : spares before action after) :
    after.Initialising gameId host := by
  obtain ⟨⟨shardId, acting⟩, kind⟩ := action
  obtain ⟨rfl, asks⟩ := asks
  cases step_does stepped with
  | @receives model frame oracle idle parses =>
    obtain ⟨⟨asked, framed, follows⟩, -⟩ := asks
    obtain rfl : model = asked := Option.some.inj (parses.symm.trans framed)
    refine initialising.update initialising.settled (.same rfl rfl) ?_
    rintro _ _ _ ⟨⟩
    exact follows
  | answers _ bare =>
    obtain ⟨⟨asked, framed, -⟩, -⟩ := asks
    cases bare.symm.trans framed
  | @advances oracle model pc busy =>
    have may := initialising.handlers acting oracle model pc busy
    have spared : ∀ asked owner nickname channel,
        pc = .joinRegister asked owner nickname channel →
        (before.world host.shardId).Vacant owner → oracle.fails .joinHostGone = true := by
      rintro asked owner nickname channel rfl vacant
      by_contra lost
      exact kept (by simpa [Evicts, busy] using ⟨vacant, by simpa using lost⟩)
    have done : Section.Initialises (before.ctx ⟨host.shardId, acting⟩ oracle model) gameId
        host.id (before.world host.shardId) _ :=
      Ctx.runSection_initialises initialising.settled may spared
    refine initialising.update done.settled done.follows fun later last next same => ?_
    obtain ⟨going, rfl⟩ := nextReader_busy same
    obtain rfl : model = last := by
      simpa [nextReader, going] using same
    exact done.next next going
  | _ => cases asks

/-- A Join or an Exists request for the game from an identified client of the process,
or the next section of a handler. -/
def asksLocally (shardId : ShardId) (gameId : String) (before : Cluster) (action : Action) : Bool :=
  decide (action.party.shardId = shardId) &&
    match action.kind with
    | .frame frame _ =>
      (match frame.model?.bind DefaultModel.request? with
      | some request =>
        decide (request.op = .join ∧
            (request.d.bind JoinRequest.fromValue).map JoinRequest.gameId = some gameId) ||
          decide (request.op = .exists ∧
            (request.d.bind ExistsRequest.fromValue).map ExistsRequest.gameId = some gameId)
      | none => false) &&
      match (before.world shardId).sockets action.party.id with
      | some client => client.nickname.isSome
      | none => false
    | .advance => true
    | _ => false

theorem asksLocally_requests {shardId : ShardId}
    (asks : asksLocally shardId gameId before action = true) :
    Requests shardId gameId before action after := by
  obtain ⟨here, asks⟩ := Bool.and_eq_true_iff.mp asks
  refine ⟨of_decide_eq_true here, ?_⟩
  obtain ⟨party, kind⟩ := action
  cases kind with
  | frame frame oracle =>
    obtain ⟨asked, named⟩ := Bool.and_eq_true_iff.mp asks
    constructor
    · split at asked
      · rename_i request given
        obtain ⟨model, modelled, given⟩ := Option.bind_eq_some_iff.mp given
        refine ⟨model, modelled, request, given, ?_⟩
        simpa only [Bool.or_eq_true, decide_eq_true_eq] using asked
      · cases asked
    · split at named
      · rename_i client found
        exact ⟨client, found, named⟩
      · cases named
  | advance => trivial
  | _ => cases asks

/-- Whether the record of the game is there, once both clients are served and the host
has its game. -/
def initialised (gameId : String) (cluster : Cluster) : Option Bool :=
  if ((cluster.node "a").reader 1).isBusy || ((cluster.node "a").reader 2).isBusy then none
  else match (cluster.world "a").sockets 1 with
    | some client => match client.game with
      | some game =>
        if game.isHost && decide (game.gameId = gameId) then
          some (cluster.redis (gameKey gameId)).isSome
        else none
      | none => none
    | none => none

/-- No Join is about to find the recorded host without a game. -/
def sparing (before : Cluster) (action : Action) : Bool :=
  match action.kind, (before.node action.party.shardId).reader action.party.id with
  | .advance, .busy _ _ (.joinRegister _ hostId _ _) =>
    match (before.world action.party.shardId).sockets hostId with
    | some client => client.game.isSome
    | none => true
  | _, _ => true

theorem sparing_spares (sparing : before.sparing action = true) : spares before action after := by
  intro evicts
  unfold Evicts at evicts
  unfold Cluster.sparing at sparing
  split at evicts
  · rename_i advancing busy
    obtain ⟨⟨client, found, empty⟩, -⟩ := evicts
    simp [advancing, busy, found, empty] at sparing
  · exact evicts

/-- Only these two clients are connected, both are identified, and the game is created. -/
def awaiting (cluster : Cluster) : Bool :=
  !((cluster.node "a").reader 1).isBusy && !((cluster.node "a").reader 2).isBusy &&
    decide (cluster.redis (gameKey "17") = some (.text "")) &&
    match (cluster.world "a").sockets 1 with
    | some client => client.nickname.isSome && client.game.isNone
    | none => false

def created : List Action :=
  Party.enters ⟨"a", 1⟩ (.calm "17") ++ Party.enters ⟨"a", 2⟩ (.calm "17") ++
    Party.creates ⟨"a", 2⟩ (.calm "17")

/-- An action of one of two clients. -/
def BetweenTwo (action : Action) : Prop := action.party = ⟨"a", 1⟩ ∨ action.party = ⟨"a", 2⟩

instance : DecidablePred BetweenTwo := fun _ => inferInstanceAs (Decidable (_ ∨ _))

theorem run_others {guard : Cluster → Action → Bool} {actions : List Action} {final : Cluster}
    (party : Party) (idle : ∀ action ∈ actions, party ≠ action.party)
    (ran : run (guarded guard Cluster.step) cluster actions = some final) :
    (final.node party.shardId).reader party.id = (cluster.node party.shardId).reader party.id := by
  induction actions generalizing cluster with
  | nil =>
    obtain rfl : cluster = final := by simpa [run] using ran
    rfl
  | cons action rest ih =>
    obtain ⟨next, taken, continued⟩ := Option.bind_eq_some_iff.mp ran
    rw [ih (fun later member => idle later (by simp [member])) continued]
    exact (step_other (guarded_eq_some.mp taken).2 party (idle action (by simp))).1

theorem idle_of_two {guard : Cluster → Action → Bool} {actions : List Action}
    {final : Cluster} (only : ∀ action ∈ actions, BetweenTwo action)
    (ran : run (guarded guard Cluster.step) cluster actions = some final)
    (idle : ∀ id, ((cluster.node "a").reader id).isBusy = false)
    (first : ((final.node "a").reader 1).isBusy = false)
    (second : ((final.node "a").reader 2).isBusy = false) (id : Uuid) :
    ((final.node "a").reader id).isBusy = false := by
  by_cases one : id = 1
  · rwa [one]
  by_cases two : id = 2
  · rwa [two]
  have kept := run_others ⟨"a", id⟩ (fun action member same => by
    rcases only action member with acts | acts
    · exact one (congrArg Party.id (same.trans acts))
    · exact two (congrArg Party.id (same.trans acts))) ran
  rw [show (final.node "a").reader id = _ from kept]
  exact idle id

/-- A list of actions of the two clients from the created game. -/
theorem initialised_shows (guard : Cluster → Action → Bool) (actions : List Action) {kept : Bool}
    (only : ∀ action ∈ actions, BetweenTwo action)
    (shows : ((run (guarded (fun _ _ => true) step) (launch emptyRedis []) created).bind
      fun cluster => if cluster.awaiting then
        (run (guarded guard step) cluster actions).bind (initialised "17") else none) = some kept) :
    ∃ cluster, Reach (Awaits "17" ⟨"a", 1⟩) (steps.when (checks guard)) cluster ∧
      (∀ id, ((cluster.node "a").reader id).isBusy = false) ∧
      (cluster.world "a").Hosting 1 "17" ∧ (cluster.redis (gameKey "17")).isSome = kept := by
  obtain ⟨before, opened, shows⟩ := Option.bind_eq_some_iff.mp shows
  split at shows
  · rename_i rests
    obtain ⟨final, ran, shows⟩ := Option.bind_eq_some_iff.mp shows
    simp only [awaiting, Bool.and_eq_true, Bool.not_eq_true', decide_eq_true_eq] at rests
    obtain ⟨⟨⟨first, second⟩, record⟩, named⟩ := rests
    have idle := idle_of_two (by decide) opened (by simp [launch, Node.fresh, Reader.isBusy])
      first second
    have awaits : Awaits "17" ⟨"a", 1⟩ before := by
      refine ⟨(run_reach created (.start (launch_fresh emptyRedis [])) opened).mono
        fun _ _ _ _ step => (guarded_eq_some.mp step).2, record, ?_, idle⟩
      split at named
      · rename_i client found
        simp only [Bool.and_eq_true, Option.isNone_iff_eq_none] at named
        exact ⟨client, found, named⟩
      · cases named
    refine ⟨final, (run_reach actions (.start awaits) ran).mono fun _ _ _ _ step =>
      (guarded_eq_some.mp step).symm, ?_⟩
    unfold initialised at shows
    split at shows
    · cases shows
    · rename_i served
      simp only [Bool.or_eq_true, not_or, Bool.not_eq_true] at served
      refine ⟨idle_of_two only ran idle served.1 served.2, ?_⟩
      split at shows
      · rename_i client found
        split at shows
        · rename_i game playing
          split at shows
          · rename_i hosting
            simp only [Bool.and_eq_true, decide_eq_true_eq] at hosting
            exact ⟨⟨client, game, found, playing, hosting⟩, Option.some.inj shows⟩
          · cases shows
        · cases shows
      · cases shows
  · cases shows

/-- Under every interleaving of the requests in which no Join finds the recorded host
still without its game, the record of an initialised game is kept. -/
theorem record_kept (gameId : String) (host : Party) (cluster : Cluster)
    (reached : Reach (Awaits gameId host)
      ((steps.when (Requests host.shardId gameId)).when spares) cluster) :
    cluster.RecordKept gameId host := by
  have initialising : cluster.Initialising gameId host := by
    apply reached.invariant
    · exact fun _ awaits => awaits.initialising
    · exact fun _ _ _ kept step => kept.step step.1.1 step.1.2 step.2
  intro idle hosting
  rcases initialising.settled with ⟨owner, record, -⟩ | ⟨-, absent⟩
  · exact ⟨_, record, by simp⟩
  · exact absurd hosting absent

theorem record_kept_joined : ∃ cluster : Cluster,
    (∀ id, ((cluster.node "a").reader id).isBusy = false) ∧
    (cluster.world "a").Hosting 1 "17" ∧ cluster.RecordKept "17" ⟨"a", 1⟩ := by
  obtain ⟨cluster, reached, idle, hosting, -⟩ := initialised_shows
    (fun before action => asksLocally "a" "17" before action && sparing before action)
    (Party.hosts ⟨"a", 1⟩ (.calm "17") "17" ++ Party.joins ⟨"a", 2⟩ (.calm "17") "17")
    (by decide) (show _ = some true by decide +kernel)
  exact ⟨cluster, idle, hosting, record_kept "17" ⟨"a", 1⟩ cluster (reached.mono
    fun _ _ _ _ step => by
      obtain ⟨asks, spared⟩ := Bool.and_eq_true_iff.mp step.2
      exact ⟨⟨step.1, asksLocally_requests asks⟩, sparing_spares spared⟩)⟩

/-- The host records itself; another Join reads that record, finds the host without a
game yet and deletes it; then the host gets its game. -/
def evicting : List Action :=
  Party.asks ⟨"a", 1⟩ (.calm "17") 2 "Join" [("game_id", .string "17")] ++
    Party.asks ⟨"a", 2⟩ (.calm "17") 2 "Join" [("game_id", .string "17")] ++
    [⟨⟨"a", 1⟩, .advance⟩]

theorem evicting_loses : ¬ ∀ (gameId : String) (host : Party) (cluster : Cluster),
    Reach (Awaits gameId host) (steps.when (Requests host.shardId gameId)) cluster →
    cluster.RecordKept gameId host := by
  intro always
  obtain ⟨cluster, reached, idle, hosting, lost⟩ := initialised_shows (asksLocally "a" "17") evicting
    (by decide) (show _ = some false by decide +kernel)
  obtain ⟨value, record, -⟩ := always "17" ⟨"a", 1⟩ cluster
    (reached.mono fun _ _ _ _ step => ⟨step.1, asksLocally_requests step.2⟩) idle hosting
  simp [record] at lost

end Cluster

end Grass
