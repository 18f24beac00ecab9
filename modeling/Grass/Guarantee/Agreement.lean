import Grass.Guarantee.Session
import Grass.Refinement.Calm
import Grass.Refinement.Told

/-! Exists and Join read the same record: what a client is told of a game and what
becomes of its Join right after. -/

namespace Grass

open Lobby Transition

/-- The message is this request about this game. -/
def DefaultModel.Asks (model : DefaultModel) (op : RequestOpCode) (gameId : String) : Prop :=
  ∃ request, model.request? = some request ∧ request.op = op ∧
    request.d.bind (oneString "game_id") = some gameId

namespace Ctx

/-- Section after section of one handler, to the result of `handle_message`. -/
inductive Handles (ctx : Ctx) : World → Pc → Exit ClientError Unit → World → Prop where
  | last (done : (ctx.runSection world pc).next = .handled exit) :
      Handles ctx world pc exit (ctx.runSection world pc).final
  | next (goes : (ctx.runSection world pc).next = .goto following)
      (rest : Handles ctx (ctx.runSection world pc).final following exit after) :
      Handles ctx world pc exit after

variable {ctx : Ctx} {world middle after : World} {pc following : Pc} {client : SocketClient}
  {exit other : Exit ClientError Unit} {gameId : String}

theorem Handles.unique (first : ctx.Handles world pc exit after)
    (second : ctx.Handles world pc other later) : exit = other ∧ after = later := by
  induction first with
  | last done =>
    cases second with
    | last also =>
      obtain rfl := Next.handled.inj (done.symm.trans also)
      exact ⟨rfl, rfl⟩
    | next goes => cases done.symm.trans goes
  | next goes rest ih =>
    cases second with
    | last done => cases goes.symm.trans done
    | next also later =>
      obtain rfl := Next.goto.inj (goes.symm.trans also)
      exact ih later

theorem Handles.goto (goes : ctx.runSection world pc = .goto middle following)
    (rest : ctx.Handles middle following exit after) : ctx.Handles world pc exit after := by
  refine .next (show (ctx.runSection world pc).next = .goto following by rw [goes]; rfl) ?_
  rw [goes]
  exact rest

theorem Handles.fail {error : ClientError} (fails : ctx.runSection world pc = .fail middle error) :
    ctx.Handles world pc (.err error) middle := by
  have done : (ctx.runSection world pc).next = .handled (.err error) := by
    rw [fails]
    rfl
  simpa [fails, Section.fail, Section.stop] using Handles.last done

theorem Handles.refuse {error : ClientError}
    (refuses : ctx.runSection world pc = .refuse middle client error) :
    ctx.Handles world pc (.err error) (middle.send client.sendChannel (.error error)) := by
  have done : (ctx.runSection world pc).next = .handled (.err error) := by
    rw [refuses]
    rfl
  simpa [refuses, Section.refuse] using Handles.last done

theorem Handles.reply {channel : SocketSender} {response : Response}
    (replies : ctx.runSection world pc = .reply middle channel response exit)
    (hears : middle.closed channel = false) :
    ctx.Handles world pc exit (middle.send channel (.response response)) := by
  have done : (ctx.runSection world pc).next = .handled exit := by
    simp [replies, Section.reply, hears]
  simpa [replies, Section.reply] using Handles.last done

section Asked

variable (healthy : ctx.oracle.Healthy)

include healthy

theorem receive_exists (asks : ctx.model.Asks .exists gameId) :
    ctx.runSection world .receive = ctx.existsRead world gameId := by
  obtain ⟨request, asked, op, names⟩ := asks
  obtain ⟨data, present, named⟩ := Option.bind_eq_some_iff.mp names
  simp [runSection, receive_request asked, handleRequest, op, handleExists, present,
    ExistsRequest.fromValue, named, healthy .existsPool]

theorem receive_join {nickname : String} (asks : ctx.model.Asks .join gameId)
    (found : world.sockets ctx.clientId = some client) (vacant : client.game = none)
    (identified : client.nickname = some nickname) :
    ctx.runSection world .receive = ctx.joinRead world gameId nickname client := by
  obtain ⟨request, asked, op, names⟩ := asks
  obtain ⟨data, present, named⟩ := Option.bind_eq_some_iff.mp names
  simp [runSection, receive_request asked, handleRequest, op, handleJoin, present,
    JoinRequest.fromValue, named, found, vacant, identified, healthy .joinPool]

end Asked

/-- Where Exists answers so: on an empty record, or one whose host has an entry; else there
is no record any more. -/
structure Finds (world : World) (gameId : String) (answer : Bool) (kept : World) : Prop where
  sockets : kept.sockets = world.sockets
  closed : kept.closed = world.closed
  wire : kept.wire = world.wire
  yes : answer = true → kept.redis = world.redis ∧
    (world.redis (gameKey gameId) = some (.text "") ∨ ∃ record,
      world.redis (gameKey gameId) = some (.game record) ∧ world.sockets record.hostId ≠ none)
  no : answer = false → kept.redis (gameKey gameId) = none

/-- An Exists is answered, or fails on a text that is no record. -/
theorem handles_exists (healthy : ctx.oracle.Healthy) (asks : ctx.model.Asks .exists gameId)
    (found : world.sockets ctx.clientId = some client)
    (hears : world.closed client.sendChannel = false) :
    (∃ error, ctx.Handles world .receive (.err error) world) ∨ ∃ answer kept,
      Finds world gameId answer kept ∧ ctx.Handles world .receive (.ok ())
        (kept.send client.sendChannel (.response (.exists answer))) := by
  have reading := @receive_exists ctx world gameId healthy asks
  have answered : ∀ {kept : World} (answer : Bool), Finds world gameId answer kept →
      ctx.Handles kept (.existsReply gameId answer) (.ok ())
        (kept.send client.sendChannel (.response (.exists answer))) := by
    intro kept answer finds
    refine .reply ?_ (by rw [finds.closed, hears])
    simp [runSection, existsReply, finds.sockets, found]
  cases record : world.redis (gameKey gameId) with
  | none =>
    have finds : Finds world gameId false world := ⟨rfl, rfl, rfl, by simp, fun _ => record⟩
    refine .inr ⟨false, world, finds, .goto ?_ (answered false finds)⟩
    simp [reading, existsRead, healthy .existsGet, record]
  | some value =>
    cases value with
    | text content =>
      by_cases empty : content = ""
      · subst empty
        have finds : Finds world gameId true world :=
          ⟨rfl, rfl, rfl, fun _ => ⟨rfl, .inl record⟩, by simp⟩
        refine .inr ⟨true, world, finds, .goto ?_ (answered true finds)⟩
        simp [reading, existsRead, healthy .existsGet, record]
      · refine .inl ⟨.internalServerError "Failed to parse game", .fail ?_⟩
        simp [reading, existsRead, healthy .existsGet, record, empty]
    | game host =>
      have checking : ctx.runSection world .receive =
          .goto world (.existsCheck gameId host.hostId) := by
        simp [reading, existsRead, healthy .existsGet, record]
      cases entry : world.sockets host.hostId with
      | none =>
        have finds : Finds world gameId false (world.del (gameKey gameId)) :=
          ⟨rfl, rfl, rfl, by simp, by simp⟩
        have misses : ctx.runSection world (.existsCheck gameId host.hostId) =
            .goto world (.existsPurge gameId) := by
          simp [runSection, existsCheck, entry]
        have purges : ctx.runSection world (.existsPurge gameId) =
            .goto (world.del (gameKey gameId)) (.existsReply gameId false) := by
          simp [runSection, existsPurge, healthy .existsDel]
        exact .inr ⟨false, _, finds,
          .goto checking (.goto misses (.goto purges (answered false finds)))⟩
      | some hostClient =>
        have finds : Finds world gameId true world :=
          ⟨rfl, rfl, rfl, fun _ => ⟨rfl, .inr ⟨host, record, by simp [entry]⟩⟩, by simp⟩
        refine .inr ⟨true, world, finds, .goto checking (.goto ?_ (answered true finds))⟩
        simp [runSection, existsCheck, entry]

section Joins

variable {nickname : String} (healthy : ctx.oracle.Healthy) (asks : ctx.model.Asks .join gameId)
  (found : world.sockets ctx.clientId = some client) (vacant : client.game = none)
  (identified : client.nickname = some nickname)

include healthy asks found vacant identified

theorem handles_join_missing (missing : world.redis (gameKey gameId) = none) :
    ctx.Handles world .receive (.err .noGameWasFound)
      (world.send client.sendChannel (.error .noGameWasFound)) := by
  refine .refuse ?_
  rw [receive_join healthy asks found vacant identified]
  simp [joinRead, healthy .joinGet, missing]

/-- The first to join an empty record hosts the game. -/
theorem handles_join_empty (hears : world.closed client.sendChannel = false)
    (empty : world.redis (gameKey gameId) = some (.text "")) :
    ∃ after, ctx.Handles world .receive (.ok ()) after ∧
      (∀ key, world.redis key ≠ none → after.redis key ≠ none) ∧
      (∀ id, after.sockets id = none ↔ world.sockets id = none) ∧
      after.wire = world.wire ++ [⟨client.sendChannel, .response (.join gameId true true)⟩] := by
  let self := ctx.localClient client nickname
  let game := Game.new true gameId self self
  let recorded := world.set (gameKey gameId) (.game ⟨ctx.shardId, ctx.clientId⟩)
  have reads : ctx.runSection world .receive = .goto world (.joinSet gameId) := by
    rw [receive_join healthy asks found vacant identified]
    simp [joinRead, healthy .joinGet, empty]
  have publishes : ctx.runSection world (.joinSet gameId) = .goto recorded (.joinHost gameId) := by
    simp [runSection, joinSet, healthy .joinSet, recorded]
  have opens : ctx.runSection recorded (.joinHost gameId) =
      .reply (recorded.put ctx.clientId { client with game := some game }) client.sendChannel
        (.join gameId true true) (.ok ()) := by
    simp [runSection, joinHost, recorded, found, identified,
      World.setGame_vacant ctx.oracle vacant, game, self]
  refine ⟨_, .goto reads (.goto publishes (.reply opens hears)), ?_, ?_, ?_⟩
  · intro key present
    by_cases same : key = gameKey gameId
    · simp [recorded, same]
    · simpa [recorded, same] using present
  · intro id
    by_cases same : id = ctx.clientId
    · subst same
      simp [found]
    · simp [recorded, same]
  · simp [World.send, recorded, hears]

omit healthy asks identified in
/-- Admitted or not, the client is answered, and keeps its entry. -/
theorem handles_joinEnter {hostId : Uuid} {hostNickname : String} {hostChannel : SocketSender}
    (hears : world.closed client.sendChannel = false) (isPublic : Bool) :
    ∃ after, ctx.Handles world (.joinEnter gameId hostId hostNickname hostChannel nickname isPublic)
        (.ok ()) after ∧ after.redis = world.redis ∧
      (∀ id, after.sockets id = none ↔ world.sockets id = none) ∧
      after.wire = world.wire ++ [⟨client.sendChannel, .response (.join gameId false isPublic)⟩] := by
  cases isPublic with
  | false =>
    have refuses : ctx.runSection world (.joinEnter gameId hostId hostNickname hostChannel nickname
        false) = .reply world client.sendChannel (.join gameId false false) (.ok ()) := by
      simp [runSection, joinEnter, found]
    exact ⟨_, .reply refuses hears, World.send_redis _, fun id => by rw [World.send_sockets],
      by simp [World.send, hears]⟩
  | true =>
    let game := Game.new false gameId (ctx.localClient client nickname)
      (.new hostId hostNickname ctx.shardId true (some hostChannel))
    have admits : ctx.runSection world (.joinEnter gameId hostId hostNickname hostChannel nickname
        true) = .reply (world.put ctx.clientId { client with game := some game }) client.sendChannel
          (.join gameId false true) (.ok ()) := by
      simp [runSection, joinEnter, found, World.setGame_vacant ctx.oracle vacant, game]
    refine ⟨_, .reply admits hears, World.send_redis _, fun id => ?_, by simp [World.send, hears]⟩
    by_cases same : id = ctx.clientId
    · subst same
      simp [found]
    · simp [same]

omit healthy asks found vacant identified in
/-- The host's game answers a newcomer by whether it is public. -/
theorem joinRegister_hosted {hostId : Uuid} {hostClient : SocketClient} {hosted : Game}
    {hostNickname : String} (valid : hosted.Valid hostId) (host : hosted.isHost = true)
    (present : world.sockets hostId = some hostClient) (playing : hostClient.game = some hosted)
    (hostNamed : hostClient.nickname = some hostNickname) {channel : SocketSender}
    (wired : channel = ctx.clientId) : ∃ game sent,
      (ctx.runSection world (.joinRegister gameId hostId nickname channel)).next =
        .goto (.joinEnter gameId hostId hostNickname hostClient.sendChannel nickname
          hosted.isPublic) ∧
      (ctx.runSection world (.joinRegister gameId hostId nickname channel)).final =
        (world.put hostId { hostClient with game := some game }).deliver sent := by
  let newcomer := PartialClient.new ctx.clientId nickname ctx.shardId true (some channel)
  have own : newcomer.Own := ⟨rfl, by simp [newcomer, PartialClient.new, wired]⟩
  let registered := hosted.register ctx.oracle.order world.closed newcomer
  refine ⟨registered.1, registered.2.sent, ?_⟩
  simp only [runSection, joinRegister, present, hostNamed, playing]
  refine ⟨?_, by simp only [registered, newcomer]⟩
  rcases valid.register_cases ctx.oracle.order world.closed own with
    ⟨refused, same⟩ | ⟨-, openTo, roster, -, -, same, exit⟩
  · have shut : hosted.isPublic = false := by simpa [host] using refused
    simp only [newcomer] at same
    simp [same, shut]
  · simp only [newcomer] at same exit
    simp [same, exit, openTo]

/-- A host's game takes the joining client in exactly while it is public. -/
theorem handles_join_hosted {hostId : Uuid} {hosted : Game} (valid : world.Valid)
    (hears : world.closed client.sendChannel = false)
    (record : world.redis (gameKey gameId) = some (.game ⟨ctx.shardId, hostId⟩))
    (held : world.gameAt hostId = some hosted) (host : hosted.isHost = true) :
    ∃ after sent, ctx.Handles world .receive (.ok ()) after ∧ after.redis = world.redis ∧
      (∀ id, after.sockets id = none ↔ world.sockets id = none) ∧
      after.wire = world.wire ++ sent ++
        [⟨client.sendChannel, .response (.join gameId false hosted.isPublic)⟩] := by
  obtain ⟨hostClient, present, playing⟩ := World.gameAt_entry held
  obtain ⟨hostNamed, hostValid⟩ := (valid _ _ present).playing hosted playing
  obtain ⟨hostNickname, hostNamed⟩ := Option.isSome_iff_exists.mp hostNamed
  have apart : ctx.clientId ≠ hostId := by
    rintro rfl
    obtain rfl : client = hostClient := Option.some.inj (found.symm.trans present)
    cases vacant.symm.trans playing
  have reads : ctx.runSection world .receive =
      .goto world (.joinRegister gameId hostId nickname client.sendChannel) := by
    rw [receive_join healthy asks found vacant identified]
    simp [joinRead, healthy .joinGet, record]
  obtain ⟨game, sent, goes, greets⟩ := @joinRegister_hosted ctx world gameId nickname hostId
    hostClient hosted hostNickname hostValid host present playing hostNamed client.sendChannel
    (valid _ _ found).wired
  let greeted := (world.put hostId { hostClient with game := some game }).deliver sent
  have still : greeted.sockets ctx.clientId = some client := by
    simp [greeted, apart, found]
  have entries : ∀ id, greeted.sockets id = none ↔ world.sockets id = none := by
    intro id
    by_cases same : id = hostId
    · subst same
      simp [greeted, present]
    · simp [greeted, same]
  obtain ⟨after, enters, redis, keys, wire⟩ := @handles_joinEnter ctx greeted client gameId nickname
    still vacant hostId hostNickname hostClient.sendChannel hears hosted.isPublic
  exact ⟨after, sent, .goto reads (.next goes (greets ▸ enters)), redis,
    fun id => (keys id).trans (entries id), wire⟩

end Joins

end Ctx

namespace Cluster

variable {fault : Prop} {shardId : ShardId} {cluster before middle after : Cluster} {action : Action}
  {known : Set Party} {party : Party} {oracle : Oracle} {model : DefaultModel}
  {exit : Exit ClientError Unit} {gameId : String}

/-- An idle connection takes a message, and its handler runs to its end undisturbed. -/
structure Serves (cluster : Cluster) (party : Party) (oracle : Oracle) (model : DefaultModel)
    (exit : Exit ClientError Unit) (after : Cluster) : Prop where
  idle : (cluster.node party.shardId).reader party.id = .idle
  handles : ∃ world, (cluster.ctx party oracle model).Handles (cluster.world party.shardId)
      .receive exit world ∧
    after = cluster.update party world (.after (handledResult exit))

theorem handles_run {world after : World} {pc : Pc}
    (busy : (cluster.node party.shardId).reader party.id = .busy oracle model pc)
    (same : cluster.world party.shardId = world)
    (handles : (cluster.ctx party oracle model).Handles world pc exit after) : ∃ sections,
      run step cluster (List.replicate sections ⟨party, .advance⟩) =
        some (cluster.update party after (.after (handledResult exit))) := by
  generalize context : cluster.ctx party oracle model = ctx at handles
  have stepped : ∀ {cluster : Cluster} {world : World} {pc : Pc},
      (cluster.node party.shardId).reader party.id = .busy oracle model pc →
      cluster.world party.shardId = world → cluster.ctx party oracle model = ctx →
      cluster.step ⟨party, .advance⟩ = some (cluster.update party (ctx.runSection world pc).final
        (nextReader oracle model (ctx.runSection world pc).next)) := by
    rintro cluster world pc busy rfl rfl
    exact step_advance busy
  induction handles generalizing cluster with
  | last done =>
    refine ⟨1, ?_⟩
    simp [run, stepped busy same context, done, nextReader]
  | next goes _ ih =>
    obtain ⟨sections, ran⟩ := ih (update_reader ..) (update_world ..)
      ((update_ctx oracle model).trans context)
    refine ⟨sections + 1, ?_⟩
    rw [List.replicate_succ, run, stepped busy same context, goes, Option.bind_some, nextReader]
    rw [ran, update_update]

theorem Serves.run (serves : cluster.Serves party oracle model exit after) {frame : Frame}
    (parses : frame.model? = some model) : ∃ sections,
      run step cluster (⟨party, .frame frame oracle⟩ ::
        List.replicate sections ⟨party, .advance⟩) = some after := by
  obtain ⟨world, handles, rfl⟩ := serves.handles
  have taken : cluster.step ⟨party, .frame frame oracle⟩ = some (cluster.update party
      (cluster.world party.shardId) (.busy oracle model .receive)) := by
    simp [step, serves.idle, parses]
  obtain ⟨sections, ran⟩ := handles_run (update_reader ..) (update_world ..)
    ((update_ctx oracle model) ▸ handles)
  refine ⟨sections, ?_⟩
  rw [Transition.run, taken, Option.bind_some, ran, update_update]

theorem Serves.unique {other : Exit ClientError Unit} {later : Cluster}
    (first : cluster.Serves party oracle model exit after)
    (second : cluster.Serves party oracle model other later) : exit = other ∧ after = later := by
  obtain ⟨world, handles, rfl⟩ := first.handles
  obtain ⟨_, also, rfl⟩ := second.handles
  obtain ⟨rfl, rfl⟩ := handles.unique also
  exact ⟨rfl, rfl⟩

/-- Only this process acts, no channel is severed, and a new connection has an id that no
record of another process names. -/
structure OneProcess (shardId : ShardId) (before : Cluster) (action : Action) (_ : Cluster) :
    Prop where
  here : action.party.shardId = shardId
  listening : action.kind ≠ .sever
  unnamed : action.kind = .connect → ∀ gameId record,
    before.redis (gameKey gameId) = some (.game record) → record.shardId ≠ shardId →
      record.hostId ≠ action.party.id

/-- A client asks whether the game exists, and is answered. -/
structure Answers (cluster : Cluster) (party : Party) (gameId : String) (answer : Bool)
    (after : Cluster) : Prop where
  asks : ∃ oracle model, oracle.Healthy ∧ model.Asks .exists gameId ∧
    cluster.Serves party oracle model (.ok ()) after
  answer : (after.world party.shardId).wire =
    (cluster.world party.shardId).wire ++ [⟨party.id, .response (.exists answer)⟩]

/-- The client has introduced itself, is in no game and may send a message. -/
structure Ready (cluster : Cluster) (party : Party) : Prop where
  idle : (cluster.node party.shardId).reader party.id = .idle
  entry : ∃ client nickname, (cluster.world party.shardId).sockets party.id = some client ∧
    client.game = none ∧ client.nickname = some nickname

/-- What the record has in store for a Join: the host's place, or one in the game of the
recorded host while that is public. -/
def Offers (cluster : Cluster) (shardId : ShardId) (gameId : String) (isHost success : Bool) : Prop :=
  (cluster.redis (gameKey gameId) = some (.text "") ∧ isHost = true ∧ success = true) ∨
    ∃ hostId hosted, cluster.redis (gameKey gameId) = some (.game ⟨shardId, hostId⟩) ∧
      (cluster.world shardId).gameAt hostId = some hosted ∧ isHost = false ∧
      success = hosted.isPublic

/-- A Join right after an Exists does what the answer says. -/
structure Agrees (shardId : ShardId) (cluster : Cluster) : Prop where
  /-- It succeeds or is refused as the record offers, and deletes nothing. -/
  found : ∀ (asker joiner : Uuid) gameId middle,
    cluster.Answers ⟨shardId, asker⟩ gameId true middle → cluster.Ready ⟨shardId, joiner⟩ →
    ∀ oracle model, oracle.Healthy → model.Asks .join gameId →
    ∃ after isHost success sent, middle.Serves ⟨shardId, joiner⟩ oracle model (.ok ()) after ∧
      (after.world shardId).wire = (middle.world shardId).wire ++ sent ++
        [⟨joiner, .response (.join gameId isHost success)⟩] ∧
      middle.Offers shardId gameId isHost success ∧
      (∀ key, middle.redis key ≠ none → after.redis key ≠ none) ∧
      ∀ id, (after.world shardId).sockets id = none ↔ (middle.world shardId).sockets id = none
  /-- There is no game, and nothing changes. -/
  missing : ∀ (asker joiner : Uuid) gameId middle,
    cluster.Answers ⟨shardId, asker⟩ gameId false middle → cluster.Ready ⟨shardId, joiner⟩ →
    ∀ oracle model, oracle.Healthy → model.Asks .join gameId →
    ∃ after, middle.Serves ⟨shardId, joiner⟩ oracle model (.err .noGameWasFound) after ∧
      (after.world shardId).sockets = (middle.world shardId).sockets ∧
      after.redis = middle.redis

/-- What Exists and Join rely on: whoever a record names hosts the game here, or has no
entry here, and every channel is open. -/
structure Settled (shardId : ShardId) (cluster : Cluster) : Prop where
  entries : (cluster.world shardId).Valid
  present : ∀ id, (cluster.node shardId).reader id = .idle →
    (cluster.world shardId).sockets id ≠ none
  hears : ∀ id, (cluster.world shardId).closed id = false
  hosts : ∀ gameId host, cluster.redis (gameKey gameId) = some (.game host) →
    (cluster.world shardId).sockets host.hostId = none ∨ (host.shardId = shardId ∧
      ∃ hosted, (cluster.world shardId).gameAt host.hostId = some hosted ∧ hosted.isHost = true)

/-- What Exists leaves behind it. -/
structure Leaves (shardId : ShardId) (cluster : Cluster) (gameId : String) (answer : Bool)
    (after : Cluster) : Prop where
  sockets : (after.world shardId).sockets = (cluster.world shardId).sockets
  closed : (after.world shardId).closed = (cluster.world shardId).closed
  reader : ∀ id, (after.node shardId).reader id = .idle ↔ (cluster.node shardId).reader id = .idle
  yes : answer = true → after.redis = cluster.redis ∧
    (cluster.redis (gameKey gameId) = some (.text "") ∨ ∃ record,
      cluster.redis (gameKey gameId) = some (.game record) ∧
        (cluster.world shardId).sockets record.hostId ≠ none)
  no : answer = false → after.redis (gameKey gameId) = none

/-- Exists only looks, or deletes the record it misses the host of. -/
theorem Answers.leaves {answer : Bool} (settled : cluster.Settled party.shardId)
    (answers : cluster.Answers party gameId answer middle) :
    cluster.Leaves party.shardId gameId answer middle := by
  obtain ⟨oracle, model, healthy, asks, serves⟩ := answers.asks
  obtain ⟨world, handles, rfl⟩ := serves.handles
  obtain ⟨client, found⟩ := Option.ne_none_iff_exists'.mp (settled.present _ serves.idle)
  have hears := settled.hears client.sendChannel
  have outcome := @Ctx.handles_exists (cluster.ctx party oracle model)
    (cluster.world party.shardId) client gameId healthy asks found hears
  rcases outcome with ⟨error, fails⟩ | ⟨said, kept, finds, replies⟩
  · cases (handles.unique fails).1
  · obtain ⟨-, rfl⟩ := handles.unique replies
    have told := answers.answer
    have open_ : kept.closed client.sendChannel = false := by rw [finds.closed, hears]
    rw [update_world] at told
    obtain ⟨-, rfl⟩ : client.sendChannel = party.id ∧ said = answer := by
      simpa [World.send, open_, finds.wire] using told
    refine ⟨?_, ?_, fun id => ?_, fun yes => ?_, fun no => ?_⟩
    · rw [update_world, World.send_sockets, finds.sockets]
    · rw [update_world, World.send_closed, finds.closed]
    · by_cases same : id = party.id
      · subst same
        rw [update_reader]
        exact iff_of_true rfl serves.idle
      · rw [update_reader_of_ne _ _ _ _ same]
    · obtain ⟨redis, record⟩ := finds.yes yes
      exact ⟨(World.send_redis kept).trans redis, record⟩
    · exact (congrFun (World.send_redis kept) _).trans (finds.no no)

theorem Leaves.ready {answer : Bool} (leaves : cluster.Leaves party.shardId gameId answer middle)
    (ready : cluster.Ready party) : middle.Ready party := by
  obtain ⟨idle, entry⟩ := ready
  exact ⟨(leaves.reader party.id).mpr idle, by rwa [leaves.sockets]⟩

theorem Leaves.settled (leaves : cluster.Leaves shardId gameId true middle)
    (settled : cluster.Settled shardId) : middle.Settled shardId where
  entries id client found := settled.entries id client (leaves.sockets ▸ found)
  present id idle := by
    rw [leaves.sockets]
    exact settled.present id ((leaves.reader id).mp idle)
  hears id := by
    rw [leaves.closed]
    exact settled.hears id
  hosts gameId host record := by
    rw [(leaves.yes rfl).1] at record
    simpa only [World.gameAt, leaves.sockets] using settled.hosts gameId host record

theorem Ready.misses (ready : cluster.Ready party) (healthy : oracle.Healthy)
    (asks : model.Asks .join gameId) (missing : cluster.redis (gameKey gameId) = none) :
    ∃ after, cluster.Serves party oracle model (.err .noGameWasFound) after ∧
      (after.world party.shardId).sockets = (cluster.world party.shardId).sockets ∧
      after.redis = cluster.redis := by
  obtain ⟨idle, client, nickname, found, vacant, identified⟩ := ready
  have refused := @Ctx.handles_join_missing (cluster.ctx party oracle model)
    (cluster.world party.shardId) client gameId nickname healthy asks found vacant identified missing
  refine ⟨_, ⟨idle, _, refused, rfl⟩, ?_, World.send_redis _⟩
  rw [update_world, World.send_sockets]

/-- With a record of its own a Join has its place, or one in the host's game if that is public. -/
theorem Settled.joins (settled : cluster.Settled party.shardId) (ready : cluster.Ready party)
    (healthy : oracle.Healthy) (asks : model.Asks .join gameId)
    (record : cluster.redis (gameKey gameId) = some (.text "") ∨ ∃ record,
      cluster.redis (gameKey gameId) = some (.game record) ∧
        (cluster.world party.shardId).sockets record.hostId ≠ none) :
    ∃ after isHost success sent, cluster.Serves party oracle model (.ok ()) after ∧
      (after.world party.shardId).wire = (cluster.world party.shardId).wire ++ sent ++
        [⟨party.id, .response (.join gameId isHost success)⟩] ∧
      cluster.Offers party.shardId gameId isHost success ∧
      (∀ key, cluster.redis key ≠ none → after.redis key ≠ none) ∧
      ∀ id, (after.world party.shardId).sockets id = none ↔
        (cluster.world party.shardId).sockets id = none := by
  obtain ⟨idle, client, nickname, found, vacant, identified⟩ := ready
  have wired := (settled.entries _ client found).wired
  have hears := settled.hears client.sendChannel
  rcases record with empty | ⟨⟨hostShard, hostId⟩, record, present⟩
  · obtain ⟨world, handles, redis, entries, wire⟩ := @Ctx.handles_join_empty
      (cluster.ctx party oracle model) (cluster.world party.shardId) client gameId nickname
      healthy asks found vacant identified hears empty
    refine ⟨_, true, true, [], ⟨idle, _, handles, rfl⟩, ?_, .inl ⟨empty, rfl, rfl⟩, redis, ?_⟩
    · rw [update_world, wire, wired, List.append_nil]
    · rw [update_world]
      exact entries
  · rcases settled.hosts gameId _ record with missing | ⟨here, hosted, held, host⟩
    · exact absurd missing present
    · subst here
      obtain ⟨world, sent, handles, redis, entries, wire⟩ := @Ctx.handles_join_hosted
        (cluster.ctx party oracle model) (cluster.world party.shardId) client gameId nickname
        healthy asks found vacant identified hostId hosted settled.entries hears record held host
      refine ⟨_, false, hosted.isPublic, sent, ⟨idle, _, handles, rfl⟩, ?_,
        .inr ⟨hostId, hosted, record, held, rfl, rfl⟩, ?_, ?_⟩
      · rw [update_world, wire, wired]
      · intro key present
        exact (congrFun redis key).trans_ne present
      · rw [update_world]
        exact entries

theorem Settled.agrees (settled : cluster.Settled shardId) : cluster.Agrees shardId where
  found asker joiner gameId middle answers ready oracle model healthy asks := by
    have leaves := @Answers.leaves cluster middle ⟨shardId, asker⟩ gameId true settled answers
    have still := @Leaves.ready cluster middle ⟨shardId, joiner⟩ gameId true leaves ready
    obtain ⟨redis, record⟩ := leaves.yes rfl
    rw [← redis, ← leaves.sockets] at record
    exact @Settled.joins middle ⟨shardId, joiner⟩ oracle model gameId (leaves.settled settled) still
      healthy asks record
  missing asker joiner gameId middle answers ready oracle model healthy asks := by
    have leaves := @Answers.leaves cluster middle ⟨shardId, asker⟩ gameId false settled answers
    have still := @Leaves.ready cluster middle ⟨shardId, joiner⟩ gameId false leaves ready
    exact still.misses healthy asks (leaves.no rfl)

theorem step_record {host : RedisGame} (sound : before.Sound fault known)
    (healthy : ¬ fault → action.Healthy) (stepped : before.step action = some after)
    (record : after.redis (gameKey gameId) = some (.game host)) :
    before.redis (gameKey gameId) = some (.game host) ∨ host.shardId = action.party.shardId := by
  let owner : Party := ⟨host.shardId, host.hostId⟩
  have named : after.lobby.record gameId = some (some owner) := record_iff.mpr record
  rcases (sound.move healthy stepped).named named with earlier | ⟨own, -⟩
  · exact .inl (record_iff.mp earlier)
  · exact .inr (congrArg Party.shardId own)

/-- A record of another process names nobody who has an entry here. -/
def Strangers (shardId : ShardId) (cluster : Cluster) : Prop :=
  ∀ gameId host, cluster.redis (gameKey gameId) = some (.game host) → host.shardId ≠ shardId →
    (cluster.node shardId).phase host.hostId = .unborn

theorem Strangers.step (strangers : before.Strangers shardId) (sound : before.Sound fault known)
    (healthy : ¬ fault → action.Healthy) (stepped : before.step action = some after)
    (one : OneProcess shardId before action after) : after.Strangers shardId := by
  intro gameId host record elsewhere
  rcases step_record sound healthy stepped record with earlier | own
  · have unborn := strangers gameId host earlier elsewhere
    rcases step_phase stepped ⟨shardId, host.hostId⟩ with same | ⟨own, connects | ⟨oracle, accepts⟩⟩
    · exact same.trans unborn
    · exact absurd (congrArg Party.id own) (one.unnamed connects gameId host earlier elsewhere)
    · obtain ⟨acting, kind⟩ := action
      subst own accepts
      simp [Cluster.step, unborn, acceptStep] at stepped
  · exact absurd (own.trans one.here) elsewhere

theorem Sound.settled (sound : cluster.Sound False (shard shardId))
    (strangers : cluster.Strangers shardId) (hears : ∀ id, (cluster.world shardId).closed id = false)
    (quiet : ∀ id, ((cluster.node shardId).reader id).isBusy = false) : cluster.Settled shardId where
  entries := sound.valid.entries shardId
  present id idle := by
    refine present_iff.mp (sound.coherent.awake not_false ⟨shardId, id⟩ ?_ ?_) <;>
      simp [lobby_stage, idle, Reader.stage]
  hears := hears
  hosts gameId host record := by
    by_cases here : host.shardId = shardId
    · obtain ⟨-, hosts | opens | ⟨fault, -⟩⟩ := sound.coherent.recorded ⟨host.shardId, host.hostId⟩
        here gameId (record_iff.mpr record)
      · obtain ⟨game, held, isHost, -⟩ := hosts_iff.mp hosts
        exact .inr ⟨here, game, here ▸ held, isHost⟩
      · obtain ⟨oracle, model, pc, busy, -⟩ := busy_of_stage opens (by simp [Stage.Resting])
        have rests := quiet host.hostId
        simp [← here, busy, Reader.isBusy] at rests
      · exact fault.elim
    · have unborn := strangers gameId host record here
      exact .inl ((sound.valid.orderly ⟨shardId, host.hostId⟩).unborn unborn).2

/-- On one process whose Redis does not fail, whatever runs interleave: once they are all
finished, a Join right after an Exists does what the answer says. -/
theorem exists_join_agree (shardId : ShardId) (cluster : Cluster)
    (reached : Reach (Started shardId) (healthySteps.when (OneProcess shardId)) cluster)
    (quiet : ∀ id, ((cluster.node shardId).reader id).isBusy = false) :
    cluster.Agrees shardId := by
  have sound : ∀ cluster, Reach (Started shardId) (healthySteps.when (OneProcess shardId)) cluster →
      cluster.Sound False (shard shardId) := fun _ => reached_healthy fun _ _ _ step => step.1
  have settled : cluster.Strangers shardId ∧
      ∀ id, (cluster.world shardId).closed id = false := by
    clear quiet
    induction reached with
    | start started =>
      obtain ⟨tasks, fresh⟩ := started.1 shardId
      constructor
      · intro gameId host _ _
        simp [fresh, Node.fresh]
      · intro id
        simp [Cluster.world, fresh, Node.fresh, Node.world]
    | next earlier step ih =>
      have known := sound _ earlier
      refine ⟨ih.1.step known (fun _ => step.1.2) step.1.1 step.2, fun id => ?_⟩
      rw [step_closed known step.1.1 step.2.listening]
      exact ih.2 id
  exact ((sound cluster reached).settled settled.1 settled.2 quiet).agrees

/-- Two connections of one process act, and no channel is severed. -/
def twoHere (shardId : ShardId) (_ : Cluster) (action : Action) : Bool :=
  let who : List Party := [⟨shardId, 1⟩, ⟨shardId, 2⟩]
  match action.kind with
  | .sever => false
  | _ => decide action.Healthy && decide (action.party ∈ who)

theorem twoHere_iff (guards : twoHere shardId before action = true) :
    action.kind ≠ .sever ∧ action.Healthy ∧ action.party ∈ [⟨shardId, 1⟩, (⟨shardId, 2⟩ : Party)] := by
  unfold twoHere at guards
  split at guards
  · cases guards
  · rename_i unsevered
    exact ⟨unsevered, by simpa using guards⟩

def waits (shardId : ShardId) (cluster : Cluster) (id : Uuid) : Bool :=
  match (cluster.node shardId).reader id with
  | .idle => true
  | _ => false

theorem waits_iff {id : Uuid} : cluster.waits shardId id = true ↔
    (cluster.node shardId).reader id = .idle := by
  unfold waits
  split <;> simp_all

/-- The process has just started, and every record is its own. -/
structure StartsAlone (shardId : ShardId) (cluster : Cluster) : Prop where
  started : Started shardId cluster
  own : ∀ gameId host, cluster.redis (gameKey gameId) = some (.game host) → host.shardId = shardId

theorem only_own {guard : Cluster → Action → Bool}
    (here : ∀ before action, guard before action = true → action.party.shardId = shardId)
    (reached : Reach (StartsAlone shardId) (turns.when (checks guard)) cluster) :
    ∀ gameId host, cluster.redis (gameKey gameId) = some (.game host) → host.shardId = shardId := by
  have sound : ∀ cluster, Reach (StartsAlone shardId) (turns.when (checks guard)) cluster →
      cluster.Sound True ∅ := fun _ earlier =>
    reached_sound (fun _ initial => initial.started.1.apart)
      (fun _ _ _ step => ⟨step.1.1, Action.failing⟩) earlier
  induction reached with
  | start initial => exact initial.own
  | next earlier step ih =>
    intro gameId host record
    rcases step_record (sound _ earlier) Action.failing step.1.1 record with before | own
    · exact ih gameId host before
    · exact own.trans (here _ _ step.2)

theorem exists_join_agree_pair : ∃ cluster : Cluster, cluster.Agrees "b" ∧
    cluster.redis (gameKey "17") = some (.game ⟨"b", 1⟩) ∧ cluster.Ready ⟨"b", 2⟩ := by
  let host : Party := ⟨"b", 1⟩
  let oracle := Oracle.calm "17"
  have initial : StartsAlone "b" (launch emptyRedis []) :=
    ⟨started_empty "b" [], by simp [launch, emptyRedis]⟩
  obtain ⟨cluster, reached, seen⟩ := session_shows initial
    (show ((launch emptyRedis []).play
      (fun before action => !decide action.lapses && twoHere "b" before action)
      (host.enters oracle ++ Party.enters ⟨"b", 2⟩ oracle ++ host.creates oracle ++
        host.hosts oracle "17")).bind (fun cluster =>
          ((cluster.world "b").sockets 2).map fun client =>
            (cluster.redis (gameKey "17"), client.game.isNone, client.nickname,
              cluster.waits "b" 1, cluster.waits "b" 2)) =
          some (some (.game ⟨"b", 1⟩), true, some "n", true, true) by decide +kernel)
  obtain ⟨client, found, shown⟩ := Option.map_eq_some_iff.mp seen
  simp only [Prod.mk.injEq, waits_iff, Option.isNone_iff_eq_none] at shown
  obtain ⟨record, vacant, nickname, first, second⟩ := shown
  have member : ∀ before action, twoHere "b" before action = true →
      action.party ∈ [⟨"b", 1⟩, (⟨"b", 2⟩ : Party)] := fun _ _ guards => (twoHere_iff guards).2.2
  have here : ∀ before action, twoHere "b" before action = true → action.party.shardId = "b" := by
    intro before action guards
    rcases List.mem_pair.mp (member before action guards) with own | own <;> rw [own]
  have one : Reach (Started "b") (healthySteps.when (OneProcess "b")) cluster := by
    refine (reached.mono fun before action after earlier step => ?_).widen fun _ alone => alone.started
    obtain ⟨unsevered, healthy, -⟩ := twoHere_iff step.2
    exact ⟨⟨step.1.1, healthy⟩, here _ _ step.2, unsevered, fun _ gameId record named elsewhere =>
      absurd (only_own here earlier gameId record named) elsewhere⟩
  have quiet : ∀ id, ((cluster.node "b").reader id).isBusy = false := by
    intro id
    by_cases acts : (⟨"b", id⟩ : Party) ∈ [⟨"b", 1⟩, (⟨"b", 2⟩ : Party)]
    · rcases List.mem_pair.mp acts with own | own
      · obtain rfl : id = 1 := congrArg Party.id own
        simp [first, Reader.isBusy]
      · obtain rfl : id = 2 := congrArg Party.id own
        simp [second, Reader.isBusy]
    · have started := reached.widen fun _ alone => alone.started
      simp [(reached_unborn member started ⟨"b", id⟩ acts).1, Reader.isBusy]
  exact ⟨cluster, exists_join_agree "b" cluster one quiet, record, second, client, "n", found,
    vacant, nickname⟩

end Cluster

end Grass
