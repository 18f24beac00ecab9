import Grass.Refinement.Join

namespace Grass

open Lobby

variable {fault : Prop} {intent : Intent String} {cluster : Cluster} {ctx : Ctx} {world : World}

theorem Lobby.Unseat.mono {P G : Type} [DecidableEq P] [DecidableEq G]
    {ends lossy always wider : Prop} {party : P} {before after : Lobby P G}
    (unseat : Unseat ends lossy party before after) (ending : ends → always)
    (losing : lossy → wider) : Unseat always wider party before after := by
  cases unseat with
  | empty vacant result => exact .empty vacant result
  | guest game host taken result => exact .guest game host taken result
  | host willing game members taken result => exact .host (ending willing) game members taken result
  | lost willing loses game members taken result =>
    exact .lost (ending willing) (losing loses) game members taken result

namespace Ctx

/-- Taking the game out of the client's entry and dropping it is a quit. -/
theorem takeGame_quits (ready : ctx.Ready fault cluster .receive) {client : SocketClient}
    {game : Game} (found : (cluster.world ctx.shardId).sockets ctx.clientId = some client)
    (playing : client.game = some game) :
    ∃ after exit, ctx.takeGame (cluster.world ctx.shardId) client game = (after, exit) ∧
      (cluster.world ctx.shardId).Leads after ∧
      ∀ (intent : Intent String) (stage : Stage Party String),
        (game.isHost = true → intent.ends) → stage.Final intent.lapses →
        (exit = .panic → stage = .retired) →
        Move (Cluster.rules fault) intent ctx.party cluster.lobby
          (cluster.moved ctx.party after stage) := by
  have idle : cluster.lobby.stage ctx.party = .idle := ready.stage
  have clientValid := ready.world _ _ found
  have taken : (cluster.world ctx.shardId).Leads
      ((cluster.world ctx.shardId).put ctx.clientId { client with game := none }) :=
    (World.Leads.refl ready.world).put found (.playing _)
      ⟨clientValid.named, clientValid.wired, fun _ held => by cases held⟩
  have willing : ∀ held, client.game = some held → held.isHost = true → game.isHost = true := by
    intro held same host
    obtain rfl : game = held := by simpa [playing] using same
    exact host
  obtain ⟨after, exit, dropped, leads, -, unseated, unseat, seats, records, stages, presence⟩ :=
    Cluster.unseat ctx.party ready.world ready.healthy found taken.valid rfl
      (fun _ => Cluster.moved_seat_put (World.places_put ..)) willing
  rw [playing] at dropped
  refine ⟨after, exit, dropped, taken.trans leads, fun intent stage ending final panicked => ?_⟩
  refine .quit stage (.inl ⟨idle, final⟩) unseated
    (unseat.mono ending fun lost => ⟨lost.1, panicked lost.2⟩) ?_
  refine Lobby.ext (seats stage) records ?_ ?_
  · rw [stages]
    rfl
  · exact (Cluster.moved_present (taken.trans leads)).trans presence.symm

theorem handleLeave_sound (ready : ctx.Ready fault cluster .receive) (ends : intent.ends) :
    (ctx.handleLeave (cluster.world ctx.shardId)).Sound fault intent cluster ctx := by
  have idle : cluster.lobby.stage ctx.party = .idle := ready.stage
  have free : ¬ (cluster.lobby.stage ctx.party).Bound := by simp [idle, Stage.Bound]
  unfold handleLeave
  split
  · exact (Section.Quiet.panic (.refl ready.world)).sound free
  · rename_i client found
    split
    · exact (Section.Quiet.refuse (.refl ready.world) ..).sound free
    · rename_i game playing
      obtain ⟨after, exit, taken, leads, quits⟩ := takeGame_quits ready found playing
      simp only [taken]
      refine .stop leads (quits intent _ (fun _ => ends) ?_ ?_)
      · rcases Next.handled_stage exit ctx.shardId with idle | retired
        · exact .inl idle
        · exact .inr (.inr retired)
      · rintro rfl
        rfl

/-- A Start by a participant that is not the host makes it leave. -/
theorem handleStart_sound (ready : ctx.Ready fault cluster .receive) (d : Option Value) :
    (ctx.handleStart (cluster.world ctx.shardId) d).Sound fault intent cluster ctx := by
  have idle : cluster.lobby.stage ctx.party = .idle := ready.stage
  have free : ¬ (cluster.lobby.stage ctx.party).Bound := by simp [idle, Stage.Bound]
  unfold handleStart
  split
  · exact (Section.Quiet.panic (.refl ready.world)).sound free
  · rename_i client found
    split
    · exact (Section.Quiet.refuse (.refl ready.world) ..).sound free
    · rename_i game playing
      split
      · exact (startHosted_quiet ready.world found playing d).sound free
      · rename_i guest
        obtain ⟨after, exit, taken, leads, quits⟩ := takeGame_quits ready found playing
        simp only [taken]
        cases exit with
        | panic =>
          exact .stop leads (quits intent .retired (fun host => absurd host guest)
            (.inr (.inr rfl)) fun _ => rfl)
        | ok | err =>
          exact .answer leads fun intent stage final =>
            quits intent stage (fun host => absurd host guest) final (by simp)

theorem handleCreate_sound (ready : ctx.Ready fault cluster .receive) (d : Option Value)
    (draws : intent.draws ctx.oracle.gameId) :
    (ctx.handleCreate (cluster.world ctx.shardId) d).Sound fault intent cluster ctx := by
  have idle : cluster.lobby.stage ctx.party = .idle := ready.stage
  have free : ¬ (cluster.lobby.stage ctx.party).Bound := by simp [idle, Stage.Bound]
  have still : (cluster.world ctx.shardId).Still ctx.shardId (cluster.world ctx.shardId) :=
    .refl ready.world
  unfold handleCreate
  split
  · exact (Section.Quiet.panic still).sound free
  · split
    · exact (Section.Quiet.fail still _).sound free
    · split
      · exact (Section.Quiet.fail still _).sound free
      · refine .goto (still.leads.same rfl) (.create ctx.oracle.gameId idle draws ?_) trivial
        rw [ready.stored]
        simp [RedisValue.names, Pc.stage, ← idle]

theorem existsRead_sound (ready : ctx.Ready fault cluster .receive) (gameId : String) :
    (ctx.existsRead (cluster.world ctx.shardId) gameId).Sound fault intent cluster ctx := by
  have idle : cluster.lobby.stage ctx.party = .idle := ready.stage
  have free : ¬ (cluster.lobby.stage ctx.party).Bound := by simp [idle, Stage.Bound]
  have leads : (cluster.world ctx.shardId).Leads (cluster.world ctx.shardId) := .refl ready.world
  unfold existsRead
  split
  · rename_i missed
    refine .goto leads (.answer gameId false idle ?_ (ready.unchanged _)) trivial
    simp only [Bool.false_eq_true, ↓reduceIte]
    split at missed
    · rename_i fails
      refine .inr (by_contra fun calm => ?_)
      simp [ready.healthy calm .existsGet] at fails
    · refine .inl ?_
      have missing : cluster.redis (gameKey gameId) = none := missed
      simp [Cluster.lobby, Redis.records, missing]
  · rename_i text got
    have record := Cluster.lobby_record (fetched got)
    split
    · rename_i empty
      refine .goto leads (.answer gameId true idle ?_ (ready.unchanged _)) trivial
      simp [record, RedisValue.names, empty]
    · exact (Section.Quiet.fail (.refl ready.world) _).sound free
  · rename_i redisGame got
    have record := Cluster.lobby_record (fetched got)
    exact .goto leads (.read gameId ⟨redisGame.shardId, redisGame.hostId⟩ idle record
      (ready.unchanged _)) trivial

theorem handleExists_sound (ready : ctx.Ready fault cluster .receive) (d : Option Value) :
    (ctx.handleExists (cluster.world ctx.shardId) d).Sound fault intent cluster ctx := by
  have idle : cluster.lobby.stage ctx.party = .idle := ready.stage
  have free : ¬ (cluster.lobby.stage ctx.party).Bound := by simp [idle, Stage.Bound]
  have still : (cluster.world ctx.shardId).Still ctx.shardId (cluster.world ctx.shardId) :=
    .refl ready.world
  unfold handleExists
  split
  · exact (Section.Quiet.panic still).sound free
  · split
    · exact (Section.Quiet.fail still _).sound free
    · split
      · exact (Section.Quiet.fail still _).sound free
      · exact existsRead_sound ready _

theorem existsCheck_sound {gameId : String} {hostId : Uuid}
    (ready : ctx.Ready fault cluster (.existsCheck gameId hostId)) :
    (existsCheck (cluster.world ctx.shardId) gameId hostId).Sound fault intent cluster ctx := by
  have checking : cluster.lobby.stage ctx.party = .checking gameId ⟨ctx.shardId, hostId⟩ :=
    ready.stage
  have leads : (cluster.world ctx.shardId).Leads (cluster.world ctx.shardId) := .refl ready.world
  unfold existsCheck
  split
  · rename_i missing
    exact .goto leads (.condemn gameId _ checking (Cluster.lobby_absent missing)
      (ready.unchanged _)) trivial
  · rename_i client found
    exact .goto leads (.find gameId _ checking (Cluster.lobby_present found)
      (ready.unchanged _)) trivial

theorem existsPurge_sound {gameId : String}
    (ready : ctx.Ready fault cluster (.existsPurge gameId)) :
    (ctx.existsPurge (cluster.world ctx.shardId) gameId).Sound fault intent cluster ctx := by
  have condemning : cluster.lobby.stage ctx.party = .condemning gameId := ready.stage
  have leads : (cluster.world ctx.shardId).Leads (cluster.world ctx.shardId) := .refl ready.world
  unfold existsPurge
  split
  · rename_i fails
    refine .goto leads (.purgeLost ?_ gameId condemning (ready.unchanged _)) trivial
    exact by_contra fun calm => by simp [ready.healthy calm .existsDel] at fails
  · exact .goto (leads.same rfl) (.purge gameId condemning _ (.inr rfl) (ready.deleted ..)) trivial

/-! The timeout branch. -/

theorem returned_final {result : Exit ClientError Bool} {lapses : Prop} (shardId : ShardId) :
    ((Next.returned result).stage shardId).Final lapses := by
  rcases Next.returned_stage result shardId with idle | retired
  · exact .inl idle
  · exact .inr (.inr retired)

/-- A section without awaits after which the branch goes on, or is over. -/
theorem lapsed_sound {next : Next} (leads : (cluster.world ctx.shardId).Leads world)
    (move : Move (Cluster.rules fault) intent ctx.party cluster.lobby
      (cluster.moved ctx.party world (next.stage ctx.shardId)))
    (valid : next.Valid world ctx.clientId) :
    Section.Sound fault intent cluster ctx ⟨[], world, next⟩ where
  leads other member := by
    obtain rfl : other = world := by simpa using member
    exact leads
  move := move
  pause _ member := by simp at member
  next := valid

/-- Going on within the branch without a trace in the lobby. -/
theorem Ready.waits {pc : Pc} (ready : ctx.Ready fault cluster pc)
    (lapsing : pc.stage ctx.shardId = .lapsing)
    (still : (cluster.world ctx.shardId).Still ctx.shardId world) :
    Move (Cluster.rules fault) intent ctx.party cluster.lobby
      (cluster.moved ctx.party world .lapsing) := by
  refine .still ?_
  rw [Cluster.moved_still still, ← lapsing, ← ready.stage, Function.update_eq_self]

/-- The branch is over without a trace in the lobby. -/
theorem Ready.lapsed {pc : Pc} (ready : ctx.Ready fault cluster pc)
    (lapsing : pc.stage ctx.shardId = .lapsing) {result : Exit ClientError Bool}
    (still : (cluster.world ctx.shardId).Still ctx.shardId world) :
    Section.Sound fault intent cluster ctx ⟨[], world, .returned result⟩ := by
  refine lapsed_sound still.leads (.settle ?_ _ (returned_final ctx.shardId)
    (Cluster.moved_still still)) trivial
  simp [ready.stage, lapsing, Stage.Bound]

theorem timeoutClone_sound (ready : ctx.Ready fault cluster .timeoutClone) :
    (ctx.timeoutClone (cluster.world ctx.shardId)).Sound fault intent cluster ctx := by
  have still : (cluster.world ctx.shardId).Still ctx.shardId (cluster.world ctx.shardId) :=
    .refl ready.world
  unfold timeoutClone
  split
  · exact ready.lapsed rfl still
  · rename_i client found
    exact .goto still.leads (ready.waits rfl still) (ready.world _ _ found)

theorem timeoutReply_sound {clone : SocketClient}
    (ready : ctx.Ready fault cluster (.timeoutReply clone)) :
    (ctx.timeoutReply (cluster.world ctx.shardId) clone).Sound fault intent cluster ctx := by
  have current : (cluster.world ctx.shardId).Still ctx.shardId (cluster.world ctx.shardId) :=
    .refl ready.world
  have still := (current.send clone.sendChannel (.response (.timeout ctx.model))).same
    (World.announceDrop_sockets _ clone) (World.announceDrop_redis _ clone)
  have valid : clone.Valid ctx.clientId := ready.relies
  simp only [timeoutReply]
  cases playing : clone.game with
  | none => exact ready.lapsed rfl still
  | some game =>
    have gameValid := (valid.playing game playing).2
    by_cases host : game.isHost = true
    · simp only [host, ↓reduceIte]
      exact .goto still.leads (ready.waits rfl still) ⟨gameValid, host⟩
    · simp only [host, gameValid.host.isLocal, Bool.false_eq_true, ↓reduceIte]
      exact .goto still.leads (ready.waits rfl still) ⟨gameValid, by simpa using host⟩

theorem timeoutShutdown_sound {game : Game} {result : Exit ClientError Bool}
    (ready : ctx.Ready fault cluster (.timeoutShutdown game result)) :
    (ctx.timeoutShutdown (cluster.world ctx.shardId) game result).Sound fault intent cluster
      ctx := by
  obtain ⟨valid, host⟩ := ready.relies
  obtain ⟨after, last, exit, shut, calm, sockets, redis⟩ :=
    World.shutdownGame_spec ctx.oracle (cluster.world ctx.shardId) valid host
  have leads : (cluster.world ctx.shardId).Leads after :=
    (World.Leads.refl ready.world).same sockets
  have continued : ctx.timeoutShutdown (cluster.world ctx.shardId) game result =
      .goto after (.timeoutDelete game.gameId result) := by
    rw [timeoutShutdown, shut]
    cases exit with
    | panic => exact absurd rfl calm
    | ok | err => rfl
  rw [continued]
  refine .goto leads ?_ trivial
  split at redis
  · exact ready.waits rfl ((World.Still.refl ready.world).same sockets redis)
  · refine .unlist game.gameId ready.stage .lapsing (.inr (.inl ⟨trivial, rfl⟩)) ?_
    have same : cluster.moved ctx.party after .lapsing = cluster.moved ctx.party
        ((cluster.world ctx.shardId).del (gameKey game.gameId)) .lapsing :=
      Cluster.moved_congr sockets redis
    exact same.trans (ready.deleted ..)

theorem timeoutDelete_sound {gameId : String} {result : Exit ClientError Bool}
    (ready : ctx.Ready fault cluster (.timeoutDelete gameId result)) :
    (ctx.timeoutDelete (cluster.world ctx.shardId) gameId result).Sound fault intent cluster
      ctx := by
  have leads : (cluster.world ctx.shardId).Leads (cluster.world ctx.shardId) := .refl ready.world
  rw [timeoutDelete, World.deleteRecord]
  by_cases fails : (ctx.oracle.fails .dropPool || ctx.oracle.fails .dropDel) = true
  · simp only [fails, ↓reduceIte]
    exact ready.lapsed rfl (.refl ready.world)
  · simp only [fails, Bool.false_eq_true, ↓reduceIte]
    exact lapsed_sound (leads.same rfl) (.unlist gameId ready.stage _
      (returned_final ctx.shardId) (ready.deleted ..)) trivial

theorem timeoutLeave_sound {game : Game} {result : Exit ClientError Bool}
    (ready : ctx.Ready fault cluster (.timeoutLeave game result)) :
    (ctx.timeoutLeave (cluster.world ctx.shardId) game result).Sound fault intent cluster ctx := by
  obtain ⟨valid, guest⟩ := ready.relies
  obtain ⟨after, left, leads, redis, places⟩ :=
    World.leaveGame_spec ctx.oracle ctx.shardId ready.world valid
  have struck : ∀ stage, (cluster.moved ctx.party after stage).seat =
      expel cluster.lobby.seat ctx.party ⟨ctx.shardId, game.partialHost.id⟩ := by
    intro stage
    have kept : (cluster.moved ctx.party (cluster.world ctx.shardId) stage).seat =
        cluster.lobby.seat := Cluster.moved_seat_kept rfl
    rw [← kept]
    exact Cluster.moved_seat_strike places
  simp only [timeoutLeave, left]
  refine lapsed_sound leads (.relinquish ⟨ctx.shardId, game.partialHost.id⟩ ready.stage
    ((Next.returned result).stage ctx.shardId) (returned_final ctx.shardId) ?_) trivial
  refine Lobby.ext (struck _) ?_ rfl (Cluster.moved_present leads)
  change after.redis.records = _
  rw [redis]
  rfl

/-! All sections. -/

/-- What the first section of a request may do must be what the step is about. -/
def Intends (ctx : Ctx) (intent : Intent String) : Prop :=
  ∀ request, ctx.model.request? = some request →
    (request.op = .leave → intent.ends) ∧ (request.op = .create → intent.draws ctx.oracle.gameId)

theorem receive_sound (ready : ctx.Ready fault cluster .receive) (intends : ctx.Intends intent) :
    (ctx.receive (cluster.world ctx.shardId)).Sound fault intent cluster ctx := by
  have idle : cluster.lobby.stage ctx.party = .idle := ready.stage
  have free : ¬ (cluster.lobby.stage ctx.party).Bound := by simp [idle, Stage.Bound]
  have still : (cluster.world ctx.shardId).Still ctx.shardId (cluster.world ctx.shardId) :=
    .refl ready.world
  rcases ctx.receive_cases (cluster.world ctx.shardId) with ⟨error, fails⟩ | ⟨request, asked, handles⟩
  · rw [fails]
    exact (Section.Quiet.fail still _).sound free
  · rw [handles]
    obtain ⟨ends, draws⟩ := intends request asked
    unfold handleRequest
    split
    · exact handleJoin_sound ready _
    · exact handleLeave_sound ready (ends (by assumption))
    · exact handleStart_sound ready _
    · exact (handleTask_quiet ready.world _).sound free
    · exact (handleCompile_quiet ready.world _).sound free
    · exact (handlePing_quiet ready.world).sound free
    · exact (handleIdentify_quiet ready.world _).sound free
    · exact handleCreate_sound ready _ (draws (by assumption))
    · exact handleExists_sound ready _

/-- Every section of every handler is a move of its party. -/
theorem runSection_sound {pc : Pc} (ready : ctx.Ready fault cluster pc)
    (intends : pc = .receive → ctx.Intends intent) :
    (ctx.runSection (cluster.world ctx.shardId) pc).Sound fault intent cluster ctx := by
  have free : pc.stage ctx.shardId = .idle → ¬ (cluster.lobby.stage ctx.party).Bound := by
    intro idle
    simp [ready.stage, idle, Stage.Bound]
  have world := ready.world
  cases pc with
  | receive => exact receive_sound ready (intends rfl)
  | joinSet gameId => exact joinSet_sound ready
  | joinHost gameId => exact joinHost_sound ready
  | joinRegister gameId hostId nickname channel => exact joinRegister_sound ready
  | joinPurge gameId => exact joinPurge_sound ready
  | joinEnter gameId hostId hostNickname hostChannel nickname admitted =>
    exact joinEnter_sound ready
  | joinForeign gameId => exact joinForeign_sound ready
  | joinRefuse gameId => exact (joinRefuse_quiet world gameId).sound (free rfl)
  | compilePrepare hostId request => exact (compilePrepare_quiet world ..).sound (free rfl)
  | compileFail error => exact (compileFail_quiet world error).sound (free rfl)
  | compileRun hostId request stdin => exact (compileRun_quiet world ..).sound (free rfl)
  | compileValidate hostId request result => exact (compileValidate_quiet world ..).sound (free rfl)
  | compileReply response => exact (compileReply_quiet world response).sound (free rfl)
  | createReply gameId => exact (createReply_quiet world gameId).sound (free rfl)
  | existsCheck gameId hostId => exact existsCheck_sound ready
  | existsPurge gameId => exact existsPurge_sound ready
  | existsReply gameId found =>
    exact (existsReply_quiet world found).sound (by simp [ready.stage, Pc.stage, Stage.Bound])
  | timeoutClone => exact timeoutClone_sound ready
  | timeoutReply clone => exact timeoutReply_sound ready
  | timeoutShutdown game result => exact timeoutShutdown_sound ready
  | timeoutDelete gameId result => exact timeoutDelete_sound ready
  | timeoutLeave game result => exact timeoutLeave_sound ready

end Ctx

end Grass
