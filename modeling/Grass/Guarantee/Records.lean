import Grass.Lobby.Record
import Grass.Guarantee.Hosting

namespace Grass

open Lobby Transition

theorem Pc.stage_condemning {pc : Pc} {shardId : ShardId} {gameId : String} :
    pc.stage shardId = .condemning gameId ↔ pc = .joinPurge gameId ∨ pc = .existsPurge gameId := by
  cases pc with
  | joinEnter _ _ _ _ _ welcomed => cases welcomed <;> simp [stage]
  | _ => simp [stage]

namespace Cluster

variable {shardId : ShardId} {cluster before after : Cluster} {action : Action} {gameId : String}
  {fault : Prop} {known : Set Party}

/-- The step looks for the recorded host of an Exists request and misses it. -/
def Condemns (cluster : Cluster) (action : Action) (gameId : String) : Prop :=
  match action.kind, (cluster.node action.party.shardId).reader action.party.id with
  | .advance, .busy _ _ (.existsCheck asked hostId) =>
    asked = gameId ∧ (cluster.node action.party.shardId).sockets hostId = none
  | _, _ => False

instance : Decidable (cluster.Condemns action gameId) :=
  decidable_of_iff ((match action.kind, (cluster.node action.party.shardId).reader action.party.id with
    | .advance, .busy _ _ (.existsCheck asked hostId) =>
      decide (asked = gameId) && ((cluster.node action.party.shardId).sockets hostId).isNone
    | _, _ => false) = true) (by unfold Condemns; split <;> simp)

theorem Condemns.missed (condemns : cluster.Condemns action gameId) :
    action.kind = .advance ∧ ∃ oracle model hostId,
      (cluster.node action.party.shardId).reader action.party.id =
        .busy oracle model (.existsCheck gameId hostId) ∧
      (cluster.node action.party.shardId).sockets hostId = none := by
  unfold Condemns at condemns
  split at condemns
  · rename_i oracle model asked hostId advances busy
    obtain ⟨rfl, missing⟩ := condemns
    exact ⟨advances, oracle, model, hostId, busy, missing⟩
  · exact condemns.elim

/-- The step deletes by its bare id a game that is recorded elsewhere, and hits the
record of this one. -/
def Strikes (cluster : Cluster) (action : Action) (gameId : String) : Prop :=
  match action.kind, (cluster.node action.party.shardId).reader action.party.id with
  | .advance, .busy _ _ (.joinForeign struck) => struck = gameKey gameId
  | _, _ => False

instance : Decidable (cluster.Strikes action gameId) :=
  decidable_of_iff ((match action.kind, (cluster.node action.party.shardId).reader action.party.id with
    | .advance, .busy _ _ (.joinForeign struck) => decide (struck = gameKey gameId)
    | _, _ => false) = true) (by unfold Strikes; split <;> simp)

theorem Strikes.struck (strikes : cluster.Strikes action gameId) :
    action.kind = .advance ∧ ∃ oracle model, (cluster.node action.party.shardId).reader
      action.party.id = .busy oracle model (.joinForeign (gameKey gameId)) := by
  unfold Strikes at strikes
  split at strikes
  · rename_i oracle model struck advances busy
    subst strikes
    exact ⟨advances, oracle, model, busy⟩
  · exact strikes.elim

theorem turns_advance (sound : before.Sound fault known) (turn : turns before action after)
    {oracle : Oracle} {model : DefaultModel} {pc : Pc}
    (busy : (before.node action.party.shardId).reader action.party.id = .busy oracle model pc)
    (leaves : after.lobby.stage action.party ≠ before.lobby.stage action.party) :
    action.kind = .advance := by
  rcases step_busy sound.valid turn.1 busy with same | advances | ⟨await, lapses⟩
  · exact absurd same leaves
  · exact advances
  · exact absurd (by simp [Action.lapses, lapses]) turn.2.2

theorem condemns_of_checking (sound : before.Sound fault known) (turn : turns before action after)
    {host : Party} (checking : before.lobby.stage action.party = .checking gameId host)
    (absent : ¬ before.lobby.present host)
    (leaves : after.lobby.stage action.party = .condemning gameId) :
    before.Condemns action gameId := by
  obtain ⟨oracle, model, pc, busy, at_⟩ := busy_of_stage checking (by simp [Stage.Resting])
  obtain ⟨rfl, here⟩ := Pc.stage_checking at_
  have advances := turns_advance sound turn busy (by simp [leaves, checking])
  have missing : (before.node host.shardId).sockets host.id = none := by
    by_contra found
    exact absent (present_iff.mpr found)
  rw [here] at missing
  simp [Condemns, advances, busy, missing]

theorem strikes_of_striking (sound : before.Sound fault known) (turn : turns before action after)
    {struck : String} (striking : before.lobby.stage action.party = .striking struck)
    (leaves : after.lobby.stage action.party ≠ .striking struck) (bare : struck = gameKey gameId) :
    before.Strikes action gameId := by
  obtain ⟨oracle, model, pc, busy, at_⟩ := busy_of_stage striking (by simp [Stage.Resting])
  obtain rfl := Pc.stage_striking at_
  have advances := turns_advance sound turn busy (by simpa [striking] using leaves)
  simp [Strikes, advances, busy, bare]

/-- The connection's game is a host Game with this id. -/
def HostsGame (cluster : Cluster) (party : Party) (gameId : String) : Prop :=
  ∃ game, (cluster.world party.shardId).gameAt party.id = some game ∧ game.isHost = true ∧
    game.gameId = gameId

/-- A healthy step in turn in which Create draws only ids that are in no record. -/
def orderlyTurns : Transition.Step Cluster Action :=
  turns.when fun before action _ => action.Healthy ∧
    ∀ gameId, before.Draws action gameId → before.redis (gameKey gameId) = none

theorem drawn_fresh (turn : orderlyTurns before action after)
    (drawn : (before.intent action).draws gameId) : before.lobby.record gameId = none := by
  have unused : before.redis (gameKey gameId) = none := turn.2.2 gameId drawn
  simp [lobby, Redis.records, unused]

/-- No step that misses a recorded host, or deletes by a bare id, concerns a game that
is hosted. -/
def SparesHosted : Transition.Step Cluster Action := fun before action _ =>
  ∀ gameId, before.Condemns action gameId ∨ before.Strikes action gameId →
    ∀ party, ¬ before.HostsGame party gameId

theorem SparesHosted.careful (spares : SparesHosted before action after)
    (steady : before.Steady False known) (turn : orderlyTurns before action after) :
    Careful (rules False) (before.intent action) action.party before.lobby after.lobby where
  fresh _ := drawn_fresh turn
  punctual := steady.punctual action.party
  checks gameId _ checking absent condemning owner hosts :=
    spares gameId (.inl (condemns_of_checking steady.sound turn.1 checking absent condemning)) owner
      (hosts_iff.mp hosts)
  strikes _ gameId striking leaves bare owner hosts :=
    spares gameId (.inr (strikes_of_striking steady.sound turn.1 striking leaves bare)) owner
      (hosts_iff.mp hosts)

/-- Every host Game of every process is recorded with its process and host, and every
Exists of it is answered with true. -/
structure HostsKept (cluster : Cluster) : Prop where
  recorded : ∀ party gameId, cluster.HostsGame party gameId →
    cluster.redis (gameKey gameId) = some (.game ⟨party.shardId, party.id⟩)
  /-- A request goes on to the search for the host. -/
  asked : ∀ party gameId, cluster.HostsGame party gameId → ∀ asker : Party, ∀ oracle model request,
    (cluster.node asker.shardId).reader asker.id = .busy oracle model .receive →
    model.request? = some request → request.op = .exists →
    (request.d.bind ExistsRequest.fromValue).map ExistsRequest.gameId = some gameId →
    ∃ part, cluster.currentSection asker = some part ∧
      part.next = .goto (.existsCheck gameId party.id)
  /-- The host is found, and the request is answered so. -/
  answered : ∀ party gameId, cluster.HostsGame party gameId → ∀ asker : Party, ∀ oracle model pc,
    (cluster.node asker.shardId).reader asker.id = .busy oracle model pc →
    pc ≠ .existsPurge gameId ∧ ∀ found, pc = .existsReply gameId found → found = true ∧
      ∃ part client, cluster.currentSection asker = some part ∧
        (cluster.world asker.shardId).sockets asker.id = some client ∧
        part.final =
          (cluster.world asker.shardId).send client.sendChannel (.response (.exists true))

/-- In careful runs in turns every host is registered. -/
theorem reached_registered {init : Cluster → Prop} {taken : Transition.Step Cluster Action}
    (fresh : ∀ cluster, init cluster → cluster.Fresh)
    (steady : ∀ cluster, Reach init taken cluster → cluster.Steady False known)
    (turn : ∀ before action after, taken before action after → orderlyTurns before action after)
    (careful : ∀ before action after, Steady False known before → taken before action after →
      Careful (rules False) (before.intent action) action.party before.lobby after.lobby)
    (reached : Reach init taken cluster) : cluster.lobby.Registered := by
  refine reached_lobby steady (fun _ steady => steady.sound)
    (fun _ _ _ step => ⟨(turn _ _ _ step).1.1, fun _ => (turn _ _ _ step).2.1⟩) ?_ ?_ reached
  · intro cluster initial
    have empty := (fresh cluster initial).empty
    constructor
    · rintro owner game ⟨members, taken⟩
      simp [(empty owner).1] at taken
    · intro party game condemning
      simp [(empty party).2] at condemning
    · intro party game found answering
      simp [(empty party).2] at answering
  · intro before action after steady step move registered
    exact registered.move (steady.focused action.party) steady.sound.coherent (fun absurd => absurd)
      (turns_resting (turn _ _ _ step).1) (careful _ _ _ steady step) move

/-- On any number of processes: while deletions spare hosted games, every host Game is
recorded and found. -/
theorem hosts_kept (cluster : Cluster)
    (reached : Reach Fresh (orderlyTurns.when SparesHosted) cluster) : cluster.HostsKept := by
  have calm : ¬ False := fun absurd => absurd
  have steady : ∀ cluster, Reach Fresh (orderlyTurns.when SparesHosted) cluster →
      cluster.Steady False ∅ := fun _ earlier =>
    reached_steady (fun _ => Fresh.apart)
      (fun _ _ _ step => ⟨step.1.1, fun _ => step.1.2.1⟩) earlier
  have registered : cluster.lobby.Registered :=
    reached_registered (fun _ fresh => fresh) steady (fun _ _ _ step => step.1)
      (fun _ _ _ steady step => step.2.careful steady step.1) reached
  have sound := (steady cluster reached).sound
  have recorded : ∀ party gameId, cluster.HostsGame party gameId →
      cluster.redis (gameKey gameId) = some (.game ⟨party.shardId, party.id⟩) := by
    intro party gameId hosts
    exact record_iff.mp (registered.hosted party gameId (hosts_iff.mpr hosts))
  refine ⟨recorded, ?_, ?_⟩
  · intro party gameId hosts asker oracle model request busy asked op names
    refine ⟨_, currentSection_busy busy, ?_⟩
    have healthy := ((sound.valid.orderly asker).relies oracle model .receive busy).2 calm
    obtain ⟨wanted, given, same⟩ := Option.map_eq_some_iff.mp names
    obtain ⟨data, present, decoded⟩ := Option.bind_eq_some_iff.mp given
    have record := recorded party gameId hosts
    rw [Ctx.runSection, Ctx.receive_request asked, Ctx.handleRequest]
    simp [op, Ctx.handleExists, present, decoded, same, ctx, healthy .existsPool, Ctx.existsRead,
      healthy .existsGet, record, Section.goto]
  · intro party gameId hosts asker oracle model pc busy
    have stage : cluster.lobby.stage asker = pc.stage asker.shardId := by
      rw [lobby_stage, busy]
      rfl
    refine ⟨fun condemning => ?_, fun found answering => ?_⟩
    · refine registered.condemned asker gameId ?_ party (hosts_iff.mpr hosts)
      rw [stage, Pc.stage_condemning]
      exact .inr condemning
    · subst answering
      have yes := registered.answered asker gameId found stage party (hosts_iff.mpr hosts)
      have present := present_iff.mp (sound.coherent.awake calm asker
        (by rw [stage]; exact (Pc.stage_awake _ _).1) (by rw [stage]; exact (Pc.stage_awake _ _).2))
      obtain ⟨client, here⟩ := Option.ne_none_iff_exists'.mp present
      refine ⟨yes, _, client, currentSection_busy busy, here, ?_⟩
      subst yes
      have same : (cluster.world asker.shardId).sockets (cluster.ctx asker oracle model).clientId =
        some client := here
      simp [Ctx.runSection, Ctx.existsReply, same, Section.reply]

/-- Healthy, and the id of a Create is in no record. -/
def drawsUnused (before : Cluster) (action : Action) : Bool :=
  decide action.Healthy && (before.requested action.party).all fun asked =>
    asked.2.op ≠ .create || (before.redis (gameKey asked.1.gameId)).isNone

theorem drawsUnused_orderly (turn : turns before action after)
    (unused : before.drawsUnused action = true) : orderlyTurns before action after := by
  simp only [drawsUnused, Bool.and_eq_true, decide_eq_true_eq] at unused
  refine ⟨turn, unused.1, fun gameId draws => ?_⟩
  unfold Draws at draws
  split at draws
  · obtain ⟨oracle, request, asked, create, rfl⟩ := draws
    simpa [asked, create] using unused.2
  · exact draws.elim

/-- No host is missed, and nothing is deleted by a bare id. -/
def missesNone (before : Cluster) (action : Action) : Bool :=
  match action.kind, (before.node action.party.shardId).reader action.party.id with
  | .advance, .busy _ _ (.existsCheck _ hostId) =>
    ((before.node action.party.shardId).sockets hostId).isSome
  | .advance, .busy _ _ (.joinForeign _) => false
  | _, _ => true

theorem missesNone_spares (misses : before.missesNone action = true) (gameId : String) :
    ¬ before.Condemns action gameId ∧ ¬ before.Strikes action gameId := by
  constructor
  · intro condemns
    obtain ⟨advances, oracle, model, hostId, busy, missing⟩ := condemns.missed
    simp [missesNone, advances, busy, missing] at misses
  · intro strikes
    obtain ⟨advances, oracle, model, busy⟩ := strikes.struck
    simp [missesNone, advances, busy] at misses

/-- The id and the record of the game a connection hosts. -/
def hosted (party : Party) (cluster : Cluster) : Option (String × Option RedisValue) :=
  ((cluster.world party.shardId).gameAt party.id).bind fun game =>
    if game.isHost then some (game.gameId, cluster.redis (gameKey game.gameId)) else none

theorem hosted_game {party : Party} {value : Option RedisValue}
    (seen : cluster.hosted party = some (gameId, value)) :
    cluster.HostsGame party gameId ∧ cluster.redis (gameKey gameId) = value := by
  obtain ⟨game, held, seen⟩ := Option.bind_eq_some_iff.mp seen
  split at seen
  · obtain ⟨rfl, rfl⟩ := by simpa using seen
    exact ⟨⟨game, held, by assumption, rfl⟩, rfl⟩
  · cases seen

/-- A host on one process, and a client on another that asks whether its game exists. -/
def asksAbroad : List Action :=
  let host : Party := ⟨"b", 9⟩
  let asker : Party := ⟨"a", 1⟩
  let oracle := Oracle.calm "17"
  host.enters oracle ++ host.creates oracle ++ host.hosts oracle "17" ++ asker.enters oracle ++
    asker.asks oracle 4 "Exists" [("game_id", .string "17")]

theorem hosts_kept_local : ∃ cluster : Cluster, cluster.HostsKept ∧
    cluster.HostsGame ⟨"b", 9⟩ "17" := by
  let host : Party := ⟨"b", 9⟩
  let oracle := Oracle.calm "17"
  obtain ⟨cluster, reached, seen⟩ := session_shows (launch_fresh emptyRedis [])
    (show ((launch emptyRedis []).play (fun before action => !decide action.lapses &&
      (before.drawsUnused action && before.missesNone action)) (host.enters oracle ++
        host.creates oracle ++ host.hosts oracle "17" ++
          host.asks oracle 3 "Exists" [("game_id", .string "17")])).bind (hosted ⟨"b", 9⟩) =
            some ("17", some (.game ⟨"b", 9⟩)) by decide +kernel)
  have spared : Reach Fresh (orderlyTurns.when SparesHosted) cluster := by
    apply reached.mono
    intro before action after _ step
    obtain ⟨unused, misses⟩ := Bool.and_eq_true_iff.mp step.2
    refine ⟨drawsUnused_orderly step.1 unused, fun gameId hit => ?_⟩
    obtain ⟨finds, aims⟩ := missesNone_spares misses gameId
    exact absurd hit (not_or.mpr ⟨finds, aims⟩)
  exact ⟨cluster, hosts_kept cluster spared, (hosted_game seen).1⟩

/-- A client of another process asks for the game, and its record is deleted. -/
theorem abroad_forgets :
    ¬ ∀ cluster, Reach Fresh orderlyTurns cluster → cluster.HostsKept := by
  intro kept
  obtain ⟨cluster, reached, seen⟩ := session_shows (launch_fresh emptyRedis [])
    (show ((launch emptyRedis []).play (fun before action => !decide action.lapses &&
      before.drawsUnused action) asksAbroad).bind (hosted ⟨"b", 9⟩) = some ("17", none) by
        decide +kernel)
  obtain ⟨hosts, gone⟩ := hosted_game seen
  have orderly : Reach Fresh orderlyTurns cluster :=
    reached.mono fun _ _ _ _ step => drawsUnused_orderly step.1 step.2
  have recorded := (kept cluster orderly).recorded _ _ hosts
  simp [gone] at recorded

/-- The records of one process are its hosts, and no cleanup is ever due: no Join or
Exists comes to purge a record, and every Join finds the host it read of in a game. -/
structure RecordsMatch (shardId : ShardId) (cluster : Cluster) : Prop where
  recorded : ∀ gameId id, ((cluster.node shardId).reader id).isBusy = false →
    (cluster.redis (gameKey gameId) = some (.game ⟨shardId, id⟩) ↔
      cluster.HostsGame ⟨shardId, id⟩ gameId)
  purges : ∀ id oracle model pc gameId,
    (cluster.node shardId).reader id = .busy oracle model pc →
    pc ≠ .joinPurge gameId ∧ pc ≠ .existsPurge gameId
  found : ∀ id oracle model gameId hostId nickname channel,
    (cluster.node shardId).reader id =
      .busy oracle model (.joinRegister gameId hostId nickname channel) →
    ∃ game, (cluster.world shardId).gameAt hostId = some game

/-- Only this process acts, it looks in its sockets map only for hosts of its own
records, and no deletion by a bare id hits a game that is hosted. -/
def OwnRecords (shardId : ShardId) : Transition.Step Cluster Action := fun before action _ =>
  action.party.shardId = shardId ∧
    (∀ gameId record, before.Condemns action gameId →
      before.redis (gameKey gameId) = some (.game record) → record.shardId = shardId) ∧
    ∀ gameId, before.Strikes action gameId → ∀ party, ¬ before.HostsGame party gameId

theorem recorded_hosts (steady : cluster.Steady False (shard shardId)) {host : Party}
    (own : host.shardId = shardId) (record : cluster.lobby.record gameId = some (some host)) :
    cluster.lobby.Hosts host gameId ∨ cluster.lobby.stage host = .opening gameId := by
  rcases (steady.sound.coherent.recorded host own gameId record).2 with hosts | opening | ⟨no, -⟩
  · exact .inl hosts
  · exact .inr opening
  · exact absurd no id

theorem recorded_present (steady : cluster.Steady False (shard shardId)) {host : Party}
    (own : host.shardId = shardId)
    (record : cluster.lobby.record gameId = some (some host)) : cluster.lobby.present host := by
  rcases recorded_hosts steady own record with ⟨_, taken⟩ | opening
  · exact steady.sound.coherent.seated host (by simp [taken])
  · exact steady.sound.coherent.awake (fun absurd => absurd) host (by simp [opening])
      (by simp [opening])

theorem OwnRecords.finds (own : OwnRecords shardId before action after)
    (steady : before.Steady False (shard shardId)) : ¬ before.Condemns action gameId := by
  intro condemns
  obtain ⟨-, oracle, model, hostId, busy, missing⟩ := condemns.missed
  have checking : before.lobby.stage action.party =
      .checking gameId ⟨action.party.shardId, hostId⟩ := by
    rw [lobby_stage, busy]
    rfl
  obtain ⟨⟨recordShard, recordHost⟩, record, same⟩ :=
    (steady.focused action.party).checked (fun absurd => absurd) gameId _ checking
  obtain rfl : hostId = recordHost := congrArg Party.id same
  obtain rfl : recordShard = shardId := own.2.1 gameId _ condemns (record_iff.mp record)
  apply present_iff.mp (recorded_present steady rfl record)
  rw [← own.1]
  exact missing

theorem OwnRecords.careful (own : OwnRecords shardId before action after)
    (steady : before.Steady False (shard shardId)) (turn : orderlyTurns before action after) :
    Careful (rules False) (before.intent action) action.party before.lobby after.lobby :=
  SparesHosted.careful (fun gameId hit party hosts => by
    rcases hit with condemns | strikes
    · exact own.finds steady condemns
    · exact own.2.2 gameId strikes party hosts) steady turn

theorem OwnRecords.uncondemned (own : OwnRecords shardId before action after)
    (steady : before.Steady False (shard shardId)) (turn : orderlyTurns before action after)
    (move : Move (rules False) (before.intent action) action.party before.lobby after.lobby)
    (spared : before.lobby.Uncondemned) : after.lobby.Uncondemned := by
  intro party gameId condemning
  rcases move.condemns condemning with earlier | ⟨rfl, host, absent, knocking | checking⟩
  · exact spared party gameId earlier
  · obtain ⟨oracle, model, pc, busy, at_⟩ := busy_of_stage knocking (by simp [Stage.Resting])
    obtain ⟨nickname, channel, -, here⟩ := Pc.stage_knocking at_
    have record := (steady.focused action.party).knocked gameId host knocking
    exact absent (recorded_present steady (here.trans own.1) record)
  · exact own.finds steady
      (condemns_of_checking steady.sound turn.1 checking absent condemning)

/-- On one process: while it minds its own records, these are its hosts. -/
theorem records_match (shardId : ShardId) (cluster : Cluster)
    (reached : Reach (Started shardId) (orderlyTurns.when (OwnRecords shardId)) cluster) :
    cluster.RecordsMatch shardId := by
  have steady : ∀ cluster, Reach (Started shardId) (orderlyTurns.when (OwnRecords shardId)) cluster →
      cluster.Steady False (shard shardId) := fun _ earlier =>
    reached_steady (fun _ => Started.apart)
      (fun _ _ _ step => ⟨step.1.1, fun _ => step.1.2.1⟩) earlier
  have registered : cluster.lobby.Registered :=
    reached_registered (fun _ started => started.1) steady (fun _ _ _ step => step.1)
      (fun _ _ _ steady step => step.2.careful steady step.1) reached
  have spared : cluster.lobby.Uncondemned := by
    refine reached_lobby steady (fun _ steady => steady.sound)
      (fun _ _ _ step => ⟨step.1.1.1, fun _ => step.1.2.1⟩) ?_ ?_ reached
    · intro cluster started party gameId
      simp [(started.1.empty party).2]
    · intro before action after steady step move spared
      exact step.2.uncondemned steady step.1 move spared
  obtain ⟨acting, others⟩ := reached_one (fun _ started => started.1)
    (fun _ _ _ step => step.1.1) reached
  refine ⟨fun gameId id idle => ⟨fun record => ?_, fun hosts => ?_⟩, ?_, ?_⟩
  · have named : cluster.lobby.record gameId = some (some ⟨shardId, id⟩) := record_iff.mpr record
    rcases recorded_hosts (steady cluster reached) rfl named with hosts | opening
    · exact hosts_iff.mp hosts
    · obtain ⟨oracle, model, pc, busy, -⟩ := busy_of_stage opening (by simp [Stage.Resting])
      simp [busy, Reader.isBusy] at idle
  · exact record_iff.mp (registered.hosted ⟨shardId, id⟩ gameId (hosts_iff.mpr hosts))
  · intro id oracle model pc gameId busy
    have stage : cluster.lobby.stage ⟨shardId, id⟩ = pc.stage shardId := by
      rw [lobby_stage, busy]
      rfl
    have kept := spared ⟨shardId, id⟩ gameId
    rw [stage, ne_eq, Pc.stage_condemning, not_or] at kept
    exact kept
  · intro id oracle model gameId hostId nickname channel busy
    have knocking : cluster.lobby.stage ⟨shardId, id⟩ = .knocking gameId ⟨shardId, hostId⟩ := by
      rw [lobby_stage, busy]
      rfl
    have read := ((steady cluster reached).focused ⟨shardId, id⟩).knocked gameId _ knocking
    rcases recorded_hosts (steady cluster reached) rfl read with hosts | opening
    · obtain ⟨game, held, -⟩ := hosts_iff.mp hosts
      exact ⟨game, held⟩
    · have guest : (⟨shardId, id⟩ : Party) = acting := by
        by_contra apart
        exact absurd (others _ apart).resting (by simp [knocking, Stage.Resting])
      have host : (⟨shardId, hostId⟩ : Party) = acting := by
        by_contra apart
        exact absurd (others _ apart).resting (by simp [opening, Stage.Resting])
      rw [host, ← guest, knocking] at opening
      cases opening

theorem records_match_local : ∃ cluster : Cluster, cluster.RecordsMatch "b" ∧
    cluster.HostsGame ⟨"b", 9⟩ "17" := by
  let host : Party := ⟨"b", 9⟩
  let oracle := Oracle.calm "17"
  obtain ⟨cluster, reached, seen⟩ := session_shows (started_empty "b" [])
    (show ((launch emptyRedis []).play (fun before action => !decide action.lapses &&
      (decide (action.party.shardId = "b") && (before.drawsUnused action &&
        before.missesNone action))) (host.enters oracle ++ host.creates oracle ++
          host.hosts oracle "17" ++
            host.asks oracle 3 "Exists" [("game_id", .string "17")])).bind (hosted ⟨"b", 9⟩) =
              some ("17", some (.game ⟨"b", 9⟩)) by decide +kernel)
  have own : Reach (Started "b") (orderlyTurns.when (OwnRecords "b")) cluster := by
    apply reached.mono
    intro before action after _ step
    obtain ⟨here, rest⟩ := Bool.and_eq_true_iff.mp step.2
    obtain ⟨unused, misses⟩ := Bool.and_eq_true_iff.mp rest
    exact ⟨drawsUnused_orderly step.1 unused, of_decide_eq_true here,
      fun gameId _ condemns => absurd condemns (missesNone_spares misses gameId).1,
      fun gameId strikes => absurd strikes (missesNone_spares misses gameId).2⟩
  exact ⟨cluster, records_match "b" cluster own, (hosted_game seen).1⟩

/-- The game whose record the first client is about to purge. -/
def purging (cluster : Cluster) : Option String :=
  match (cluster.node "a").reader 1 with
  | .busy _ _ (.existsPurge gameId) => some gameId
  | _ => none

/-- A client asks for a game that another process has recorded: its host is looked
for here, and the record is due for deletion. -/
theorem foreign_purged : ¬ ∀ cluster,
    Reach (Started "a") (orderlyTurns.when fun _ action _ => action.party.shardId = "a") cluster →
      cluster.RecordsMatch "a" := by
  intro matched
  let foreign : Redis := Function.update emptyRedis (gameKey "17") (some (.game ⟨"b", 9⟩))
  let asker : Party := ⟨"a", 1⟩
  have started : Started "a" (launch foreign []) := by
    refine ⟨launch_fresh foreign [], fun key record stored => ?_⟩
    by_cases same : key = gameKey "17"
    · subst same
      obtain rfl : _ = record := by simpa [launch, foreign] using stored
      decide
    · simp [launch, foreign, emptyRedis, same] at stored
  obtain ⟨cluster, reached, seen⟩ := session_shows started
    (show ((launch foreign []).play (fun before action => !decide action.lapses &&
      (decide (action.party.shardId = "a") && before.drawsUnused action))
        (asker.enters (.calm "18") ++
          asker.asks (.calm "18") 2 "Exists" [("game_id", .string "17")])).bind purging =
            some "17" by decide +kernel)
  have orderly : Reach (Started "a")
      (orderlyTurns.when fun _ action _ => action.party.shardId = "a") cluster := by
    refine reached.mono fun _ _ _ _ step => ?_
    obtain ⟨here, unused⟩ := Bool.and_eq_true_iff.mp step.2
    exact ⟨drawsUnused_orderly step.1 unused, of_decide_eq_true here⟩
  unfold purging at seen
  split at seen
  · rename_i oracle model gameId busy
    exact ((matched cluster orderly).purges 1 oracle model _ gameId busy).2 rfl
  · cases seen

end Cluster

end Grass
