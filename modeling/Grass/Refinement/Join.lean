import Grass.Refinement.Drop
import Grass.Refinement.Quiet

namespace Grass

open Lobby

variable {fault : Prop} {intent : Intent String} {cluster : Cluster} {ctx : Ctx} {world : World}

/-! What the lobby shows of one entry and one record. -/

theorem Cluster.lobby_seat {shardId : ShardId} {id : Uuid} {client : SocketClient}
    (found : (cluster.world shardId).sockets id = some client) :
    cluster.lobby.seat ⟨shardId, id⟩ = client.game.map (Game.seat shardId) := by
  have entry : (cluster.node shardId).sockets id = some client := found
  simp [lobby, World.places, entry]

theorem Cluster.lobby_present {shardId : ShardId} {id : Uuid} {client : SocketClient}
    (found : (cluster.world shardId).sockets id = some client) :
    cluster.lobby.present ⟨shardId, id⟩ := by
  have entry : (cluster.node shardId).sockets id = some client := found
  simp [lobby, World.places, entry]

theorem Cluster.lobby_absent {shardId : ShardId} {id : Uuid}
    (missing : (cluster.world shardId).sockets id = none) :
    ¬ cluster.lobby.present ⟨shardId, id⟩ := by
  have entry : (cluster.node shardId).sockets id = none := missing
  simp [lobby, World.places, entry]

theorem Cluster.lobby_record {gameId : String} {value : RedisValue}
    (stored : cluster.redis (gameKey gameId) = some value) :
    cluster.lobby.record gameId = value.names := by
  simp [lobby, Redis.records, stored]

theorem Cluster.moved_congr {party : Party} {first second : World} {stage : Stage Party String}
    (sockets : second.sockets = first.sockets) (redis : second.redis = first.redis) :
    cluster.moved party second stage = cluster.moved party first stage := by
  simp only [moved, World.places_congr party.shardId sockets, redis]

namespace Section.Sound

theorem goto {pc : Pc} (leads : (cluster.world ctx.shardId).Leads world)
    (move : Move (Cluster.rules fault) intent ctx.party cluster.lobby
      (cluster.moved ctx.party world (pc.stage ctx.shardId)))
    (valid : pc.Valid world ctx.clientId) :
    Section.Sound fault intent cluster ctx (.goto world pc) where
  leads other member := by
    obtain rfl : other = world := by simpa [Section.goto] using member
    exact leads
  move := move
  pause _ member := by simp [Section.goto] at member
  next := valid

theorem stop {exit : Exit ClientError Unit} (leads : (cluster.world ctx.shardId).Leads world)
    (move : Move (Cluster.rules fault) intent ctx.party cluster.lobby
      (cluster.moved ctx.party world ((Next.handled exit).stage ctx.shardId))) :
    Section.Sound fault intent cluster ctx (.stop world exit) where
  leads other member := by
    obtain rfl : other = world := by simpa [Section.stop] using member
    exact leads
  move := move
  pause _ member := by simp [Section.stop] at member
  next := trivial

/-- An answer at the end of a request, at which the request may still time out. -/
theorem answer {channel : SocketSender} {message : Message} {exit : Exit ClientError Unit}
    (leads : (cluster.world ctx.shardId).Leads world)
    (move : ∀ (intent : Intent String) (stage : Stage Party String),
      stage.Final intent.lapses →
      Move (Cluster.rules fault) intent ctx.party cluster.lobby
        (cluster.moved ctx.party world stage)) :
    Section.Sound fault intent cluster ctx
      ⟨[world], world.send channel message, .handled exit⟩ where
  leads other member := by
    rcases List.mem_cons.mp member with rfl | waiting
    · exact leads.same (World.send_sockets world)
    · obtain rfl : other = world := by simpa using waiting
      exact leads
  move := by
    rw [Cluster.moved_congr (World.send_sockets world) (World.send_redis world)]
    refine move intent _ ?_
    rcases Next.handled_stage exit ctx.shardId with idle | retired
    · exact .inl idle
    · exact .inr (.inr retired)
  pause other member intent lapses := by
    obtain rfl : other = world := by simpa using member
    exact move intent .lapsing (.inr (.inl ⟨lapses, rfl⟩))
  next := trivial

end Section.Sound

namespace Ctx

/-- The world a section begins with, and only the party's stage changed. -/
theorem Ready.unchanged {pc : Pc} (ready : ctx.Ready fault cluster pc)
    (stage : Stage Party String) :
    cluster.moved ctx.party (cluster.world ctx.shardId) stage =
      { cluster.lobby with stage := Function.update cluster.lobby.stage ctx.party stage } :=
  Cluster.moved_still (.refl ready.world)

theorem Ready.stored {pc : Pc} (ready : ctx.Ready fault cluster pc) (gameId : String)
    (value : RedisValue) (stage : Stage Party String) :
    cluster.moved ctx.party ((cluster.world ctx.shardId).set (gameKey gameId) value) stage =
      { cluster.lobby with
        record := Function.update cluster.lobby.record gameId value.names
        stage := Function.update cluster.lobby.stage ctx.party stage } :=
  Lobby.ext (Cluster.moved_seat_kept (World.places_set ..)) (Redis.records_set ..) rfl
    (Cluster.moved_present ((World.Leads.refl ready.world).same rfl))

theorem Ready.deleted {pc : Pc} (ready : ctx.Ready fault cluster pc) (gameId : String)
    (stage : Stage Party String) :
    cluster.moved ctx.party ((cluster.world ctx.shardId).del (gameKey gameId)) stage =
      { cluster.lobby with
        record := Function.update cluster.lobby.record gameId none
        stage := Function.update cluster.lobby.stage ctx.party stage } :=
  Lobby.ext (Cluster.moved_seat_kept (World.places_del ..)) (Redis.records_del ..) rfl
    (Cluster.moved_present ((World.Leads.refl ready.world).same rfl))

/-- What a successful GET returned was stored. -/
theorem fetched {fails : Bool} {stored : Option RedisValue} {value : RedisValue}
    (got : (if fails then none else stored) = some value) : stored = some value := by
  split at got
  · cases got
  · exact got

/-- A party without a game claims it, knocks at its host, or strikes a foreign record. -/
theorem joinRead_sound (ready : ctx.Ready fault cluster .receive) {client : SocketClient}
    {gameId nickname : String}
    (found : (cluster.world ctx.shardId).sockets ctx.clientId = some client)
    (known : client.nickname = some nickname) (unseated : client.game = none) :
    (ctx.joinRead (cluster.world ctx.shardId) gameId nickname client).Sound fault intent
      cluster ctx := by
  have idle : cluster.lobby.stage ctx.party = .idle := ready.stage
  have free : ¬ (cluster.lobby.stage ctx.party).Bound := by simp [idle, Stage.Bound]
  have leads : (cluster.world ctx.shardId).Leads (cluster.world ctx.shardId) := .refl ready.world
  have still : (cluster.world ctx.shardId).Still ctx.shardId (cluster.world ctx.shardId) :=
    .refl ready.world
  have here : cluster.lobby.present ctx.party := Cluster.lobby_present found
  have vacant : cluster.lobby.seat ctx.party = none :=
    (Cluster.lobby_seat found).trans (by rw [unseated]; rfl)
  have named : (cluster.world ctx.shardId).Named ctx.clientId := by
    intro other same
    obtain rfl : client = other := by simpa [found] using same
    simp [known]
  unfold joinRead
  split
  · exact (Section.Quiet.refuse still ..).sound free
  · rename_i text got
    have record := Cluster.lobby_record (fetched got)
    split
    · rename_i empty
      exact .goto leads (.claim gameId idle vacant here (by simp [record, RedisValue.names, empty])
        (ready.unchanged _)) named
    · exact (Section.Quiet.fail still _).sound free
  · rename_i redisGame got
    have record := Cluster.lobby_record (fetched got)
    split
    · rename_i here
      have host : cluster.lobby.record gameId = some (some ⟨ctx.shardId, redisGame.hostId⟩) := by
        rw [record, ← here]
        rfl
      exact .goto leads (.knock gameId _ idle vacant ‹_› host (ready.unchanged _))
        ⟨named, (ready.world _ _ found).wired⟩
    · rename_i elsewhere
      refine .goto leads (.foreign gameId ⟨redisGame.shardId, redisGame.hostId⟩ idle record ?_
        (ready.unchanged _)) trivial
      intro same
      exact elsewhere (congrArg Party.shardId same).symm

theorem handleJoin_sound (ready : ctx.Ready fault cluster .receive) (d : Option Value) :
    (ctx.handleJoin (cluster.world ctx.shardId) d).Sound fault intent cluster ctx := by
  have idle : cluster.lobby.stage ctx.party = .idle := ready.stage
  have free : ¬ (cluster.lobby.stage ctx.party).Bound := by simp [idle, Stage.Bound]
  have still : (cluster.world ctx.shardId).Still ctx.shardId (cluster.world ctx.shardId) :=
    .refl ready.world
  unfold handleJoin
  split
  · exact (Section.Quiet.fail still _).sound free
  · split
    · exact (Section.Quiet.fail still _).sound free
    · split
      · exact (Section.Quiet.panic still).sound free
      · rename_i client found
        split
        · exact (Section.Quiet.refuse still ..).sound free
        · rename_i unseated
          split
          · exact (Section.Quiet.refuse still ..).sound free
          · rename_i nickname known
            split
            · exact (Section.Quiet.refuse still ..).sound free
            · exact joinRead_sound ready found known (by simpa using unseated)

theorem joinSet_sound {gameId : String} (ready : ctx.Ready fault cluster (.joinSet gameId)) :
    (ctx.joinSet (cluster.world ctx.shardId) gameId).Sound fault intent cluster ctx := by
  have claiming : cluster.lobby.stage ctx.party = .claiming gameId := ready.stage
  have free : ¬ (cluster.lobby.stage ctx.party).Bound := by simp [claiming, Stage.Bound]
  have leads : (cluster.world ctx.shardId).Leads (cluster.world ctx.shardId) := .refl ready.world
  unfold joinSet
  split
  · exact (Section.Quiet.fail (.refl ready.world) _).sound free
  · exact .goto (leads.same rfl) (.publish gameId claiming (ready.stored ..)) ready.relies

/-- Taking a seat: the game goes into the party's own entry, which holds none. -/
theorem Ready.seated {pc : Pc} (ready : ctx.Ready fault cluster pc) {client : SocketClient}
    {game : Game} (found : (cluster.world ctx.shardId).sockets ctx.clientId = some client)
    (known : client.nickname.isSome) (valid : game.Valid ctx.clientId) :
    (cluster.world ctx.shardId).Leads
        ((cluster.world ctx.shardId).put ctx.clientId { client with game := some game }) ∧
      ∀ stage, cluster.moved ctx.party
          ((cluster.world ctx.shardId).put ctx.clientId { client with game := some game }) stage =
        { cluster.lobby with
          seat := Function.update cluster.lobby.seat ctx.party (some (game.seat ctx.shardId))
          stage := Function.update cluster.lobby.stage ctx.party stage } := by
  have clientValid := ready.world _ _ found
  have leads : (cluster.world ctx.shardId).Leads
      ((cluster.world ctx.shardId).put ctx.clientId { client with game := some game }) := by
    refine (World.Leads.refl ready.world).put found (.playing _) ?_
    refine ⟨clientValid.named, clientValid.wired, fun held playing => ?_⟩
    cases playing
    exact ⟨known, valid⟩
  refine ⟨leads, fun stage => Lobby.ext ?_ rfl rfl (Cluster.moved_present leads)⟩
  exact Cluster.moved_seat_put (World.places_put ..)

/-- A party on its way into a seat has an entry, or Redis failed, and holds no game. -/
theorem Ready.unseated {pc : Pc} (ready : ctx.Ready fault cluster pc)
    (seating : Seating (pc.stage ctx.shardId)) {client : SocketClient}
    (found : (cluster.world ctx.shardId).sockets ctx.clientId = some client) :
    client.game = none := by
  have empty := ready.vacant (by rw [ready.stage]; exact seating)
  rw [Ctx.party, Cluster.lobby_seat found] at empty
  simpa using empty

theorem Ready.missing {pc : Pc} (ready : ctx.Ready fault cluster pc)
    (missing : (cluster.world ctx.shardId).sockets ctx.clientId = none) : fault :=
  by_contra fun calm => Cluster.lobby_absent missing (ready.present calm)

/-- Without an entry there is nothing to do but panic. -/
theorem Ready.lost {pc : Pc} (ready : ctx.Ready fault cluster pc)
    (missing : (cluster.world ctx.shardId).sockets ctx.clientId = none)
    (awake : pc.stage ctx.shardId ≠ .unborn) :
    (Section.panic (cluster.world ctx.shardId)).Sound fault intent cluster ctx :=
  .stop (.refl ready.world)
    (.abandon (ready.missing missing) (by rw [ready.stage]; exact awake) (ready.unchanged _))

theorem joinHost_sound {gameId : String} (ready : ctx.Ready fault cluster (.joinHost gameId)) :
    (ctx.joinHost (cluster.world ctx.shardId) gameId).Sound fault intent cluster ctx := by
  have opening : cluster.lobby.stage ctx.party = .opening gameId := ready.stage
  unfold joinHost
  split
  · rename_i missing
    exact ready.lost missing (by simp [Pc.stage])
  · rename_i client found
    have known := ready.relies client found
    have empty : client.game = none := ready.unseated (.inr (.inl ⟨gameId, rfl⟩)) found
    have valid := ready.world _ _ found
    split
    · rename_i unknown
      simp [unknown] at known
    · rename_i nickname named
      have self : ctx.localClient client nickname =
          .new ctx.clientId nickname ctx.shardId true (some ctx.clientId) := by
        rw [localClient, valid.named, valid.wired]
      obtain ⟨leads, moved⟩ := ready.seated found known
        (Game.Valid.new ctx.clientId ctx.clientId true gameId nickname nickname ctx.shardId
          fun _ => rfl)
      simp only [self, World.setGame, empty, World.dropGame?]
      refine .answer leads fun intent stage final => ?_
      refine .openGame gameId opening (Cluster.lobby_present found) stage final ?_
      rw [moved]
      simp [Game.seat, Game.new, Roster.parties_empty]

theorem joinPurge_sound {gameId : String} (ready : ctx.Ready fault cluster (.joinPurge gameId)) :
    (ctx.joinPurge (cluster.world ctx.shardId) gameId).Sound fault intent cluster ctx := by
  have condemning : cluster.lobby.stage ctx.party = .condemning gameId := ready.stage
  have leads : (cluster.world ctx.shardId).Leads (cluster.world ctx.shardId) := .refl ready.world
  unfold joinPurge
  split
  · exact (Section.Quiet.fail (.refl ready.world) _).sound (by simp [condemning, Stage.Bound])
  · exact .stop (leads.same rfl) (.purge gameId condemning .retired (.inl rfl) (ready.deleted ..))

/-- The registration itself, at the host the party has knocked at. -/
private theorem admitted_sound {gameId nickname hostNickname : String} {hostId : Uuid}
    (ready : ctx.Ready fault cluster (.joinRegister gameId hostId nickname ctx.clientId))
    {hostClient : SocketClient} {hostGame : Game} {roster : Roster} {newcomer : PartialClient}
    (found : (cluster.world ctx.shardId).sockets hostId = some hostClient)
    (known : hostClient.nickname = some hostNickname) (playing : hostClient.game = some hostGame)
    (host : hostGame.isHost = true) (clients : hostGame.connectedClients = some roster)
    (named : newcomer.id = ctx.clientId)
    (valid : Game.Valid hostId
      { hostGame with connectedClients := some (roster.insert newcomer.id newcomer) })
    (sent : List Delivery) :
    Section.Sound fault intent cluster ctx
      { paused := Section.between (cluster.world ctx.shardId) sent
        final := ((cluster.world ctx.shardId).put hostId { hostClient with
          game := some { hostGame with
            connectedClients := some (roster.insert newcomer.id newcomer) } }).deliver sent
        next := .goto (.joinEnter gameId hostId hostNickname hostClient.sendChannel nickname
          true) } := by
  have knocking : cluster.lobby.stage ctx.party = .knocking gameId ⟨ctx.shardId, hostId⟩ :=
    ready.stage
  have hostValid := ready.world _ _ found
  have still : (cluster.world ctx.shardId).Still ctx.shardId (cluster.world ctx.shardId) :=
    .refl ready.world
  have leads : (cluster.world ctx.shardId).Leads
      (((cluster.world ctx.shardId).put hostId { hostClient with
        game := some { hostGame with
          connectedClients := some (roster.insert newcomer.id newcomer) } }).deliver sent) := by
    refine World.Leads.same (still.leads.put found (.playing _) ?_) rfl
    refine ⟨hostValid.named, hostValid.wired, fun held taken => ?_⟩
    cases taken
    exact ⟨by simp [known], valid⟩
  refine ⟨?_, ?_, ?_, (leads.entry _).named ready.relies.1, hostValid.wired⟩
  · intro world member
    rcases List.mem_cons.mp member with rfl | waiting
    · exact leads
    · exact (still.between _ world waiting).leads
  · refine .welcome gameId ⟨ctx.shardId, hostId⟩ hostGame.gameId
      (Roster.parties ctx.shardId (some roster)) knocking ?_ ?_
    · rw [Cluster.lobby_seat found, playing]
      simp [Game.seat, host, clients]
    · refine Lobby.ext ?_ rfl rfl (Cluster.moved_present leads)
      have joined := Roster.parties_insert ctx.shardId roster newcomer
      rw [named] at joined
      refine (Cluster.moved_seat_put (World.places_put ctx.shardId hostId _)).trans ?_
      simp [Game.seat, host, joined, Ctx.party, named]
  · intro world waiting intent lapses
    exact .settle (by simp [knocking, Stage.Bound]) .lapsing (.inr (.inl ⟨lapses, rfl⟩))
      (Cluster.moved_still (still.between _ world waiting))

/-- Entering the roster of whatever game the recorded host holds now. -/
theorem joinRegister_sound {gameId nickname : String} {hostId : Uuid} {channel : SocketSender}
    (ready : ctx.Ready fault cluster (.joinRegister gameId hostId nickname channel)) :
    (ctx.joinRegister (cluster.world ctx.shardId) gameId hostId nickname channel).Sound fault
      intent cluster ctx := by
  have knocking : cluster.lobby.stage ctx.party = .knocking gameId ⟨ctx.shardId, hostId⟩ :=
    ready.stage
  have free : ¬ (cluster.lobby.stage ctx.party).Bound := by simp [knocking, Stage.Bound]
  have leads : (cluster.world ctx.shardId).Leads (cluster.world ctx.shardId) := .refl ready.world
  have still : (cluster.world ctx.shardId).Still ctx.shardId (cluster.world ctx.shardId) :=
    .refl ready.world
  obtain ⟨named, rfl⟩ := ready.relies
  unfold joinRegister
  split
  · rename_i missing
    exact .goto leads (.miss gameId _ knocking (Cluster.lobby_absent missing)
      (ready.unchanged _)) trivial
  · rename_i hostClient found
    have hostValid := ready.world _ _ found
    split
    · exact (Section.Quiet.panic still).sound free
    · rename_i hostNickname known
      split
      · rename_i idle
        split
        · exact (Section.Quiet.fail still _).sound free
        · refine .stop (leads.same rfl) (.evict gameId _ knocking ?_ (ready.deleted ..))
          rw [Cluster.lobby_seat found, idle]
          rfl
      · rename_i hostGame playing
        have gameValid := (hostValid.playing hostGame playing).2
        have own : (PartialClient.new ctx.clientId nickname ctx.shardId true
          (some ctx.clientId)).Own := .new ..
        rcases gameValid.register_cases ctx.oracle.order (cluster.world ctx.shardId).closed own with
          ⟨-, refused⟩ | ⟨host, -, roster, clients, wired, entered, finished⟩
        · have same := still_setGame ctx.shardId ready.world found playing gameValid
            (.refl hostGame)
          refine Section.Quiet.sound ⟨?_, .inl ?_, ?_⟩ free
          · intro world member
            simp only [refused, Section.between, List.length_nil, List.range_zero, List.map_nil,
              List.mem_cons, List.not_mem_nil, or_false] at member
            subst member
            exact same.deliver _
          · simp [refused, Next.stage, Pc.stage]
          · simp only [refused]
            exact ⟨((same.deliver []).leads.entry _).named named, hostValid.wired⟩
        · have afterValid := gameValid.register ctx.oracle.order
            (cluster.world ctx.shardId).closed own
          rw [entered] at afterValid
          simp only [entered, finished]
          exact admitted_sound ready found known playing host clients rfl afterValid _

/-- An admitted party takes the guest's seat; a refused one is told so. -/
theorem joinEnter_sound {gameId hostNickname nickname : String} {hostId : Uuid}
    {hostChannel : SocketSender} {admitted : Bool}
    (ready : ctx.Ready fault cluster
      (.joinEnter gameId hostId hostNickname hostChannel nickname admitted)) :
    (ctx.joinEnter (cluster.world ctx.shardId) gameId hostId hostNickname hostChannel nickname
      admitted).Sound fault intent cluster ctx := by
  obtain ⟨named, wired⟩ := ready.relies
  unfold joinEnter
  split
  · rename_i missing
    exact ready.lost missing (by cases admitted <;> simp [Pc.stage])
  · rename_i client found
    have known := named client found
    have valid := ready.world _ _ found
    cases admitted with
    | false =>
      have idle : cluster.lobby.stage ctx.party = .idle := ready.stage
      exact (Section.Quiet.reply (.refl ready.world) ..).sound (by simp [idle, Stage.Bound])
    | true =>
      have entering : cluster.lobby.stage ctx.party = .entering gameId ⟨ctx.shardId, hostId⟩ :=
        ready.stage
      have empty : client.game = none :=
        ready.unseated (.inr (.inr (.inr ⟨gameId, _, rfl⟩))) found
      have self : ctx.localClient client nickname =
          .new ctx.clientId nickname ctx.shardId true (some ctx.clientId) := by
        rw [localClient, valid.named, valid.wired]
      obtain ⟨leads, moved⟩ := ready.seated found known
        (Game.Valid.new ctx.clientId hostId false gameId nickname hostNickname ctx.shardId
          (by simp))
      simp only [self, wired, World.setGame, empty, World.dropGame?, ↓reduceIte]
      refine .answer leads fun intent stage final => ?_
      refine .enter gameId _ entering (Cluster.lobby_present found) stage final ?_
      rw [moved]
      rfl

/-- The deletion by bare id hits the records kept under that very key. -/
theorem joinForeign_sound {gameId : String} (ready : ctx.Ready fault cluster (.joinForeign gameId)) :
    (ctx.joinForeign (cluster.world ctx.shardId) gameId).Sound fault intent cluster ctx := by
  have striking : cluster.lobby.stage ctx.party = .striking gameId := ready.stage
  have free : ¬ (cluster.lobby.stage ctx.party).Bound := by simp [striking, Stage.Bound]
  have leads : (cluster.world ctx.shardId).Leads (cluster.world ctx.shardId) := .refl ready.world
  unfold joinForeign
  split
  · exact (Section.Quiet.panic (.refl ready.world)).sound free
  · split
    · exact (Section.Quiet.fail (.refl ready.world) _).sound free
    · refine .goto (leads.same rfl) (.strike gameId striking
        ((cluster.world ctx.shardId).del gameId).redis.records ?_ ?_ ?_) trivial
      · rintro other same
        simp [Redis.records, show gameId = gameKey other from same]
      · intro other apart
        simp [Redis.records, Cluster.lobby, Function.update_of_ne (Ne.symm apart)]
      · exact Lobby.ext (Cluster.moved_seat_kept (World.places_del ..)) rfl rfl
          (Cluster.moved_present (leads.same rfl))

end Ctx

end Grass
