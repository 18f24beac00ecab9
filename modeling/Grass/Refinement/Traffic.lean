import Grass.Refinement.Entries

/-! What may be enqueued, and on whose channels: the acting client's own messages, and
events for those the games at hand know of. -/

namespace Grass

/-- Only allowed messages are enqueued. -/
structure Sending.Within (allowed : Delivery → Prop) (sending : Sending ε α) : Prop where
  sent : ∀ delivery ∈ sending.sent, allowed delivery

theorem IterOrder.mem_keys (order : IterOrder) {roster : Roster} {entry : Uuid × PartialClient}
    (member : entry ∈ order.list roster) : entry.1 ∈ roster := by
  rw [← AList.lookup_isSome, order.mem_iff.mp member]
  rfl

variable {allowed : Delivery → Prop} {known wider : Uuid → Prop} {id : Uuid}

namespace Sending

theorem Within.silent (exit : Exit ε α) : Within allowed ⟨exit, []⟩ := ⟨by simp⟩

theorem Within.bind {first : Sending ε α} {next : α → Sending ε β} (within : first.Within allowed)
    (later : ∀ value, (next value).Within allowed) : (first >>= next).Within allowed := by
  constructor
  intro delivery member
  simp only [Bind.bind] at member
  split at member
  · rcases List.mem_append.mp member with earlier | following
    · exact within.sent delivery earlier
    · exact (later _).sent delivery following
  · exact within.sent delivery member
  · exact within.sent delivery member

theorem Within.ignore {sending : Sending ε α} (within : sending.Within allowed) :
    (sending.ignore : Sending ε' Unit).Within allowed := by
  constructor
  rw [ignore_sent]
  exact within.sent

theorem ignore_bind_sent (sending : Sending ε α) (value : β) :
    ((sending.ignore : Sending ε' Unit) >>= fun _ => pure value).sent = sending.sent := by
  simp only [Bind.bind]
  split <;> simp

end Sending

open Sending

/-- Whoever is known may be sent any event, on an open channel. -/
def Announces (allowed : Delivery → Prop) (known : Uuid → Prop) (closed : SocketSender → Bool) :
    Prop :=
  ∀ channel event, known channel → closed channel = false → allowed ⟨channel, .gameEvent event⟩

/-- The acting client, too, may be sent anything but the news of its disconnection. -/
structure Permits (allowed : Delivery → Prop) (known : Uuid → Prop) (id : Uuid)
    (closed : SocketSender → Bool) : Prop where
  own : ∀ message, message ≠ .forcedDisconnection → closed id = false → allowed ⟨id, message⟩
  event : Announces allowed known closed

theorem PartialClient.Own.within {client : PartialClient} {closed : SocketSender → Bool}
    {message : Message} (own : client.Own)
    (heard : closed client.id = false → allowed ⟨client.id, message⟩) :
    (client.sendMessage closed message).Within allowed := by
  constructor
  rw [own.sent]
  split
  · simp
  · rename_i hears
    simpa using heard (by simpa using hears)

theorem sendAll_within {closed : SocketSender → Bool} {batch : List (PartialClient × Message)}
    (each : ∀ item ∈ batch, (item.1.sendMessage closed item.2).Within allowed) :
    (sendAll closed batch : Sending ε Unit).Within allowed := by
  induction batch with
  | nil => exact .silent _
  | cons item rest ih =>
    obtain ⟨head, others⟩ := List.forall_mem_cons.mp each
    exact .bind head.ignore fun _ => ih others

namespace Game

variable {game : Game} {closed : SocketSender → Bool}

/-- Everyone the game would send an event to is known. -/
structure Known (known : Uuid → Prop) (game : Game) : Prop where
  host : known game.partialHost.id
  members : ∀ key, (∃ roster, game.connectedClients = some roster ∧ key ∈ roster) → known key

theorem Known.mono (knows : game.Known known) (more : ∀ id, known id → wider id) :
    game.Known wider :=
  ⟨more _ knows.host, fun key listed => more key (knows.members key listed)⟩

theorem Known.same {after : Game} (knows : game.Known known) (same : after.SameRoster game) :
    after.Known known where
  host := by rw [same.partialHost]; exact knows.host
  members key listed := knows.members key ((same.members key).mp listed)

theorem Known.erase {roster : Roster} (knows : game.Known known)
    (clients : game.connectedClients = some roster) (struck : Uuid) :
    Known known { game with connectedClients := some (roster.erase struck) } where
  host := knows.host
  members key listed := by
    obtain ⟨_, same, member⟩ := listed
    obtain rfl := Option.some.inj same
    exact knows.members key ⟨roster, clients, (AList.mem_erase.mp member).2⟩

theorem Known.insert {roster : Roster} {client : PartialClient} (knows : game.Known known)
    (clients : game.connectedClients = some roster) (welcome : known client.id) :
    Known known { game with connectedClients := some (roster.insert client.id client) } where
  host := knows.host
  members key listed := by
    obtain ⟨_, same, member⟩ := listed
    obtain rfl := Option.some.inj same
    rcases (AList.mem_insert _).mp member with rfl | earlier
    · exact welcome
    · exact knows.members key ⟨roster, clients, earlier⟩

/-- A start tells at most one event, to the participants of the game it leaves. -/
theorem start_sent (game : Game) (order : IterOrder) (closed : SocketSender → Bool)
    (choose : List GameTask → Nat → List GameTask) (availableTasks : List GameTask)
    (taskCount : Nat) :
    (game.start order closed choose availableTasks taskCount).2.sent = [] ∨
      (game.start order closed choose availableTasks taskCount).2.sent =
        ((game.start order closed choose availableTasks taskCount).1.sendGlobal order closed
          (.gameEvent (.start taskCount)) none).sent := by
  unfold start
  split
  · split
    · exact .inl rfl
    · dsimp only
      split
      · exact .inl rfl
      · split
        · exact .inl rfl
        · exact .inr (ignore_sent _)
  · exact .inl rfl

theorem validateCodeTest_sent (game : Game) (order : IterOrder) (closed : SocketSender → Bool)
    (sandbox : Sandbox) (clientId : Uuid) (taskIndex : Nat) (code : String)
    (result : SandboxResponse) :
    (game.validateCodeTest order closed sandbox clientId taskIndex code result).2.sent = [] ∨
      ∃ event, (game.validateCodeTest order closed sandbox clientId taskIndex code result).2.sent =
        ((game.validateCodeTest order closed sandbox clientId taskIndex code result).1.sendGlobal
          order closed (.gameEvent event) (some [clientId])).sent := by
  unfold validateCodeTest
  split
  · exact .inl rfl
  · unfold privateStage
    split
    · exact .inl rfl
    · exact .inl rfl
    · split
      · exact .inl rfl
      · split
        · exact .inl rfl
        · split
          · exact .inl rfl
          · split
            · exact .inl rfl
            · exact .inr ⟨_, ignore_bind_sent _ _⟩

/-- Whom the roster of a valid game lists is filed under its own id. -/
theorem Valid.rostered {owner : Uuid} {roster : Roster} {key : Uuid} {client : PartialClient}
    (valid : game.Valid owner) (clients : game.connectedClients = some roster)
    (found : roster.lookup key = some client) : client.id = key ∧ client.Own := by
  cases host : game.isHost with
  | false => simp [(valid.visiting host).1] at clients
  | true =>
    obtain ⟨-, other, same, wired⟩ := valid.hosting host
    obtain rfl : roster = other := Option.some.inj (clients.symm.trans same)
    exact wired key client found

variable (announces : Announces allowed known closed)

include announces

/-- Whoever of the roster is told an event is known. -/
theorem Valid.tell_within {ε : Type} {owner : Uuid} {roster : Roster}
    {entries : List (Uuid × PartialClient)} (valid : game.Valid owner) (knows : game.Known known)
    (clients : game.connectedClients = some roster) (order : IterOrder)
    (part : ∀ entry ∈ entries, entry ∈ order.list roster) (event : GameEvent) :
    (sendAll closed (entries.map fun entry => (entry.2, .gameEvent event)) :
      Sending ε Unit).Within allowed := by
  refine sendAll_within fun item listed => ?_
  obtain ⟨entry, member, rfl⟩ := List.mem_map.mp listed
  have present := part entry member
  obtain ⟨named, own⟩ := valid.rostered clients (order.mem_iff.mp present)
  refine own.within (announces _ event ?_)
  rw [named]
  exact knows.members entry.1 ⟨roster, clients, order.mem_keys present⟩

theorem Valid.sendGlobal_within {owner : Uuid} (valid : game.Valid owner) (knows : game.Known known)
    (order : IterOrder) (event : GameEvent) (skipClientIds : Option (List Uuid)) :
    (game.sendGlobal order closed (.gameEvent event) skipClientIds).Within allowed := by
  refine .bind (.silent _) fun _ => ?_
  split
  · exact .silent _
  · rename_i roster clients
    refine .bind (valid.tell_within announces knows clients order
      (fun _ member => List.mem_of_mem_filter member) event) fun _ => ?_
    split
    · exact .silent _
    · exact valid.host.within (announces _ event knows.host)

theorem Valid.announce_within {owner : Uuid} {roster : Roster} {newcomer : PartialClient}
    (valid : game.Valid owner) (knows : game.Known known) (order : IterOrder)
    (own : newcomer.Own) (welcome : known newcomer.id) :
    (game.announce order closed roster newcomer).Within allowed := by
  have told : ∀ event, (newcomer.sendMessage closed (.gameEvent event)).Within allowed :=
    fun event => own.within (announces _ event welcome)
  refine .bind (sendAll_within fun item listed => ?_) fun _ => .bind (told _).ignore fun _ => ?_
  · obtain ⟨_, -, rfl⟩ := List.mem_map.mp listed
    exact told _
  · exact (valid.sendGlobal_within announces knows order _ none).ignore

/-- A registration enters the newcomer, if anybody. -/
theorem Valid.register_within {owner : Uuid} {newcomer : PartialClient} (valid : game.Valid owner)
    (knows : game.Known known) (order : IterOrder) (own : newcomer.Own)
    (welcome : known newcomer.id) :
    (game.register order closed newcomer).2.Within allowed ∧
      (game.register order closed newcomer).1.Known known := by
  rcases valid.register_cases order closed own with
    ⟨-, same⟩ | ⟨-, -, roster, clients, -, same, -⟩
  · rw [same]
    exact ⟨.silent _, knows⟩
  · rw [same]
    exact ⟨valid.announce_within announces knows order own welcome, knows.insert clients welcome⟩

theorem Valid.unregister_within {owner : Uuid} (valid : game.Valid owner)
    (knows : game.Known known) (order : IterOrder) (clientId : Uuid) :
    (game.unregister order closed clientId).2.Within allowed ∧
      (game.unregister order closed clientId).1.Known known := by
  rcases valid.unregister_cases order closed clientId with
    ⟨same, -⟩ | ⟨host, roster, clients, wired, -, _, -, same, told⟩
  · rw [same]
    exact ⟨.silent _, knows⟩
  · have struck := knows.erase clients clientId
    have left := valid.withRoster host (wired.erase clientId)
    rw [same, told]
    exact ⟨(left.sendGlobal_within announces struck order _ none).ignore, struck⟩

theorem Valid.start_within {owner : Uuid} (valid : game.Valid owner) (knows : game.Known known)
    (order : IterOrder) (choose : List GameTask → Nat → List GameTask)
    (availableTasks : List GameTask) (taskCount : Nat) :
    (game.start order closed choose availableTasks taskCount).2.Within allowed ∧
      (game.start order closed choose availableTasks taskCount).1.Known known := by
  obtain ⟨started, same⟩ := valid.start order closed choose availableTasks taskCount
  have kept := knows.same same
  refine ⟨⟨?_⟩, kept⟩
  rcases game.start_sent order closed choose availableTasks taskCount with silent | told
  · simp [silent]
  · rw [told]
    exact (started.sendGlobal_within announces kept order _ none).sent

theorem Valid.validateCodeTest_within {owner : Uuid} (valid : game.Valid owner)
    (knows : game.Known known) (order : IterOrder) (sandbox : Sandbox) (clientId : Uuid)
    (taskIndex : Nat) (code : String) (result : SandboxResponse) :
    (game.validateCodeTest order closed sandbox clientId taskIndex code result).2.Within allowed ∧
      (game.validateCodeTest order closed sandbox clientId taskIndex code result).1.Known known := by
  obtain ⟨graded, same⟩ :=
    valid.validateCodeTest order closed sandbox clientId taskIndex code result
  have kept := knows.same same
  refine ⟨⟨?_⟩, kept⟩
  rcases game.validateCodeTest_sent order closed sandbox clientId taskIndex code result with
    silent | ⟨event, told⟩
  · simp [silent]
  · rw [told]
    exact (graded.sendGlobal_within announces kept order event _).sent

end Game

/-- The entry is in order, and where it holds a game, its client is known, and so is
everyone in the game. -/
structure SocketClient.Known (known : Uuid → Prop) (id : Uuid) (client : SocketClient) : Prop where
  valid : client.Valid id
  playing : ∀ game, client.game = some game → known id ∧ game.Known known

theorem SocketClient.Known.mono {client : SocketClient} (knows : client.Known known id)
    (more : ∀ id, known id → wider id) : client.Known wider id :=
  ⟨knows.valid, fun game playing =>
    ⟨more id (knows.playing game playing).1, (knows.playing game playing).2.mono more⟩⟩

theorem SocketClient.Known.withGame {client : SocketClient} {game : Game}
    (knows : client.Known known id) (identified : client.nickname.isSome) (valid : game.Valid id)
    (self : known id) (mentions : game.Known known) :
    SocketClient.Known known id { client with game := some game } where
  valid := ⟨knows.valid.named, knows.valid.wired, fun _ playing => by
    cases playing
    exact ⟨identified, valid⟩⟩
  playing _ playing := by
    cases playing
    exact ⟨self, mentions⟩

theorem SocketClient.Known.vacated {client : SocketClient} (knows : client.Known known id)
    (flag : Bool) :
    SocketClient.Known known id { client with game := none, performedSafeShutdown := flag } where
  valid := ⟨knows.valid.named, knows.valid.wired, fun _ playing => by cases playing⟩
  playing _ playing := by cases playing

namespace World

variable {world before middle after : World} {client : SocketClient} {key : String}

def Knows (known : Uuid → Prop) (world : World) : Prop :=
  ∀ id client, world.sockets id = some client → client.Known known id

/-- Where everybody is known. -/
theorem Valid.knows (valid : world.Valid) : world.Knows fun _ => True :=
  fun id client found => ⟨valid id client found, fun _ _ => ⟨trivial, trivial, fun _ _ => trivial⟩⟩

theorem Knows.wired {id : Uuid} (knows : world.Knows known) (found : world.sockets id = some client) :
    client.sendChannel = id :=
  (knows id client found).valid.wired

/-- Only allowed messages are enqueued on the way, only entries of known clients change,
and whoever is mentioned in them is known. -/
structure Carries (known : Uuid → Prop) (allowed : Delivery → Prop) (before after : World) :
    Prop where
  closed : after.closed = before.closed
  wire : ∃ sent, after.wire = before.wire ++ sent ∧ ∀ delivery ∈ sent, allowed delivery
  strangers : ∀ id, ¬ known id → after.sockets id = before.sockets id
  knows : after.Knows known

theorem Carries.refl (knows : world.Knows known) : world.Carries known allowed world :=
  ⟨rfl, ⟨[], by simp, by simp⟩, fun _ _ => rfl, knows⟩

section Carries

variable (carries : before.Carries known allowed world)

include carries

theorem Carries.put (self : known id) (entry : client.Known known id) :
    before.Carries known allowed (world.put id client) := by
  refine ⟨carries.closed, carries.wire, fun other strange => ?_, fun other present found => ?_⟩
  · have apart : other ≠ id := fun same => strange (same ▸ self)
    simpa [apart] using carries.strangers other strange
  · by_cases same : other = id
    · subst same
      obtain rfl : client = present := by simpa using found
      exact entry
    · exact carries.knows other present (by simpa [same] using found)

theorem Carries.remove (self : known id) : before.Carries known allowed (world.remove id) := by
  refine ⟨carries.closed, carries.wire, fun other strange => ?_, fun other present found => ?_⟩
  · have apart : other ≠ id := fun same => strange (same ▸ self)
    simpa [apart] using carries.strangers other strange
  · by_cases same : other = id
    · simp [same] at found
    · exact carries.knows other present (by simpa [same] using found)

theorem Carries.set {value : RedisValue} : before.Carries known allowed (world.set key value) :=
  ⟨carries.closed, carries.wire, carries.strangers, carries.knows⟩

theorem Carries.del : before.Carries known allowed (world.del key) :=
  ⟨carries.closed, carries.wire, carries.strangers, carries.knows⟩

theorem Carries.deliver {sent : List Delivery} (each : ∀ delivery ∈ sent, allowed delivery) :
    before.Carries known allowed (world.deliver sent) := by
  obtain ⟨earlier, same, fine⟩ := carries.wire
  refine ⟨carries.closed, ⟨earlier ++ sent, by simp [same], fun delivery member => ?_⟩,
    carries.strangers, carries.knows⟩
  rcases List.mem_append.mp member with old | new
  · exact fine delivery old
  · exact each delivery new

theorem Carries.send {channel : SocketSender} {message : Message}
    (heard : before.closed channel = false → allowed ⟨channel, message⟩) :
    before.Carries known allowed (world.send channel message) := by
  unfold World.send
  split
  · exact carries
  · rename_i hears
    refine carries.deliver fun delivery member => ?_
    obtain rfl : delivery = ⟨channel, message⟩ := by simpa using member
    exact heard (by rw [← carries.closed]; simpa using hears)

variable (permits : Permits allowed known id before.closed) (oracle : Oracle)

include permits

theorem Carries.shutdownGame {game : Game} (valid : game.Valid id) (mentions : game.Known known) :
    before.Carries known allowed (world.shutdownGame oracle game).2.1 := by
  rw [← carries.closed] at permits
  unfold World.shutdownGame
  split
  · split
    · exact carries
    · rename_i roster clients
      let farewells : Sending ClientError Unit := sendAll world.closed
        ((oracle.order.list roster).map fun entry => (entry.2, .gameEvent .shutdown))
      have within : farewells.Within allowed :=
        valid.tell_within permits.event mentions clients oracle.order (fun _ member => member)
          .shutdown
      have told := carries.deliver within.sent
      dsimp only
      split
      · split
        · exact told
        · refine told.del.deliver (PartialClient.Own.within valid.host fun hears => ?_).sent
          have here : game.isHost = true := by
            cases host : game.isHost with
            | true => rfl
            | false => simp [(valid.visiting host).1] at clients
          rw [(valid.hosting here).1] at hears ⊢
          exact permits.own _ (by simp) hears
      · exact told
  · exact carries

omit permits in
theorem Carries.deleteRecord (gameId : String) :
    before.Carries known allowed (world.deleteRecord oracle gameId).1 := by
  unfold World.deleteRecord
  split
  · exact carries
  · exact carries.del

theorem Carries.leaveGame {game : Game} (valid : game.Valid id) :
    before.Carries known allowed (world.leaveGame oracle game).1 := by
  have struck : before.Carries known allowed (world.unregisterFromHost oracle game).1 := by
    rw [← carries.closed] at permits
    unfold World.unregisterFromHost
    split
    · rename_i hostClient found
      split
      · rename_i hostGame playing
        have entry := carries.knows _ _ found
        obtain ⟨identified, hostValid⟩ := entry.valid.playing hostGame playing
        obtain ⟨self, members⟩ := entry.playing hostGame playing
        obtain ⟨within, mentions⟩ := hostValid.unregister_within permits.event members oracle.order
          game.partialClient.id
        exact (carries.put self (entry.withGame identified (hostValid.unregister ..) self
          mentions)).deliver within.sent
      · exact carries
    · exact carries
  unfold World.leaveGame
  split
  · rename_i left
    rwa [left] at struck
  · rename_i left
    rw [left] at struck
    rw [← struck.closed] at permits
    refine struck.deliver (Within.ignore (PartialClient.Own.within valid.self fun hears => ?_)).sent
    rw [valid.owner] at hears ⊢
    exact permits.own _ (by simp) hears

/-- A drop tells the client its end, and others an event. -/
theorem Carries.dropGame? {held : Option Game} (valid : ∀ game, held = some game → game.Valid id)
    (mentions : ∀ game, held = some game → game.Known known) :
    before.Carries known allowed (world.dropGame? oracle held).1 := by
  cases held with
  | none => exact carries
  | some game =>
    rw [World.dropGame?, World.dropGame]
    split
    · have shut := carries.shutdownGame permits oracle (valid game rfl) (mentions game rfl)
      split
      · rename_i ended
        rwa [ended] at shut
      · rename_i ended
        rw [ended] at shut
        exact shut.deleteRecord oracle _
    · split
      · exact carries.leaveGame permits oracle (valid game rfl)
      · exact carries

/-- Storing a game drops the one it replaces. -/
theorem Carries.setGame {game : Game} (entry : client.Known known id)
    (identified : client.nickname.isSome) (self : known id) (valid : game.Valid id)
    (mentions : game.Known known) :
    before.Carries known allowed (world.setGame oracle id client game).1 := by
  have dropped := carries.dropGame? permits oracle
    (fun game playing => (entry.valid.playing game playing).2)
    fun game playing => (entry.playing game playing).2
  unfold World.setGame
  split
  · rename_i ended
    rwa [ended] at dropped
  · rename_i ended
    rw [ended] at dropped
    exact dropped.put self (entry.withGame identified valid self mentions)

omit permits in
/-- The drop of an entry tells its client of the disconnection. -/
theorem Carries.announceDrop (wired : client.sendChannel = id)
    (forced : client.performedSafeShutdown = false → before.closed id = false →
      allowed ⟨id, .forcedDisconnection⟩) :
    before.Carries known allowed (world.announceDrop client) := by
  unfold World.announceDrop
  split
  · exact carries
  · rename_i flag
    subst wired
    exact carries.send (forced (by simpa using flag))

end Carries

end World

end Grass
