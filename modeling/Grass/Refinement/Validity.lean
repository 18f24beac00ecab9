import Grass.Model.Cluster

/-! Well-formed entries of a sockets map: every client record is wired to the
client's own channel, a host game has a roster, a guest game has none. -/

namespace Grass

/-- A local client is written to on the channel of its own connection. -/
structure PartialClient.Own (client : PartialClient) : Prop where
  isLocal : client.isLocal = true
  channel : client.writeChannel = some client.id

theorem PartialClient.Own.wired {client : PartialClient} (own : client.Own) : client.Wired := by
  simp [Wired, own.channel]

/-- What is sent to it arrives unless its channel is closed. -/
theorem PartialClient.Own.sent {client : PartialClient} (own : client.Own)
    (closed : SocketSender → Bool) (message : Message) :
    (client.sendMessage closed message).sent =
      if closed client.id then [] else [⟨client.id, message⟩] := by
  simp only [sendMessage, own.isLocal, own.channel, ↓reduceIte]
  split <;> rfl

theorem PartialClient.Own.new (id : Uuid) (nickname : String) (shardId : ShardId) :
    (PartialClient.new id nickname shardId true (some id)).Own :=
  ⟨rfl, rfl⟩

/-- Every participant is filed under its own id. -/
def Roster.Valid (roster : Roster) : Prop :=
  ∀ key client, roster.lookup key = some client → client.id = key ∧ client.Own

theorem Roster.Valid.wired {roster : Roster} (valid : roster.Valid) {entry : Uuid × PartialClient}
    (order : IterOrder) (member : entry ∈ order.list roster) : entry.2.Wired :=
  (valid entry.1 entry.2 (order.mem_iff.mp member)).2.wired

/-- Everyone in it is tried, whatever the order. -/
theorem Roster.Valid.sendAll {ε : Type} {roster : Roster} (valid : roster.Valid) (order : IterOrder)
    (closed : SocketSender → Bool) (message : Message) :
    (sendAll closed ((order.list roster).map fun entry => (entry.2, message)) :
        Sending ε Unit).exit = .ok () ∧
      (sendAll closed ((order.list roster).map fun entry => (entry.2, message)) :
        Sending ε Unit).sent =
        (order.list roster).flatMap fun entry => (entry.2.sendMessage closed message).sent := by
  rw [← List.flatMap_map (fun entry : Uuid × PartialClient => (entry.2, message))
    fun item : PartialClient × Message => (item.1.sendMessage closed item.2).sent]
  refine sendAll_wired closed _ fun item member => ?_
  obtain ⟨entry, listed, rfl⟩ := List.mem_map.mp member
  exact valid.wired order listed

theorem Roster.Valid.empty : Roster.Valid ∅ := by
  intro key client found
  simp [AList.lookup_empty] at found

theorem Roster.Valid.insert {roster : Roster} {client : PartialClient} (valid : roster.Valid)
    (own : client.Own) : Roster.Valid (roster.insert client.id client) := by
  intro key other found
  by_cases same : key = client.id
  · subst same
    rw [AList.lookup_insert] at found
    cases found
    exact ⟨rfl, own⟩
  · rw [AList.lookup_insert_ne same] at found
    exact valid key other found

theorem Roster.Valid.erase {roster : Roster} (valid : roster.Valid) (id : Uuid) :
    Roster.Valid (roster.erase id) := by
  intro key other found
  by_cases same : key = id
  · subst same
    simp [AList.lookup_erase] at found
  · rw [AList.lookup_erase_ne same] at found
    exact valid key other found

theorem Roster.Valid.progress {roster : Roster} (valid : roster.Valid) (progress : Option Progress) :
    Roster.Valid (roster.mapValues fun client => { client with taskProgress := progress }) := by
  intro key other found
  rw [Roster.lookup_mapValues] at found
  obtain ⟨client, present, rfl⟩ := Option.map_eq_some_iff.mp found
  obtain ⟨same, own⟩ := valid key client present
  exact ⟨same, own.isLocal, own.channel⟩

/-- The game of the client `id`. -/
structure Game.Valid (id : Uuid) (game : Game) : Prop where
  owner : game.partialClient.id = id
  self : game.partialClient.Own
  host : game.partialHost.Own
  hosting : game.isHost = true → game.partialHost.id = id ∧
    ∃ roster, game.connectedClients = some roster ∧ roster.Valid
  visiting : game.isHost = false → game.connectedClients = none ∧ game.isStarted = false

theorem Game.Valid.new (id hostId : Uuid) (isHost : Bool) (gameId nickname hostNickname : String)
    (shardId : ShardId) (own : isHost = true → hostId = id) :
    (Game.new isHost gameId (.new id nickname shardId true (some id))
      (.new hostId hostNickname shardId true (some hostId))).Valid id where
  owner := rfl
  self := .new ..
  host := .new ..
  hosting host := ⟨own host, ∅, by simp [Game.new, show isHost = true from host], .empty⟩
  visiting guest := ⟨by simp [Game.new, show isHost = false from guest], rfl⟩

/-- The entry of the client `id`. -/
structure SocketClient.Valid (id : Uuid) (client : SocketClient) : Prop where
  named : client.id = id
  wired : client.sendChannel = id
  playing : ∀ game, client.game = some game → client.nickname.isSome ∧ game.Valid id

theorem SocketClient.Valid.new (id : Uuid) : (SocketClient.new id id).Valid id :=
  ⟨rfl, rfl, fun _ playing => by cases playing⟩

/-- Later contents of an entry: same client, and no nickname forgotten. -/
structure SocketClient.Succeeds (new old : SocketClient) : Prop where
  named : new.id = old.id
  wired : new.sendChannel = old.sendChannel
  nickname : old.nickname.isSome → new.nickname.isSome
  flag : new.performedSafeShutdown = old.performedSafeShutdown

theorem SocketClient.Succeeds.refl (client : SocketClient) : client.Succeeds client :=
  ⟨rfl, rfl, fun known => known, rfl⟩

theorem SocketClient.Succeeds.trans {first second third : SocketClient}
    (later : third.Succeeds second) (earlier : second.Succeeds first) : third.Succeeds first where
  named := later.named.trans earlier.named
  wired := later.wired.trans earlier.wired
  nickname known := later.nickname (earlier.nickname known)
  flag := later.flag.trans earlier.flag

theorem SocketClient.Succeeds.playing {client : SocketClient} (game : Option Game) :
    SocketClient.Succeeds { client with game := game } client :=
  ⟨rfl, rfl, fun known => known, rfl⟩

namespace World

def Valid (world : World) : Prop :=
  ∀ id client, world.sockets id = some client → client.Valid id

theorem Valid.wired {world : World} {id : Uuid} {client : SocketClient} (valid : world.Valid)
    (found : world.sockets id = some client) : client.sendChannel = id :=
  (valid id client found).wired

/-- What happens to the entry of a connection that does not act itself: it neither
appears nor vanishes, and a new content succeeds the old one. -/
structure LeadsAt (id : Uuid) (before after : World) : Prop where
  kept : after.sockets id = none → before.sockets id = none
  succeeds : ∀ new, after.sockets id = some new →
    ∃ old, before.sockets id = some old ∧ new.Succeeds old

/-- What handlers may do to the sockets map. -/
structure Leads (before after : World) : Prop where
  entry : ∀ id, before.LeadsAt id after
  valid : after.Valid

section Leads

variable {before middle after : World} {id : Uuid}

theorem LeadsAt.missing (leads : before.LeadsAt id after) :
    after.sockets id = none ↔ before.sockets id = none := by
  refine ⟨leads.kept, fun missing => ?_⟩
  cases present : after.sockets id with
  | none => rfl
  | some client =>
    obtain ⟨old, known, -⟩ := leads.succeeds client present
    simp [missing] at known

theorem LeadsAt.same (sockets : after.sockets id = before.sockets id) :
    before.LeadsAt id after where
  kept missing := by rw [← sockets, missing]
  succeeds new found := ⟨new, by rw [← sockets, found], .refl new⟩

theorem LeadsAt.trans (earlier : before.LeadsAt id middle) (later : middle.LeadsAt id after) :
    before.LeadsAt id after where
  kept missing := earlier.kept (later.kept missing)
  succeeds new found := by
    obtain ⟨between, present, next⟩ := later.succeeds new found
    obtain ⟨old, known, last⟩ := earlier.succeeds between present
    exact ⟨old, known, next.trans last⟩

theorem Leads.refl (valid : before.Valid) : before.Leads before :=
  ⟨fun _ => .same rfl, valid⟩

theorem Leads.trans (first : before.Leads middle) (second : middle.Leads after) :
    before.Leads after :=
  ⟨fun id => (first.entry id).trans (second.entry id), second.valid⟩

theorem Leads.same (leads : before.Leads middle) (sockets : after.sockets = middle.sockets) :
    before.Leads after where
  entry id := (leads.entry id).trans (.same (by rw [sockets]))
  valid id client found := leads.valid id client (by rw [← sockets, found])

theorem Valid.put {world : World} {client : SocketClient} (worldValid : world.Valid)
    (valid : client.Valid id) : (world.put id client).Valid := by
  intro other present found
  by_cases same : other = id
  · subst same
    obtain rfl : client = present := by simpa using found
    exact valid
  · exact worldValid other present (by simpa [same] using found)

theorem Leads.put {old new : SocketClient} (leads : before.Leads middle)
    (found : middle.sockets id = some old) (later : new.Succeeds old) (valid : new.Valid id) :
    before.Leads (middle.put id new) where
  entry other := by
    apply (leads.entry other).trans
    by_cases same : other = id
    · subst same
      refine ⟨fun missing => by simp at missing, fun client present => ⟨old, found, ?_⟩⟩
      obtain rfl : new = client := by simpa using present
      exact later
    · exact .same (by simp [same])
  valid := leads.valid.put valid

end Leads

end World

end Grass
