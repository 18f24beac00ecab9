import Grass.Guarantee.Session
import Grass.Lobby.Following

namespace Grass

open Lobby Transition

/-- The deliveries on one channel. -/
def deliveredTo (channel : SocketSender) (sent : List Delivery) : List Delivery :=
  sent.filter fun delivery => delivery.channel = channel

theorem IterOrder.nodup_keys (order : IterOrder) (roster : Roster) :
    ((order.list roster).map Prod.fst).Nodup := by
  apply ((order.perm roster).map Prod.fst).nodup_iff.mpr
  rw [Roster.toList, List.map_map]
  exact roster.nodupKeys

theorem deliveredTo_map {recipients : List Uuid} (distinct : recipients.Nodup) (message : Message)
    (channel : SocketSender) :
    deliveredTo channel (recipients.map fun id => ⟨id, message⟩) =
      if channel ∈ recipients then [⟨channel, message⟩] else [] := by
  induction recipients with
  | nil => rfl
  | cons head rest ih =>
    obtain ⟨fresh, apart⟩ := List.nodup_cons.mp distinct
    have later := ih apart
    rw [deliveredTo] at later ⊢
    by_cases same : head = channel
    · subst same
      simp [later, fresh]
    · simp [later, same, Ne.symm same]

namespace Game

variable {game : Game} {roster : Roster}

/-- The participants, in the order in which a broadcast goes to them. -/
def audience (order : IterOrder) (game : Game) (roster : Roster) : List Uuid :=
  (order.list roster).map Prod.fst ++ [game.partialHost.id]

/-- Those a broadcast is to reach. -/
def recipients (order : IterOrder) (closed : SocketSender → Bool) (game : Game) (roster : Roster)
    (skipClientIds : Option (List Uuid)) : List Uuid :=
  (game.audience order roster).filter fun id => !skips skipClientIds id && !closed id

private theorem flatMap_sent (closed : SocketSender → Bool) (message : Message)
    (skipClientIds : Option (List Uuid)) (entries : List (Uuid × PartialClient))
    (listed : ∀ entry ∈ entries, entry.2.id = entry.1 ∧ entry.2.Own) :
    ((entries.filter fun entry => !skips skipClientIds entry.1).flatMap
      fun entry => (entry.2.sendMessage closed message).sent) =
        ((entries.map Prod.fst).filter fun id => !skips skipClientIds id && !closed id).map
          fun id => ⟨id, message⟩ := by
  induction entries with
  | nil => rfl
  | cons entry rest ih =>
    obtain ⟨⟨named, own⟩, others⟩ := List.forall_mem_cons.mp listed
    have later := ih others
    have sent := own.sent closed message
    rw [named] at sent
    cases skipped : skips skipClientIds entry.1 <;> cases shut : closed entry.1 <;>
      simp [skipped, shut, later, sent]

theorem Hosts.sendGlobal_recipients (hosts : game.Hosts roster) (order : IterOrder)
    (closed : SocketSender → Bool) (message : Message) (skipClientIds : Option (List Uuid)) :
    (game.sendGlobal order closed message skipClientIds).sent =
      (game.recipients order closed roster skipClientIds).map fun id => ⟨id, message⟩ := by
  have listed : ∀ entry ∈ order.list roster, entry.2.id = entry.1 ∧ entry.2.Own :=
    fun entry member => hosts.roster entry.1 entry.2 (order.mem_iff.mp member)
  rw [(hosts.staffed.sendGlobal order closed message skipClientIds).2,
    flatMap_sent closed message skipClientIds _ listed, hosts.host.sent, recipients, audience,
    List.filter_append, List.map_append]
  cases skipped : skips skipClientIds game.partialHost.id <;>
    cases shut : closed game.partialHost.id <;> simp [skipped, shut]

theorem mem_recipients {order : IterOrder} {closed : SocketSender → Bool}
    {skipClientIds : Option (List Uuid)} {id : Uuid} :
    id ∈ game.recipients order closed roster skipClientIds ↔
      (id ∈ roster ∨ id = game.partialHost.id) ∧ skips skipClientIds id = false ∧
        closed id = false := by
  have listed : id ∈ (order.list roster).map Prod.fst ↔ id ∈ roster := by
    rw [← AList.lookup_isSome, Option.isSome_iff_exists]
    constructor
    · intro member
      obtain ⟨⟨_, client⟩, present, rfl⟩ := List.mem_map.mp member
      exact ⟨client, order.mem_iff.mp present⟩
    · rintro ⟨client, found⟩
      exact List.mem_map.mpr ⟨(id, client), order.mem_iff.mpr found, rfl⟩
  rw [recipients, List.mem_filter, audience, List.mem_append, listed]
  simp

theorem Hosts.broadcast (hosts : game.Hosts roster) (apart : game.partialHost.id ∉ roster)
    (order : IterOrder) (closed : SocketSender → Bool) (message : Message)
    (skipClientIds : Option (List Uuid)) (channel : SocketSender) :
    deliveredTo channel (game.sendGlobal order closed message skipClientIds).sent =
      if (channel ∈ roster ∨ channel = game.partialHost.id) ∧
          skips skipClientIds channel = false ∧ closed channel = false then
        [⟨channel, message⟩] else [] := by
  have distinct : (game.recipients order closed roster skipClientIds).Nodup := by
    refine List.Nodup.filter _ (List.nodup_append.mpr ⟨order.nodup_keys roster, by simp, ?_⟩)
    intro id member other host same
    obtain ⟨⟨_, client⟩, present, rfl⟩ := List.mem_map.mp member
    obtain rfl : other = game.partialHost.id := by simpa using host
    apply apart
    rw [← same, ← AList.lookup_isSome, order.mem_iff.mp present]
    rfl
  rw [hosts.sendGlobal_recipients, deliveredTo_map distinct]
  simp only [mem_recipients]

end Game

namespace Cluster

variable {cluster : Cluster}

theorem reached_separate (reached : Reach Fresh steps cluster) : cluster.lobby.Separate := by
  apply reached_lobby (fun _ => reached_steps) (fun _ sound => sound)
    (fun _ _ _ step => ⟨step, Action.failing⟩) _ _ reached
  · rintro cluster fresh host ⟨game, members, taken, -⟩
    simp [(fresh.empty host).1] at taken
  · intro before action after sound _ move separate
    exact separate.move sound.coherent move

/-- In every reached cluster, whatever the skip list, the order and the open channels, a
broadcast of a host's game reaches every participant that is not skipped and whose
channel is open exactly once, and nobody else; it fails exactly where the host is not
skipped and cannot be reached. -/
theorem broadcast_exact (cluster : Cluster) (reached : Reach Fresh steps cluster)
    (shardId : ShardId) (hostId : Uuid) (game : Game)
    (held : (cluster.world shardId).gameAt hostId = some game) (host : game.isHost = true)
    (order : IterOrder) (closed : SocketSender → Bool) (message : Message)
    (skipClientIds : Option (List Uuid)) :
    game.partialHost.id = hostId ∧ ¬ game.Lists hostId ∧
      (∀ channel,
        deliveredTo channel (game.sendGlobal order closed message skipClientIds).sent =
          if (game.Lists channel ∨ channel = hostId) ∧ Game.skips skipClientIds channel = false ∧
              closed channel = false then
            [⟨channel, message⟩] else []) ∧
      ((∃ error, (game.sendGlobal order closed message skipClientIds).exit = .err error) ↔
        Game.skips skipClientIds hostId = false ∧ closed hostId = true) ∧
      (game.sendGlobal order closed message skipClientIds).exit ≠ .panic := by
  have sound := reached_steps reached
  obtain ⟨client, present, playing⟩ := Option.bind_eq_some_iff.mp held
  have valid := ((sound.valid.entries shardId hostId client present).playing game playing).2
  obtain ⟨roster, hosts⟩ := valid.hosts host
  obtain ⟨own, -⟩ := valid.hosting host
  have lists_iff : ∀ id, game.Lists id ↔ id ∈ roster := by
    simp [Game.Lists, hosts.clients]
  have apart : ¬ game.Lists hostId := fun lists =>
    reached_separate reached ⟨shardId, hostId⟩
      ⟨_, _, seat_of_host held host, (game.mem_parties shardId hostId).mpr lists⟩
  refine ⟨own, apart, fun channel => ?_, ?_, hosts.sendGlobal_calm order closed message _⟩
  · rw [hosts.broadcast (by rwa [own, ← lists_iff]), own]
    simp only [lists_iff]
  · rw [(hosts.staffed.sendGlobal order closed message skipClientIds).1, own]
    cases skipped : Game.skips skipClientIds hostId <;> cases shut : closed hostId <;>
      simp [PartialClient.sendMessage, hosts.host.isLocal, hosts.host.channel, own, shut]

/-- A host with one participant sends to both but the one that is skipped. -/
theorem broadcast_exact_pair : ∃ cluster game, Reach Fresh steps cluster ∧
    (cluster.world "a").gameAt 1 = some game ∧ game.Lists 2 ∧ ¬ game.Lists 1 ∧
    deliveredTo 1 (game.sendGlobal .stored (fun _ => false) (.gameEvent .shutdown) (some [2])).sent =
      [⟨1, .gameEvent .shutdown⟩] ∧
    deliveredTo 2 (game.sendGlobal .stored (fun _ => false) (.gameEvent .shutdown) (some [2])).sent =
      [] := by
  obtain ⟨cluster, reached, shown⟩ := run_shows (launch_fresh emptyRedis [])
    (show (run (guarded (fun _ _ => true) step) (launch emptyRedis []) (pair "a" "17" 1 2)).bind
        (fun cluster : Cluster => ((cluster.world "a").gameAt 1).map fun game =>
          (game.isHost, decide (game.Lists 2))) = some (true, true) by decide +kernel)
  obtain ⟨game, held, same⟩ := Option.map_eq_some_iff.mp shown
  obtain ⟨host, lists⟩ : game.isHost = true ∧ game.Lists 2 := by simpa using same
  have fresh : Reach Fresh steps cluster := reached.mono fun _ _ _ _ step => step.1
  obtain ⟨-, apart, sent, -⟩ := broadcast_exact cluster fresh "a" 1 game held host .stored
    (fun _ => false) (.gameEvent .shutdown) (some [2])
  refine ⟨cluster, game, fresh, held, lists, apart, ?_, ?_⟩
  · rw [sent]
    simp [Game.skips]
  · rw [sent]
    simp [Game.skips]

end Cluster

end Grass
