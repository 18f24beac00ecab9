import Grass.Guarantee.Broadcast
import Grass.Guarantee.History
import Grass.Guarantee.Replication

namespace Grass

open Lobby Transition

def Message.event? : Message → Option GameEvent
  | .gameEvent event => some event
  | _ => none

theorem Message.event?_eq_some {message : Message} {event : GameEvent} :
    message.event? = some event ↔ message = .gameEvent event := by
  cases message <;> simp [Message.event?]

/-- The game events in what was sent to one client. -/
def events (id : Uuid) (sent : List Delivery) : List GameEvent :=
  (deliveredTo id sent).filterMap fun delivery => delivery.message.event?

@[simp] theorem events_append (id : Uuid) (earlier later : List Delivery) :
    events id (earlier ++ later) = events id earlier ++ events id later := by
  simp [events, deliveredTo]

theorem events_answers {id other : Uuid} {sent : List Delivery}
    (answers : ∀ delivery ∈ sent, delivery.Answers other) : events id sent = [] := by
  refine List.filterMap_eq_nil_iff.mpr fun delivery member => ?_
  have plain := (answers delivery (List.mem_of_mem_filter member)).2
  cases same : delivery.message with
  | gameEvent event => exact absurd same (plain event)
  | _ => rfl

theorem events_amid {id other : Uuid} {first sent last : List Delivery}
    (replies : ∀ delivery ∈ first, delivery.Answers other)
    (answers : ∀ delivery ∈ last, delivery.Answers other) :
    events id (first ++ sent ++ last) = events id sent := by
  rw [events_append, events_append, events_answers replies, events_answers answers,
    List.nil_append, List.append_nil]

namespace Game

variable {game : Game} {roster : Roster}

theorem flatMap_own (closed : SocketSender → Bool) (message : Message)
    (entries : List (Uuid × PartialClient))
    (own : ∀ entry ∈ entries, entry.2.id = entry.1 ∧ entry.2.Own) :
    (entries.flatMap fun entry => (entry.2.sendMessage closed message).sent) =
      ((entries.map Prod.fst).filter fun id => !closed id).map fun id => ⟨id, message⟩ := by
  induction entries with
  | nil => rfl
  | cons entry rest ih =>
    obtain ⟨⟨named, wired⟩, others⟩ := List.forall_mem_cons.mp own
    rw [List.flatMap_cons, ih others, wired.sent, named]
    cases shut : closed entry.1 <;> simp [shut]

/-- Farewells go to the participants whose channels are open, to each once. -/
theorem deliveredTo_farewells (valid : roster.Valid) (order : IterOrder)
    (closed : SocketSender → Bool) (id : Uuid) : deliveredTo id (farewells order closed roster) =
      if id ∈ roster ∧ closed id = false then [⟨id, .gameEvent .shutdown⟩] else [] := by
  have recipients : farewells order closed roster = _ :=
    flatMap_own closed (.gameEvent .shutdown) _ fun entry member =>
      valid entry.1 entry.2 (order.mem_iff.mp member)
  have listed : id ∈ (order.list roster).map Prod.fst ↔ id ∈ roster := by
    rw [← AList.lookup_isSome, Option.isSome_iff_exists, List.mem_map]
    constructor
    · rintro ⟨⟨_, client⟩, member, rfl⟩
      exact ⟨client, order.mem_iff.mp member⟩
    · rintro ⟨client, found⟩
      exact ⟨⟨id, client⟩, order.mem_iff.mpr found, rfl⟩
  rw [recipients, deliveredTo_map ((order.nodup_keys roster).filter _)]
  simp only [List.mem_filter, listed, Bool.not_eq_true']

theorem events_farewells (valid : roster.Valid) (order : IterOrder) (closed : SocketSender → Bool)
    (id : Uuid) : events id (farewells order closed roster) =
      if id ∈ roster ∧ closed id = false then [.shutdown] else [] := by
  rw [events, deliveredTo_farewells valid, apply_ite (List.filterMap _)]
  rfl

end Game

namespace Cluster

variable {before after : Cluster} {action : Action}

/-- The host game of an entry ends only where its own connection acts; then everyone on
its roster whose channel is open is sent one Shutdown, and nobody any other game event, nor
anything at all in another process. -/
theorem end_told (before after : Cluster) (action : Action) (reached : Reach Fresh steps before)
    (stepped : steps before action after) (host : Party) (game : Game)
    (held : (before.world host.shardId).hostedAt host.id = some game)
    (gone : (after.world host.shardId).hostedAt host.id = none) :
    action.party = host ∧
      (∃ sent, (after.world host.shardId).wire = (before.world host.shardId).wire ++ sent ∧
        ∀ id, events id sent = if game.Lists id ∧ (before.world host.shardId).closed id = false
          then [.shutdown] else []) ∧
      ∀ shardId, shardId ≠ host.shardId →
        (after.world shardId).wire = (before.world shardId).wire := by
  have sound := reached_steps reached
  have stays : (after.world host.shardId).hostedAt = (before.world host.shardId).hostedAt → False := by
    intro same
    simp [same, held] at gone
  have here : host.shardId = action.party.shardId := by
    by_contra apart
    exact stays (hosted_still stepped (.inl apart))
  have kept : action.kind ≠ .sever := fun severs => stays (hosted_still stepped (.inr severs))
  obtain ⟨shardId, id⟩ := host
  obtain rfl : shardId = _ := here
  cases sound.step_plays stepped kept with
  | aside aside => exact (stays aside.hosted).elim
  | stray allowed same => exact (stays same).elim
  | calls hostId old made found by_ heard result told =>
    rw [result] at gone
    by_cases own : id = hostId
    · simp [own] at gone
    · simp [own, held] at gone
  | opens allowed gameId self named own fresh vacant result told =>
    rw [result] at gone
    by_cases own : id = action.party.id
    · simp [own] at gone
    · simp [own, held] at gone
  | ends old roster order found clients result told =>
    rw [result] at gone
    by_cases closer : id = action.party.id
    · subst closer
      obtain rfl : game = old := Option.some.inj (held.symm.trans found)
      obtain ⟨_, wire, first, last, rfl, replies, answers⟩ := told
      obtain ⟨playing, hosting⟩ := World.hostedAt_iff.mp held
      obtain ⟨other, hosts⟩ := ((sound.valid.entries _).gameAt playing).hosts hosting
      obtain rfl : roster = other := Option.some.inj (clients.symm.trans hosts.clients)
      refine ⟨rfl, ⟨_, wire, fun id => ?_⟩, fun shardId apart => wire_still stepped (.inl apart)⟩
      rw [events_amid replies answers, Game.events_farewells hosts.roster]
      simp only [hosts.lists]
    · simp [closer, held] at gone

/-- A host with one participant leaves. -/
theorem end_told_leave : ∃ (before after : Cluster) (game : Game) (sent : List Delivery),
    Reach Fresh steps before ∧ steps before ⟨⟨"a", 1⟩, .advance⟩ after ∧
    (before.world "a").hostedAt 1 = some game ∧ (after.world "a").hostedAt 1 = none ∧
    (after.world "a").wire = (before.world "a").wire ++ sent ∧ events 2 sent = [.shutdown] ∧
    events 1 sent = [] ∧ (after.world "b").wire = (before.world "b").wire := by
  let host : Party := ⟨"a", 1⟩
  obtain ⟨before, reached, shown⟩ := run_shows (launch_fresh emptyRedis [])
    (show (run (guarded (fun _ _ => true) step) (launch emptyRedis [])
        (pair "a" "17" 1 2 ++ host.asks (.calm "17") 0 "Leave" [])).bind
        (fun cluster : Cluster => ((cluster.world "a").hostedAt 1).bind fun game =>
          (cluster.step ⟨host, .advance⟩).map fun after => (decide (game.Lists 2),
            decide (game.Lists 1), (cluster.world "a").closed 2,
              ((after.world "a").hostedAt 1).isNone)) = some (true, false, false, true) by
                decide +kernel)
  obtain ⟨game, held, shown⟩ := Option.bind_eq_some_iff.mp shown
  obtain ⟨after, stepped, same⟩ := Option.map_eq_some_iff.mp shown
  simp only [Prod.mk.injEq, decide_eq_true_eq, decide_eq_false_iff_not, Option.isNone_iff_eq_none]
    at same
  obtain ⟨lists, unlisted, hears, gone⟩ := same
  have fresh : Reach Fresh steps before := reached.mono fun _ _ _ _ step => step.1
  obtain ⟨-, ⟨sent, wire, told⟩, apart⟩ :=
    end_told before after ⟨host, .advance⟩ fresh stepped host game held gone
  refine ⟨before, after, game, sent, fresh, stepped, held, gone, wire, ?_, ?_,
    apart "b" (by decide)⟩
  · rw [told, if_pos ⟨lists, hears⟩]
  · rw [told, if_neg fun listed => unlisted listed.1]

end Cluster

end Grass
