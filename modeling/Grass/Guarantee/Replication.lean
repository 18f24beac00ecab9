import Grass.Lib.Replica
import Grass.Lib.Transition
import Grass.Refinement.View

/-! What the participants of a game are told of each other: everyone can keep the
list of the others from the events it receives. -/

namespace Grass

open Transition Replica

/-- What an event says of who is in the game. -/
def GameEvent.update : GameEvent → Option (Update Uuid String)
  | .connectedClient _ clientId nickname => some (.add clientId nickname)
  | .disconnectedClient _ clientId => some (.remove clientId)
  | _ => none

def Message.update : Message → Option (Update Uuid String)
  | .gameEvent event => event.update
  | _ => none

/-- The messages put on one client's channel. -/
def mail (id : Uuid) (sent : List Delivery) : List Message :=
  (sent.filter fun delivery => delivery.channel = id).map Delivery.message

theorem mail_append (id : Uuid) (earlier later : List Delivery) :
    mail id (earlier ++ later) = mail id earlier ++ mail id later := by
  simp [mail]

theorem mail_elsewhere {id : Uuid} {sent : List Delivery}
    (elsewhere : ∀ delivery ∈ sent, delivery.channel ≠ id) : mail id sent = [] := by
  simpa [mail, List.filter_eq_nil_iff] using elsewhere

theorem mem_mail {id : Uuid} {sent : List Delivery} {message : Message} :
    message ∈ mail id sent ↔ ⟨id, message⟩ ∈ sent := by
  simp only [mail, List.mem_map, List.mem_filter, decide_eq_true_eq]
  constructor
  · rintro ⟨⟨channel, _⟩, ⟨present, rfl⟩, rfl⟩
    exact present
  · intro present
    exact ⟨_, ⟨present, rfl⟩, rfl⟩

/-- What a client that has received these messages takes the others to be. -/
def believes (received : List Message) : Finset (Uuid × String) :=
  replay ∅ (received.filterMap Message.update)

namespace Game

/-- The host and the entries of `connected_clients`, with their nicknames. -/
def participants (game : Game) : Finset (Uuid × String) :=
  insert (game.partialHost.id, game.partialHost.nickname)
    (((game.connectedClients.elim [] Roster.toList).map
      fun entry => (entry.1, entry.2.nickname)).toFinset)

/-- Something tried on a host's game; each iteration order, and the tasks chosen, are
those of the try. -/
inductive Attempt where
  | register (order : IterOrder) (newcomer : PartialClient)
  | unregister (order : IterOrder) (clientId : Uuid)
  | start (order : IterOrder) (choose : List GameTask → Nat → List GameTask)
      (availableTasks : List GameTask) (taskCount : Nat)

/-- Every channel accepts. -/
def accepting : SocketSender → Bool := fun _ => false

/-- A host's game, and what each client has received since it last entered. -/
structure Attended where
  game : Game
  received : Uuid → List Message

namespace Attended

/-- Add what was sent to what was received. -/
def deliver (before : Attended) (game : Game) (sent : List Delivery) : Attended where
  game := game
  received id := before.received id ++ mail id sent

/-- A client that enters starts over. -/
def enter (before : Attended) (newcomer : Uuid) : Attended :=
  { before with received := fun id => if id = newcomer then [] else before.received id }

def perform (before : Attended) : Attempt → Attended
  | .register order newcomer =>
    let (game, sending) := before.game.register order accepting newcomer
    match sending.exit with
    | .ok () => (before.enter newcomer.id).deliver game sending.sent
    | _ => before.deliver game sending.sent
  | .unregister order clientId =>
    let (game, sending) := before.game.unregister order accepting clientId
    before.deliver game sending.sent
  | .start order choose availableTasks taskCount =>
    let (game, sending) := before.game.start order accepting choose availableTasks taskCount
    before.deliver game sending.sent

/-- Only a client that is not in the game registers. -/
def Allowed (before : Attended) : Attempt → Prop
  | .register _ newcomer => newcomer.Own ∧ newcomer.id ≠ before.game.partialHost.id ∧
      ¬ before.game.Lists newcomer.id
  | _ => True

/-- A host game as `Game::new` makes it. -/
def Opened (attended : Attended) : Prop :=
  ∃ gameId partialClient partialHost, partialHost.Own ∧
    attended = ⟨Game.new true gameId partialClient partialHost, fun _ => []⟩

def attempts : Transition.Step Attended Attempt :=
  fun before attempt after => before.Allowed attempt ∧ after = before.perform attempt

/-- The membership and its news, as a client library sees them. -/
def replicas (attended : Attended) : Replicas Uuid String where
  members := attended.game.participants
  inbox id := (attended.received id).filterMap Message.update

end Attended

section Sent

variable {game : Game} {roster : Roster} {order : IterOrder}

theorem Hosts.mem_participants (hosts : game.Hosts roster) {member : Uuid × String} :
    member ∈ game.participants ↔ member = (game.partialHost.id, game.partialHost.nickname) ∨
      ∃ client, roster.lookup member.1 = some client ∧ client.nickname = member.2 := by
  simp only [participants, hosts.clients, Finset.mem_insert, List.mem_toFinset, Option.elim_some,
    List.mem_map, Prod.exists, Roster.mem_toList]
  constructor
  · rintro (same | ⟨id, client, found, rfl⟩)
    · exact .inl same
    · exact .inr ⟨client, found, rfl⟩
  · rintro (same | ⟨client, found, same⟩)
    · exact .inl same
    · exact .inr ⟨member.1, client, found, by rw [same]⟩

theorem Hosts.participants_insert (hosts : game.Hosts roster) {newcomer : PartialClient}
    (own : newcomer.Own) (notHost : newcomer.id ≠ game.partialHost.id)
    (absent : newcomer.id ∉ roster) :
    participants { game with connectedClients := some (roster.insert newcomer.id newcomer) } =
      insert (newcomer.id, newcomer.nickname) game.participants := by
  have later := hosts.withRoster (hosts.roster.insert own)
  ext ⟨key, nickname⟩
  simp only [Finset.mem_insert, hosts.mem_participants, later.mem_participants, Prod.mk.injEq]
  by_cases same : key = newcomer.id
  · subst same
    have missing := AList.lookup_eq_none.mpr absent
    simp [missing, notHost, eq_comm]
  · simp [same, AList.lookup_insert_ne same]

theorem Hosts.participants_erase (hosts : game.Hosts roster) {clientId : Uuid}
    (notHost : clientId ≠ game.partialHost.id) :
    participants { game with connectedClients := some (roster.erase clientId) } =
      without game.participants clientId := by
  have later := hosts.withRoster (hosts.roster.erase clientId)
  ext ⟨key, nickname⟩
  simp only [mem_without, hosts.mem_participants, later.mem_participants, Prod.mk.injEq]
  by_cases same : key = clientId
  · subst same
    simp [notHost]
  · simp [same, AList.lookup_erase_ne same]

theorem Hosts.lists (hosts : game.Hosts roster) (id : Uuid) : game.Lists id ↔ id ∈ roster := by
  simp [Lists, hosts.clients]

theorem sendMessage_accepting {client : PartialClient} (own : client.Own) (message : Message) :
    (client.sendMessage accepting message).sent = [⟨client.id, message⟩] := by
  simp [own.sent, accepting]

theorem Hosts.start_cases (hosts : game.Hosts roster) (order : IterOrder)
    (closed : SocketSender → Bool) (choose : List GameTask → Nat → List GameTask)
    (availableTasks : List GameTask) (taskCount : Nat) :
    (∃ error after, game.start order closed choose availableTasks taskCount =
        (after, ⟨.err error, []⟩) ∧ after.Hosts roster ∧ after.partialHost = game.partialHost) ∨
      ∃ progress after, game.start order closed choose availableTasks taskCount =
          (after, (after.sendGlobal order closed (.gameEvent (.start taskCount)) none).ignore) ∧
        after.Hosts (roster.mapValues fun client => { client with taskProgress := progress }) ∧
        after.partialHost = { game.partialHost with taskProgress := progress } := by
  obtain ⟨isHost, clients, wired, host⟩ := hosts
  rw [Game.start, checkHost_host isHost]
  by_cases started : game.isStarted = true
  · exact .inl ⟨.gameAlreadyStarted, game, by simp only [started, ↓reduceIte],
      ⟨isHost, clients, wired, host⟩, rfl⟩
  · by_cases filled : (choose availableTasks taskCount).length = taskCount
    · simp only [started, filled, clients, Bool.false_eq_true, ↓reduceIte, ne_eq,
        not_true_eq_false]
      exact .inr ⟨_, _, rfl, ⟨isHost, rfl, wired.progress _, host.isLocal, host.channel⟩, rfl⟩
    · simp only [started, filled, Bool.false_eq_true, ↓reduceIte, ne_eq, not_false_eq_true]
      exact .inl ⟨_, _, rfl, ⟨isHost, clients, wired, host⟩, rfl⟩

/-- A broadcast reaches everyone in the game, and nobody else. -/
theorem Hosts.told (hosts : game.Hosts roster) {message : Message} {delivery : Delivery} :
    delivery ∈ (game.sendGlobal order accepting message none).sent ↔
      delivery.message = message ∧
        ∃ nickname, (delivery.channel, nickname) ∈ game.participants := by
  obtain ⟨channel, content⟩ := delivery
  rw [hosts.sendGlobal_sent, List.mem_append, sendMessage_accepting hosts.host]
  simp only [List.mem_flatMap, Prod.exists, hosts.mem_participants, List.mem_singleton,
    Delivery.mk.injEq]
  constructor
  · rintro (⟨id, client, listed, sent⟩ | ⟨rfl, rfl⟩)
    · have found := order.mem_iff.mp listed
      obtain ⟨rfl, own⟩ := hosts.roster id client found
      rw [sendMessage_accepting own, List.mem_singleton, Delivery.mk.injEq] at sent
      obtain ⟨rfl, rfl⟩ := sent
      exact ⟨rfl, _, .inr ⟨client, found, rfl⟩⟩
    · exact ⟨rfl, _, .inl rfl⟩
  · rintro ⟨rfl, nickname, same | ⟨client, found, -⟩⟩
    · exact .inr ⟨congrArg Prod.fst same, rfl⟩
    · obtain ⟨rfl, own⟩ := hosts.roster _ client found
      exact .inl ⟨_, client, order.mem_iff.mpr found, by simp [sendMessage_accepting own]⟩

/-- What the entry of a newcomer sends: everyone to the newcomer, the newcomer to everyone. -/
theorem Hosts.announced (hosts : game.Hosts roster) {newcomer : PartialClient}
    (own : newcomer.Own) {delivery : Delivery} :
    delivery ∈ (game.announce order accepting roster newcomer).sent ↔
      (delivery.channel = newcomer.id ∧ ∃ member ∈ game.participants,
        delivery.message = .gameEvent (.connectedClient game.gameId member.1 member.2)) ∨
      (delivery.message = .gameEvent (.connectedClient game.gameId newcomer.id newcomer.nickname) ∧
        ∃ nickname, (delivery.channel, nickname) ∈ game.participants) := by
  have caught := @catchUp_told game roster order accepting newcomer own
  rw [announce, Sending.bind_sent_ok _ caught.1, caught.2, Sending.bind_sent_ok _
    (Sending.ignore_exit (PartialClient.sendMessage_calm own.wired accepting _)),
    Sending.ignore_sent, Sending.ignore_sent, List.mem_append, List.mem_append, hosts.told]
  rw [← or_assoc]
  refine or_congr ?_ .rfl
  obtain ⟨channel, content⟩ := delivery
  simp only [catchUp, List.flatMap_map, sendMessage_accepting own, List.mem_flatMap, Prod.exists,
    List.mem_singleton, Delivery.mk.injEq, hosts.mem_participants]
  constructor
  · rintro (⟨id, client, listed, rfl, rfl⟩ | ⟨rfl, rfl⟩)
    · exact ⟨rfl, id, client.nickname, .inr ⟨client, order.mem_iff.mp listed, rfl⟩, rfl⟩
    · exact ⟨rfl, _, _, .inl rfl, rfl⟩
  · rintro ⟨rfl, id, nickname, same | ⟨client, found, rfl⟩, rfl⟩
    · obtain ⟨rfl, rfl⟩ : id = _ ∧ nickname = _ := by simpa using same
      exact .inr ⟨rfl, rfl⟩
    · exact .inl ⟨id, client, order.mem_iff.mpr found, rfl, rfl⟩

end Sent

namespace Attended

/-- The roster does not count the host. -/
def Sound (attended : Attended) : Prop :=
  ∃ roster, attended.game.Hosts roster ∧ attended.game.partialHost.id ∉ roster

variable {before : Attended} {game : Game} {sent : List Delivery} {id : Uuid}

/-- The news in what was sent to one client. -/
def news (id : Uuid) (sent : List Delivery) : List (Update Uuid String) :=
  (mail id sent).filterMap Message.update

theorem mem_news {update : Update Uuid String} : update ∈ news id sent ↔
    ∃ message, ⟨id, message⟩ ∈ sent ∧ message.update = some update := by
  simp [news, List.mem_filterMap, mem_mail]

theorem inbox_deliver : (before.deliver game sent).replicas.inbox id =
    before.replicas.inbox id ++ news id sent := by
  simp [replicas, deliver, news, List.filterMap_append]

theorem inbox_enter {newcomer : Uuid} : (before.enter newcomer).replicas.inbox id =
    if id = newcomer then [] else before.replicas.inbox id := by
  simp only [replicas, enter]
  split <;> simp

theorem broadcast_news {roster : Roster} (hosts : game.Hosts roster) {message : Message}
    (update : Update Uuid String) (meant : message.update = some update) {order : IterOrder}
    {member : Uuid × String} (listed : member ∈ game.participants) :
    news member.1 (game.sendGlobal order accepting message none).sent ≠ [] ∧
      ∀ other ∈ news member.1 (game.sendGlobal order accepting message none).sent,
        other = update := by
  constructor
  · exact List.ne_nil_of_mem (mem_news.mpr ⟨message, hosts.told.mpr ⟨rfl, _, listed⟩, meant⟩)
  · intro other heard
    obtain ⟨_, told, told'⟩ := mem_news.mp heard
    obtain ⟨rfl, -⟩ := hosts.told.mp told
    exact Option.some.inj (told'.symm.trans meant)

theorem Sound.unregister (sound : before.Sound) (order : IterOrder) (clientId : Uuid) :
    (before.perform (.unregister order clientId)).Sound ∧
      Moves before.replicas (before.perform (.unregister order clientId)).replicas := by
  obtain ⟨roster, hosts, apart⟩ := sound
  by_cases member : clientId ∈ roster
  · have later := hosts.withRoster (hosts.roster.erase clientId)
    rw [perform, hosts.unregister order accepting member]
    have notHost : clientId ≠ before.game.partialHost.id := by
      rintro rfl
      exact apart member
    refine ⟨⟨_, later, fun listed => apart (AList.mem_erase.mp listed).2⟩,
      .depart clientId (hosts.participants_erase notHost) fun other listed => ?_⟩
    refine ⟨_, ?_, ?_, inbox_deliver⟩
    · simpa using (broadcast_news later (.remove clientId) rfl listed).1
    · simpa using (broadcast_news later (.remove clientId) rfl listed).2
  · rw [perform, hosts.unregister_missing order accepting member]
    exact ⟨⟨roster, hosts, apart⟩, .still rfl fun other _ => by simp [inbox_deliver, news, mail]⟩

theorem Sound.start (sound : before.Sound) (order : IterOrder)
    (choose : List GameTask → Nat → List GameTask) (availableTasks : List GameTask)
    (taskCount : Nat) :
    (before.perform (.start order choose availableTasks taskCount)).Sound ∧
      Moves before.replicas
        (before.perform (.start order choose availableTasks taskCount)).replicas := by
  obtain ⟨roster, hosts, apart⟩ := sound
  rcases hosts.start_cases order accepting choose availableTasks taskCount with
    ⟨error, game, same, later, host⟩ | ⟨progress, game, same, later, host⟩
  · rw [perform, same]
    refine ⟨⟨roster, later, by simpa [deliver, host] using apart⟩, .still ?_ fun other _ => by
      simp [inbox_deliver, news, mail]⟩
    ext other
    simp [replicas, deliver, hosts.mem_participants, later.mem_participants, host]
  · rw [perform, same]
    refine ⟨⟨_, later, by simpa [deliver, host] using apart⟩, .still ?_ fun other _ => ?_⟩
    · ext other
      simp [replicas, deliver, hosts.mem_participants, later.mem_participants, host]
    · have silent : news other.1
          (game.sendGlobal order accepting (.gameEvent (.start taskCount)) none).sent = [] := by
        apply List.eq_nil_iff_forall_not_mem.mpr
        intro update heard
        obtain ⟨message, told, meant⟩ := mem_news.mp heard
        obtain ⟨rfl, -⟩ : message = _ ∧ _ := later.told.mp told
        cases meant
      simp [inbox_deliver, silent]

theorem Sound.register (sound : before.Sound) (order : IterOrder) (newcomer : PartialClient)
    (allowed : before.Allowed (.register order newcomer)) :
    (before.perform (.register order newcomer)).Sound ∧
      Moves before.replicas (before.perform (.register order newcomer)).replicas := by
  obtain ⟨roster, hosts, apart⟩ := sound
  obtain ⟨own, notHost, absent⟩ := allowed
  rw [hosts.lists] at absent
  cases openTo : before.game.isPublic with
  | false =>
    have refused : before.game.register order accepting newcomer =
        (before.game, ⟨.err (), []⟩) := by
      simp [Game.register, openTo]
    rw [perform, refused]
    exact ⟨⟨roster, hosts, apart⟩, .still rfl fun other _ => by simp [inbox_deliver, news, mail]⟩
  | true =>
    have later := hosts.withRoster (hosts.roster.insert own)
    have finished := hosts.announce_exit order accepting own
    have fresh : ∀ member ∈ before.game.participants, member.1 ≠ newcomer.id := by
      intro member listed clash
      rcases hosts.mem_participants.mp listed with rfl | ⟨client, found, -⟩
      · exact notHost clash.symm
      · exact absent (clash ▸ AList.lookup_isSome.mp (by simp [found]))
    simp only [perform, hosts.register order accepting own openTo, finished]
    refine ⟨⟨_, later, ?_⟩, .arrive newcomer.id newcomer.nickname fresh
      (hosts.participants_insert own notHost absent) ?_ ?_ ?_⟩
    · simpa [deliver, apart] using notHost.symm
    · intro update heard
      rw [inbox_deliver, inbox_enter, if_pos rfl, List.nil_append, mem_news] at heard
      obtain ⟨message, sent, meant⟩ := heard
      rcases (hosts.announced own).mp sent with ⟨-, member, -, rfl⟩ | ⟨rfl, -⟩
      · exact ⟨_, _, (Option.some.inj meant).symm⟩
      · exact ⟨_, _, (Option.some.inj meant).symm⟩
    · intro member
      rw [inbox_deliver, inbox_enter, if_pos rfl, List.nil_append, mem_news]
      constructor
      · rintro ⟨message, sent, meant⟩
        rcases (hosts.announced own).mp sent with ⟨-, other, listed, rfl⟩ | ⟨-, _, listed⟩
        · obtain rfl : other = member := by
            simpa [Message.update, GameEvent.update, ← Prod.ext_iff] using meant
          exact listed
        · exact absurd rfl (fresh _ listed)
      · intro listed
        exact ⟨_, (hosts.announced own).mpr (.inl ⟨rfl, member, listed, rfl⟩), rfl⟩
    · intro member listed
      refine ⟨_, ?_, ?_, by rw [inbox_deliver, inbox_enter, if_neg (fresh member listed)]⟩
      · exact List.ne_nil_of_mem (mem_news.mpr
          ⟨_, (hosts.announced own).mpr (.inr ⟨rfl, _, listed⟩), rfl⟩)
      · intro update heard
        obtain ⟨message, sent, meant⟩ := mem_news.mp heard
        rcases (hosts.announced own).mp sent with ⟨same, -⟩ | ⟨rfl, -⟩
        · exact absurd same (fresh member listed)
        · exact (Option.some.inj meant).symm

theorem Sound.attempts {after : Attended} {attempt : Attempt} (sound : before.Sound)
    (step : Attended.attempts before attempt after) :
    after.Sound ∧ Moves before.replicas after.replicas := by
  obtain ⟨allowed, rfl⟩ := step
  cases attempt with
  | register order newcomer => exact sound.register order newcomer allowed
  | unregister order clientId => exact sound.unregister order clientId
  | start order choose availableTasks taskCount =>
    exact sound.start order choose availableTasks taskCount

/-- What was heard amounts to the others, whatever happened so far. -/
def Tracked (attended : Attended) : Prop :=
  attended.Sound ∧ Synced attended.replicas

theorem Opened.tracked {attended : Attended} (opened : attended.Opened) : attended.Tracked := by
  obtain ⟨gameId, partialClient, partialHost, own, rfl⟩ := opened
  refine ⟨⟨∅, ⟨rfl, rfl, .empty, own⟩, by simp⟩, ?_⟩
  exact .alone partialHost.id partialHost.nickname rfl rfl

theorem reach_perform (reached : Reach Opened Attended.attempts before) (attempt : Attempt)
    (allowed : before.Allowed attempt) :
    Reach Opened Attended.attempts (before.perform attempt) :=
  .next reached ⟨allowed, rfl⟩

end Attended

theorem announce_ne_err (order : IterOrder) (closed : SocketSender → Bool) (game : Game)
    (roster : Roster) (newcomer : PartialClient) :
    (game.announce order closed roster newcomer).exit ≠ .err () :=
  Sending.bind_ne_err (sendAll_ne_err closed _ ()) fun _ =>
    Sending.bind_ne_err (Sending.ignore_ne_err _ ()) fun _ => Sending.ignore_ne_err _ ()

theorem register_refused {game : Game} {order : IterOrder} {closed : SocketSender → Bool}
    {newcomer : PartialClient} (refused : (game.register order closed newcomer).2.exit = .err ()) :
    game.register order closed newcomer = (game, ⟨.err (), []⟩) := by
  by_cases shut : (!game.isHost || !game.isPublic) = true
  · simp [register, shut]
  · rw [register, if_neg shut] at refused
    cases clients : game.connectedClients with
    | none => simp [clients] at refused
    | some roster =>
      simp only [clients] at refused
      split at refused
      · rename_i finished
        simp [finished] at refused
      · exact absurd refused (announce_ne_err order closed game roster newcomer)

/-- At every point of a game's life, what a participant has heard since it entered
amounts to exactly the other participants; and a refused registration has no effect. -/
theorem roster_replicated (attended : Attended) (reached : Reach Attended.Opened
    Attended.attempts attended) :
    (∀ member ∈ attended.game.participants, believes (attended.received member.1) =
      attended.game.participants.filter fun other => other.1 ≠ member.1) ∧
    ∀ order closed newcomer, (attended.game.register order closed newcomer).2.exit = .err () →
      attended.game.register order closed newcomer = (attended.game, ⟨.err (), []⟩) := by
  have tracked : attended.Tracked := by
    refine Reach.invariant (fun _ => Attended.Opened.tracked) ?_ reached
    rintro before attempt after ⟨sound, synced⟩ step
    obtain ⟨later, moves⟩ := sound.attempts step
    exact ⟨later, synced.moves moves⟩
  exact ⟨tracked.2, fun _ _ _ refused => register_refused refused⟩

/-- Two clients enter, and the first leaves again. -/
theorem roster_replicated_round : ∃ attended : Attended,
    attended.game.participants = {(1, "h"), (3, "c")} ∧
      believes (attended.received 3) = {(1, "h")} := by
  let opened : Attended := ⟨.new true "17" (.new 1 "h" "a" true (some 1))
    (.new 1 "h" "a" true (some 1)), fun _ => []⟩
  have start : Reach Attended.Opened Attended.attempts opened := .start ⟨_, _, _, .new .., rfl⟩
  have entered := Attended.reach_perform start (.register .stored (.new 2 "b" "a" true (some 2)))
    ⟨.new .., by decide, by decide⟩
  have joined := Attended.reach_perform entered (.register .stored (.new 3 "c" "a" true (some 3)))
    ⟨.new .., by decide, by decide⟩
  have left := Attended.reach_perform joined (.unregister .stored 2) trivial
  have sees := (roster_replicated _ left).1 (3, "c") (by decide)
  exact ⟨_, by decide, sees.trans (by decide)⟩

end Game

end Grass
