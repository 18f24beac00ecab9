import Grass.Guarantee.Broadcast
import Grass.Guarantee.History
import Grass.Guarantee.Replication

/-! What every participant of a game can tell from its own messages, while games are
entered, left, started and graded in any order and channels close: who else is in it. -/

namespace Grass

open Lobby Transition Replica

/-- The news of the membership in what was sent to one client. -/
def news (id : Uuid) (sent : List Delivery) : List (Update Uuid String) :=
  (mail id sent).filterMap Message.update

section News

variable {id : Uuid} {earlier later sent : List Delivery}

@[simp] theorem news_nil : news id [] = [] := rfl

@[simp] theorem news_append : news id (earlier ++ later) = news id earlier ++ news id later := by
  simp [news, mail_append]

theorem mem_news {update : Update Uuid String} :
    update ∈ news id sent ↔ ∃ message, ⟨id, message⟩ ∈ sent ∧ message.update = some update := by
  simp [news, List.mem_filterMap, mem_mail]

theorem news_quiet (quiet : ∀ delivery ∈ sent, delivery.channel = id → delivery.message.update = none) :
    news id sent = [] := by
  refine List.eq_nil_iff_forall_not_mem.mpr fun update heard => ?_
  obtain ⟨message, told, meant⟩ := mem_news.mp heard
  simp [quiet _ told rfl] at meant

theorem Delivery.Answers.quiet {delivery : Delivery} (answers : delivery.Answers id) :
    delivery.message.update = none := by
  cases same : delivery.message with
  | gameEvent event => exact absurd same (answers.2 event)
  | _ => rfl

theorem news_answers {other : Uuid} (answers : ∀ delivery ∈ sent, delivery.Answers other) :
    news id sent = [] :=
  news_quiet fun delivery member _ => (answers delivery member).quiet

end News

namespace Game

variable {game : Game} {roster : Roster} {order : IterOrder} {closed : SocketSender → Bool}
  {id : Uuid} {message : Message}

theorem Hosts.participates (hosts : game.Hosts roster) :
    (∃ nickname, (id, nickname) ∈ game.participants) ↔ id ∈ roster ∨ id = game.partialHost.id := by
  simp only [hosts.mem_participants, Prod.mk.injEq]
  constructor
  · rintro ⟨nickname, ⟨same, -⟩ | ⟨client, found, -⟩⟩
    · exact .inr same
    · exact .inl (AList.lookup_isSome.mp (by simp [found]))
  · rintro (member | rfl)
    · obtain ⟨client, found⟩ := Option.isSome_iff_exists.mp (AList.lookup_isSome.mpr member)
      exact ⟨client.nickname, .inr ⟨client, found, rfl⟩⟩
    · exact ⟨_, .inl ⟨rfl, rfl⟩⟩

theorem Hosts.broadcast_quiet (hosts : game.Hosts roster) (plain : message.update = none)
    (skipClientIds : Option (List Uuid)) :
    news id (game.sendGlobal order closed message skipClientIds).sent = [] := by
  rw [hosts.sendGlobal_recipients]
  refine news_quiet fun delivery member _ => ?_
  obtain ⟨_, -, rfl⟩ := List.mem_map.mp member
  exact plain

section Hosts

variable (hosts : game.Hosts roster) (apart : game.partialHost.id ∉ roster)

include hosts apart

theorem Hosts.broadcast_mail (skipClientIds : Option (List Uuid)) :
    mail id (game.sendGlobal order closed message skipClientIds).sent =
      if (id ∈ roster ∨ id = game.partialHost.id) ∧ skips skipClientIds id = false ∧
        closed id = false then [message] else [] := by
  have told := congrArg (List.map Delivery.message)
    (hosts.broadcast apart order closed message skipClientIds id)
  rwa [apply_ite (List.map Delivery.message)] at told

theorem Hosts.broadcast_news : news id (game.sendGlobal order closed message none).sent =
    if (id ∈ roster ∨ id = game.partialHost.id) ∧ closed id = false then message.update.toList
      else [] := by
  rw [news, hosts.broadcast_mail apart]
  simp only [skips, Option.any_none, true_and]
  split
  · cases meant : message.update <;> simp [meant]
  · rfl

/-- Whoever stays hears who has left. -/
theorem Hosts.unregister_hears (clientId : Uuid) {member : Uuid × String}
    (listed : member ∈ (game.unregister order closed clientId).1.participants)
    (hears : closed member.1 = false) :
    Hears member.1 game.participants (game.unregister order closed clientId).1.participants
      (news member.1 (game.unregister order closed clientId).2.sent) := by
  by_cases struck : clientId ∈ roster
  · have later := hosts.withRoster (hosts.roster.erase clientId)
    have notHost : clientId ≠ game.partialHost.id := by
      rintro rfl
      exact apart struck
    have remains := hosts.participants_erase notHost
    rw [hosts.unregister order closed struck] at listed ⊢
    have there := later.participates.mp ⟨member.2, listed⟩
    have heard : news member.1 (sendGlobal order closed
        { game with connectedClients := some (roster.erase clientId) }
        (.gameEvent (.disconnectedClient game.gameId clientId)) none).sent = [.remove clientId] := by
      rw [later.broadcast_news fun found => apart (AList.mem_erase.mp found).2,
        if_pos ⟨there, hears⟩]
      rfl
    dsimp only at listed
    rw [remains, mem_without] at listed
    dsimp only
    rw [Sending.ignore_sent, heard]
    exact .depart clientId (Ne.symm listed.2) remains (by simp) (by simp)
  · rw [hosts.unregister_missing order closed struck]
    exact .still rfl rfl

omit hosts apart in
theorem announce_sent {newcomer : PartialClient} (own : newcomer.Own) :
    (game.announce order closed roster newcomer).sent =
      ((game.catchUp order roster newcomer).flatMap
        fun item => (item.1.sendMessage closed item.2).sent) ++
      ((newcomer.sendMessage closed (.gameEvent (.connectedClient game.gameId game.partialHost.id
          game.partialHost.nickname))).sent ++
        (game.sendGlobal order closed (.gameEvent (.connectedClient game.gameId newcomer.id
          newcomer.nickname)) none).sent) := by
  have caught := @catchUp_told game roster order closed newcomer own
  rw [announce, Sending.bind_sent_ok _ caught.1, caught.2, Sending.bind_sent_ok _
    (Sending.ignore_exit (PartialClient.sendMessage_calm own.wired closed _)),
    Sending.ignore_sent, Sending.ignore_sent]

section Register

variable {newcomer : PartialClient} (own : newcomer.Own)

include own

omit apart in
theorem Hosts.announce_arrivals :
    ∀ delivery ∈ (game.announce order closed roster newcomer).sent, ∃ clientId nickname,
      delivery.message = .gameEvent (.connectedClient game.gameId clientId nickname) := by
  intro delivery told
  rw [announce_sent own, List.mem_append, List.mem_append] at told
  rcases told with caught | greeted | told
  · obtain ⟨item, listed, told⟩ := List.mem_flatMap.mp caught
    obtain ⟨entry, -, rfl⟩ := List.mem_map.mp listed
    rw [own.reaches told]
    exact ⟨_, _, rfl⟩
  · rw [own.reaches greeted]
    exact ⟨_, _, rfl⟩
  · rw [hosts.sendGlobal_recipients] at told
    obtain ⟨_, -, rfl⟩ := List.mem_map.mp told
    exact ⟨_, _, rfl⟩

theorem Hosts.announce_mail {other : Uuid} (distinct : other ≠ newcomer.id) :
    mail other (game.announce order closed roster newcomer).sent =
      if (other ∈ roster ∨ other = game.partialHost.id) ∧ closed other = false then
        [.gameEvent (.connectedClient game.gameId newcomer.id newcomer.nickname)] else [] := by
  have elsewhere : ∀ {message : Message}, ∀ delivery ∈ (newcomer.sendMessage closed message).sent,
      delivery.channel ≠ other := by
    intro message delivery member same
    rw [own.reaches member] at same
    exact distinct same.symm
  have caught : mail other ((game.catchUp order roster newcomer).flatMap
      fun item => (item.1.sendMessage closed item.2).sent) = [] := by
    refine mail_elsewhere fun delivery member => ?_
    obtain ⟨item, listed, sent⟩ := List.mem_flatMap.mp member
    obtain ⟨entry, -, rfl⟩ := List.mem_map.mp listed
    exact elsewhere delivery sent
  rw [announce_sent own, mail_append, mail_append, caught, mail_elsewhere elsewhere,
    hosts.broadcast_mail apart]
  simp [skips]

theorem Hosts.announce_others {other : Uuid} (distinct : other ≠ newcomer.id) :
    news other (game.announce order closed roster newcomer).sent =
      if (other ∈ roster ∨ other = game.partialHost.id) ∧ closed other = false then
        [.add newcomer.id newcomer.nickname] else [] := by
  rw [news, hosts.announce_mail apart own distinct, apply_ite (List.filterMap Message.update)]
  rfl

variable (notHost : newcomer.id ≠ game.partialHost.id) (absent : newcomer.id ∉ roster)

include notHost absent

/-- What a newcomer hears is the arrival of everyone there. -/
theorem Hosts.announce_newcomer (hears : closed newcomer.id = false) (update : Update Uuid String) :
    update ∈ news newcomer.id (game.announce order closed roster newcomer).sent ↔
      ∃ member ∈ game.participants, update = .add member.1 member.2 := by
  have silent : news newcomer.id (game.sendGlobal order closed (.gameEvent
      (.connectedClient game.gameId newcomer.id newcomer.nickname)) none).sent = [] := by
    rw [hosts.broadcast_news apart, if_neg]
    rintro ⟨listed | same, -⟩
    · exact absent listed
    · exact notHost same
  have reached : ∀ message, (newcomer.sendMessage closed message).sent = [⟨newcomer.id, message⟩] := by
    intro message
    rw [own.sent, hears]
    rfl
  rw [announce_sent own, news_append, news_append, silent, List.append_nil, List.mem_append]
  simp only [catchUp, List.flatMap_map, reached, mem_news, List.mem_flatMap, List.mem_singleton,
    Delivery.mk.injEq, true_and, Prod.exists, hosts.mem_participants]
  constructor
  · rintro (⟨_, ⟨id, client, listed, rfl⟩, meant⟩ | ⟨_, rfl, meant⟩)
    · cases meant
      exact ⟨id, client.nickname, .inr ⟨client, order.mem_iff.mp listed, rfl⟩, rfl⟩
    · cases meant
      exact ⟨_, _, .inl rfl, rfl⟩
  · rintro ⟨id, nickname, same | ⟨client, found, rfl⟩, rfl⟩
    · obtain ⟨rfl, rfl⟩ : id = _ ∧ nickname = _ := by simpa using same
      exact .inr ⟨_, rfl, rfl⟩
    · exact .inl ⟨_, ⟨id, client, order.mem_iff.mpr found, rfl⟩, rfl⟩

end Register

end Hosts

theorem Hosts.participants_eq {other : Game} {kept : Roster} (hosts : game.Hosts roster)
    (later : other.Hosts kept) (host : other.partialHost.id = game.partialHost.id)
    (named : other.partialHost.nickname = game.partialHost.nickname)
    (same : ∀ id, (kept.lookup id).map PartialClient.nickname =
      (roster.lookup id).map PartialClient.nickname) : other.participants = game.participants := by
  ext ⟨id, nickname⟩
  rw [hosts.mem_participants, later.mem_participants, host, named]
  simp only [← Option.map_eq_some_iff, same]

theorem Hosts.validateCodeTest_kept (hosts : game.Hosts roster) (order : IterOrder)
    (closed : SocketSender → Bool) (sandbox : Sandbox) (clientId : Uuid) (taskIndex : Nat)
    (code : String) (result : SandboxResponse) :
    (game.validateCodeTest order closed sandbox clientId taskIndex code result).1.Hosts roster ∧
      (game.validateCodeTest order closed sandbox clientId taskIndex code result).1.participants =
        game.participants := by
  rcases game.validateCodeTest_cases order closed sandbox clientId taskIndex code result with
    same | ⟨task, who, reports, staged, credited⟩
  · rw [same]
    exact ⟨hosts, rfl⟩
  · have known := (publicStage_passed staged).2
    obtain rfl : Participant.host = who := by simpa [participant, hosts.isHost] using known
    simp only [creditTask, Option.pure_def, Option.bind_eq_bind, Option.bind_eq_some_iff,
      Option.some.injEq] at credited
    obtain ⟨progress, -, credited⟩ := credited
    rw [← credited]
    exact ⟨⟨hosts.isHost, hosts.clients, hosts.roster, hosts.host.isLocal, hosts.host.channel⟩, rfl⟩

/-- What a call on a host's game tells someone who is in it afterwards: the change, or,
if it has just entered, who is there. -/
theorem Valid.call_hears {hostId : Uuid} (valid : game.Valid hostId) (host : game.isHost = true)
    (separate : ¬ game.Lists hostId) (made : Call)
    (fresh : ∀ newcomer, made.operation = .register newcomer →
      newcomer.Own ∧ newcomer.id ≠ hostId ∧ ¬ game.Lists newcomer.id)
    {member : Uuid × String} (listed : member ∈ (game.call made).participants)
    (hears : made.closed member.1 = false) :
    Hears member.1 game.participants (game.call made).participants
        (news member.1 (game.callSent made)) ∨
      ∃ newcomer, made.operation = .register newcomer ∧ newcomer.id = member.1 ∧
        replay ∅ (news member.1 (game.callSent made)) =
          without (game.call made).participants member.1 := by
  obtain ⟨own, -⟩ := valid.hosting host
  obtain ⟨roster, hosts⟩ := valid.hosts host
  have apart : game.partialHost.id ∉ roster := by rwa [own, ← hosts.lists]
  obtain ⟨order, closed, operation⟩ := made
  cases operation with
  | register newcomer =>
    obtain ⟨wired, notHost, absent⟩ := fresh newcomer rfl
    rw [← own] at notHost
    rw [hosts.lists] at absent
    cases openTo : game.isPublic with
    | false =>
      simp only [call, callSent, register_shut openTo]
      exact .inl (.still rfl rfl)
    | true =>
      have entered := hosts.participants_insert wired notHost absent
      simp only [call, callSent, hosts.register order closed wired openTo] at listed hears ⊢
      rw [entered] at listed ⊢
      by_cases same : member.1 = newcomer.id
      · refine .inr ⟨newcomer, rfl, same.symm, ?_⟩
        rw [same] at hears ⊢
        have caught := @Game.Hosts.announce_newcomer _ _ order _ hosts apart _ wired notHost absent
          hears
        refine replay_caught ?_ ?_ fun other => ?_
        · intro other there same
          have present := hosts.participates.mp ⟨other.2, there⟩
          rw [same] at present
          exact present.elim absent notHost
        · intro update told
          obtain ⟨other, -, rfl⟩ := (caught update).mp told
          exact ⟨_, _, rfl⟩
        · rw [caught]
          constructor
          · rintro ⟨known, there, same⟩
            obtain rfl : other = known := Prod.ext (Update.add.inj same).1 (Update.add.inj same).2
            exact there
          · exact fun there => ⟨other, there, rfl⟩
      · left
        have there : member ∈ game.participants := by
          rcases Finset.mem_insert.mp listed with rfl | there
          · exact absurd rfl same
          · exact there
        rw [hosts.announce_others apart wired same,
          if_pos ⟨hosts.participates.mp ⟨member.2, there⟩, hears⟩]
        exact .arrive newcomer.id newcomer.nickname (Ne.symm same) rfl (by simp) (by simp)
  | unregister clientId => exact .inl (hosts.unregister_hears apart clientId listed hears)
  | start choose availableTasks taskCount =>
    left
    simp only [call, callSent]
    rcases hosts.start_cases order closed choose availableTasks taskCount with
      ⟨error, after, same, later, kept⟩ | ⟨progress, after, same, later, kept⟩
    · rw [same]
      exact .still (hosts.participants_eq later (by rw [kept]) (by rw [kept]) fun _ => rfl) rfl
    · rw [same]
      refine .still (hosts.participants_eq later (by rw [kept]) (by rw [kept]) fun id => ?_) ?_
      · rw [Roster.lookup_mapValues, Option.map_map]
        rfl
      · rw [Sending.ignore_sent]
        exact later.broadcast_quiet rfl _
  | prepareCodeTest taskIndex => exact .inl (.still rfl rfl)
  | validateCodeTest sandbox clientId taskIndex code result =>
    left
    obtain ⟨later, same⟩ :=
      hosts.validateCodeTest_kept order closed sandbox clientId taskIndex code result
    refine .still same ?_
    rcases game.validateCodeTest_credits order closed sandbox clientId taskIndex code result with
      ⟨-, silent⟩ | ⟨task, -, credited, -, -, -, -, -, made, told⟩
    · simp only [callSent, silent, news_nil]
    · rw [made] at later
      simp only [callSent, told]
      exact later.broadcast_quiet rfl _

/-- A call says nothing of the membership to anybody else. -/
theorem Valid.call_elsewhere {hostId : Uuid} (valid : game.Valid hostId) (host : game.isHost = true)
    (separate : ¬ game.Lists hostId) (made : Call)
    (wired : ∀ newcomer, made.operation = .register newcomer → newcomer.Own ∧ newcomer.id ≠ id)
    (outside : ¬ ∃ nickname, (id, nickname) ∈ game.participants) :
    news id (game.callSent made) = [] := by
  obtain ⟨own, -⟩ := valid.hosting host
  obtain ⟨roster, hosts⟩ := valid.hosts host
  have apart : game.partialHost.id ∉ roster := by rwa [own, ← hosts.lists]
  rw [hosts.participates] at outside
  obtain ⟨order, closed, operation⟩ := made
  cases operation with
  | register newcomer =>
    obtain ⟨wired, distinct⟩ := wired newcomer rfl
    rcases valid.register_cases order closed wired with
      ⟨-, same⟩ | ⟨-, -, other, clients, -, same, -⟩
    · simp only [callSent, same, news_nil]
    · obtain rfl : roster = other := Option.some.inj (hosts.clients.symm.trans clients)
      simp only [callSent, same]
      rw [hosts.announce_others apart wired distinct.symm, if_neg fun told => outside told.1]
  | unregister clientId =>
    simp only [callSent]
    by_cases struck : clientId ∈ roster
    · have later := hosts.withRoster (hosts.roster.erase clientId)
      rw [hosts.unregister order closed struck, Sending.ignore_sent,
        later.broadcast_news fun found => apart (AList.mem_erase.mp found).2, if_neg]
      rintro ⟨listed | same, -⟩
      · exact outside (.inl (AList.mem_erase.mp listed).2)
      · exact outside (.inr same)
    · rw [hosts.unregister_missing order closed struck]
      rfl
  | start choose availableTasks taskCount =>
    simp only [callSent]
    rcases hosts.start_cases order closed choose availableTasks taskCount with
      ⟨error, after, same, later, kept⟩ | ⟨progress, after, same, later, kept⟩ <;> rw [same]
    · rfl
    · rw [Sending.ignore_sent]
      exact later.broadcast_quiet rfl _
  | prepareCodeTest taskIndex => rfl
  | validateCodeTest sandbox clientId taskIndex code result =>
    have later :=
      (hosts.validateCodeTest_kept order closed sandbox clientId taskIndex code result).1
    simp only [callSent]
    rcases game.validateCodeTest_credits order closed sandbox clientId taskIndex code result with
      ⟨-, silent⟩ | ⟨task, -, credited, -, -, -, -, -, made, told⟩
    · rw [silent, news_nil]
    · rw [made] at later
      rw [told]
      exact later.broadcast_quiet rfl _

theorem farewells_quiet : news id (farewells order closed roster) = [] := by
  refine news_quiet fun delivery member _ => ?_
  obtain ⟨entry, -, sent⟩ := List.mem_flatMap.mp member
  unfold PartialClient.sendMessage at sent
  split at sent
  · split at sent
    · cases sent
    · split at sent
      · cases sent
      · obtain rfl : delivery = _ := List.mem_singleton.mp sent
        rfl
  · cases sent

end Game

namespace Cluster

variable {known : Set Party} {cluster before after : Cluster} {action : Action} {party : Party}

/-- The action runs the section that opens a game, or enters the roster of one. -/
def entering (cluster : Cluster) (action : Action) : Bool :=
  match action.kind, (cluster.node action.party.shardId).reader action.party.id with
  | .advance, .busy _ _ (.joinHost _) => true
  | .advance, .busy _ _ (.joinRegister _ _ _ _) => true
  | _, _ => false

/-- How many messages its process had enqueued when a connection last entered a game. -/
abbrev Since := Party → Nat

def noteEntry (cluster : Cluster) (action : Action) (since : Since) : Since :=
  if cluster.entering action then
    Function.update since action.party (cluster.world action.party.shardId).wire.length
  else since

/-- The messages enqueued for a connection since it last entered a game. -/
def inbox (state : Cluster × Since) (party : Party) : List Message :=
  mail party.id (((state.1.world party.shardId).wire).drop (state.2 party))

/-- Redis does not fail, and no request is timed out. -/
def Punctual (action : Action) : Prop := action.Healthy ∧ ¬ action.lapses

instance (action : Action) : Decidable (Punctual action) := inferInstanceAs (Decidable (_ ∧ _))

/-- The host in whose game a party is, or is about to be. -/
def whose (cluster : Cluster) (party : Party) : Option Party :=
  match cluster.lobby.seat party, cluster.lobby.stage party with
  | some (.host _ _), _ => some party
  | some (.guest _ host), _ => some host
  | none, .entering _ host => some host
  | none, _ => none

section Seats

variable {shardId : ShardId} {hostId id : Uuid} {game : Game}
  (held : (cluster.world shardId).hostedAt hostId = some game)
  (listed : ∃ nickname, (id, nickname) ∈ game.participants)

include held listed

theorem Sound.whose (sound : cluster.Sound False known) :
    cluster.whose ⟨shardId, id⟩ = some ⟨shardId, hostId⟩ := by
  obtain ⟨playing, hosting⟩ := World.hostedAt_iff.mp held
  have valid := (sound.valid.entries shardId).gameAt playing
  obtain ⟨roster, hosts⟩ := valid.hosts hosting
  rcases hosts.participates.mp listed with member | rfl
  · have lists : cluster.lobby.Lists ⟨shardId, hostId⟩ ⟨shardId, id⟩ :=
      ⟨_, _, seat_of_host playing hosting, (game.mem_parties ..).mpr ((hosts.lists id).mpr member)⟩
    rcases sound.coherent.rostered not_false _ _ lists with ⟨gameId, seated⟩ | ⟨gameId, at_⟩
    · simp [Cluster.whose, seated]
    · have vacant := sound.coherent.vacant _ (.inr (.inr (.inr ⟨_, _, at_⟩)))
      simp [Cluster.whose, vacant, at_]
  · rw [(valid.hosting hosting).1]
    simp [Cluster.whose, seat_of_host playing hosting]

omit listed in
/-- Hosts are not in their own rosters. -/
theorem Sound.separate (sound : cluster.Sound False known) : ¬ game.Lists hostId := by
  intro lists
  obtain ⟨playing, hosting⟩ := World.hostedAt_iff.mp held
  have seated := seat_of_host playing hosting
  rcases sound.coherent.rostered not_false ⟨shardId, hostId⟩ ⟨shardId, hostId⟩
    ⟨_, _, seated, (game.mem_parties ..).mpr lists⟩ with ⟨gameId, also⟩ | ⟨gameId, at_⟩
  · simp [seated] at also
  · have vacant := sound.coherent.vacant _ (.inr (.inr (.inr ⟨_, _, at_⟩)))
    simp [seated] at vacant

theorem Sound.entered (sound : cluster.Sound False known) :
    ¬ (cluster.lobby.stage ⟨shardId, id⟩).Enters := by
  intro enters
  have in_ := sound.whose held listed
  rw [Cluster.whose, sound.coherent.vacant _ enters.seating] at in_
  rcases enters with ⟨gameId, at_⟩ | ⟨gameId, host, at_⟩ <;> simp [at_] at in_

theorem Sound.one_game (sound : cluster.Sound False known) {otherId : Uuid} {other : Game}
    (holds : (cluster.world shardId).hostedAt otherId = some other)
    (also : ∃ nickname, (id, nickname) ∈ other.participants) : hostId = otherId := by
  have same := (sound.whose held listed).symm.trans (sound.whose holds also)
  simpa using same

end Seats

theorem Stage.Enters.busy {pc : Pc} {shardId : ShardId} (enters : (pc.stage shardId).Enters) :
    (∃ gameId, pc = .joinHost gameId) ∨
      ∃ gameId hostId nickname channel, pc = .joinRegister gameId hostId nickname channel := by
  cases pc with
  | joinHost gameId => exact .inl ⟨gameId, rfl⟩
  | joinRegister gameId hostId nickname channel => exact .inr ⟨gameId, hostId, nickname, channel, rfl⟩
  | joinEnter _ _ _ _ _ admitted => cases admitted <;> simp [Pc.stage, Stage.Enters] at enters
  | _ => simp [Pc.stage, Stage.Enters] at enters

/-- A step that enters a game is noted. -/
theorem Sound.noted {fault : Prop} (sound : before.Sound fault known)
    (stepped : before.step action = some after) (punctual : ¬ action.lapses)
    (kept : action.kind ≠ .sever) (enters : before.Seats action) :
    before.entering action = true := by
  obtain ⟨party, kind⟩ := action
  obtain ⟨at_, accepts⟩ := enters
  have active : ¬ (before.lobby.stage party).Resting := by
    rintro (same | same | same) <;> simp [same, Stage.Enters] at at_
  obtain ⟨oracle, model, pc, busy, staged⟩ := busy_of_stage rfl active
  dsimp only at at_
  rw [← staged] at at_
  cases step_does stepped with
  | connects unborn => simp [((sound.valid.orderly party).unborn unborn).1] at busy
  | accepts => exact absurd rfl (accepts _)
  | receives idle | answers idle | hangs idle => simp [busy] at idle
  | lapses => exact absurd trivial punctual
  | severs => exact absurd rfl kept
  | advances =>
    rcases Stage.Enters.busy at_ with ⟨gameId, rfl⟩ | ⟨gameId, hostId, nickname, channel, rfl⟩ <;>
      simp [entering, busy]

/-- What a step that enqueues and opens everything at once tells those who are in a game. -/
theorem Sound.step_heard (sound : before.Sound False known)
    (stepped : before.step action = some after) (punctual : ¬ action.lapses)
    (awake : before.lobby.stage action.party ≠ .lapsing) (kept : action.kind ≠ .sever) :
    ∃ sent, (after.world action.party.shardId).wire =
        (before.world action.party.shardId).wire ++ sent ∧
      ∀ hostId game, (after.world action.party.shardId).hostedAt hostId = some game →
        ∀ member ∈ game.participants,
          (before.world action.party.shardId).closed member.1 = false →
          (∃ old, (before.world action.party.shardId).hostedAt hostId = some old ∧
            Hears member.1 old.participants game.participants (news member.1 sent)) ∨
          (member.1 = action.party.id ∧ before.entering action = true ∧
            replay ∅ (news member.1 sent) = without game.participants member.1) := by
  have still : ∀ {hostId game sent}, (before.world action.party.shardId).hostedAt hostId = some game →
      ∀ member ∈ game.participants, news member.1 sent = [] →
      ∃ old, (before.world action.party.shardId).hostedAt hostId = some old ∧
        Hears member.1 old.participants game.participants (news member.1 sent) :=
    fun held _ _ quiet => ⟨_, held, .still rfl quiet⟩
  have noted := sound.noted stepped punctual kept
  cases sound.step_plays stepped kept with
  | aside aside =>
    obtain ⟨sent, wire, answers⟩ := aside.told
    refine ⟨sent, wire, fun hostId game held member listed _ => .inl ?_⟩
    exact still (aside.hosted ▸ held) member listed (news_answers answers)
  | stray allowed same => exact (allowed.elim punctual awake).elim
  | calls hostId old made held by_ heard result told =>
    obtain ⟨_, wire, first, last, rfl, replies, answers⟩ :=
      told fun allowed => allowed.elim punctual awake
    refine ⟨_, wire, fun otherId game holds member listed hears => ?_⟩
    obtain ⟨playing, hosting⟩ := World.hostedAt_iff.mp held
    have valid := (sound.valid.entries _).gameAt playing
    have separate := sound.separate held
    -- a newcomer is in no game yet
    have fresh : ∀ newcomer, made.operation = .register newcomer →
        newcomer.id = action.party.id ∧ newcomer.Own ∧ before.Seats action := by
      intro newcomer registers
      rw [registers] at by_
      exact ⟨by_.2.1, by_.2.2.1, by_.1⟩
    have outside : ∀ newcomer, made.operation = .register newcomer →
        ∀ {hostId game}, (before.world action.party.shardId).hostedAt hostId = some game →
          ¬ ∃ nickname, (newcomer.id, nickname) ∈ game.participants := by
      intro newcomer registers hostId game holds there
      obtain ⟨same, -, enters⟩ := fresh newcomer registers
      rw [same] at there
      exact sound.entered holds there enters.1
    rw [result] at holds
    have heard_ : news member.1 (first ++ old.callSent made ++ last) =
        news member.1 (old.callSent made) := by
      simp [news_answers replies, news_answers answers]
    rw [heard_]
    by_cases own : otherId = hostId
    · subst own
      obtain rfl : old.call made = game := by simpa using holds
      have newcomers : ∀ newcomer, made.operation = .register newcomer →
          newcomer.Own ∧ newcomer.id ≠ otherId ∧ ¬ old.Lists newcomer.id := by
        intro newcomer registers
        have apart := outside newcomer registers held
        obtain ⟨roster, hosts⟩ := valid.hosts hosting
        rw [hosts.participates, (valid.hosting hosting).1, ← hosts.lists] at apart
        exact ⟨(fresh newcomer registers).2.1, fun same => apart (.inr same),
          fun lists => apart (.inl lists)⟩
      rcases valid.call_hears hosting separate made newcomers listed (heard ▸ hears) with
        hears | ⟨newcomer, registers, same, caught⟩
      · exact .inl ⟨old, held, hears⟩
      · obtain ⟨named, -, enters⟩ := fresh newcomer registers
        exact .inr ⟨same.symm.trans named, noted enters, caught⟩
    · have holds : (before.world action.party.shardId).hostedAt otherId = some game := by
        simpa [own] using holds
      refine .inl (still holds member listed ?_)
      refine valid.call_elsewhere hosting separate made (fun newcomer registers => ?_) ?_
      · refine ⟨(fresh newcomer registers).2.1, fun same => ?_⟩
        exact outside newcomer registers holds ⟨member.2, same ▸ listed⟩
      · exact fun also => own (sound.one_game holds ⟨member.2, listed⟩ held also)
  | opens allowed gameId self named own fresh vacant result told =>
    obtain ⟨sent, wire, answers⟩ := told
    refine ⟨sent, wire, fun hostId game held member listed _ => ?_⟩
    rw [result] at held
    by_cases opener : hostId = action.party.id
    · subst opener
      obtain rfl : Game.new true gameId self self = game := by simpa using held
      obtain rfl : member = (self.id, self.nickname) := by
        simpa [Game.participants, Game.new, Roster.toList] using listed
      refine .inr ⟨named, noted allowed, ?_⟩
      rw [news_answers answers]
      ext other
      simp only [replay, List.foldl_nil, Finset.notMem_empty, mem_without, false_iff, not_and,
        not_not]
      intro there
      obtain rfl : other = (self.id, self.nickname) := by
        simpa [Game.participants, Game.new, Roster.toList] using there
      rfl
    · exact .inl (still (by simpa [opener] using held) member listed (news_answers answers))
  | ends old roster order held clients result told =>
    obtain ⟨_, wire, first, last, rfl, replies, answers⟩ := told
    refine ⟨_, wire, fun hostId game holds member listed _ => .inl ?_⟩
    rw [result] at holds
    by_cases closer : hostId = action.party.id
    · simp [closer] at holds
    · refine still (by simpa [closer] using holds) member listed ?_
      simp [news_answers replies, news_answers answers, Game.farewells_quiet]

theorem entering_stage (enters : cluster.entering action = true) :
    (cluster.lobby.stage action.party).Enters := by
  unfold entering at enters
  split at enters
  · rename_i busy
    exact .inl ⟨_, by rw [lobby_stage, busy]; rfl⟩
  · rename_i busy
    exact .inr ⟨_, _, by rw [lobby_stage, busy]; rfl⟩
  · cases enters

/-- Everyone in a game who can be reached knows who the others are. -/
structure Informed (state : Cluster × Since) : Prop where
  bounded : ∀ party, state.2 party ≤ (state.1.world party.shardId).wire.length
  knows : ∀ shardId hostId game, (state.1.world shardId).hostedAt hostId = some game →
    ∀ member ∈ game.participants, (state.1.world shardId).closed member.1 = false →
      believes (inbox state ⟨shardId, member.1⟩) = without game.participants member.1

section Step

variable {old new : Cluster × Since}

/-- What is enqueued goes to the inbox, which an entry empties first. -/
theorem inbox_step (bounded : old.2 party ≤ (old.1.world party.shardId).wire.length)
    (noted : new.2 = noteEntry old.1 action old.2) {sent : List Delivery}
    (wire : (new.1.world party.shardId).wire = (old.1.world party.shardId).wire ++ sent) :
    inbox new party = if party = action.party ∧ old.1.entering action = true then mail party.id sent
      else inbox old party ++ mail party.id sent := by
  rw [inbox, inbox, wire, noted, noteEntry]
  by_cases enters : old.1.entering action = true
  · by_cases own : party = action.party
    · subst own
      simp [enters]
    · simp [enters, own, List.drop_append_of_le_length bounded, mail_append]
  · simp [enters, List.drop_append_of_le_length bounded, mail_append]

/-- What any step tells those who are in a game of any process afterwards. -/
theorem Sound.step_informs (sound : before.Sound False known)
    (stepped : before.step action = some after) (punctual : ¬ action.lapses)
    (awake : before.lobby.stage action.party ≠ .lapsing) (shardId : ShardId) :
    ∃ sent, (after.world shardId).wire = (before.world shardId).wire ++ sent ∧
      ∀ hostId game, (after.world shardId).hostedAt hostId = some game →
        ∀ member ∈ game.participants, (after.world shardId).closed member.1 = false →
          (∃ earlier, (before.world shardId).hostedAt hostId = some earlier ∧
            (before.world shardId).closed member.1 = false ∧
            Hears member.1 earlier.participants game.participants (news member.1 sent)) ∨
          (⟨shardId, member.1⟩ = action.party ∧ before.entering action = true ∧
            replay ∅ (news member.1 sent) = without game.participants member.1) := by
  by_cases apart : shardId ≠ action.party.shardId ∨ action.kind = .sever
  · rw [wire_still stepped apart, hosted_still stepped apart]
    exact ⟨[], by simp, fun hostId game held member listed hears =>
      .inl ⟨game, held, step_hears sound stepped hears, .still rfl rfl⟩⟩
  · obtain ⟨rfl, kept⟩ : shardId = action.party.shardId ∧ action.kind ≠ .sever := by
      simpa using apart
    obtain ⟨sent, wire, heard⟩ := sound.step_heard stepped punctual awake kept
    rw [step_closed sound stepped kept]
    refine ⟨sent, wire, fun hostId game held member listed hears => ?_⟩
    rcases heard hostId game held member listed hears with
      ⟨earlier, holds, told⟩ | ⟨same, enters, told⟩
    · exact .inl ⟨earlier, holds, hears, told⟩
    · exact .inr ⟨by rw [same], enters, told⟩

theorem Informed.step (informed : Informed old) (sound : old.1.Sound False known)
    (stepped : old.1.step action = some new.1) (noted : new.2 = noteEntry old.1 action old.2)
    (punctual : ¬ action.lapses) (awake : old.1.lobby.stage action.party ≠ .lapsing) :
    Informed new where
  bounded party := by
    obtain ⟨sent, wire, -⟩ := sound.step_informs stepped punctual awake party.shardId
    have earlier := informed.bounded party
    rw [wire, List.length_append, noted, noteEntry]
    split
    · by_cases same : party = action.party
      · subst same
        simp
      · rw [Function.update_of_ne same]
        omega
    · omega
  knows shardId hostId game held member listed hears := by
    obtain ⟨sent, wire, heard⟩ := sound.step_informs stepped punctual awake shardId
    have inbox_ := inbox_step (informed.bounded ⟨shardId, member.1⟩) noted wire
    rcases heard hostId game held member listed hears with
      ⟨earlier, holds, heard, told⟩ | ⟨same, enters, told⟩
    · have there : (member.1, member.2) ∈ earlier.participants := told.earlier listed
      -- who is in a game does not enter one
      have stays : ¬ ((⟨shardId, member.1⟩ : Party) = action.party ∧ old.1.entering action = true) := by
        rintro ⟨same, enters⟩
        have at_ := entering_stage enters
        rw [← same] at at_
        exact sound.entered holds ⟨_, there⟩ at_
      rw [inbox_, if_neg stays, believes, List.filterMap_append, replay_append]
      have knew := informed.knows shardId hostId earlier holds _ there heard
      rw [believes] at knew
      rw [knew]
      exact told.replay
    · rw [inbox_, if_pos ⟨same, enters⟩, ← told]
      rfl

end Step

/-- A run in which Redis does not fail and no request is timed out, with the entries noted. -/
def notedEntries : Transition.Step (Cluster × Since) Action :=
  (Step.ofOption (recording step noteEntry)).when fun _ action _ => Punctual action

/-- Fresh processes, and nobody has entered a game. -/
def Outset (state : Cluster × Since) : Prop := state.1.Fresh ∧ ∀ party, state.2 party = 0

/-- What an interleaving of punctual steps keeps. -/
theorem reached_informed {state : Cluster × Since} (reached : Reach Outset notedEntries state) :
    state.1.Sound False ∅ ∧ (∀ party, state.1.lobby.stage party ≠ .lapsing) ∧ Informed state := by
  induction reached with
  | @start state outset =>
    obtain ⟨fresh, zero⟩ := outset
    refine ⟨⟨fresh.valid, fresh.coherent fresh.apart.2⟩, fun party => ?_, fun party => ?_, ?_⟩
    · simp [(fresh.empty party).2]
    · simp [zero]
    · intro shardId hostId game held
      simp [@Fresh.hostedAt _ fresh ⟨shardId, hostId⟩] at held
  | next _ taken ih =>
    obtain ⟨sound, awake, informed⟩ := ih
    obtain ⟨recorded, healthy, punctual⟩ := taken
    obtain ⟨stepped, noted⟩ := recording_eq_some.mp recorded
    refine ⟨sound.step (fun _ => healthy) stepped, fun party lapsing => ?_,
      informed.step sound stepped noted punctual (awake _)⟩
    rcases (sound.move (fun _ => healthy) stepped).lapses lapsing with earlier | timeout
    · exact awake party earlier
    · exact punctual timeout

/-- However connections interleave and whichever channels close, as long as Redis answers
and no request is timed out: the events enqueued for a participant since it entered a
game say exactly who else is in it and under which nicknames, if its channel is open. -/
theorem roster_known (state : Cluster × Since) (reached : Reach Outset notedEntries state)
    (shardId : ShardId) (hostId : Uuid) (game : Game)
    (held : (state.1.world shardId).hostedAt hostId = some game) (member : Uuid × String)
    (listed : member ∈ game.participants) (hears : (state.1.world shardId).closed member.1 = false) :
    believes (inbox state ⟨shardId, member.1⟩) = without game.participants member.1 :=
  (reached_informed reached).2.2.knows shardId hostId game held member listed hears

theorem noted_shows {α : Type} {availableTasks : List GameTask} {actions : List Action}
    {look : Cluster × Since → Option α} {seen : α}
    (shows : (run (guarded (fun _ action => decide (Punctual action)) (recording step noteEntry))
      (launch emptyRedis availableTasks, fun _ => 0) actions).bind look = some seen) :
    ∃ state, Reach Outset notedEntries state ∧ look state = some seen := by
  obtain ⟨state, ran, seen⟩ := Option.bind_eq_some_iff.mp shows
  have initial : Reach Outset (Step.ofOption (guarded (fun _ action => decide (Punctual action))
      (recording step noteEntry))) (launch emptyRedis availableTasks, fun _ => 0) :=
    .start ⟨launch_fresh emptyRedis availableTasks, fun _ => rfl⟩
  refine ⟨state, (run_reach _ initial ran).mono fun _ _ _ _ step => ?_, seen⟩
  obtain ⟨calm, taken⟩ := guarded_eq_some.mp step
  exact ⟨taken, of_decide_eq_true calm⟩

/-- A second participant enters after the channel of the first has been closed. -/
theorem roster_known_three : ∃ (state : Cluster × Since) (game : Game),
    Reach Outset notedEntries state ∧ (state.1.world "a").hostedAt 1 = some game ∧
    (state.1.world "a").closed 2 = true ∧ (2, "n") ∈ game.participants ∧
    believes (inbox state ⟨"a", 3⟩) = without game.participants 3 := by
  let late : Party := ⟨"a", 3⟩
  let oracle := Oracle.calm "17"
  obtain ⟨state, reached, seen⟩ := noted_shows
    (show (run (guarded (fun _ action => decide (Punctual action)) (recording step noteEntry))
      (launch emptyRedis [], fun _ => 0) (pair "a" "17" 1 2 ++ late.enters oracle ++
        [⟨⟨"a", 2⟩, .sever⟩] ++ late.joins oracle "17")).bind (fun state : Cluster × Since =>
          ((state.1.world "a").hostedAt 1).map fun game => ((state.1.world "a").closed 2,
            (state.1.world "a").closed 3, decide ((2, "n") ∈ game.participants),
              decide ((3, "n") ∈ game.participants))) = some (true, false, true, true) by
        decide +kernel)
  obtain ⟨game, held, same⟩ := Option.map_eq_some_iff.mp seen
  simp only [Prod.mk.injEq, decide_eq_true_eq] at same
  obtain ⟨shut, hears, first, second⟩ := same
  exact ⟨state, game, reached, held, shut, first,
    roster_known state reached "a" 1 game held (3, "n") second hears⟩

end Cluster

end Grass
