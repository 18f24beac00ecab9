import Grass.Guarantee.Session

namespace Grass

open Transition

def Message.isFarewell : Message → Bool
  | .forcedDisconnection | .gameEvent .shutdown | .gameEvent (.disconnectedClient _ _)
  | .response (.shutdown _) | .response (.leave _) => true
  | _ => false

/-- Neither deletion of a host's drop goes through. -/
def Oracle.keepsRecord (oracle : Oracle) : Bool :=
  (oracle.fails .shutdownPool || oracle.fails .shutdownDel) &&
    (oracle.fails .dropPool || oracle.fails .dropDel)

namespace World

/-- Every game, roster and record is as it was, and no farewell was enqueued. -/
structure Spares (before after : World) : Prop where
  games : ∀ id, (after.sockets id).map SocketClient.game =
    (before.sockets id).map SocketClient.game
  records : ∀ gameId, after.redis (gameKey gameId) = before.redis (gameKey gameId)
  quiet : ∃ sent, after.wire = before.wire ++ sent ∧
    ∀ delivery ∈ sent, delivery.message.isFarewell = false

variable {world before middle after : World} {id : Uuid} {client : SocketClient} {game : Game}
  {oracle : Oracle}

theorem Spares.refl (world : World) : world.Spares world :=
  ⟨fun _ => rfl, fun _ => rfl, [], by simp, by simp⟩

theorem not_spares (middle : World) {sent : List Delivery}
    (enqueued : middle.wire = before.wire ++ sent) (delivery : Delivery) (member : delivery ∈ sent)
    (farewell : delivery.message.isFarewell = true) (grows : middle.wire <+: after.wire) :
    ¬ before.Spares after := by
  rintro ⟨-, -, all, total, quiet⟩
  obtain ⟨more, same⟩ := grows
  rw [enqueued, total, List.append_assoc, List.append_cancel_left_eq] at same
  have silent := quiet delivery (by simp [← same, member])
  simp [farewell] at silent

theorem announceDrop_send (valid : client.Valid id) (live : client.performedSafeShutdown = false)
    (message : Message) : (world.send client.sendChannel message).announceDrop client =
      if world.closed id then world
      else world.deliver [⟨id, message⟩, ⟨id, .forcedDisconnection⟩] := by
  by_cases closed : world.closed id = true
  · simp [announceDrop, live, send, valid.wired, closed]
  · simp [announceDrop, live, send, valid.wired, closed, deliver]

theorem dropGame_hosts (oracle : Oracle) {roster : Roster} (hosts : game.Hosts roster) (world : World) :
    (world.dropGame oracle game).1.sockets = world.sockets ∧
      (world.dropGame oracle game).1.redis = (if oracle.keepsRecord then world.redis
        else (world.del (gameKey game.gameId)).redis) ∧
      ∃ goodbye, (world.dropGame oracle game).1.wire = world.wire ++
          (((oracle.order.list roster).flatMap fun entry =>
            (entry.2.sendMessage world.closed (.gameEvent .shutdown)).sent) ++ goodbye) ∧
        goodbye.Sublist
          (game.partialHost.sendMessage world.closed (.response (.shutdown true))).sent := by
  have told := @Roster.Valid.sendAll ClientError roster hosts.roster oracle.order world.closed
    (.gameEvent .shutdown)
  -- the result of the host's goodbye only matters where it is a panic
  have calm := PartialClient.sendMessage_calm hosts.host.wired world.closed
    (.response (.shutdown true))
  rw [dropGame, if_pos hosts.isHost, shutdownGame, Game.checkHost_host hosts.isHost,
    hosts.clients]
  simp only [told.1, told.2, Oracle.keepsRecord]
  by_cases lost : (oracle.fails .shutdownPool || oracle.fails .shutdownDel) = true
  · simp only [lost, ↓reduceIte, Bool.true_and, deleteRecord]
    split
    · exact ⟨rfl, rfl, [], by simp, List.nil_sublist _⟩
    · exact ⟨rfl, rfl, [], by simp, List.nil_sublist _⟩
  · simp only [lost, Bool.false_eq_true, ↓reduceIte, Bool.false_and, deliver_closed, del_closed]
    unfold deleteRecord
    split
    · exact ⟨rfl, rfl, _, by simp, List.Sublist.refl _⟩
    · exact ⟨rfl, by simp, _, by simp, List.Sublist.refl _⟩

theorem spares_host (valid : game.Valid id) (host : game.isHost = true)
    (closed : world.closed id = true) : world.Spares (world.dropGame oracle game).1 ↔
      (∀ member, game.Lists member → world.closed member = true) ∧
        (oracle.keepsRecord = true ∨ world.redis (gameKey game.gameId) = none) := by
  obtain ⟨same, roster, clients, wired⟩ := valid.hosting host
  have hosts : game.Hosts roster := ⟨host, clients, wired, valid.host⟩
  obtain ⟨sockets, redis, goodbye, wire, part⟩ := dropGame_hosts oracle hosts world
  rw [valid.host.sent, same, if_pos closed, List.sublist_nil] at part
  subst part
  rw [List.append_nil] at wire
  constructor
  · intro spares
    refine ⟨fun member listed => ?_, ?_⟩
    · by_contra hears
      obtain ⟨client, found⟩ : ∃ client, roster.lookup member = some client := by
        obtain ⟨other, held, present⟩ := listed
        obtain rfl : roster = other := by simpa [clients] using held
        exact Option.isSome_iff_exists.mp (AList.lookup_isSome.mpr present)
      obtain ⟨rfl, own⟩ := wired member client found
      refine not_spares _ wire ⟨client.id, .gameEvent .shutdown⟩ ?_ rfl (List.prefix_refl _)
        spares
      refine List.mem_flatMap.mpr ⟨_, oracle.order.mem_iff.mpr found, ?_⟩
      simp [own.sent, hears]
    · have kept := spares.records game.gameId
      rw [redis] at kept
      split at kept
      · exact .inl ‹_›
      · exact .inr (by simpa using kept.symm)
  · rintro ⟨deaf, kept⟩
    refine ⟨fun id => by rw [sockets], fun gameId => ?_, [], ?_, by simp⟩
    · rw [redis]
      split
      · rfl
      · by_cases here : gameId = game.gameId
        · subst here
          simp [kept.resolve_left ‹_›]
        · simp [here]
    · rw [wire, List.append_cancel_left_eq, List.flatMap_eq_nil_iff]
      intro entry member
      have found := oracle.order.mem_iff.mp member
      obtain ⟨named, own⟩ := wired entry.1 entry.2 found
      rw [own.sent, named,
        if_pos (deaf _ ⟨roster, clients, AList.lookup_isSome.mp (by simp [found])⟩)]

theorem dropGame_guest (valid : game.Valid id) (guest : game.isHost = false)
    (closed : middle.closed id = true) {exit : Exit Unit Unit} (calm : exit ≠ .panic)
    (left : world.unregisterFromHost oracle game = (middle, exit)) :
    (world.dropGame oracle game).1 = middle.deliver [] := by
  have silent : (game.partialClient.sendMessage middle.closed (.response (.leave true))).sent =
      [] := by
    rw [valid.self.sent, valid.owner, if_pos closed]
  rw [dropGame, if_neg (by simp [guest]), if_pos valid.host.isLocal, leaveGame, left]
  cases exit with
  | panic => exact absurd rfl calm
  | ok | err => simp only [Sending.ignore_sent, silent]

theorem spares_guest (worldValid : world.Valid) (valid : game.Valid id)
    (guest : game.isHost = false) (closed : world.closed id = true) :
    world.Spares (world.dropGame oracle game).1 ↔
      ∀ hosted, world.gameAt game.partialHost.id = some hosted → hosted.isHost = true →
        ¬ hosted.Lists id := by
  have untouched : world.unregisterFromHost oracle game = (world, .ok ()) →
      world.Spares (world.dropGame oracle game).1 := by
    intro left
    rw [dropGame_guest valid guest closed (by simp) left]
    exact ⟨fun _ => rfl, fun _ => rfl, [], rfl, by simp⟩
  cases held : world.gameAt game.partialHost.id with
  | none =>
    refine iff_of_true (untouched ?_) (by simp)
    unfold unregisterFromHost
    cases found : world.sockets game.partialHost.id with
    | none => rfl
    | some hostClient => simp [show hostClient.game = none by simpa [gameAt, found] using held]
  | some hosted =>
    obtain ⟨hostClient, found, holding⟩ := gameAt_entry held
    have hostValid := worldValid.gameAt held
    have computed : world.unregisterFromHost oracle game =
        ((world.put game.partialHost.id { hostClient with
            game := some (hosted.unregister oracle.order world.closed id).1 }).deliver
          (hosted.unregister oracle.order world.closed id).2.sent,
          (hosted.unregister oracle.order world.closed id).2.exit) := by
      simp [unregisterFromHost, found, holding, valid.owner]
    have calm := hostValid.unregister_calm oracle.order world.closed id
    rw [dropGame_guest valid guest (by simpa using closed) calm computed]
    simp only [Option.some.injEq, forall_eq']
    rcases hostValid.unregister_cases oracle.order world.closed id with
      ⟨same, missing⟩ | ⟨host, roster, clients, -, listed, _, -, same, -⟩
    · rw [same]
      refine iff_of_true ⟨fun other => ?_, fun _ => rfl, [], by simp, by simp⟩ ?_
      · by_cases here : other = game.partialHost.id
        · subst here
          simp [found, holding]
        · simp [here]
      · rintro - ⟨roster, clients, listed⟩
        exact missing roster clients listed
    · rw [same]
      refine iff_of_false (fun spares => ?_) fun unlisted => unlisted host ⟨roster, clients, listed⟩
      have struck := spares.games game.partialHost.id
      simp only [deliver_sockets, put_sockets, Function.update_self, Option.map_some, found,
        holding, Option.some.injEq] at struck
      have erased := congrArg Game.connectedClients struck
      simp only [clients, Option.some.injEq] at erased
      rw [← erased] at listed
      simp at listed

theorem unregisterFromHost_grows (world : World) (oracle : Oracle) (game : Game) :
    world.wire <+: (world.unregisterFromHost oracle game).1.wire := by
  unfold unregisterFromHost
  repeat' split
  all_goals simp

theorem dropGame_grows (valid : game.Valid id) (world : World) :
    world.wire <+: (world.dropGame oracle game).1.wire := by
  by_cases host : game.isHost = true
  · obtain ⟨roster, hosts⟩ := valid.hosts host
    obtain ⟨-, -, goodbye, wire, -⟩ := dropGame_hosts oracle hosts world
    rw [wire]
    exact List.prefix_append ..
  · have left := world.unregisterFromHost_grows oracle game
    rw [dropGame, if_neg host, if_pos valid.host.isLocal, leaveGame]
    split
    · simpa only [*] using left
    · exact (by simpa only [*] using left : _ <+: _).trans (List.prefix_append ..)

theorem not_spares_told (valid : client.Valid id) (message : Message) :
    ¬ world.Spares ((world.deliver [⟨id, message⟩, ⟨id, .forcedDisconnection⟩]).dropGame? oracle
      client.game).1 := by
  have enqueued : (world.deliver [⟨id, message⟩, ⟨id, .forcedDisconnection⟩]).wire =
      world.wire ++ [⟨id, message⟩, ⟨id, .forcedDisconnection⟩] := rfl
  refine not_spares _ enqueued ⟨id, .forcedDisconnection⟩ (by simp) rfl ?_
  cases held : client.game with
  | none => exact List.prefix_refl _
  | some game => exact dropGame_grows (valid.playing game held).2 _

end World

namespace Ctx

variable {ctx : Ctx} {world : World} {client : SocketClient}

/-- Section after section of one handler, until it returns. -/
def finish (ctx : Ctx) : Nat → World → Pc → Option (World × Exit ClientError Bool)
  | 0, _, _ => none
  | fuel + 1, world, pc =>
    let current := ctx.runSection world pc
    match current.next with
    | .goto pc => ctx.finish fuel current.final pc
    | .handled exit => some (current.final, handledResult exit)
    | .returned result => some (current.final, result)

/-- The timeout branch is a reply through the clone and the clone's drop; it never asks
for the connection to be closed. -/
theorem finish_timeout (ctx : Ctx) (found : world.sockets ctx.clientId = some client)
    (playing : ∀ game, client.game = some game → game.partialHost.isLocal = true) :
    ∃ result, result ≠ .ok true ∧ ctx.finish 4 world .timeoutClone =
      some (((world.send client.sendChannel (.response (.timeout ctx.model))).dropClient
        ctx.oracle client).1, result) := by
  have answer : ∀ closed : Bool,
      (if closed then .err .sendError else .ok false : Exit ClientError Bool) ≠ .ok true := by
    decide
  have start : ctx.finish 4 world .timeoutClone =
      ctx.finish 3 world (.timeoutReply client) := by
    simp only [finish, runSection, timeoutClone, found, Section.goto]
  rw [start, finish]
  simp only [runSection, timeoutReply, World.dropClient]
  generalize (world.send client.sendChannel (.response (.timeout ctx.model))).announceDrop client =
    final
  cases held : client.game with
  | none => exact ⟨_, answer _, rfl⟩
  | some game =>
    simp only [World.dropGame?, World.dropGame, playing game held, ↓reduceIte]
    cases host : game.isHost with
    | true =>
      simp only [↓reduceIte, finish, runSection, timeoutShutdown, Section.goto]
      rcases final.shutdownGame ctx.oracle game with ⟨last, middle, shut⟩
      cases shut with
      | panic => exact ⟨.panic, by simp, rfl⟩
      | ok | err =>
        simp only [timeoutDelete]
        rcases middle.deleteRecord ctx.oracle game.gameId with ⟨after, deleted⟩
        cases deleted with
        | ok => exact ⟨_, answer _, rfl⟩
        | err | panic => exact ⟨.panic, by simp, rfl⟩
    | false =>
      simp only [Bool.false_eq_true, ↓reduceIte, finish, runSection, timeoutLeave, Section.goto]
      rcases final.leaveGame ctx.oracle game with ⟨middle, left⟩
      cases left with
      | panic => exact ⟨.panic, by simp, rfl⟩
      | ok | err => exact ⟨_, answer _, rfl⟩

end Ctx

namespace Cluster

variable {cluster : Cluster} {party : Party} {oracle : Oracle} {model : DefaultModel}

theorem finish_run {fuel : Nat} {pc : Pc} {after : World} {result : Exit ClientError Bool}
    (busy : (cluster.node party.shardId).reader party.id = .busy oracle model pc)
    (finished : (cluster.ctx party oracle model).finish fuel (cluster.world party.shardId) pc =
      some (after, result)) : ∃ sections,
      run step cluster (List.replicate sections ⟨party, .advance⟩) =
        some (cluster.update party after (.after result)) := by
  induction fuel generalizing cluster pc with
  | zero => cases finished
  | succ fuel ih =>
    rw [Ctx.finish] at finished
    have stepped : cluster.step ⟨party, .advance⟩ = some (cluster.update party
        ((cluster.ctx party oracle model).runSection (cluster.world party.shardId) pc).final
        (nextReader oracle model ((cluster.ctx party oracle model).runSection
          (cluster.world party.shardId) pc).next)) := step_advance busy
    generalize (cluster.ctx party oracle model).runSection (cluster.world party.shardId) pc =
      current at finished stepped
    obtain ⟨paused, final, next⟩ := current
    cases next with
    | goto pc =>
      obtain ⟨sections, ran⟩ := @ih (cluster.update party final (.busy oracle model pc)) pc
        (update_reader ..) (by rwa [update_ctx, update_world])
      refine ⟨sections + 1, ?_⟩
      rw [List.replicate_succ, run, stepped, Option.bind_some, nextReader, ran, update_update]
    | handled exit =>
      obtain ⟨rfl, rfl⟩ : final = after ∧ handledResult exit = result := by simpa using finished
      exact ⟨1, by simp [run, stepped, nextReader]⟩
    | returned exit =>
      obtain ⟨rfl, rfl⟩ : final = after ∧ exit = result := by simpa using finished
      exact ⟨1, by simp [run, stepped, nextReader]⟩

/-- Nobody and no record would notice the end of the client's connection or game: its
own channel is closed; a host's participants are all unreachable and its record is gone or
stays; a participant is in no roster of its host. -/
def Unnoticed (cluster : Cluster) (party : Party) (oracle : Oracle) : Prop :=
  ∀ client, (cluster.world party.shardId).sockets party.id = some client →
    (cluster.world party.shardId).closed party.id = true ∧
      ∀ game, client.game = some game →
        (game.isHost = true →
          (∀ member, game.Lists member → (cluster.world party.shardId).closed member = true) ∧
            (oracle.keepsRecord = true ∨ cluster.redis (gameKey game.gameId) = none)) ∧
        (game.isHost = false → ∀ hosted,
          (cluster.world party.shardId).gameAt game.partialHost.id = some hosted →
            hosted.isHost = true → ¬ hosted.Lists party.id)

theorem unnoticed_iff {client : SocketClient}
    (found : (cluster.world party.shardId).sockets party.id = some client) :
    cluster.Unnoticed party oracle ↔ (cluster.world party.shardId).closed party.id = true ∧
      ∀ game, client.game = some game →
        (game.isHost = true →
          (∀ member, game.Lists member → (cluster.world party.shardId).closed member = true) ∧
            (oracle.keepsRecord = true ∨ cluster.redis (gameKey game.gameId) = none)) ∧
        (game.isHost = false → ∀ hosted,
          (cluster.world party.shardId).gameAt game.partialHost.id = some hosted →
            hosted.isHost = true → ¬ hosted.Lists party.id) := by
  simp only [Unnoticed, found, Option.some.injEq, forall_eq']

/-- After a timeout at any await of any handler, in any reachable state, the branch runs to
its end; it asks for closing or spares the games exactly where it goes unnoticed. -/
theorem timeout_spares_iff (cluster : Cluster) (party : Party) (oracle : Oracle)
    (model : DefaultModel) (reached : Reach Fresh steps cluster)
    (cancelled : (cluster.node party.shardId).reader party.id =
      .busy oracle model .timeoutClone) :
    ∃ world result, (cluster.ctx party oracle model).finish 4
        (cluster.world party.shardId) .timeoutClone = some (world, result) ∧
      (∃ sections, run step cluster (List.replicate sections ⟨party, .advance⟩) =
        some (cluster.update party world (.after result))) ∧
      ((result = .ok true ∨ (cluster.world party.shardId).Spares world) ↔
        cluster.Unnoticed party oracle) := by
  have sound : cluster.Sound True ∅ := reached_steps reached
  have worldValid := sound.valid.entries party.shardId
  cases found : (cluster.world party.shardId).sockets party.id with
  | none =>
    have gone : (cluster.ctx party oracle model).finish 4
        (cluster.world party.shardId) .timeoutClone =
          some (cluster.world party.shardId, .panic) := by
      simp [Ctx.finish, Ctx.runSection, Ctx.timeoutClone, ctx, found]
    exact ⟨_, _, gone, finish_run cancelled gone,
      iff_of_true (.inr (.refl _)) fun client here => by simp [found] at here⟩
  | some client =>
    have valid := worldValid party.id client found
    have live : client.performedSafeShutdown = false := by
      by_contra flag
      have ended := (sound.valid.orderly party).flagged client found (by simpa using flag)
      simp [cancelled] at ended
    obtain ⟨result, unasked, ends⟩ := Ctx.finish_timeout (cluster.ctx party oracle model)
      found fun game held => (valid.playing game held).2.host.isLocal
    refine ⟨_, result, ends, finish_run cancelled ends, ?_⟩
    rw [or_iff_right unasked, World.dropClient, World.announceDrop_send valid live]
    by_cases closed : (cluster.world party.shardId).closed party.id = true
    · rw [if_pos closed, unnoticed_iff found, and_iff_right closed]
      cases held : client.game with
      | none => exact iff_of_true (.refl _) (by simp)
      | some game =>
        have gameValid := (valid.playing game held).2
        simp only [Option.some.injEq, forall_eq', World.dropGame?]
        cases host : game.isHost with
        | true =>
          simp only [forall_const, Bool.true_eq_false, IsEmpty.forall_iff, and_true]
          exact World.spares_host gameValid host closed
        | false =>
          simp only [Bool.false_eq_true, IsEmpty.forall_iff, forall_const, true_and]
          exact World.spares_guest worldValid gameValid host closed
    · rw [if_neg closed]
      exact iff_of_false (World.not_spares_told valid _)
        fun unnoticed => closed (unnoticed client found).1

def lapse (party : Party) (oracle : Oracle) : List Action :=
  party.asks oracle 0 "Ping" [] ++ [⟨party, .timeout 0⟩]

/-- Look at a connection whose timeout branch is about to run. -/
def lapsed {α : Type} (party : Party) (look : Ctx → α) (cluster : Cluster) : Option α :=
  match (cluster.node party.shardId).reader party.id with
  | .busy oracle model .timeoutClone => some (look (cluster.ctx party oracle model))
  | _ => none

theorem lapsed_eq_some {α : Type} {look : Ctx → α} {seen : α}
    (shows : lapsed party look cluster = some seen) : ∃ oracle model,
      (cluster.node party.shardId).reader party.id = .busy oracle model .timeoutClone ∧
        look (cluster.ctx party oracle model) = seen := by
  unfold lapsed at shows
  split at shows
  · rename_i oracle model busy
    exact ⟨oracle, model, busy, Option.some.inj shows⟩
  · cases shows

/-- Nobody in its game can be written to any more, nor can the host, while Redis fails; and a
participant whose host has struck it from its roster, at an earlier timeout. -/
theorem timeout_spares_iff_severed :
    (∃ (cluster : Cluster) (oracle : Oracle) (model : DefaultModel) (game : Game) (world : World)
      (result : Exit ClientError Bool), (cluster.world "a").gameAt 1 = some game ∧
      game.isHost = true ∧ game.Lists 2 ∧
      (cluster.ctx ⟨"a", 1⟩ oracle model).finish 4 (cluster.world "a") .timeoutClone =
        some (world, result) ∧ (result = .ok true ∨ (cluster.world "a").Spares world)) ∧
    ∃ (cluster : Cluster) (oracle : Oracle) (model : DefaultModel) (game : Game) (world : World)
      (result : Exit ClientError Bool), (cluster.world "a").gameAt 2 = some game ∧
      game.isHost = false ∧
      (cluster.ctx ⟨"a", 2⟩ oracle model).finish 4 (cluster.world "a") .timeoutClone =
        some (world, result) ∧ (result = .ok true ∨ (cluster.world "a").Spares world) := by
  constructor
  · obtain ⟨cluster, reached, shows⟩ := run_shows (launch_fresh emptyRedis [])
      (show (run (guarded (fun _ _ => true) step) (launch emptyRedis [])
        (pair "a" "17" 1 2 ++ [⟨⟨"a", 1⟩, .sever⟩, ⟨⟨"a", 2⟩, .sever⟩] ++
          lapse ⟨"a", 1⟩ { Oracle.calm "17" with fails := fun _ => true })).bind (fun cluster =>
            lapsed ⟨"a", 1⟩ (fun ctx => (((cluster.world "a").gameAt 1).map fun game =>
              (game.isHost, decide (game.Lists 2), game.connectedClients.map fun roster =>
                roster.keys.all (cluster.world "a").closed), (cluster.world "a").closed 1,
                  ctx.oracle.keepsRecord)) cluster) =
                    some (some (true, true, some true), true, true) by decide +kernel)
    obtain ⟨oracle, model, cancelled, seen⟩ := lapsed_eq_some shows
    simp only [Prod.mk.injEq] at seen
    obtain ⟨playing, closed, keeps⟩ := seen
    obtain ⟨game, held, same⟩ := Option.map_eq_some_iff.mp playing
    simp only [Prod.mk.injEq, decide_eq_true_eq, Option.map_eq_some_iff, List.all_eq_true] at same
    obtain ⟨hosting, lists, roster, clients, deaf⟩ := same
    have any : Reach Fresh steps cluster := reached.mono fun _ _ _ _ step => step.1
    obtain ⟨world, result, finished, -, spares⟩ :=
      timeout_spares_iff cluster ⟨"a", 1⟩ oracle model any cancelled
    refine ⟨cluster, oracle, model, game, world, result, held, hosting, lists, finished,
      spares.mpr fun client found => ⟨closed, fun other plays => ?_⟩⟩
    obtain rfl : other = game := by simpa [World.gameAt, found, plays] using held
    refine ⟨fun _ => ⟨?_, .inl keeps⟩, fun guest => by simp [hosting] at guest⟩
    rintro member ⟨listed, same, entry⟩
    obtain rfl : roster = listed := Option.some.inj (clients.symm.trans same)
    exact deaf member (AList.mem_keys.mp entry)
  · obtain ⟨cluster, reached, shows⟩ := run_shows (launch_fresh emptyRedis [])
      (show (run (guarded (fun _ _ => true) step) (launch emptyRedis [])
        (pair "a" "17" 1 2 ++ lapse ⟨"a", 2⟩ (.calm "17") ++
          List.replicate 3 ⟨⟨"a", 2⟩, .advance⟩ ++ [⟨⟨"a", 2⟩, .sever⟩] ++
            lapse ⟨"a", 2⟩ (.calm "17"))).bind (fun cluster => lapsed ⟨"a", 2⟩ (fun _ =>
              (((cluster.world "a").gameAt 2).map fun game => (game.isHost, game.partialHost.id),
                ((cluster.world "a").gameAt 1).map fun hosted => decide (hosted.Lists 2),
                  (cluster.world "a").closed 2)) cluster) =
                    some (some (false, 1), some false, true) by decide +kernel)
    obtain ⟨oracle, model, cancelled, seen⟩ := lapsed_eq_some shows
    simp only [Prod.mk.injEq] at seen
    obtain ⟨playing, struck, closed⟩ := seen
    obtain ⟨game, held, same⟩ := Option.map_eq_some_iff.mp playing
    obtain ⟨guest, host⟩ := Prod.mk.inj same
    obtain ⟨hosted, there, unlisted⟩ := Option.map_eq_some_iff.mp struck
    have any : Reach Fresh steps cluster := reached.mono fun _ _ _ _ step => step.1
    obtain ⟨world, result, finished, -, spares⟩ :=
      timeout_spares_iff cluster ⟨"a", 2⟩ oracle model any cancelled
    refine ⟨cluster, oracle, model, game, world, result, held, guest, finished,
      spares.mpr fun client found => ⟨closed, fun other plays => ?_⟩⟩
    obtain rfl : other = game := by simpa [World.gameAt, found, plays] using held
    refine ⟨fun hosting => by simp [guest] at hosting, fun _ final known _ lists => ?_⟩
    rw [host] at known
    obtain rfl : hosted = final := Option.some.inj (there.symm.trans known)
    simp [lists] at unlisted

/-- A host times out: its game goes on without a record. -/
theorem host_timeout_unrecorded :
    ¬ ∀ (cluster : Cluster) party oracle model, Reach Fresh steps cluster →
      (cluster.node party.shardId).reader party.id = .busy oracle model .timeoutClone →
        ∀ world result, (cluster.ctx party oracle model).finish 4
            (cluster.world party.shardId) .timeoutClone = some (world, result) →
          result = .ok true ∨ (cluster.world party.shardId).Spares world := by
  intro spared
  obtain ⟨cluster, reached, shows⟩ := run_shows (launch_fresh emptyRedis [])
    (show (run (guarded (fun _ _ => true) step) (launch emptyRedis [])
      (pair "a" "17" 1 2 ++ lapse ⟨"a", 1⟩ (.calm "17"))).bind (fun cluster =>
        lapsed ⟨"a", 1⟩ (fun ctx => (cluster.redis (gameKey "17"),
          (ctx.finish 4 (cluster.world "a") .timeoutClone).map fun left =>
            (left.1.redis (gameKey "17"), left.2))) cluster) =
              some (some (.game ⟨"a", 1⟩), some (none, .ok false)) by decide +kernel)
  obtain ⟨oracle, model, cancelled, seen⟩ := lapsed_eq_some shows
  obtain ⟨recorded, ends⟩ := Prod.mk.inj seen
  obtain ⟨⟨world, result⟩, finished, same⟩ := Option.map_eq_some_iff.mp ends
  obtain ⟨gone, rfl⟩ := Prod.mk.inj same
  rcases spared cluster ⟨"a", 1⟩ oracle model (reached.mono fun _ _ _ _ step => step.1) cancelled
    world (.ok false) finished with asks | spares
  · cases asks
  · have kept := (spares.records "17").symm.trans gone
    cases recorded.symm.trans kept

end Cluster

end Grass
