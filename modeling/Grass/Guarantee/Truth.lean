import Grass.Guarantee.Ending
import Grass.Guarantee.Finishing
import Grass.Guarantee.Roster

/-! Whom a step of a connection tells anything, and that what its events say is so: of the
game that the one who is told is in. -/

namespace Grass

open Lobby Transition

namespace Game

/-- In the game: its host, or on its roster. -/
def Includes (game : Game) (id : Uuid) : Prop := game.Lists id ∨ id = game.partialHost.id

instance (game : Game) (id : Uuid) : Decidable (game.Includes id) :=
  inferInstanceAs (Decidable (_ ∨ _))

/-- What an event tells `id` is so, where `who` acted on a host's game and made of it what
there is of it afterwards. -/
inductive Truth (who id : Uuid) (errand : Errand) (before : Game) :
    Option Game → GameEvent → Prop where
  /-- The newcomer is told of somebody who was there. -/
  | greets {after : Game} {clientId : Uuid} {nickname : String} (newcomer : id = who)
      (enters : errand.enters) (inside : after.Includes id) (same : after.gameId = before.gameId)
      (there : (clientId, nickname) ∈ before.participants) :
      Truth who id errand before (some after)
        (.connectedClient before.gameId clientId nickname)
  | arrives {after : Game} {nickname : String} (enters : errand.enters) (was : before.Includes id)
      (inside : after.Includes id) (same : after.gameId = before.gameId)
      (there : (who, nickname) ∈ after.participants) :
      Truth who id errand before (some after) (.connectedClient before.gameId who nickname)
  | departs {after : Game} (inside : after.Includes id) (same : after.gameId = before.gameId)
      (was : before.Lists who) (gone : ¬ after.Lists who) :
      Truth who id errand before (some after) (.disconnectedClient before.gameId who)
  | starts {after : Game} (host : who = before.partialHost.id) (inside : after.Includes id)
      (waiting : before.isStarted = false) (started : after.isStarted = true) :
      Truth who id errand before (some after) (.start after.tasks.length)
  /-- Both runs of the submission in hand were all as expected, and it has been credited. -/
  | finishes {after : Game} {sandbox : Sandbox} {taskIndex : Nat} {code : String}
      {result : SandboxResponse} {task : GameTask} (inside : after.Includes id) (other : id ≠ who)
      (there : before.tasks[taskIndex]? = some task)
      (submits : errand.submits before.partialHost.id sandbox taskIndex code result)
      (accepted : before.Accepts sandbox who taskIndex code result)
      (finished : after.partialHost.Finished taskIndex) :
      Truth who id errand before (some after) (.taskFinished task.serialize taskIndex who)
  | ends (host : who = before.partialHost.id) (listed : before.Lists id) :
      Truth who id errand before none .shutdown

section Calls

variable {game : Game} {roster : Roster} {order : IterOrder} {closed : SocketSender → Bool}
  {who id hostId : Uuid} {tasks : List GameTask} {errand : Errand} {event : GameEvent}

theorem Hosts.includes (hosts : game.Hosts roster) :
    game.Includes id ↔ id ∈ roster ∨ id = game.partialHost.id := by
  rw [Includes, hosts.lists]

theorem Hosts.broadcast_inside (hosts : game.Hosts roster) {message : Message}
    {skipClientIds : Option (List Uuid)} {delivery : Delivery}
    (told : delivery ∈ (game.sendGlobal order closed message skipClientIds).sent) :
    delivery.message = message ∧ game.Includes delivery.channel ∧
      skips skipClientIds delivery.channel = false := by
  rw [hosts.sendGlobal_recipients] at told
  obtain ⟨id, reached, rfl⟩ := List.mem_map.mp told
  obtain ⟨inside, unskipped, -⟩ := mem_recipients.mp reached
  exact ⟨rfl, hosts.includes.mpr inside, unskipped⟩

/-- What a registration tells, and whom. -/
theorem Hosts.register_truth (hosts : game.Hosts roster) (openTo : game.isPublic = true)
    {newcomer : PartialClient} (own : newcomer.Own) (enters : errand.enters)
    {delivery : Delivery} (told : delivery ∈ (game.register order closed newcomer).2.sent) :
    ∃ event, delivery.message = .gameEvent event ∧ game.Truth newcomer.id delivery.channel errand
      (some (game.register order closed newcomer).1) event := by
  have later := hosts.withRoster (hosts.roster.insert own)
  rw [hosts.register order closed own openTo] at told ⊢
  have entered := later.includes.mpr (.inl ((AList.mem_insert _).mpr (.inl (Eq.refl newcomer.id))))
  have present : ∀ {clientId nickname}, (clientId, nickname) ∈ game.participants → ∀ {delivery},
      delivery ∈ (newcomer.sendMessage closed (.gameEvent (.connectedClient game.gameId clientId
        nickname))).sent → ∃ event, delivery.message = .gameEvent event ∧
          game.Truth newcomer.id delivery.channel errand (some
            { game with connectedClients := some (roster.insert newcomer.id newcomer) }) event := by
    intro clientId nickname there delivery told
    rw [own.reaches told]
    exact ⟨_, rfl, .greets rfl enters entered rfl there⟩
  rw [announce_sent own] at told
  rcases List.mem_append.mp told with caught | told
  · obtain ⟨item, listed, told⟩ := List.mem_flatMap.mp caught
    obtain ⟨⟨key, client⟩, entry, rfl⟩ := List.mem_map.mp listed
    exact present (hosts.mem_participants.mpr (.inr ⟨client, order.mem_iff.mp entry, rfl⟩)) told
  · rcases List.mem_append.mp told with greeted | told
    · exact present (hosts.mem_participants.mpr (.inl rfl)) greeted
    · obtain ⟨same, inside, -⟩ := hosts.broadcast_inside told
      refine ⟨_, same, .arrives enters inside ?_ rfl ?_⟩
      · exact later.includes.mpr ((hosts.includes.mp inside).imp_left fun listed =>
          (AList.mem_insert _).mpr (.inr listed))
      · exact later.mem_participants.mpr (.inr ⟨newcomer, AList.lookup_insert _, rfl⟩)

/-- What a call tells is told to those in the game, and is so. -/
theorem Valid.call_truth (valid : game.Valid hostId) (host : game.isHost = true) {made : Call}
    (by_ : made.operation.By who hostId tasks errand) {delivery : Delivery}
    (told : delivery ∈ game.callSent made) :
    ∃ event, delivery.message = .gameEvent event ∧
      game.Truth who delivery.channel errand (some (game.call made)) event := by
  obtain ⟨owner, -⟩ := valid.hosting host
  obtain ⟨roster, hosts⟩ := valid.hosts host
  obtain ⟨order, closed, operation⟩ := made
  cases operation with
  | register newcomer =>
    obtain ⟨enters, rfl, own, -⟩ := by_
    cases openTo : game.isPublic with
    | false => simp [callSent, register_shut openTo] at told
    | true => exact hosts.register_truth openTo own enters told
  | unregister clientId =>
    obtain rfl : clientId = who := by_
    simp only [call, callSent] at told ⊢
    by_cases struck : clientId ∈ roster
    · have later := hosts.withRoster (hosts.roster.erase clientId)
      rw [hosts.unregister order closed struck] at told ⊢
      rw [Sending.ignore_sent] at told
      obtain ⟨same, inside, -⟩ := later.broadcast_inside told
      refine ⟨_, same, .departs inside rfl ((hosts.lists _).mpr struck) ?_⟩
      rw [later.lists]
      exact fun listed => (AList.mem_erase.mp listed).1 rfl
    · rw [hosts.unregister_missing order closed struck] at told
      cases told
  | start choose availableTasks taskCount =>
    obtain ⟨rfl, -⟩ := by_
    simp only [call, callSent] at told ⊢
    rcases hosts.start_cases order closed choose availableTasks taskCount with
      ⟨error, after, same, -⟩ | ⟨progress, after, same, later, kept⟩
    · simp [same] at told
    · have finished : (game.start order closed choose availableTasks taskCount).2.exit = .ok () := by
        rw [same]
        exact Sending.ignore_exit (later.sendGlobal_calm order closed _ _)
      obtain ⟨-, waiting, filled, other, clients, made⟩ := start_ok _ _ _ _ _ finished
      rw [same] at made told ⊢
      rw [Sending.ignore_sent] at told
      obtain ⟨said, inside, -⟩ := later.broadcast_inside told
      have launched : after = game.launched (choose availableTasks taskCount) other :=
        congrArg Prod.fst made
      refine ⟨_, said, ?_⟩
      have count : after.tasks.length = taskCount := by rw [launched]; exact filled
      rw [← count]
      exact .starts owner.symm inside waiting (by rw [launched]; rfl)
  | prepareCodeTest taskIndex => cases told
  | validateCodeTest sandbox clientId taskIndex code result =>
    obtain ⟨rfl, submits⟩ := by_
    rw [← owner] at submits
    have later :=
      (hosts.validateCodeTest_kept order closed sandbox clientId taskIndex code result).1
    simp only [call, callSent] at told ⊢
    rcases game.validateCodeTest_credits order closed sandbox clientId taskIndex code result with
      ⟨-, silent⟩ | ⟨task, who, credited, -, there, known, accepted, credit, made, sent⟩
    · simp [silent] at told
    · rw [made] at later ⊢
      rw [sent] at told
      obtain ⟨same, inside, unskipped⟩ := later.broadcast_inside told
      obtain rfl : Participant.host = who := by simpa [participant, host] using known
      simp only [creditTask, Option.pure_def, Option.bind_eq_bind, Option.bind_eq_some_iff,
        Option.some.injEq] at credit
      obtain ⟨progress, -, credit⟩ := credit
      refine ⟨_, same, .finishes inside ?_ there submits accepted ?_⟩
      · simpa [skips] using unskipped
      · rw [← credit]
        exact ⟨_, rfl, AList.lookup_insert _⟩

end Calls

end Game

namespace Cluster

variable {cluster before after : Cluster} {action : Action}

/-- Whatever a step enqueues, as long as no request is timed out, is an answer to the acting
client or an event that is so of the game of whoever is told; other processes are silent. -/
theorem step_truth (reached : Reach Fresh timely before)
    (stepped : before.step action = some after) (punctual : ¬ action.lapses) (shardId : ShardId) :
    ∃ sent, (after.world shardId).wire = (before.world shardId).wire ++ sent ∧
      ∀ delivery ∈ sent, shardId = action.party.shardId ∧
        (delivery.Answers action.party.id ∨ ∃ hostId game event,
          (before.world shardId).hostedAt hostId = some game ∧
          delivery.message = .gameEvent event ∧
          game.Truth action.party.id delivery.channel (before.errand action)
            ((after.world shardId).hostedAt hostId) event) := by
  have awake := (reached_heralded reached).1 action.party
  have run : Reach Fresh steps before := reached.mono fun _ _ _ _ step => step.1
  have sound := reached_steps run
  by_cases apart : shardId ≠ action.party.shardId ∨ action.kind = .sever
  · exact ⟨[], by rw [wire_still stepped apart, List.append_nil], by simp⟩
  · obtain ⟨rfl, kept⟩ : shardId = action.party.shardId ∧ action.kind ≠ .sever := by
      simpa using apart
    cases sound.step_plays stepped kept with
    | aside aside =>
      obtain ⟨sent, wire, answers⟩ := aside.told
      exact ⟨sent, wire, fun delivery member => ⟨rfl, .inl (answers delivery member)⟩⟩
    | stray allowed => exact (allowed.elim punctual awake).elim
    | calls hostId game made held by_ heard result told =>
      obtain ⟨_, wire, first, last, rfl, replies, answers⟩ :=
        told fun allowed => allowed.elim punctual awake
      refine ⟨_, wire, fun delivery member => ⟨rfl, ?_⟩⟩
      obtain ⟨playing, hosting⟩ := World.hostedAt_iff.mp held
      have valid := (sound.valid.entries _).gameAt playing
      rcases List.mem_append.mp member with member | member
      · rcases List.mem_append.mp member with member | member
        · exact .inl (replies delivery member)
        · obtain ⟨event, same, truth⟩ := valid.call_truth hosting by_ member
          exact .inr ⟨hostId, game, event, held, same, by rwa [result, Function.update_self]⟩
      · exact .inl (answers delivery member)
    | opens allowed gameId self named own fresh vacant result told =>
      obtain ⟨sent, wire, answers⟩ := told
      exact ⟨sent, wire, fun delivery member => ⟨rfl, .inl (answers delivery member)⟩⟩
    | ends game roster order held clients result told =>
      obtain ⟨_, wire, first, last, rfl, replies, answers⟩ := told
      refine ⟨_, wire, fun delivery member => ⟨rfl, ?_⟩⟩
      obtain ⟨playing, hosting⟩ := World.hostedAt_iff.mp held
      have valid := (sound.valid.entries _).gameAt playing
      obtain ⟨other, hosts⟩ := valid.hosts hosting
      obtain rfl : roster = other := Option.some.inj (clients.symm.trans hosts.clients)
      rcases List.mem_append.mp member with member | member
      · rcases List.mem_append.mp member with member | member
        · exact .inl (replies delivery member)
        · obtain ⟨⟨id, client⟩, listed, sent⟩ := List.mem_flatMap.mp member
          obtain ⟨named, wired⟩ := hosts.roster id client (order.mem_iff.mp listed)
          rw [wired.reaches sent]
          refine .inr ⟨action.party.id, game, .shutdown, held, rfl, ?_⟩
          rw [result, Function.update_self]
          refine .ends (valid.hosting hosting).1.symm ((hosts.lists _).mpr ?_)
          rw [named]
          exact order.mem_keys listed
      · exact .inl (answers delivery member)

/-- Under every interleaving, whatever fails and whichever channels close, as long as no
request is timed out: every event that a step enqueues, it enqueues in the acting connection's
process, and is so of a host's game there as it was before the step and is after it. -/
theorem events_true (before after : Cluster) (action : Action) (reached : Reach Fresh timely before)
    (stepped : timely before action after) (shardId : ShardId) :
    ∃ sent, (after.world shardId).wire = (before.world shardId).wire ++ sent ∧
      ∀ id event, ⟨id, .gameEvent event⟩ ∈ sent → shardId = action.party.shardId ∧
        ∃ hostId game, (before.world shardId).hostedAt hostId = some game ∧
          game.Truth action.party.id id (before.errand action)
            ((after.world shardId).hostedAt hostId) event := by
  obtain ⟨sent, wire, each⟩ := step_truth reached stepped.1 stepped.2 shardId
  refine ⟨sent, wire, fun id event told => ?_⟩
  obtain ⟨here, answers | ⟨hostId, game, other, held, same, truth⟩⟩ := each _ told
  · exact absurd rfl (answers.2 event)
  · cases same
    exact ⟨here, hostId, game, held, truth⟩

/-- The step at which the host is told who has come. -/
theorem events_true_pair : ∃ (before after : Cluster) (action : Action) (hostId : Uuid)
    (game : Game), timely before action after ∧
    ⟨1, .gameEvent (.connectedClient "17" 2 "n")⟩ ∈ (after.world "a").wire ∧
    (before.world "a").hostedAt hostId = some game ∧
    game.Truth action.party.id 1 (before.errand action) ((after.world "a").hostedAt hostId)
      (.connectedClient "17" 2 "n") := by
  obtain ⟨cluster, reached, told⟩ := run_shows (launch_fresh emptyRedis [])
    (show (run (guarded (fun _ action => !decide action.lapses) step) (launch emptyRedis [])
        (pair "a" "17" 1 2)).bind (fun cluster : Cluster => some ((cluster.world "a").wire.any
          fun delivery => decide (delivery.channel = 1 ∧
            delivery.message.event? = some (.connectedClient "17" 2 "n")))) = some true by
              decide +kernel)
  have timed : Reach Fresh timely cluster :=
    reached.mono fun _ _ _ _ step => ⟨step.1, by simpa [checks] using step.2⟩
  obtain ⟨⟨channel, message⟩, member, same⟩ := List.any_eq_true.mp (Option.some.inj told)
  obtain ⟨rfl, said⟩ := of_decide_eq_true same
  obtain rfl := Message.event?_eq_some.mp said
  let Told (cluster : Cluster) : Prop :=
    ⟨1, .gameEvent (.connectedClient "17" 2 "n")⟩ ∈ (cluster.world "a").wire
  have silent : ∀ initial : Cluster, initial.Fresh → ¬ Told initial := by
    intro initial fresh
    obtain ⟨tasks, started⟩ := fresh "a"
    simp [Told, world, started, Node.world, Node.fresh]
  obtain ⟨before, action, after, earlier, unsaid, step, said, -⟩ := timed.appears silent member
  obtain ⟨sent, wire, each⟩ := events_true before after action earlier step "a"
  have news : ⟨1, .gameEvent (.connectedClient "17" 2 "n")⟩ ∈ sent := by
    have there : _ ∈ (after.world "a").wire := said
    rw [wire] at there
    exact (List.mem_append.mp there).resolve_left unsaid
  obtain ⟨-, hostId, game, held, truth⟩ := each 1 _ news
  exact ⟨before, after, action, hostId, game, step, said, held, truth⟩

/-- The host's progress shows the task as finished. -/
def Shows (cluster : Cluster) (host : Party) (taskIndex : Nat) : Prop :=
  ∃ game, (cluster.world host.shardId).hostedAt host.id = some game ∧
    game.partialHost.Finished taskIndex

/-- Whatever happens, timeouts and failures included: every task that a host's progress
shows as finished was brought about by one step, at which some connection of the process had
handed in, for the game that the host held, code whose public and private runs were all as
expected; and it has shown since. -/
theorem finished_earned (cluster : Cluster) (reached : Reach Fresh steps cluster) (host : Party)
    (taskIndex : Nat) (finished : cluster.Shows host taskIndex) :
    ∃ before action after game sandbox code result, Reach Fresh steps before ∧
      ¬ before.Shows host taskIndex ∧ steps before action after ∧ after.Shows host taskIndex ∧
      Reach (fun origin => origin = after)
        (steps.when fun _ _ later => later.Shows host taskIndex) cluster ∧
      action.party.shardId = host.shardId ∧
      (before.world host.shardId).hostedAt host.id = some game ∧
      before.Submits action host.id sandbox taskIndex code result ∧
      game.Accepts sandbox action.party.id taskIndex code result := by
  have silent : ∀ initial : Cluster, initial.Fresh → ¬ initial.Shows host taskIndex := by
    rintro initial fresh ⟨game, held, -⟩
    simp [fresh.hostedAt] at held
  obtain ⟨before, action, after, earlier, hidden, step, shown, since⟩ :=
    reached.appears silent finished
  have ⟨game, held, done⟩ := shown
  have sound := reached_steps earlier
  rcases sound.step_hosted step held with same | ⟨-, -, gameId, self, -, -, fresh, rfl⟩ |
    ⟨old, made, found, rfl, makes⟩
  · exact (hidden ⟨game, same, done⟩).elim
  · exact absurd done (Game.Waiting.new gameId fresh).untracked.unfinished
  · obtain ⟨playing, hosting⟩ := World.hostedAt_iff.mp found
    have valid := (sound.valid.entries _).gameAt playing
    rcases valid.call_finishes hosting made done with
      already | ⟨-, sandbox, clientId, code, result, graded, accepted⟩
    · exact (hidden ⟨old, found, already⟩).elim
    · have by_ := makes.by_
      rw [graded] at by_
      obtain ⟨rfl, submits⟩ := by_
      exact ⟨before, action, after, old, sandbox, code, result, earlier, hidden, step, shown, since,
        makes.here, found, submits, accepted⟩

theorem finished_earned_submission : ∃ (before after : Cluster) (action : Action) (game : Game)
    (sandbox : Sandbox) (code : String) (result : SandboxResponse),
    ¬ before.Shows ⟨"a", 1⟩ 0 ∧ steps before action after ∧ after.Shows ⟨"a", 1⟩ 0 ∧
    (before.world "a").hostedAt 1 = some game ∧ before.Submits action 1 sandbox 0 code result ∧
    game.Accepts sandbox action.party.id 0 code result := by
  obtain ⟨cluster, game, reached, held, -, finished⟩ := handIn_reached
  have run : Reach Fresh steps cluster := reached.mono fun _ _ _ _ step => step.1
  obtain ⟨before, action, after, game, sandbox, code, result, -, hidden, step, shown, -, -, found,
    submits, accepted⟩ := finished_earned cluster run ⟨"a", 1⟩ 0 ⟨game, held, finished⟩
  exact ⟨before, after, action, game, sandbox, code, result, hidden, step, shown, found, submits,
    accepted⟩

end Cluster

end Grass
