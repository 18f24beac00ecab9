import Grass.Guarantee.Broadcast
import Grass.Guarantee.Condition
import Grass.Guarantee.Replication

/-! What is told of finished tasks: every task that the host's progress shows as finished
has been announced to all who are in the game, but to the one who finished it. -/

namespace Grass

open Lobby Transition

namespace Game

/-- Somebody's finishing the task has been told to all others in the game who can hear. -/
def Announced (game : Game) (hostId : Uuid) (closed : SocketSender → Bool) (wire : List Delivery)
    (taskIndex : Nat) : Prop :=
  ∃ task finisher, game.tasks[taskIndex]? = some task ∧
    ∀ id, game.Lists id ∨ id = hostId → id ≠ finisher → closed id = false →
      ⟨id, .gameEvent (.taskFinished task.serialize taskIndex finisher)⟩ ∈ wire

variable {game after : Game} {hostId : Uuid} {closed later : SocketSender → Bool}
  {wire sent : List Delivery} {taskIndex : Nat} {order : IterOrder}

theorem Announced.mono (announced : game.Announced hostId closed wire taskIndex)
    (tasks : after.tasks = game.tasks) (lists : ∀ id, after.Lists id → game.Lists id)
    (opens : ∀ id, later id = false → closed id = false) (told : ∀ delivery ∈ wire, delivery ∈ sent) :
    after.Announced hostId later sent taskIndex := by
  obtain ⟨task, finisher, there, heard⟩ := announced
  exact ⟨task, finisher, by rw [tasks, there], fun id inside other hears =>
    told _ (heard id (inside.imp_left (lists id)) other (opens id hears))⟩

theorem Untracked.unfinished (untracked : game.Untracked) :
    ¬ game.partialHost.Finished taskIndex := by
  rintro ⟨progress, tracked, -⟩
  simp [untracked.host] at tracked

theorem start_finished (choose : List GameTask → Nat → List GameTask) (availableTasks : List GameTask)
    (taskCount : Nat) (finished :
      (game.start order closed choose availableTasks taskCount).1.partialHost.Finished taskIndex) :
    game.partialHost.Finished taskIndex := by
  unfold Game.start at finished
  split at finished
  · split at finished
    · exact finished
    · dsimp only at finished
      split at finished
      · exact finished
      · split at finished
        · exact finished
        · obtain ⟨progress, kept, done⟩ := finished
          obtain rfl := Option.some.inj kept
          rw [lookup_freshProgress] at done
          split at done <;> cases done
  · exact finished

theorem lists_client {id : Uuid} : game.Lists id ↔ (game.client? id).isSome := by
  cases clients : game.connectedClients with
  | none => simp [Lists, client?, clients]
  | some roster => simp [Lists, client?, clients, AList.lookup_isSome]

theorem Condition.settled (condition : game.Condition)
    (finished : game.partialHost.Finished taskIndex) (made : Call) :
    (game.call made).tasks = game.tasks ∧ ∀ id, (game.call made).Lists id → game.Lists id := by
  cases condition with
  | waiting waiting => exact absurd finished waiting.untracked.unfinished
  | stuck stuck => exact absurd finished stuck.untracked.unfinished
  | running running =>
    obtain ⟨-, grows⟩ := running.call made
    refine ⟨grows.tasks, fun id lists => ?_⟩
    obtain ⟨new, found⟩ := Option.isSome_iff_exists.mp (lists_client.mp lists)
    obtain ⟨old, known, -⟩ := grows.clients id new found
    exact lists_client.mpr (by simp [known])

theorem Hosts.announces {roster : Roster} (hosts : game.Hosts roster)
    (own : game.partialHost.id = hostId) {task : GameTask}
    (there : game.tasks[taskIndex]? = some task) (clientId : Uuid) :
    game.Announced hostId closed (game.sendGlobal order closed (.gameEvent (.taskFinished
      task.serialize taskIndex clientId)) (some [clientId])).sent taskIndex := by
  refine ⟨task, clientId, there, fun id inside other hears => ?_⟩
  rw [hosts.lists, ← own] at inside
  rw [hosts.sendGlobal_recipients]
  exact List.mem_map_of_mem (mem_recipients.mpr ⟨inside, by simp [skips, other], hears⟩)

/-- A task that is finished after a call was so before, or the call has graded a submission
for it that passes, and has announced it. -/
theorem Valid.call_finishes (valid : game.Valid hostId) (host : game.isHost = true) (made : Call)
    (finished : (game.call made).partialHost.Finished taskIndex) :
    game.partialHost.Finished taskIndex ∨
      ((game.call made).Announced hostId made.closed (game.callSent made) taskIndex ∧
        ∃ sandbox clientId code result,
          made.operation = .validateCodeTest sandbox clientId taskIndex code result ∧
          game.Accepts sandbox clientId taskIndex code result) := by
  obtain ⟨own, -⟩ := valid.hosting host
  obtain ⟨roster, hosts⟩ := valid.hosts host
  obtain ⟨order, closed, operation⟩ := made
  cases operation with
  | register newcomer =>
    left
    have same : (game.register order closed newcomer).1.partialHost = game.partialHost := by
      unfold Game.register
      split
      · rfl
      · split
        · rfl
        · dsimp only
          split <;> rfl
    simpa only [call, same] using finished
  | unregister clientId =>
    left
    have same : (game.unregister order closed clientId).1.partialHost = game.partialHost := by
      unfold Game.unregister
      repeat' split
      all_goals rfl
    simpa only [call, same] using finished
  | start choose availableTasks taskCount => exact .inl (start_finished _ _ _ finished)
  | prepareCodeTest => exact .inl finished
  | validateCodeTest sandbox clientId index code result =>
    simp only [call, callSent] at finished ⊢
    rcases game.validateCodeTest_credits order closed sandbox clientId index code result with
      ⟨same, -⟩ | ⟨task, who, credited, -, there, known, accepted, credit, made, told⟩
    · rw [same] at finished
      exact .inl finished
    · rw [made] at finished ⊢
      rw [told]
      obtain rfl : Participant.host = who := by simpa [participant, host] using known
      simp only [creditTask, Option.pure_def, Option.bind_eq_bind, Option.bind_eq_some_iff,
        Option.some.injEq] at credit
      obtain ⟨progress, kept, rfl⟩ := credit
      by_cases same : taskIndex = index
      · subst same
        exact .inr ⟨Hosts.announces ⟨host, hosts.clients, hosts.roster, hosts.host.isLocal,
          hosts.host.channel⟩ own there clientId, sandbox, clientId, code, result, rfl, accepted⟩
      · obtain ⟨tracked, now, done⟩ := finished
        obtain rfl := Option.some.inj now
        exact .inl ⟨progress, kept, by rwa [AList.lookup_insert_ne same] at done⟩

end Game

namespace Cluster

variable {cluster before after : Cluster} {action : Action} {party : Party} {known : Set Party}
  {fault : Prop}

/-- Steps that time no request out. -/
def timely : Transition.Step Cluster Action := steps.when fun _ action _ => ¬ action.lapses

/-- Every finished task of every host's game has been announced to the others in it. -/
def Heralded (cluster : Cluster) : Prop :=
  ∀ shardId hostId game taskIndex, (cluster.world shardId).hostedAt hostId = some game →
    game.partialHost.Finished taskIndex → game.Announced hostId (cluster.world shardId).closed
      (cluster.world shardId).wire taskIndex

theorem Heralded.still (heralded : before.Heralded) {shardId : ShardId} {hostId : Uuid} {game : Game}
    {taskIndex : Nat} (held : (before.world shardId).hostedAt hostId = some game)
    (finished : game.partialHost.Finished taskIndex)
    (opens : ∀ id, (after.world shardId).closed id = false → (before.world shardId).closed id = false)
    (told : ∀ delivery ∈ (before.world shardId).wire, delivery ∈ (after.world shardId).wire) :
    game.Announced hostId (after.world shardId).closed (after.world shardId).wire taskIndex :=
  (heralded shardId hostId game taskIndex held finished).mono rfl (fun _ lists => lists) opens told

/-- A step that enqueues everything at once announces the tasks it finishes. -/
theorem Heralded.step (heralded : before.Heralded) (sound : before.Sound fault known)
    (conditions : ∀ shardId hostId game, (before.world shardId).hostedAt hostId = some game →
      game.Condition)
    (stepped : before.step action = some after) (punctual : ¬ action.lapses)
    (awake : before.lobby.stage action.party ≠ .lapsing) : after.Heralded := by
  intro shardId hostId game taskIndex held finished
  have opens : ∀ id, (after.world shardId).closed id = false →
      (before.world shardId).closed id = false := fun _ => step_hears sound stepped
  by_cases apart : shardId ≠ action.party.shardId ∨ action.kind = .sever
  · rw [hosted_still stepped apart] at held
    exact heralded.still held finished opens fun delivery told => by
      rwa [wire_still stepped apart]
  · obtain ⟨rfl, open_⟩ : shardId = action.party.shardId ∧ action.kind ≠ .sever := by
      simpa using apart
    have grows : ∀ {sent}, (after.world action.party.shardId).wire =
        (before.world action.party.shardId).wire ++ sent →
        ∀ delivery ∈ (before.world action.party.shardId).wire,
          delivery ∈ (after.world action.party.shardId).wire :=
      fun wire delivery told => wire ▸ List.mem_append_left _ told
    cases sound.step_plays stepped open_ with
    | aside aside =>
      obtain ⟨sent, wire, -⟩ := aside.told
      exact heralded.still (aside.hosted ▸ held) finished opens (grows wire)
    | stray allowed same => exact (allowed.elim punctual awake).elim
    | calls otherId old made found by_ heard result told =>
      obtain ⟨_, wire, first, last, rfl, -, -⟩ := told fun allowed => allowed.elim punctual awake
      rw [result] at held
      by_cases own : hostId = otherId
      · subst own
        obtain rfl : old.call made = game := by simpa using held
        obtain ⟨playing, hosting⟩ := World.hostedAt_iff.mp found
        have valid := (sound.valid.entries _).gameAt playing
        rcases valid.call_finishes hosting made finished with
          earlier | ⟨announced, -⟩
        · obtain ⟨tasks, lists⟩ := (conditions _ _ _ found).settled earlier made
          exact (heralded _ _ _ _ found earlier).mono tasks lists opens (grows wire)
        · refine announced.mono rfl (fun _ lists => lists) (fun id hears => ?_) fun delivery told => ?_
          · rw [heard]
            exact opens id hears
          · rw [wire]
            simp [told]
      · have same : (before.world action.party.shardId).hostedAt hostId = some game := by
          simpa [own] using held
        exact heralded.still same finished opens (grows wire)
    | opens allowed gameId self named own fresh vacant result told =>
      obtain ⟨sent, wire, -⟩ := told
      rw [result] at held
      by_cases opener : hostId = action.party.id
      · subst opener
        obtain rfl : Game.new true gameId self self = game := by simpa using held
        exact absurd finished (Game.Waiting.new gameId fresh).untracked.unfinished
      · exact heralded.still (by simpa [opener] using held) finished opens (grows wire)
    | ends old roster order found clients result told =>
      obtain ⟨_, wire, first, last, rfl, -, -⟩ := told
      rw [result] at held
      by_cases closer : hostId = action.party.id
      · simp [closer] at held
      · exact heralded.still (by simpa [closer] using held) finished opens (grows wire)

theorem reached_heralded
    (reached : Reach Fresh timely cluster) :
    (∀ party, cluster.lobby.stage party ≠ .lapsing) ∧ cluster.Heralded := by
  induction reached with
  | @start cluster fresh =>
    refine ⟨fun party => by simp [(fresh.empty party).2], fun shardId hostId game taskIndex held => ?_⟩
    simp [@Fresh.hostedAt _ fresh ⟨shardId, hostId⟩] at held
  | @next before after action earlier taken ih =>
    obtain ⟨awake, heralded⟩ := ih
    have run : Reach Fresh steps before := earlier.mono fun _ _ _ _ step => step.1
    have sound : before.Sound True ∅ := reached_steps run
    refine ⟨fun party lapsing => ?_, heralded.step sound
      (fun shardId hostId game held => @reached_condition _ run ⟨shardId, hostId⟩ _ held) taken.1
      taken.2 (awake _)⟩
    rcases (sound.move Action.failing taken.1).lapses lapsing with already | timeout
    · exact awake party already
    · exact taken.2 timeout

/-- Under every interleaving, whatever fails and whichever channels close, as long as no
request is timed out: each task that the host's progress shows as finished is one of the
game's tasks, and some client's finishing it has been told to everyone else in the game
whose channel is open. -/
theorem finished_told (cluster : Cluster)
    (reached : Reach Fresh timely cluster)
    (shardId : ShardId) (hostId : Uuid) (game : Game)
    (held : (cluster.world shardId).hostedAt hostId = some game) (taskIndex : Nat)
    (finished : game.partialHost.Finished taskIndex) :
    ∃ task finisher, game.tasks[taskIndex]? = some task ∧
      ∀ id, game.Lists id ∨ id = hostId → id ≠ finisher →
        (cluster.world shardId).closed id = false →
        ⟨id, .gameEvent (.taskFinished task.serialize taskIndex finisher)⟩ ∈
          (cluster.world shardId).wire :=
  (reached_heralded reached).2 shardId hostId game taskIndex held finished

/-- The participant of a started game hands in what passes all tests. -/
def handIn : List Action :=
  let passing : Oracle := { Oracle.calm "17" with
    sandbox := fun _ _ stdin => some ⟨true, if stdin = ["1 2"] then ["3"] else ["7"], []⟩ }
  pair "a" "17" 1 2 ++ round "a" 1 2 "17" ++ [⟨⟨"a", 2⟩, .advance⟩] ++
    Party.asks ⟨"a", 2⟩ passing 4 "Compile" [("code", .string "x"), ("task_index", .integer 0)]

theorem handIn_reached : ∃ (cluster : Cluster) (game : Game), Reach Fresh timely cluster ∧
    (cluster.world "a").hostedAt 1 = some game ∧ game.Lists 2 ∧ game.partialHost.Finished 0 := by
  obtain ⟨cluster, reached, shown⟩ := run_shows (launch_fresh emptyRedis [sampleTask])
    (show (run (guarded (fun _ action => !decide action.lapses) step)
        (launch emptyRedis [sampleTask]) handIn).bind
        (fun cluster : Cluster => ((cluster.world "a").hostedAt 1).map fun game =>
          (game.partialHost.taskProgress.bind fun progress => progress.lookup 0,
            decide (game.Lists 2))) = some (some true, true) by decide +kernel)
  obtain ⟨game, held, same⟩ := Option.map_eq_some_iff.mp shown
  obtain ⟨finished, lists⟩ : (game.partialHost.taskProgress.bind fun progress =>
      progress.lookup 0) = some true ∧ game.Lists 2 := by simpa using same
  exact ⟨cluster, game, reached.mono fun _ _ _ _ step => ⟨step.1, by simpa [checks] using step.2⟩,
    held, lists, Option.bind_eq_some_iff.mp finished⟩

theorem finished_told_submission : ∃ (cluster : Cluster) (game : Game), Reach Fresh timely cluster ∧
    (cluster.world "a").hostedAt 1 = some game ∧ game.Lists 2 ∧
    ∃ task finisher, game.tasks[0]? = some task ∧
      ∀ id, game.Lists id ∨ id = 1 → id ≠ finisher → (cluster.world "a").closed id = false →
        ⟨id, .gameEvent (.taskFinished task.serialize 0 finisher)⟩ ∈ (cluster.world "a").wire := by
  obtain ⟨cluster, game, reached, held, lists, finished⟩ := handIn_reached
  exact ⟨cluster, game, reached, held, lists,
    finished_told cluster reached "a" 1 game held 0 finished⟩

end Cluster

end Grass
