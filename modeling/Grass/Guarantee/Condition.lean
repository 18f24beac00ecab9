import Grass.Guarantee.History

/-! The three conditions a host's game can be in: waiting for its start, running, or
stuck after a start that could not fill its tasks; and that a started one is in the third
exactly where its start found fewer or more tasks than it asked for. -/

namespace Grass

open Lobby Transition

namespace Game

/-- Neither the host nor anybody on the roster tracks any task. -/
structure Untracked (game : Game) : Prop where
  host : game.partialHost.taskProgress = none
  clients : ∀ id client, game.client? id = some client → client.taskProgress = none

/-- Open to everyone, and without a task. -/
structure Waiting (game : Game) : Prop where
  roster : ∃ roster, game.connectedClients = some roster
  isHost : game.isHost = true
  isStarted : game.isStarted = false
  isPublic : game.isPublic = true
  tasks : game.tasks = []
  untracked : game.Untracked

/-- Closed by a start, but nobody can finish a task. -/
structure Stuck (game : Game) : Prop where
  begun : game.Begun
  untracked : game.Untracked

variable {game : Game} {order : IterOrder} {closed : SocketSender → Bool}

theorem Untracked.erase (untracked : game.Untracked) {roster : Roster}
    (clients : game.connectedClients = some roster) (clientId : Uuid) :
    Untracked { game with connectedClients := some (roster.erase clientId) } :=
  ⟨untracked.host, fun id client found =>
    untracked.clients id client (client?_erase clients clientId id client found)⟩

theorem Untracked.insert (untracked : game.Untracked) {roster : Roster}
    (clients : game.connectedClients = some roster) {newcomer : PartialClient}
    (fresh : newcomer.taskProgress = none) :
    Untracked { game with connectedClients := some (roster.insert newcomer.id newcomer) } where
  host := untracked.host
  clients id client found := by
    rw [client?_clients rfl] at found
    by_cases same : id = newcomer.id
    · subst same
      rw [AList.lookup_insert] at found
      cases found
      exact fresh
    · rw [AList.lookup_insert_ne same, ← client?_clients clients] at found
      exact untracked.clients id client found

theorem launched_running (host : game.isHost = true) (tasks : List GameTask) (roster : Roster) :
    (game.launched tasks roster).Running tasks.length := by
  have tracks : ∀ index, index ∈ freshProgress tasks ↔ index < tasks.length :=
    mem_freshProgress tasks
  refine ⟨host, rfl, rfl, rfl, ⟨_, rfl⟩, ⟨_, rfl, tracks⟩, fun id client found => ?_⟩
  rw [client?_clients rfl, Roster.lookup_mapValues] at found
  obtain ⟨old, -, rfl⟩ := Option.map_eq_some_iff.mp found
  exact ⟨_, rfl, tracks⟩

/-- What is true of a host's game at any time. -/
inductive Condition (game : Game) : Prop where
  | waiting (waiting : game.Waiting)
  | running (running : game.Running game.tasks.length)
  | stuck (stuck : game.Stuck)

/-- The names of the conditions. -/
inductive Shape where
  | waiting
  | running
  | stuck
  deriving DecidableEq, Repr

def Shaped (game : Game) : Shape → Prop
  | .waiting => game.Waiting
  | .running => game.Running game.tasks.length
  | .stuck => game.Stuck

/-- A game meets one of the conditions only. -/
theorem Shaped.unique {shape other : Shape} (shaped : game.Shaped shape) (also : game.Shaped other) :
    shape = other := by
  have begins : ∀ {game : Game}, game.Waiting → game.isStarted = true → False := by
    intro game waiting started
    cases waiting.isStarted.symm.trans started
  have tracks : ∀ {game : Game} {count}, game.Running count → game.Stuck → False := by
    intro game count running stuck
    obtain ⟨progress, tracked, -⟩ := running.host
    cases stuck.untracked.host.symm.trans tracked
  cases shape <;> cases other
  case waiting.waiting | running.running | stuck.stuck => rfl
  case waiting.running => exact (begins shaped also.isStarted).elim
  case waiting.stuck => exact (begins shaped also.begun.isStarted).elim
  case running.waiting => exact (begins also shaped.isStarted).elim
  case stuck.waiting => exact (begins also shaped.begun.isStarted).elim
  case running.stuck => exact (tracks shaped also).elim
  case stuck.running => exact (tracks also shaped).elim

theorem Condition.shape (condition : game.Condition) : ∃! shape, game.Shaped shape := by
  have shown : ∃ shape, game.Shaped shape := by
    cases condition with
    | waiting waiting => exact ⟨.waiting, waiting⟩
    | running running => exact ⟨.running, running⟩
    | stuck stuck => exact ⟨.stuck, stuck⟩
  obtain ⟨shape, shaped⟩ := shown
  exact ⟨shape, shaped, fun other also => Shaped.unique also shaped⟩

variable {availableTasks : List GameTask} {id hostId : Uuid} {errand : Errand}

theorem Waiting.new (gameId : String) {self : PartialClient} (fresh : self.taskProgress = none) :
    (Game.new true gameId self self).Waiting :=
  ⟨⟨_, rfl⟩, rfl, rfl, rfl, rfl, fresh, fun id client found => by
    simp [client?, Game.new, AList.lookup_empty] at found⟩

theorem Waiting.unregister (waiting : game.Waiting) (clientId : Uuid) :
    (game.unregister order closed clientId).1.Waiting := by
  unfold Game.unregister
  rw [if_pos waiting.isHost]
  split
  · exact waiting
  · rename_i roster clients
    split
    · exact ⟨⟨_, rfl⟩, waiting.isHost, waiting.isStarted, waiting.isPublic, waiting.tasks,
        waiting.untracked.erase clients clientId⟩
    · exact waiting

theorem Waiting.register (waiting : game.Waiting) {newcomer : PartialClient}
    (fresh : newcomer.taskProgress = none) :
    (game.register order closed newcomer).1.Waiting := by
  unfold Game.register
  split
  · exact waiting
  · split
    · exact waiting
    · rename_i roster clients
      dsimp only
      split
      · exact ⟨⟨_, rfl⟩, waiting.isHost, waiting.isStarted, waiting.isPublic, waiting.tasks,
          waiting.untracked.insert clients fresh⟩
      · exact waiting

/-- A start leaves the game running where it fills the tasks it asks for, and stuck with what
it found where it does not. -/
theorem Waiting.start (waiting : game.Waiting) (choose : List GameTask → Nat → List GameTask)
    (taskCount : Nat) :
    (game.start order closed choose availableTasks taskCount).1.tasks =
        choose availableTasks taskCount ∧
      (game.start order closed choose availableTasks taskCount).1.Shaped
        (if (choose availableTasks taskCount).length = taskCount then .running else .stuck) := by
  obtain ⟨roster, clients⟩ := waiting.roster
  rw [Game.start, checkHost_host waiting.isHost]
  dsimp only
  rw [if_neg (by simp [waiting.isStarted])]
  by_cases filled : (choose availableTasks taskCount).length = taskCount
  · rw [if_neg (by simpa using filled), if_pos filled]
    simp only [clients]
    exact ⟨trivial, launched_running waiting.isHost (choose availableTasks taskCount) roster⟩
  · rw [if_pos filled, if_neg filled]
    exact ⟨rfl, ⟨waiting.isHost, rfl, rfl⟩, waiting.untracked.host, waiting.untracked.clients⟩

theorem Stuck.unregister (stuck : game.Stuck) (clientId : Uuid) :
    (game.unregister order closed clientId).1.Stuck := by
  refine ⟨(stuck.begun.unregister order closed clientId).1, ?_⟩
  unfold Game.unregister
  rw [if_pos stuck.begun.isHost]
  split
  · exact stuck.untracked
  · rename_i roster clients
    split
    · exact stuck.untracked.erase clients clientId
    · exact stuck.untracked

theorem Untracked.validateCodeTest (untracked : game.Untracked) (host : game.isHost = true)
    (sandbox : Sandbox) (clientId : Uuid) (taskIndex : Nat) (code : String)
    (result : SandboxResponse) :
    (game.validateCodeTest order closed sandbox clientId taskIndex code result).1 = game := by
  rcases game.validateCodeTest_cases order closed sandbox clientId taskIndex code result with
    same | ⟨task, who, reports, staged, credited⟩
  · exact same
  · have known := (publicStage_passed staged).2
    obtain rfl : Participant.host = who := by simpa [participant, host] using known
    simp [creditTask, untracked.host] at credited

/-- Only a start takes a game out of waiting. -/
theorem Waiting.call (waiting : game.Waiting) {made : Call}
    (by_ : made.operation.By id hostId availableTasks errand) :
    (game.call made).Waiting ∨
      ∃ choose taskCount, made.operation = .start choose availableTasks taskCount := by
  obtain ⟨order, closed, operation⟩ := made
  cases operation with
  | register newcomer => exact .inl (waiting.register by_.2.2.2)
  | unregister clientId => exact .inl (waiting.unregister clientId)
  | start choose tasks taskCount =>
    obtain ⟨-, rfl, -⟩ := by_
    exact .inr ⟨choose, taskCount, rfl⟩
  | prepareCodeTest taskIndex => exact .inl waiting
  | validateCodeTest sandbox clientId taskIndex code result =>
    simp only [Game.call, waiting.untracked.validateCodeTest waiting.isHost]
    exact .inl waiting

theorem Stuck.call (stuck : game.Stuck) (made : Call) : (game.call made).Stuck := by
  obtain ⟨order, closed, operation⟩ := made
  cases operation with
  | register newcomer =>
    simp only [Game.call, stuck.begun.register]
    exact stuck
  | unregister clientId => exact stuck.unregister clientId
  | start choose tasks taskCount =>
    simp only [Game.call, stuck.begun.start]
    exact stuck
  | prepareCodeTest taskIndex => exact stuck
  | validateCodeTest sandbox clientId taskIndex code result =>
    simp only [Game.call, stuck.untracked.validateCodeTest stuck.begun.isHost]
    exact stuck

theorem Shaped.call {shape : Shape} (shaped : game.Shaped shape) (left : shape ≠ .waiting)
    (made : Call) : (game.call made).Shaped shape ∧ (game.call made).tasks = game.tasks := by
  cases shape with
  | waiting => exact absurd rfl left
  | running =>
    obtain ⟨runs, grows⟩ := Running.call shaped made
    rw [← grows.tasks] at runs
    exact ⟨runs, grows.tasks⟩
  | stuck => exact ⟨Stuck.call shaped made, (shaped.begun.call made).2.tasks⟩

theorem Condition.call (condition : game.Condition) {made : Call}
    (by_ : made.operation.By id hostId availableTasks errand) : (game.call made).Condition := by
  cases condition with
  | waiting waiting =>
    rcases waiting.call by_ with waits | ⟨choose, taskCount, starts⟩
    · exact .waiting waits
    · obtain ⟨order, closed, operation⟩ := made
      obtain rfl : operation = _ := starts
      have begins := (@Waiting.start game order closed availableTasks waiting choose taskCount).2
      split at begins
      · exact .running begins
      · exact .stuck begins
  | running running => exact .running (@Shaped.call _ .running running (by simp) made).1
  | stuck stuck => exact .stuck (stuck.call made)

end Game

namespace Cluster

theorem reached_condition {cluster : Cluster} (reached : Reach Fresh steps cluster) {party : Party}
    {game : Game} (held : (cluster.world party.shardId).hostedAt party.id = some game) :
    game.Condition := by
  have opened : ∀ game : Game, game.OpenedBy party.id → game.Condition := by
    rintro _ ⟨gameId, self, -, -, fresh, rfl⟩
    exact .waiting (.new gameId fresh)
  exact reached_hosted opened (fun _ _ _ _ makes condition => condition.call makes.by_) reached held

theorem hosting_shaped {cluster later : Cluster} (reached : Reach Fresh steps cluster) {party : Party}
    {game : Game} (held : (cluster.world party.shardId).hostedAt party.id = some game)
    {shape : Game.Shape} (shaped : game.Shaped shape) (left : shape ≠ .waiting)
    (hosting : Reach (fun origin => origin = cluster) (steps.when (Hosting party)) later) :
    ∃ final, (later.world party.shardId).hostedAt party.id = some final ∧ final.Shaped shape ∧
      final.tasks = game.tasks := by
  have kept : ∀ (before : Cluster) action made old, Makes before action party made →
      (Game.Shaped old shape ∧ old.tasks = game.tasks) →
        (old.call made).Shaped shape ∧ (old.call made).tasks = game.tasks := by
    rintro - - made old - ⟨shaped, same⟩
    obtain ⟨stays, keeps⟩ := shaped.call left made
    exact ⟨stays, keeps.trans same⟩
  exact hosting_keeps kept reached held ⟨shaped, rfl⟩ hosting

/-- The step starts the party's own waiting game, as it asks for, with these tasks. -/
def StartsWith (party : Party) (taskCount : Nat) (tasks : List GameTask) (before : Cluster)
    (action : Action) : Prop :=
  action.party = party ∧ ∃ earlier choose,
    (before.world party.shardId).hostedAt party.id = some earlier ∧ earlier.Waiting ∧
    before.AsksStart action choose taskCount ∧
    tasks = choose (before.node party.shardId).availableTasks taskCount

/-- A game that has been started was by a step of its host's, and is running where it got as
many tasks as it asked for then, and stuck with those it got where it did not. -/
theorem reached_started {cluster : Cluster} (reached : Reach Fresh steps cluster) {party : Party}
    {game : Game} (held : (cluster.world party.shardId).hostedAt party.id = some game)
    (started : game.isStarted = true) :
    ∃ before action after taskCount, Reach Fresh steps before ∧ steps before action after ∧
      StartsWith party taskCount game.tasks before action ∧
      Reach (fun origin => origin = after) (steps.when (Hosting party)) cluster ∧
      game.Shaped (if game.tasks.length = taskCount then .running else .stuck) := by
  let Started (cluster : Cluster) : Prop :=
    ∃ game, (cluster.world party.shardId).hostedAt party.id = some game ∧ game.isStarted = true
  have calm : ∀ initial : Cluster, initial.Fresh → ¬ Started initial := by
    rintro initial fresh ⟨game, held, -⟩
    simp [fresh.hostedAt] at held
  obtain ⟨before, action, after, earlier, hidden, step, ⟨first, there, begun⟩, since⟩ :=
    reached.appears calm ⟨game, held, started⟩
  have hosting : Reach (fun origin => origin = after) (steps.when (Hosting party)) cluster := by
    refine since.mono fun _ _ _ _ taken => ⟨taken.1, ?_⟩
    obtain ⟨game, held, -⟩ := taken.2
    exact Option.isSome_iff_exists.mpr ⟨game, held⟩
  rcases (reached_steps earlier).step_hosted step there with same |
    ⟨-, -, gameId, self, -, -, -, rfl⟩ | ⟨old, made, known, rfl, makes⟩
  · exact (hidden ⟨first, same, begun⟩).elim
  · cases begun
  · have waiting : old.Waiting := by
      cases reached_condition earlier known with
      | waiting waiting => exact waiting
      | running running => exact (hidden ⟨old, known, running.isStarted⟩).elim
      | stuck stuck => exact (hidden ⟨old, known, stuck.begun.isStarted⟩).elim
    have by_ := makes.by_
    rcases waiting.call by_ with waits | ⟨choose, taskCount, starts⟩
    · cases waits.isStarted.symm.trans begun
    · obtain ⟨order, closed, operation⟩ := made
      obtain rfl : operation = _ := starts
      obtain ⟨own, -, asks⟩ := by_
      obtain ⟨tasks, shaped⟩ := @Game.Waiting.start old order closed
        (before.node party.shardId).availableTasks waiting choose taskCount
      obtain ⟨final, found, stays, same⟩ :=
        hosting_shaped (earlier.next step) there shaped (by split <;> simp) hosting
      obtain rfl : final = game := Option.some.inj (found.symm.trans held)
      have acts : action.party = party := by
        obtain ⟨⟨shardId, actor⟩, kind⟩ := action
        obtain ⟨home, host⟩ := party
        exact congrArg₂ Party.mk makes.here own.symm
      refine ⟨before, action, after, taskCount, earlier, step,
        ⟨acts, old, choose, known, waiting, asks, same.trans tasks⟩, hosting, ?_⟩
      rw [same.trans tasks]
      exact stays

/-- Whatever happens, timeouts and failures of Redis included: every host's game is in exactly
one shape, open and without tasks, or closed with everybody in it tracking exactly its tasks,
or closed with nobody tracking any; and the last is that of a game whose start asked for
another number of tasks than it got. -/
theorem hosted_condition (cluster : Cluster) (reached : Reach Fresh steps cluster) (party : Party)
    (game : Game) (held : (cluster.world party.shardId).hostedAt party.id = some game) :
    (∃! shape, game.Shaped shape) ∧ (game.isStarted = true →
      ∃ before action after taskCount, Reach Fresh steps before ∧ steps before action after ∧
        StartsWith party taskCount game.tasks before action ∧
        Reach (fun origin => origin = after) (steps.when (Hosting party)) cluster ∧
        game.Shaped (if game.tasks.length = taskCount then .running else .stuck)) :=
  ⟨(reached_condition reached held).shape, reached_started reached held⟩

/-- A start asks for more tasks than there are. -/
theorem hosted_condition_short : ∃ (cluster before : Cluster) (action : Action) (game : Game)
    (taskCount : Nat), (cluster.world "a").hostedAt 1 = some game ∧
    StartsWith ⟨"a", 1⟩ taskCount game.tasks before action ∧ game.tasks.length ≠ taskCount ∧
    game.Shaped .stuck ∧ ∃! shape, game.Shaped shape := by
  obtain ⟨cluster, reached, shown⟩ := run_shows (launch_fresh emptyRedis [])
    (show (run (guarded (fun _ _ => true) step) (launch emptyRedis [])
        (pair "a" "17" 1 2 ++ round "a" 1 2 "17" ++ [⟨⟨"a", 2⟩, .advance⟩])).bind
        (fun cluster : Cluster => ((cluster.world "a").hostedAt 1).map fun game =>
          (game.isStarted, game.partialHost.taskProgress.isNone)) = some (true, true) by
            decide +kernel)
  obtain ⟨game, held, same⟩ := Option.map_eq_some_iff.mp shown
  obtain ⟨started, idle⟩ := Prod.mk.inj same
  have fresh : Reach Fresh steps cluster := reached.mono fun _ _ _ _ step => step.1
  obtain ⟨single, begun⟩ := hosted_condition cluster fresh ⟨"a", 1⟩ game held
  obtain ⟨before, action, after, taskCount, -, -, starts, -, shaped⟩ := begun started
  have short : game.tasks.length ≠ taskCount := by
    intro filled
    rw [if_pos filled] at shaped
    obtain ⟨progress, tracked, -⟩ := shaped.host
    simp [tracked] at idle
  rw [if_neg short] at shaped
  exact ⟨cluster, before, action, game, taskCount, held, starts, short, shaped, single⟩

end Cluster

end Grass
