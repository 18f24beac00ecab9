import Grass.Lib.Transition
import Grass.Refinement.Operation

namespace Grass

open Transition

/-- Progress is kept for exactly the indices below the count. -/
def PartialClient.Tracks (client : PartialClient) (count : Nat) : Prop :=
  ∃ progress, client.taskProgress = some progress ∧ ∀ index, index ∈ progress ↔ index < count

/-- The flag of the task is set. -/
def PartialClient.Finished (client : PartialClient) (index : Nat) : Prop :=
  ∃ progress, client.taskProgress = some progress ∧ progress.lookup index = some true

namespace Game

/-- One of the calls a host's game receives. -/
inductive Operation where
  | register (newcomer : PartialClient)
  | unregister (clientId : Uuid)
  | start (choose : List GameTask → Nat → List GameTask) (availableTasks : List GameTask)
      (taskCount : Nat)
  | prepareCodeTest (taskIndex : Nat)
  | validateCodeTest (sandbox : Sandbox) (clientId : Uuid) (taskIndex : Nat) (code : String)
      (result : SandboxResponse)

/-- An operation, with the iteration order and the channels it meets. -/
structure Call where
  order : IterOrder
  closed : SocketSender → Bool
  operation : Operation

def call (game : Game) (made : Call) : Game :=
  match made.operation with
  | .register newcomer => (game.register made.order made.closed newcomer).1
  | .unregister clientId => (game.unregister made.order made.closed clientId).1
  | .start choose availableTasks taskCount =>
    (game.start made.order made.closed choose availableTasks taskCount).1
  | .prepareCodeTest _ => game
  | .validateCodeTest sandbox clientId taskIndex code result =>
    (game.validateCodeTest made.order made.closed sandbox clientId taskIndex code result).1

def calls : Transition.Step Game Call := fun before made after => after = before.call made

/-- The participant other than the host with that id. -/
def client? (game : Game) (id : Uuid) : Option PartialClient :=
  game.connectedClients.bind fun roster => roster.lookup id

/-- A host's game that is running, everyone in it tracking `count` tasks. -/
structure Running (count : Nat) (game : Game) : Prop where
  isHost : game.isHost = true
  isStarted : game.isStarted = true
  isPublic : game.isPublic = false
  filled : game.tasks.length = count
  roster : ∃ roster, game.connectedClients = some roster
  host : game.partialHost.Tracks count
  clients : ∀ id client, game.client? id = some client → client.Tracks count

/-- The same tasks, nobody new, and no flag taken back. -/
structure Grows (before after : Game) : Prop where
  tasks : after.tasks = before.tasks
  host : ∀ index, before.partialHost.Finished index → after.partialHost.Finished index
  clients : ∀ id new, after.client? id = some new →
    ∃ old, before.client? id = some old ∧ ∀ index, old.Finished index → new.Finished index

/-- Every start and every registration fails. -/
structure Refuses (game : Game) : Prop where
  start : ∀ order closed choose availableTasks taskCount,
    ∃ error, (game.start order closed choose availableTasks taskCount).2.exit = .err error
  register : ∀ order closed newcomer,
    (game.register order closed newcomer).2.exit = .err ()

variable {game before middle after : Game} {count : Nat}

theorem Grows.refl (game : Game) : game.Grows game :=
  ⟨rfl, fun _ finished => finished, fun _ new found => ⟨new, found, fun _ finished => finished⟩⟩

theorem Grows.trans (first : before.Grows middle) (second : middle.Grows after) :
    before.Grows after where
  tasks := second.tasks.trans first.tasks
  host index finished := second.host index (first.host index finished)
  clients id new found := by
    obtain ⟨between, present, later⟩ := second.clients id new found
    obtain ⟨old, known, earlier⟩ := first.clients id between present
    exact ⟨old, known, fun index finished => later index (earlier index finished)⟩

theorem client?_clients {roster : Roster} (clients : game.connectedClients = some roster)
    (id : Uuid) : game.client? id = roster.lookup id := by
  simp [client?, clients]

theorem client?_erase {roster : Roster} (clients : game.connectedClients = some roster)
    (struck id : Uuid) (client : PartialClient)
    (found : client? { game with connectedClients := some (roster.erase struck) } id =
      some client) : game.client? id = some client := by
  rw [client?_clients rfl] at found
  rw [client?_clients clients]
  by_cases same : id = struck
  · subst same
    simp [AList.lookup_erase] at found
  · rwa [AList.lookup_erase_ne same] at found

private theorem lookup_foldl_insert (indices : List Nat) (progress : Progress) (index : Nat) :
    (indices.foldl (fun progress index => progress.insert index false) progress).lookup index =
      if index ∈ indices then some false else progress.lookup index := by
  induction indices generalizing progress with
  | nil => simp
  | cons head rest ih =>
    rw [List.foldl_cons, ih]
    by_cases later : index ∈ rest
    · simp [later]
    · by_cases same : index = head
      · subst same
        rw [AList.lookup_insert]
        simp
      · simp [later, same, AList.lookup_insert_ne same]

theorem lookup_freshProgress (tasks : List GameTask) (index : Nat) :
    (freshProgress tasks).lookup index = if index < tasks.length then some false else none := by
  simp [freshProgress, lookup_foldl_insert, AList.lookup_empty]

theorem mem_freshProgress (tasks : List GameTask) (index : Nat) :
    index ∈ freshProgress tasks ↔ index < tasks.length := by
  rw [← AList.lookup_isSome, lookup_freshProgress]
  split <;> simp_all

/-- The game after its start: closed, running, and everyone without a task done. -/
def launched (game : Game) (tasks : List GameTask) (roster : Roster) : Game :=
  { game with
    isPublic := false, isStarted := true, tasks
    connectedClients := some (roster.mapValues fun client =>
      { client with taskProgress := some (freshProgress tasks) })
    partialHost := { game.partialHost with taskProgress := some (freshProgress tasks) } }

section Start

variable (order : IterOrder) (closed : SocketSender → Bool)
  (choose : List GameTask → Nat → List GameTask) (availableTasks : List GameTask)
  (taskCount : Nat)

/-- A start that returns Ok is a waiting host's, fills the tasks, and tells everyone. -/
theorem start_ok
    (finished : (game.start order closed choose availableTasks taskCount).2.exit = .ok ()) :
    game.isHost = true ∧ game.isStarted = false ∧
      (choose availableTasks taskCount).length = taskCount ∧
      ∃ roster, game.connectedClients = some roster ∧
        game.start order closed choose availableTasks taskCount =
          (game.launched (choose availableTasks taskCount) roster,
            ((game.launched (choose availableTasks taskCount) roster).sendGlobal order closed
              (.gameEvent (.start taskCount)) none).ignore) := by
  cases host : game.isHost with
  | false => simp [start, checkHost_guest host] at finished
  | true =>
    rw [start, checkHost_host host] at finished ⊢
    cases started : game.isStarted with
    | true => simp [started] at finished
    | false =>
      by_cases filled : (choose availableTasks taskCount).length = taskCount
      · cases clients : game.connectedClients with
        | none => simp [started, filled, clients] at finished
        | some roster =>
          refine ⟨rfl, rfl, filled, roster, rfl, ?_⟩
          simp [filled, launched, host]
      · simp [started, filled] at finished

theorem running_of_start (host : game.isHost = true)
    (finished : (game.start order closed choose availableTasks taskCount).2.exit = .ok ()) :
    (game.start order closed choose availableTasks taskCount).1.Running taskCount := by
  obtain ⟨-, -, filled, roster, -, made⟩ := start_ok _ _ _ _ _ finished
  rw [made]
  have fresh : ∀ index, index ∈ freshProgress (choose availableTasks taskCount) ↔
      index < taskCount := by
    intro index
    rw [mem_freshProgress, filled]
  refine ⟨host, rfl, rfl, filled, ⟨_, rfl⟩, ⟨_, rfl, fresh⟩, ?_⟩
  intro id client found
  rw [client?_clients rfl, Roster.lookup_mapValues] at found
  obtain ⟨old, -, rfl⟩ := Option.map_eq_some_iff.mp found
  exact ⟨_, rfl, fresh⟩

theorem Running.start (running : game.Running count) :
    game.start order closed choose availableTasks taskCount =
      (game, ⟨.err .gameAlreadyStarted, []⟩) := by
  simp [Game.start, checkHost_host running.isHost, running.isStarted]

end Start

section Calls

variable (running : game.Running count) (order : IterOrder) (closed : SocketSender → Bool)

include running

theorem Running.register (newcomer : PartialClient) :
    game.register order closed newcomer = (game, ⟨.err (), []⟩) := by
  simp [Game.register, running.isPublic]

theorem Running.refuses : game.Refuses where
  start order closed choose availableTasks taskCount :=
    ⟨.gameAlreadyStarted, by rw [running.start]⟩
  register order closed newcomer := by rw [running.register]

theorem Running.unregister_cases (clientId : Uuid) :
    (game.unregister order closed clientId).1 = game ∨
      ∃ roster, game.connectedClients = some roster ∧
        (game.unregister order closed clientId).1 =
          { game with connectedClients := some (roster.erase clientId) } := by
  obtain ⟨roster, clients⟩ := running.roster
  by_cases member : clientId ∈ roster
  · exact .inr ⟨roster, clients, by simp [Game.unregister, running.isHost, clients, member]⟩
  · exact .inl (by simp [Game.unregister, running.isHost, clients, member])

theorem Running.unregister (clientId : Uuid) :
    (game.unregister order closed clientId).1.Running count ∧
      game.Grows (game.unregister order closed clientId).1 := by
  rcases running.unregister_cases order closed clientId with same | ⟨roster, clients, struck⟩
  · rw [same]
    exact ⟨running, .refl game⟩
  · rw [struck]
    have remains := client?_erase clients clientId
    constructor
    · exact ⟨running.isHost, running.isStarted, running.isPublic, running.filled, ⟨_, rfl⟩,
        running.host, fun id client found => running.clients id client (remains id client found)⟩
    · exact ⟨rfl, fun _ finished => finished, fun id client found =>
        ⟨client, remains id client found, fun _ finished => finished⟩⟩

/-- A credited submission sets one flag of the host, at an index it already tracks. -/
theorem Running.credit {taskIndex : Nat} {credited : Game} (inside : taskIndex < count)
    (credit : game.creditTask .host taskIndex = some credited) :
    credited.Running count ∧ game.Grows credited := by
  obtain ⟨progress, kept, indices⟩ := running.host
  obtain rfl : { game with partialHost := { game.partialHost with
      taskProgress := some (progress.insert taskIndex true) } } = credited := by
    simpa [creditTask, kept] using credit
  constructor
  · refine ⟨running.isHost, running.isStarted, running.isPublic, running.filled, running.roster,
      ⟨_, rfl, fun index => ?_⟩, running.clients⟩
    rw [AList.mem_insert, indices]
    constructor
    · rintro (rfl | tracked)
      · exact inside
      · exact tracked
    · exact .inr
  · refine ⟨rfl, ?_, fun id client found => ⟨client, found, fun _ finished => finished⟩⟩
    rintro index ⟨old, before, finished⟩
    obtain rfl : progress = old := Option.some.inj (kept.symm.trans before)
    refine ⟨_, rfl, ?_⟩
    by_cases same : index = taskIndex
    · subst same
      rw [AList.lookup_insert]
    · rwa [AList.lookup_insert_ne same]

/-- What every call does to a running game. -/
theorem Running.call (made : Call) :
    (game.call made).Running count ∧ game.Grows (game.call made) := by
  obtain ⟨order, closed, operation⟩ := made
  cases operation with
  | register newcomer =>
    simp only [Game.call, running.register]
    exact ⟨running, .refl game⟩
  | unregister clientId => exact running.unregister order closed clientId
  | start choose availableTasks taskCount =>
    simp only [Game.call, running.start]
    exact ⟨running, .refl game⟩
  | prepareCodeTest taskIndex => exact ⟨running, .refl game⟩
  | validateCodeTest sandbox clientId taskIndex code result =>
    simp only [Game.call]
    rcases game.validateCodeTest_cases order closed sandbox clientId taskIndex code result with
      same | ⟨task, who, reports, staged, credited⟩
    · rw [same]
      exact ⟨running, .refl game⟩
    · obtain ⟨found, known⟩ := publicStage_passed staged
      obtain rfl : Participant.host = who := by simpa [participant, running.isHost] using known
      have inside := (List.getElem?_eq_some_iff.mp (getTaskIndexed_ok found).2).1
      rw [running.filled] at inside
      exact running.credit inside credited

end Calls

theorem Running.reached (running : before.Running count)
    (reached : Reach (fun game => game = before) calls after) :
    after.Running count ∧ before.Grows after := by
  induction reached with
  | start initial =>
    subst initial
    exact ⟨running, .refl _⟩
  | next _ made ih =>
    subst made
    obtain ⟨kept, grown⟩ := ih
    obtain ⟨runs, grows⟩ := kept.call _
    exact ⟨runs, grown.trans grows⟩

/-- Whatever is called on a host's game after a start that returned Ok, the game
stays started and closed, everyone left in it tracks its tasks, it refuses every
start and registration, and between any two points of the run it only grows. -/
theorem started_frozen (game : Game) (order : IterOrder) (closed : SocketSender → Bool)
    (choose : List GameTask → Nat → List GameTask) (availableTasks : List GameTask)
    (taskCount : Nat) (host : game.isHost = true)
    (finished : (game.start order closed choose availableTasks taskCount).2.exit = .ok ())
    (middle later : Game)
    (reached : Reach (fun started =>
      started = (game.start order closed choose availableTasks taskCount).1) calls middle)
    (continued : Reach (fun earlier => earlier = middle) calls later) :
    middle.Running taskCount ∧ middle.Refuses ∧
      (game.start order closed choose availableTasks taskCount).1.Grows middle ∧
      middle.Grows later := by
  obtain ⟨running, grown⟩ :=
    (running_of_start order closed choose availableTasks taskCount host finished).reached reached
  exact ⟨running, running.refuses, grown, (running.reached continued).2⟩

/-- A game of one host that starts with a task, and a submission that passes. -/
theorem started_frozen_graded :
    let self := PartialClient.new 1 "n" "a" true (some 1)
    let task : GameTask := ⟨7, "q", [⟨"1", "1", 0⟩], [⟨"2", "1", 0⟩]⟩
    let answer : SandboxResponse := ⟨true, ["1\n"], []⟩
    let choose := fun (tasks : List GameTask) count => tasks.take count
    let started := ((Game.new true "17" self self).start .stored (fun _ => false) choose [task] 1).1
    let graded := started.call ⟨.stored, fun _ => false,
      .validateCodeTest (fun _ _ _ => some answer) 1 0 "code" answer⟩
    started.Running 1 ∧ started.Grows graded ∧ graded.partialHost.Finished 0 := by
  intro self task answer choose started graded
  obtain ⟨running, -, -, grows⟩ := started_frozen (.new true "17" self self) .stored
    (fun _ => false) choose [task] 1 rfl rfl started graded (.start rfl) (.next (.start rfl) rfl)
  exact ⟨running, grows, _, rfl, rfl⟩

end Game

end Grass
