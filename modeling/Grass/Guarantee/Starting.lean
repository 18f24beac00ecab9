import Grass.Guarantee.Progress
import Grass.Refinement.Calm

namespace Grass

/-- What `choose_multiple` promises: elements at distinct positions, as many as were
asked for or as there are. -/
structure ChoosesMultiple (choose : List GameTask → Nat → List GameTask) : Prop where
  drawn : ∀ tasks count, ∃ positions : List Nat, positions.Nodup ∧
    (choose tasks count).map some = positions.map fun position => tasks[position]?
  filled : ∀ tasks count, (choose tasks count).length = min count tasks.length

/-- Progress is kept for exactly the indices below the count, none of them done. -/
def PartialClient.Blank (client : PartialClient) (count : Nat) : Prop :=
  ∃ progress, client.taskProgress = some progress ∧
    ∀ index, progress.lookup index = if index < count then some false else none

namespace Game

structure Launches (availableTasks : List GameTask) (taskCount : Nat) (before after : Game) :
    Prop where
  hosted : before.isHost = true
  waiting : before.isStarted = false
  filled : after.tasks.length = taskCount
  drawn : ∃ positions : List Nat, positions.Nodup ∧
    after.tasks.map some = positions.map fun position => availableTasks[position]?
  isPublic : after.isPublic = false
  isStarted : after.isStarted = true
  host : after.partialHost.Blank taskCount
  members : ∀ id, (after.client? id).isSome = (before.client? id).isSome
  clients : ∀ id client, after.client? id = some client → client.Blank taskCount

/-- The start took place as a whole, or not at all. -/
def StartsWhole (availableTasks : List GameTask) (taskCount : Nat) (before : Game)
    (result : Game × Sending ClientError Unit) : Prop :=
  (result.2.exit = .ok () ∧ before.Launches availableTasks taskCount result.1) ∨
    ∃ error, result.2.exit = .err error ∧ result.1 = before ∧ result.2.sent = []

variable {game : Game} {id : Uuid}

theorem launched_launches {roster : Roster} (tasks availableTasks : List GameTask)
    (hosted : game.isHost = true) (waiting : game.isStarted = false)
    (clients : game.connectedClients = some roster)
    (drawn : ∃ positions : List Nat, positions.Nodup ∧
      tasks.map some = positions.map fun position => availableTasks[position]?) :
    game.Launches availableTasks tasks.length (game.launched tasks roster) where
  hosted := hosted
  waiting := waiting
  filled := rfl
  drawn := drawn
  isPublic := rfl
  isStarted := rfl
  host := ⟨_, rfl, lookup_freshProgress tasks⟩
  members id := by
    rw [client?_clients rfl, client?_clients clients, Roster.lookup_mapValues, Option.isSome_map]
  clients id client found := by
    rw [client?_clients rfl, Roster.lookup_mapValues] at found
    obtain ⟨old, -, rfl⟩ := Option.map_eq_some_iff.mp found
    exact ⟨_, rfl, lookup_freshProgress tasks⟩

/-- Of a game in order, a start is all or nothing exactly unless it is the waiting
host's, and there are fewer tasks than it asks for. -/
theorem start_whole_iff (game : Game) (id : Uuid) (valid : game.Valid id) (order : IterOrder)
    (closed : SocketSender → Bool) (choose : List GameTask → Nat → List GameTask)
    (chooses : ChoosesMultiple choose) (availableTasks : List GameTask) (taskCount : Nat) :
    game.StartsWhole availableTasks taskCount
        (game.start order closed choose availableTasks taskCount) ↔
      ¬ (game.isHost = true ∧ game.isStarted = false ∧ availableTasks.length < taskCount) := by
  cases hosted : game.isHost with
  | false => simp [StartsWhole, start, checkHost_guest hosted]
  | true =>
    cases started : game.isStarted with
    | true => simp [StartsWhole, start, checkHost_host hosted, started]
    | false =>
      have drawn := chooses.filled availableTasks taskCount
      simp only [true_and, not_lt]
      constructor
      · intro whole
        by_contra short
        have missed : (choose availableTasks taskCount).length ≠ taskCount := by omega
        rcases whole with ⟨finished, -⟩ | ⟨error, -, same, -⟩
        · exact missed (start_ok _ _ _ _ _ finished).2.2.1
        · -- the flag was set before the tasks were counted
          have flagged : (game.start order closed choose availableTasks taskCount).1.isStarted =
              true := by
            simp [start, checkHost_host hosted, started, missed]
          rw [same, started] at flagged
          cases flagged
      · intro enough
        have filled : (choose availableTasks taskCount).length = taskCount := by omega
        have finished : (game.start order closed choose availableTasks taskCount).2.exit =
            .ok () := by
          cases exit : (game.start order closed choose availableTasks taskCount).2.exit with
          | ok value => rfl
          | err error =>
            exfalso
            obtain ⟨roster, hosts⟩ := valid.hosts hosted
            simp only [start, checkHost_host hosted, started, filled, hosts.clients,
              Bool.false_eq_true, ↓reduceIte, ne_eq, not_true_eq_false] at exit
            exact Sending.ignore_ne_err _ error exit
          | panic => exact absurd exit (valid.start_calm order closed choose _ _)
        obtain ⟨-, -, -, roster, clients, made⟩ := start_ok _ _ _ _ _ finished
        have launches := launched_launches (choose availableTasks taskCount) availableTasks hosted
          started clients (chooses.drawn availableTasks taskCount)
        rw [filled] at launches
        exact .inl ⟨finished, by rw [made]; exact launches⟩

theorem chooses_take : ChoosesMultiple fun tasks count => tasks.take count where
  drawn tasks count := by
    refine ⟨List.range (min count tasks.length), List.nodup_range, ?_⟩
    apply List.ext_getElem?
    intro position
    simp only [List.getElem?_map, List.getElem?_take]
    grind
  filled tasks count := List.length_take

theorem start_whole_iff_filled :
    let self := PartialClient.new 1 "n" "a" true (some 1)
    let first : GameTask := ⟨7, "q", [⟨"1", "1", 0⟩], []⟩
    let second : GameTask := ⟨8, "r", [⟨"1", "2", 0⟩], []⟩
    let choose := fun (tasks : List GameTask) count => tasks.take count
    let game := Game.new true "17" self self
    game.StartsWhole [first, second] 1
      (game.start .stored (fun _ => false) choose [first, second] 1) := by
  intro self first second choose game
  apply (start_whole_iff game 1 (.new 1 1 true "17" "n" "n" "a" fun _ => rfl) .stored
    (fun _ => false) choose chooses_take [first, second] 1).mpr
  decide

/-- Asked for more tasks than there are, the start fails, and the game is started. -/
theorem short_start_flags :
    let self := PartialClient.new 1 "n" "a" true (some 1)
    let choose := fun (tasks : List GameTask) count => tasks.take count
    let game := Game.new true "17" self self
    let result := game.start .stored (fun _ => false) choose [] 1
    game.Valid 1 ∧ ChoosesMultiple choose ∧ ¬ game.StartsWhole [] 1 result ∧
      (∃ error, result.2.exit = .err error) ∧ game.isStarted = false ∧ result.1.isStarted = true ∧
      game.isPublic = true ∧ result.1.isPublic = false := by
  intro self choose game result
  have failed : result.2.exit = .err (.internalServerError
      "Internal server error, requested task count could not be filled") := rfl
  refine ⟨.new 1 1 true "17" "n" "n" "a" fun _ => rfl, chooses_take, ?_, ⟨_, failed⟩, rfl, rfl, rfl,
    rfl⟩
  rintro (⟨finished, -⟩ | ⟨-, -, same, -⟩)
  · cases failed.symm.trans finished
  · exact absurd (congrArg isStarted same) (by decide)

end Game

end Grass
