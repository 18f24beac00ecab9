import Grass.Guarantee.Answers
import Grass.Guarantee.Calls
import Grass.Guarantee.Session

/-! The host games of a running system, each on its own: the calls it was put through
since it was opened, and that after its start it only shrinks and gains finished tasks. -/

namespace Grass

open Lobby Transition

namespace Game

/-- A game as the connection `id` opens it. -/
def OpenedBy (id : Uuid) (game : Game) : Prop :=
  ∃ gameId self, self.id = id ∧ self.Own ∧ self.taskProgress = none ∧
    game = .new true gameId self self

/-- A host's game after a start, whether or not its tasks could be filled. -/
structure Begun (game : Game) : Prop where
  isHost : game.isHost = true
  isStarted : game.isStarted = true
  isPublic : game.isPublic = false

variable {game before after : Game}

section Begun

variable (begun : game.Begun) (order : IterOrder) (closed : SocketSender → Bool)

include begun

theorem Begun.register (newcomer : PartialClient) :
    game.register order closed newcomer = (game, ⟨.err (), []⟩) :=
  register_shut begun.isPublic ..

theorem Begun.start (choose : List GameTask → Nat → List GameTask) (availableTasks : List GameTask)
    (taskCount : Nat) : game.start order closed choose availableTasks taskCount =
      (game, ⟨.err .gameAlreadyStarted, []⟩) := by
  simp [Game.start, checkHost_host begun.isHost, begun.isStarted]

theorem Begun.refuses : game.Refuses where
  start order closed choose availableTasks taskCount :=
    ⟨.gameAlreadyStarted, by rw [begun.start]⟩
  register order closed newcomer := by rw [begun.register]

theorem Begun.unregister (clientId : Uuid) :
    (game.unregister order closed clientId).1.Begun ∧
      game.Grows (game.unregister order closed clientId).1 := by
  have same : game.Begun ∧ game.Grows game := ⟨begun, .refl game⟩
  unfold Game.unregister
  rw [if_pos begun.isHost]
  split
  · exact same
  · rename_i roster clients
    split
    · exact ⟨⟨begun.isHost, begun.isStarted, begun.isPublic⟩, rfl, fun _ finished => finished,
        fun id client found =>
          ⟨client, client?_erase clients clientId id client found, fun _ finished => finished⟩⟩
    · exact same

theorem Begun.credit {taskIndex : Nat} {credited : Game}
    (credit : game.creditTask .host taskIndex = some credited) :
    credited.Begun ∧ game.Grows credited := by
  simp only [creditTask, Option.pure_def, Option.bind_eq_bind, Option.bind_eq_some_iff,
    Option.some.injEq] at credit
  obtain ⟨progress, kept, rfl⟩ := credit
  refine ⟨⟨begun.isHost, begun.isStarted, begun.isPublic⟩, rfl, ?_,
    fun id client found => ⟨client, found, fun _ finished => finished⟩⟩
  rintro index ⟨old, before, finished⟩
  obtain rfl : progress = old := Option.some.inj (kept.symm.trans before)
  refine ⟨_, rfl, ?_⟩
  by_cases same : index = taskIndex
  · subst same
    rw [AList.lookup_insert]
  · rwa [AList.lookup_insert_ne same]

theorem Begun.call (made : Call) : (game.call made).Begun ∧ game.Grows (game.call made) := by
  obtain ⟨order, closed, operation⟩ := made
  cases operation with
  | register newcomer =>
    simp only [Game.call, begun.register]
    exact ⟨begun, .refl game⟩
  | unregister clientId => exact begun.unregister order closed clientId
  | start choose availableTasks taskCount =>
    simp only [Game.call, begun.start]
    exact ⟨begun, .refl game⟩
  | prepareCodeTest taskIndex => exact ⟨begun, .refl game⟩
  | validateCodeTest sandbox clientId taskIndex code result =>
    simp only [Game.call]
    rcases game.validateCodeTest_cases order closed sandbox clientId taskIndex code result with
      same | ⟨task, who, reports, staged, credited⟩
    · rw [same]
      exact ⟨begun, .refl game⟩
    · have known := (publicStage_passed staged).2
      obtain rfl : Participant.host = who := by simpa [participant, begun.isHost] using known
      exact begun.credit credited

end Begun

/-- A start closes the game. -/
theorem call_begins (made : Call) (closes : game.isStarted = true → game.isPublic = false) :
    (game.call made).isStarted = true → (game.call made).isPublic = false := by
  obtain ⟨order, closed, operation⟩ := made
  cases operation with
  | register newcomer =>
    simp only [call, Game.register]
    split
    · exact closes
    · split
      · exact closes
      · split <;> exact closes
  | unregister clientId =>
    simp only [call, Game.unregister]
    split
    · split
      · exact closes
      · split <;> exact closes
    · exact closes
  | start choose availableTasks taskCount =>
    simp only [call, Game.start]
    split
    · split
      · exact closes
      · split
        · exact fun _ => rfl
        · split <;> exact fun _ => rfl
    · exact closes
  | prepareCodeTest taskIndex => exact closes
  | validateCodeTest sandbox clientId taskIndex code result =>
    simp only [call]
    rcases game.validateCodeTest_cases order closed sandbox clientId taskIndex code result with
      same | ⟨task, who, reports, staged, credited⟩
    · rw [same]
      exact closes
    · cases who with
      | host =>
        simp only [creditTask, Option.pure_def, Option.bind_eq_bind, Option.bind_eq_some_iff,
          Option.some.injEq] at credited
        obtain ⟨progress, -, credited⟩ := credited
        rw [← credited]
        exact closes
      | member id =>
        simp only [creditTask, Option.pure_def, Option.bind_eq_bind, Option.bind_eq_some_iff,
          Option.some.injEq] at credited
        obtain ⟨roster, -, client, -, progress, -, credited⟩ := credited
        rw [← credited]
        exact closes

end Game

namespace Cluster

variable {fault : Prop} {known : Set Party} {cluster before after : Cluster} {action : Action}
  {party : Party}

theorem hosted_still (stepped : before.step action = some after) {shardId : ShardId}
    (apart : shardId ≠ action.party.shardId ∨ action.kind = .sever) :
    (after.world shardId).hostedAt = (before.world shardId).hostedAt := by
  by_cases here : shardId = action.party.shardId
  · subst here
    obtain ⟨acting, kind⟩ := action
    obtain rfl : kind = .sever := apart.resolve_left (by simp)
    cases step_does stepped
    exact hostedAt_setNode (before.world acting.shardId) (by rfl)
  · rw [world, step_node stepped here]
    rfl

theorem wire_still (stepped : before.step action = some after) {shardId : ShardId}
    (apart : shardId ≠ action.party.shardId ∨ action.kind = .sever) :
    (after.world shardId).wire = (before.world shardId).wire := by
  by_cases here : shardId = action.party.shardId
  · subst here
    obtain ⟨acting, kind⟩ := action
    obtain rfl : kind = .sever := apart.resolve_left (by simp)
    cases step_does stepped
    simp [setNode, world, Node.world]
  · simp [world, step_node stepped here, Node.world]

theorem step_hears (sound : before.Sound fault known) (stepped : before.step action = some after)
    {shardId : ShardId} {id : Uuid} (hears : (after.world shardId).closed id = false) :
    (before.world shardId).closed id = false := by
  by_contra shut
  have still := @step_severed _ _ _ _ _ ⟨shardId, id⟩ sound stepped (by simpa using shut)
  simp [still] at hears

/-- The acting connection makes the call on the party's game, which is of its process, on its
own behalf; the host itself does not register. -/
structure Makes (cluster : Cluster) (action : Action) (party : Party) (made : Game.Call) : Prop where
  here : action.party.shardId = party.shardId
  by_ : made.operation.By action.party.id party.id (cluster.node party.shardId).availableTasks
    (cluster.errand action)
  entrant : ∀ newcomer, made.operation = .register newcomer → newcomer.id ≠ party.id

/-- What the host game of an entry was before a step: the same, none where its client has just
opened it, or the one it was made from by a call. -/
theorem Sound.step_hosted (sound : before.Sound fault known)
    (stepped : before.step action = some after) {game : Game}
    (held : (after.world party.shardId).hostedAt party.id = some game) :
    (before.world party.shardId).hostedAt party.id = some game ∨
      (action.party = party ∧ (before.world party.shardId).hostedAt party.id = none ∧
        game.OpenedBy party.id) ∨
      ∃ earlier made, (before.world party.shardId).hostedAt party.id = some earlier ∧
        game = earlier.call made ∧ before.Makes action party made := by
  by_cases here : party.shardId = action.party.shardId
  · by_cases severs : action.kind = .sever
    · exact .inl (by rwa [hosted_still stepped (.inr severs)] at held)
    · obtain ⟨shardId, id⟩ := party
      obtain rfl : shardId = _ := here
      cases sound.step_plays stepped severs with
      | aside aside => exact .inl (aside.hosted ▸ held)
      | stray allowed same => exact .inl (same ▸ held)
      | calls hostId old made found by_ heard result told =>
        rw [result] at held
        by_cases own : id = hostId
        · subst own
          obtain rfl : old.call made = game := by simpa using held
          refine .inr (.inr ⟨old, made, found, rfl, rfl, by_, ?_⟩)
          intro newcomer registers same
          rw [registers] at by_
          obtain ⟨⟨enters, -⟩, named, -⟩ := by_
          have vacant := sound.gameAt_seating enters.seating
          rw [named.symm.trans same] at vacant
          simp [World.hostedAt, vacant] at found
        · left
          simpa [own] using held
      | opens allowed gameId self named own fresh vacant result told =>
        rw [result] at held
        by_cases opener : id = action.party.id
        · subst opener
          obtain rfl : Game.new true gameId self self = game := by simpa using held
          exact .inr (.inl ⟨rfl, vacant, gameId, self, named, own, fresh, rfl⟩)
        · left
          simpa [opener] using held
      | ends old roster order found clients result told =>
        rw [result] at held
        by_cases closer : id = action.party.id
        · simp [closer] at held
        · left
          simpa [closer] using held
  · exact .inl (by rwa [hosted_still stepped (.inl here)] at held)

theorem Fresh.hostedAt (fresh : cluster.Fresh) (party : Party) :
    (cluster.world party.shardId).hostedAt party.id = none := by
  obtain ⟨tasks, started⟩ := fresh party.shardId
  simp [World.hostedAt, World.gameAt, world, Node.world, started, Node.fresh]

/-- What a client's opening gives, and every call keeps, holds of every host's game. -/
theorem reached_hosted {Holds : Game → Prop}
    (opens : ∀ game : Game, game.OpenedBy party.id → Holds game)
    (kept : ∀ before action made game, Makes before action party made → Holds game →
      Holds (game.call made))
    (reached : Reach Fresh steps cluster) {game : Game}
    (held : (cluster.world party.shardId).hostedAt party.id = some game) : Holds game := by
  induction reached generalizing game with
  | start fresh => simp [fresh.hostedAt] at held
  | next earlier step ih =>
    rcases (reached_steps earlier).step_hosted step held with same | ⟨-, -, opened⟩ |
      ⟨old, made, there, rfl, makes⟩
    · exact ih same
    · exact opens _ opened
    · exact kept _ _ _ _ makes (ih there)

/-- The step leaves the party's host game as it is, or is a call that the acting connection
makes on it. -/
def Tended (party : Party) : Transition.Step Cluster Action := fun before action after =>
  ∃ earlier later, (before.world party.shardId).hostedAt party.id = some earlier ∧
    (after.world party.shardId).hostedAt party.id = some later ∧
    (later = earlier ∨ ∃ made, later = earlier.call made ∧ before.Makes action party made)

/-- Whatever happens, timeouts and failures of Redis included: a host's game is one that its
client opened itself in a step of its own, and every step since has left it as it was or was
a call that the acting connection, one of the same process, made on its own behalf. -/
theorem hosted_history (cluster : Cluster) (reached : Reach Fresh steps cluster) (party : Party)
    (game : Game) (held : (cluster.world party.shardId).hostedAt party.id = some game) :
    ∃ before action after first, Reach Fresh steps before ∧ steps before action after ∧
      action.party = party ∧ (before.world party.shardId).hostedAt party.id = none ∧
      (after.world party.shardId).hostedAt party.id = some first ∧ first.OpenedBy party.id ∧
      Reach (fun origin => origin = after) (steps.when (Tended party)) cluster := by
  have vacant : ∀ initial : Cluster, initial.Fresh →
      ¬ ((initial.world party.shardId).hostedAt party.id).isSome := by
    intro initial fresh
    simp [fresh.hostedAt]
  obtain ⟨before, action, after, earlier, none, step, some, since⟩ :=
    reached.appears vacant (Option.isSome_iff_exists.mpr ⟨game, held⟩)
  rw [Option.not_isSome_iff_eq_none] at none
  obtain ⟨first, there⟩ := Option.isSome_iff_exists.mp some
  rcases (reached_steps earlier).step_hosted step there with same | ⟨own, -, opened⟩ |
    ⟨old, made, known, -⟩
  · simp [none] at same
  · refine ⟨before, action, after, first, earlier, step, own, none, there, opened, ?_⟩
    -- ever since there has been a game, so that no step opens one
    have played : ∀ {between}, Reach (fun origin => origin = after) (steps.when fun _ _ later =>
        ((later.world party.shardId).hostedAt party.id).isSome) between →
          ((between.world party.shardId).hostedAt party.id).isSome := by
      intro between run
      cases run with
      | start same => exact same ▸ some
      | next _ taken => exact taken.2
    refine since.mono fun former acted latter run taken => ⟨taken.1, ?_⟩
    obtain ⟨last, found⟩ := Option.isSome_iff_exists.mp (played run)
    obtain ⟨final, kept⟩ := Option.isSome_iff_exists.mp taken.2
    have sound := reached_steps ((Reach.next earlier step).trans
      (run.mono fun _ _ _ _ taken => taken.1))
    refine ⟨last, final, found, kept, ?_⟩
    rcases sound.step_hosted taken.1 kept with same | ⟨-, vacated, -⟩ |
      ⟨other, made, known, called, makes⟩
    · exact .inl (Option.some.inj (same.symm.trans found))
    · simp [vacated] at found
    · obtain rfl : last = other := Option.some.inj (found.symm.trans known)
      exact .inr ⟨made, called, makes⟩
  · simp [none] at known

/-- The game of a host that one participant has entered. -/
theorem hosted_history_pair : ∃ (cluster after : Cluster) (first game : Game),
    (cluster.world "a").hostedAt 1 = some game ∧ game.Lists 2 ∧
    (after.world "a").hostedAt 1 = some first ∧ first.OpenedBy 1 ∧
    Reach (fun origin => origin = after) (steps.when (Tended ⟨"a", 1⟩)) cluster := by
  obtain ⟨cluster, reached, shown⟩ := run_shows (launch_fresh emptyRedis [])
    (show (run (guarded (fun _ _ => true) step) (launch emptyRedis []) (pair "a" "17" 1 2)).bind
        (fun cluster : Cluster => ((cluster.world "a").hostedAt 1).map fun game =>
          decide (game.Lists 2)) = some true by decide +kernel)
  obtain ⟨game, held, lists⟩ := Option.map_eq_some_iff.mp shown
  have fresh : Reach Fresh steps cluster := reached.mono fun _ _ _ _ step => step.1
  obtain ⟨before, action, after, first, -, -, -, -, there, opened, since⟩ :=
    hosted_history cluster fresh ⟨"a", 1⟩ game held
  exact ⟨cluster, after, first, game, held, of_decide_eq_true lists, there, opened, since⟩

/-- The entry keeps a host game. -/
def Hosting (party : Party) : Transition.Step Cluster Action := fun _ _ after =>
  ((after.world party.shardId).hostedAt party.id).isSome

/-- What every call on a host's game keeps, it keeps for as long as its client hosts. -/
theorem hosting_keeps {Holds : Game → Prop} {later : Cluster}
    (kept : ∀ before action made game, Makes before action party made → Holds game →
      Holds (game.call made))
    (reached : Reach Fresh steps cluster) {game : Game}
    (held : (cluster.world party.shardId).hostedAt party.id = some game) (holds : Holds game)
    (hosting : Reach (fun origin => origin = cluster) (steps.when (Hosting party)) later) :
    ∃ final, (later.world party.shardId).hostedAt party.id = some final ∧ Holds final := by
  induction hosting with
  | start same => exact same ▸ ⟨game, held, holds⟩
  | next earlier step ih =>
    obtain ⟨old, found, holds⟩ := ih
    obtain ⟨final, there⟩ := Option.isSome_iff_exists.mp step.2
    refine ⟨final, there, ?_⟩
    have sound := reached_steps (reached.trans (earlier.mono fun _ _ _ _ step => step.1))
    rcases sound.step_hosted step.1 there with same | ⟨-, vacant, -⟩ |
      ⟨other, made, known, rfl, makes⟩
    · obtain rfl : old = final := Option.some.inj (found.symm.trans same)
      exact holds
    · simp [vacant] at found
    · obtain rfl : old = other := Option.some.inj (found.symm.trans known)
      exact kept _ _ _ _ makes holds

theorem reached_begun (reached : Reach Fresh steps cluster) {game : Game}
    (held : (cluster.world party.shardId).hostedAt party.id = some game)
    (started : game.isStarted = true) : game.Begun := by
  refine ⟨(World.hostedAt_iff.mp held).2, started, ?_⟩
  have closes : game.isStarted = true → game.isPublic = false := by
    have opened : ∀ game : Game, game.OpenedBy party.id →
        (game.isStarted = true → game.isPublic = false) := by
      rintro _ ⟨gameId, self, -, -, -, rfl⟩ started
      cases started
    exact reached_hosted opened (fun _ _ made _ _ closes => Game.call_begins made closes) reached held
  exact closes started

/-- After its start, full or short of tasks, a host's game is closed and refuses every
start and registration, its tasks stay, nobody enters and no finished task is taken back,
for as long as its client keeps hosting, whatever else happens meanwhile. -/
theorem begun_frozen (cluster later : Cluster) (reached : Reach Fresh steps cluster) (party : Party)
    (game : Game) (held : (cluster.world party.shardId).hostedAt party.id = some game)
    (started : game.isStarted = true)
    (hosting : Reach (fun origin => origin = cluster) (steps.when (Hosting party)) later) :
    ∃ final, (later.world party.shardId).hostedAt party.id = some final ∧ final.Begun ∧
      final.Refuses ∧ game.Grows final := by
  have kept : ∀ (before : Cluster) action made old, Makes before action party made →
      (old.Begun ∧ game.Grows old) → (old.call made).Begun ∧ game.Grows (old.call made) := by
    rintro before action made old - ⟨begun, grown⟩
    obtain ⟨stays, grows⟩ := begun.call made
    exact ⟨stays, grown.trans grows⟩
  obtain ⟨final, found, begun, grown⟩ :=
    hosting_keeps kept reached held ⟨reached_begun reached held started, .refl game⟩ hosting
  exact ⟨final, found, begun, begun.refuses, grown⟩

/-- The step leaves the client of the party a host. -/
def hosts (party : Party) (before : Cluster) (action : Action) : Bool :=
  (before.step action).any fun after => ((after.world party.shardId).hostedAt party.id).isSome

/-- A host starts, and its participant leaves. -/
theorem begun_frozen_left : ∃ (cluster later : Cluster) (game final : Game),
    Reach Fresh steps cluster ∧
    (cluster.world "a").hostedAt 1 = some game ∧ game.Lists 2 ∧
    (later.world "a").hostedAt 1 = some final ∧ ¬ final.Lists 2 ∧ final.Begun ∧ game.Grows final := by
  let host : Party := ⟨"a", 1⟩
  let guest : Party := ⟨"a", 2⟩
  obtain ⟨cluster, reached, shown⟩ := run_shows (launch_fresh emptyRedis [sampleTask])
    (show (run (guarded (fun _ _ => true) step) (launch emptyRedis [sampleTask])
        (pair "a" "17" 1 2 ++ round "a" 1 2 "17" ++ [⟨guest, .advance⟩])).bind
        (fun cluster : Cluster => ((cluster.world "a").hostedAt 1).map fun game =>
          (game.isStarted, decide (game.Lists 2),
            (run (guarded (hosts host) step) cluster (guest.leaves (.calm "17"))).bind
              fun later => ((later.world "a").hostedAt 1).map fun final =>
                decide (final.Lists 2))) = some (true, true, some false) by decide +kernel)
  obtain ⟨game, held, same⟩ := Option.map_eq_some_iff.mp shown
  obtain ⟨started, lists, left⟩ : game.isStarted = true ∧ game.Lists 2 ∧ _ = some false := by
    simpa only [Prod.mk.injEq, decide_eq_true_eq] using same
  have fresh : Reach Fresh steps cluster := reached.mono fun _ _ _ _ step => step.1
  obtain ⟨later, ran, gone⟩ := run_shows (rfl : cluster = cluster) left
  have hosting : Reach (fun origin => origin = cluster) (steps.when (Hosting host)) later := by
    refine (ran.widen fun _ same => same.symm).mono fun before action after _ step => ⟨step.1, ?_⟩
    have kept := step.2
    rw [checks, hosts, step.1] at kept
    exact kept
  obtain ⟨final, found, begun, -, grows⟩ :=
    begun_frozen cluster later fresh host game held started hosting
  refine ⟨cluster, later, game, final, fresh, held, lists, found, ?_, begun, grows⟩
  simpa [host, found] using gone

end Cluster

end Grass
