import Grass.Refinement.Turns

/-! Sessions: lists of actions that clients take in turn, and the runs they make. -/

namespace Grass

open Transition

/-- Nothing fails, maps are visited as stored, and the sandbox does not answer. -/
def Oracle.calm (gameId : String) : Oracle where
  fails _ := false
  order := .stored
  gameId := gameId
  choose tasks count := tasks.take count
  sandbox _ _ _ := none

/-- The document of a request. -/
def requestText (op : String) (d : List (String × Value)) : Value :=
  .object [("op", .string "Request"),
    ("d", .object [("op", .string op), ("d", .object d)])]

namespace Party

variable (party : Party) (oracle : Oracle)

/-- The connection opens, and is greeted and registered. -/
def opens : List Action :=
  [⟨party, .connect⟩, ⟨party, .accept oracle⟩, ⟨party, .accept oracle⟩]

/-- The client sends a request, and its handler runs some sections. -/
def asks (sections : Nat) (op : String) (d : List (String × Value)) : List Action :=
  ⟨party, .frame (.text (some (requestText op d))) oracle⟩ ::
    List.replicate sections ⟨party, .advance⟩

/-- The client introduces itself. -/
def enters : List Action :=
  party.opens oracle ++ party.asks oracle 1 "Identify" [("nickname", .string "n")]

def creates : List Action := party.asks oracle 2 "Create" []

/-- A Join that becomes the host. -/
def hosts (gameId : String) : List Action :=
  party.asks oracle 3 "Join" [("game_id", .string gameId)]

/-- A Join that enters the game of a local host. -/
def joins (gameId : String) : List Action :=
  party.asks oracle 3 "Join" [("game_id", .string gameId)]

def leaves : List Action := party.asks oracle 1 "Leave" []

end Party

namespace Cluster

variable {cluster : Cluster} {guard : Cluster → Action → Bool}

/-- Processes that have just started, all with the same tasks. -/
def launch (redis : Redis) (availableTasks : List GameTask) : Cluster where
  redis := redis
  node _ := .fresh availableTasks

def emptyRedis : Redis := fun _ => none

theorem launch_fresh (redis : Redis) (availableTasks : List GameTask) :
    (launch redis availableTasks).Fresh :=
  fun _ => ⟨availableTasks, rfl⟩

/-- A host with one participant. -/
def pair (shardId : ShardId) (gameId : String) (hostId id : Uuid) : List Action :=
  let host : Party := ⟨shardId, hostId⟩
  let guest : Party := ⟨shardId, id⟩
  let oracle := Oracle.calm gameId
  host.enters oracle ++ guest.enters oracle ++ host.creates oracle ++ host.hosts oracle gameId ++
    guest.joins oracle gameId

/-- The cluster after a list of actions taken in turn, each where the guard allows it. -/
def play (guard : Cluster → Action → Bool) (cluster : Cluster) (actions : List Action) :
    Option Cluster :=
  (runTurns (guarded guard step) Action.party AtRest cluster none actions).map Prod.fst

/-- The step meets what a guard checks. -/
def checks (guard : Cluster → Action → Bool) : Transition.Step Cluster Action :=
  fun before action _ => guard before action = true

theorem started_empty (shardId : ShardId) (availableTasks : List GameTask) :
    Started shardId (launch emptyRedis availableTasks) :=
  ⟨launch_fresh emptyRedis availableTasks, by simp [launch, emptyRedis]⟩

/-- A session from processes that have just started is a run in turns, and shows
what a look at its end finds. -/
theorem session_shows {α : Type} {init : Cluster → Prop} {redis : Redis}
    {availableTasks : List GameTask} {actions : List Action} {look : Cluster → Option α} {seen : α}
    (initial : init (launch redis availableTasks))
    (shows : ((launch redis availableTasks).play
      (fun before action => !decide action.lapses && guard before action) actions).bind look =
        some seen) :
    ∃ cluster, Reach init (turns.when (checks guard)) cluster ∧ look cluster = some seen := by
  obtain ⟨cluster, played, shows⟩ := Option.bind_eq_some_iff.mp shows
  refine ⟨cluster, ?_, shows⟩
  obtain ⟨⟨reached, last⟩, ran, rfl⟩ := Option.map_eq_some_iff.mp played
  have fresh := launch_fresh redis availableTasks
  have frame : ∀ before action after,
      guarded (fun before action => !decide action.lapses && guard before action) step before
        action = some after →
      ∀ party, party ≠ action.party → before.AtRest party → after.AtRest party :=
    fun _ _ _ stepped party other rests =>
      step_rests (guarded_eq_some.mp stepped).2 party other rests
  refine (runTurns_alone frame actions (.start initial) (fun party _ => fresh.rests party)
    ran).1.mono fun before action after _ step => ?_
  obtain ⟨guards, stepped⟩ := guarded_eq_some.mp step.1
  simp only [Bool.and_eq_true, Bool.not_eq_true', decide_eq_false_iff_not] at guards
  exact ⟨⟨stepped, step.2, guards.1⟩, guards.2⟩

/-- A list of actions in any order, each where the guard allows it, leads to a reached
cluster. -/
theorem run_shows {α : Type} {init : Cluster → Prop} {actions : List Action}
    {look : Cluster → Option α} {seen : α} (initial : init cluster)
    (shows : (run (guarded guard step) cluster actions).bind look = some seen) :
    ∃ final, Reach init (steps.when (checks guard)) final ∧ look final = some seen := by
  obtain ⟨final, ran, shows⟩ := Option.bind_eq_some_iff.mp shows
  refine ⟨final, (run_reach actions (.start initial) ran).mono fun _ _ _ _ step => ?_, shows⟩
  obtain ⟨guards, stepped⟩ := guarded_eq_some.mp step
  exact ⟨stepped, guards⟩

theorem reached_unborn {shardId : ShardId} {who : List Party}
    (only : ∀ before action, guard before action = true → action.party ∈ who)
    (reached : Reach (Started shardId) (turns.when (checks guard)) cluster) (party : Party)
    (idle : party ∉ who) : (cluster.node party.shardId).reader party.id = .absent ∧
      (cluster.world party.shardId).sockets party.id = none := by
  have sound : cluster.Sound True ∅ :=
    reached_sound (fun _ started => started.1.apart)
      (fun _ _ _ step => ⟨step.1.1, Action.failing⟩) reached
  have unborn : (cluster.node party.shardId).phase party.id = .unborn := by
    clear sound
    induction reached with
    | start started =>
      obtain ⟨tasks, fresh⟩ := started.1 party.shardId
      simp [fresh, Node.fresh]
    | next _ step ih =>
      have other : party ≠ _ := fun same => idle (same ▸ only _ _ step.2)
      exact (step_other step.1.1 party other).2.trans ih
  exact (sound.valid.orderly party).unborn unborn

end Cluster

end Grass
