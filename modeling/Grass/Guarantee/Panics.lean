import Grass.Guarantee.Answers
import Grass.Refinement.Calm
import Grass.Refinement.Entries

namespace Grass

open Lobby Transition

/-- The section belongs to a Start, Task or Compile request whose inner data is present. -/
def Pc.Plays (model : DefaultModel) : Pc → Prop
  | .receive => ∃ request, model.request? = some request ∧ request.d ≠ none ∧
      (request.op = .start ∨ request.op = .task ∨ request.op = .compile)
  | .compilePrepare _ _ | .compileFail _ | .compileRun _ _ _ | .compileValidate _ _ _
  | .compileReply _ => True
  | _ => False

/-- A sandbox that solves the sample task. -/
def Oracle.solving (gameId : String) : Oracle :=
  { Oracle.calm gameId with
    sandbox := fun _ _ stdin =>
      some ⟨true, stdin.map fun input => if input = "1 2" then "3" else "7", []⟩ }

/-- The section belongs to a Join request, whatever its data. -/
def Pc.Joins (model : DefaultModel) : Pc → Prop
  | .receive => ∃ request, model.request? = some request ∧ request.op = .join
  | .joinSet _ | .joinHost _ | .joinRegister _ _ _ _ | .joinPurge _ | .joinEnter _ _ _ _ _ _
  | .joinForeign _ | .joinRefuse _ => True
  | _ => False

namespace Cluster

variable {cluster : Cluster} {party : Party} {oracle : Oracle} {model : DefaultModel} {pc : Pc}
  {part : Section} {known : Set Party}

theorem Sound.entry (sound : cluster.Sound False known)
    (busy : (cluster.node party.shardId).reader party.id = .busy oracle model pc) :
    ∃ client, (cluster.world party.shardId).sockets party.id = some client := by
  have here := (sound.valid.ready sound.coherent busy).present (fun absurd => absurd)
  exact Option.ne_none_iff_exists'.mp (present_iff.mp here)

/-- The host's game is started but tracks no progress, as a start leaves it that could
not fill its task count, and the submission passes all its tests. -/
def Unrecorded (cluster : Cluster) (party : Party) (oracle : Oracle) : Pc → Prop
  | .compileValidate hostId request result =>
    ∃ host game, Ctx.compileGame (cluster.world party.shardId) hostId = .ok (host, game) ∧
      game.partialHost.taskProgress = none ∧
      game.Passes oracle.sandbox party.id request.taskIndex request.code result
  | _ => False

/-- On any number of processes and under every interleaving, while Redis works: a
section of a Start, Task or Compile request with data panics exactly where it
validates a passing submission to a game that has been started without progress. -/
theorem play_calm_iff (cluster : Cluster) (reached : Reach Fresh healthySteps cluster)
    (party : Party) (oracle : Oracle) (model : DefaultModel) (pc : Pc) (part : Section)
    (busy : (cluster.node party.shardId).reader party.id = .busy oracle model pc)
    (current : cluster.currentSection party = some part) (plays : pc.Plays model) :
    part.Calm ↔ ¬ cluster.Unrecorded party oracle pc := by
  have sound : cluster.Sound False ∅ :=
    reached_sound (fun _ => Fresh.apart) (fun _ _ _ step => ⟨step.1, fun _ => step.2⟩) reached
  have valid := sound.valid.entries party.shardId
  obtain ⟨client, found⟩ := sound.entry busy
  obtain rfl : _ = part := by simpa [currentSection_busy busy] using current
  have calm : ∀ {part : Section}, part.Calm → (part.Calm ↔ ¬ False) := fun holds =>
    iff_of_true holds not_false
  cases pc with
  | receive =>
    obtain ⟨request, asked, data, start | task | compile⟩ := plays
    · rw [Ctx.runSection, Ctx.receive_request asked, Ctx.handleRequest]
      simp only [start]
      exact calm (Ctx.handleStart_calm found valid data)
    · rw [Ctx.runSection, Ctx.receive_request asked, Ctx.handleRequest]
      simp only [task]
      exact calm (Ctx.handleTask_calm found data)
    · rw [Ctx.runSection, Ctx.receive_request asked, Ctx.handleRequest]
      simp only [compile]
      exact calm (Ctx.handleCompile_calm found data)
  | compilePrepare hostId request => exact calm (Ctx.compilePrepare_calm hostId request)
  | compileFail error => exact calm (Ctx.compileFail_calm found error)
  | compileRun hostId request stdin => exact calm (Ctx.compileRun_calm hostId request stdin)
  | compileValidate hostId request result =>
    exact Ctx.compileValidate_calm valid hostId request result
  | compileReply response => exact calm (Ctx.compileReply_calm found response)
  | _ => exact plays.elim

def healthyLocal (shardId : ShardId) (_ : Cluster) (action : Action) : Bool :=
  decide action.Healthy && decide (action.party.shardId = shardId)

theorem healthyLocal_healthy {shardId : ShardId} {before after : Cluster} {action : Action}
    (step : steps.when (checks (healthyLocal shardId)) before action after) :
    healthySteps before action after ∧ action.party.shardId = shardId := by
  obtain ⟨healthy, here⟩ := Bool.and_eq_true_iff.mp step.2
  exact ⟨⟨step.1, of_decide_eq_true healthy⟩, of_decide_eq_true here⟩

def gradingPanics (party : Party) (cluster : Cluster) : Option Bool :=
  match (cluster.node party.shardId).reader party.id with
  | .busy _ _ (.compileValidate _ _ _) => (cluster.currentSection party).map fun part =>
      match part.next with
      | .handled .panic => true
      | _ => false
  | _ => none

theorem grading_seen {panics : Bool} (seen : gradingPanics party cluster = some panics) :
    ∃ oracle model hostId request result part,
      (cluster.node party.shardId).reader party.id =
        .busy oracle model (.compileValidate hostId request result) ∧
      cluster.currentSection party = some part ∧ (part.Calm ↔ panics = false) := by
  unfold gradingPanics at seen
  split at seen
  · rename_i oracle model hostId request result busy
    obtain ⟨part, current, same⟩ := Option.map_eq_some_iff.mp seen
    refine ⟨oracle, model, hostId, request, result, part, busy, current, ?_⟩
    subst same
    unfold Section.Calm
    split
    · rename_i panicked
      simp [panicked]
    · rename_i calm
      simpa using calm
  · cases seen

/-- A host and its participant, a start for so many tasks, and a passing submission of
the participant, up to its validation. -/
def submission (shardId : ShardId) (taskCount : Int) : List Action :=
  pair shardId "17" 1 2 ++
    Party.asks ⟨shardId, 1⟩ (.solving "17") 1 "Start" [("task_count", .integer taskCount)] ++
    Party.asks ⟨shardId, 2⟩ (.solving "17") 3 "Compile"
      [("code", .string "c"), ("task_index", .integer 0)]

theorem play_calm_submission : ∃ cluster : Cluster, ∃ oracle model pc part,
    (cluster.node "a").reader 2 = .busy oracle model pc ∧
    cluster.currentSection ⟨"a", 2⟩ = some part ∧ part.Calm ∧
    ¬ cluster.Unrecorded ⟨"a", 2⟩ oracle pc := by
  obtain ⟨cluster, reached, seen⟩ := run_shows (launch_fresh emptyRedis [sampleTask])
    (show (run (guarded (healthyLocal "a") step) (launch emptyRedis [sampleTask])
      (submission "a" 1)).bind (gradingPanics ⟨"a", 2⟩) = some false by decide +kernel)
  obtain ⟨oracle, model, hostId, request, result, part, busy, current, calm⟩ := grading_seen seen
  have healthy : Reach Fresh healthySteps cluster :=
    reached.mono fun _ _ _ _ step => (healthyLocal_healthy step).1
  have holds := calm.mpr rfl
  exact ⟨cluster, oracle, model, _, part, busy, current, holds,
    (play_calm_iff cluster healthy ⟨"a", 2⟩ oracle model _ part busy current trivial).mp holds⟩

/-- A start for more tasks than there are fails and leaves the game started; before the
host's connection is closed, the participant's submission is credited. -/
theorem unrecorded_panics : ¬ ∀ cluster,
    Reach Fresh (healthySteps.when fun _ action _ => action.party.shardId = "a") cluster →
    ∀ (party : Party) oracle model pc part,
      (cluster.node party.shardId).reader party.id = .busy oracle model pc →
      cluster.currentSection party = some part → pc.Plays model → part.Calm := by
  intro always
  obtain ⟨cluster, reached, seen⟩ := run_shows (launch_fresh emptyRedis [sampleTask])
    (show (run (guarded (healthyLocal "a") step) (launch emptyRedis [sampleTask])
      (submission "a" 2)).bind (gradingPanics ⟨"a", 2⟩) = some true by decide +kernel)
  obtain ⟨oracle, model, hostId, request, result, part, busy, current, calm⟩ := grading_seen seen
  have holds := always cluster (reached.mono fun _ _ _ _ step => healthyLocal_healthy step)
    ⟨"a", 2⟩ oracle model _ part busy current trivial
  cases calm.mp holds

section Join

variable {shardId : ShardId} {before after : Cluster} {action : Action}

/-- Whom a Join is about to register with has introduced itself. -/
def Introduced (shardId : ShardId) (cluster : Cluster) : Prop :=
  ∀ asker gameId host, host ∈ shard shardId → cluster.lobby.stage asker = .knocking gameId host →
    cluster.lobby.stage host ≠ .unborn ∧ (cluster.world host.shardId).Named host.id

theorem Sound.recorded_named (sound : cluster.Sound False (shard shardId)) {gameId : String}
    {host : Party} (member : host ∈ shard shardId)
    (record : cluster.lobby.record gameId = some (some host)) :
    (cluster.world host.shardId).Named host.id := by
  rcases (sound.coherent.recorded host member gameId record).2 with hosts | opening | ⟨absurd, -⟩
  · obtain ⟨game, held, -⟩ := hosts_iff.mp hosts
    obtain ⟨client, found, playing⟩ := World.gameAt_entry held
    intro other same
    obtain rfl : client = other := Option.some.inj (found.symm.trans same)
    exact ((sound.valid.entries _ _ _ found).playing game playing).1
  · obtain ⟨oracle, model, pc, busy, at_⟩ := busy_of_stage opening (by simp [Stage.Resting])
    obtain rfl := Pc.stage_opening at_
    exact ((sound.valid.orderly host).relies oracle model _ busy).1
  · exact absurd.elim

theorem Introduced.step (introduced : before.Introduced shardId)
    (sound : before.Sound False (shard shardId)) (step : healthySteps before action after) :
    after.Introduced shardId := by
  intro asker gameId host member knocking
  have move := sound.move (fun _ => step.2) step.1
  have earlier : before.lobby.stage host ≠ .unborn ∧ (before.world host.shardId).Named host.id := by
    rcases move.knocks knocking with already | ⟨-, record, -, -⟩
    · exact introduced asker gameId host member already
    · exact ⟨(sound.coherent.recorded host member gameId record).1,
        sound.recorded_named member record⟩
  exact ⟨move.born earlier.1, step_named sound (fun _ => step.2) step.1 host earlier.1 earlier.2⟩

/-- While Redis works, no section of a Join panics on a process with a shard id of its
own, under any interleaving on all processes. -/
theorem join_calm (cluster : Cluster) (party : Party)
    (reached : Reach (Started party.shardId) healthySteps cluster) (oracle : Oracle)
    (model : DefaultModel) (pc : Pc) (part : Section)
    (busy : (cluster.node party.shardId).reader party.id = .busy oracle model pc)
    (current : cluster.currentSection party = some part) (joins : pc.Joins model) : part.Calm := by
  have sounds : ∀ cluster, Reach (Started party.shardId) healthySteps cluster →
      cluster.Sound False (shard party.shardId) :=
    fun _ => reached_healthy fun _ _ _ step => step
  have introduced : cluster.Introduced party.shardId := by
    refine reached.invariant_using sounds ?_ ?_
    · intro cluster started asker gameId host member knocking
      simp [(started.1.empty asker).2] at knocking
    · intro before action after sound _ introduced step
      exact introduced.step sound step
  have sound := sounds cluster reached
  have ready := sound.valid.ready sound.coherent busy
  obtain ⟨client, found⟩ := sound.entry busy
  have healthy := ready.healthy (fun absurd => absurd)
  obtain rfl : _ = part := by simpa [currentSection_busy busy] using current
  cases pc with
  | receive =>
    obtain ⟨request, asked, join⟩ := joins
    rw [Ctx.runSection, Ctx.receive_request asked, Ctx.handleRequest]
    simp only [join]
    exact Ctx.handleJoin_calm found request.d
  | joinSet gameId => exact Ctx.joinSet_calm gameId
  | joinHost gameId =>
    exact Ctx.joinHost_calm found gameId (ready.relies client found)
      (ready.unseated (.inr (.inl ⟨gameId, rfl⟩)) found)
  | joinRegister gameId hostId nickname channel =>
    have wired : channel = party.id := ready.relies.2
    subst channel
    refine Ctx.joinRegister_calm (sound.valid.entries party.shardId) gameId hostId nickname ?_
    exact (introduced party gameId ⟨party.shardId, hostId⟩ rfl ready.stage).2
  | joinPurge gameId => exact Ctx.joinPurge_calm gameId
  | joinEnter gameId hostId hostNickname hostChannel nickname admitted =>
    refine Ctx.joinEnter_calm found gameId hostId hostNickname hostChannel nickname admitted ?_
    rintro rfl
    exact ready.unseated (.inr (.inr (.inr ⟨gameId, ⟨party.shardId, hostId⟩, rfl⟩))) found
  | joinForeign gameId => exact Ctx.joinForeign_calm healthy gameId
  | joinRefuse gameId => exact Ctx.joinRefuse_calm found gameId
  | _ => exact joins.elim

/-- The game and the host that the second client is about to register with. -/
def registering (cluster : Cluster) : Option (String × Uuid) :=
  match (cluster.node "a").reader 2 with
  | .busy _ _ (.joinRegister gameId hostId _ _) => some (gameId, hostId)
  | _ => none

theorem join_calm_knocking : ∃ cluster : Cluster, ∃ part,
    cluster.currentSection ⟨"a", 2⟩ = some part ∧ part.Calm := by
  let host : Party := ⟨"a", 1⟩
  let guest : Party := ⟨"a", 2⟩
  let oracle := Oracle.calm "17"
  obtain ⟨cluster, reached, seen⟩ := run_shows (started_empty "a" [])
    (show (run (guarded (healthyLocal "a") step) (launch emptyRedis []) (host.enters oracle ++
      guest.enters oracle ++ host.creates oracle ++ host.hosts oracle "17" ++
        guest.asks oracle 1 "Join" [("game_id", .string "17")])).bind registering =
          some ("17", 1) by decide +kernel)
  have healthy : Reach (Started guest.shardId) healthySteps cluster :=
    reached.mono fun _ _ _ _ step => (healthyLocal_healthy step).1
  unfold registering at seen
  split at seen
  · rename_i oracle model gameId hostId nickname channel busy
    have current :=
      currentSection_busy (show (cluster.node guest.shardId).reader guest.id = _ from busy)
    exact ⟨cluster, _, current, join_calm cluster guest healthy oracle model _ _ busy current trivial⟩
  · cases seen

end Join

end Cluster

end Grass
