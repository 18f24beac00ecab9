import Grass.Guarantee.Panics
import Grass.Refinement.Starts

namespace Grass

open Transition

/-- The inputs of the public test cases, as they are handed to the sandbox. -/
def GameTask.publicStdin (task : GameTask) : List String :=
  task.publicTestCases.map TestCase.stdin

/-- The stdin lists last handed to the sandbox, by the connection whose handler did it. -/
abbrev Handed := Party → List String

/-- A submission between its preparation and its grading: the host and the index it is
looked up by, and the inputs it runs on. -/
def Pc.submission (handed : List String) : Pc → Option (Uuid × Nat × List String)
  | .compileRun hostId request stdin => some (hostId, request.taskIndex, stdin)
  | .compileValidate hostId request _ => some (hostId, request.taskIndex, handed)
  | _ => none

theorem Game.prepareCodeTest_ok {game : Game} {taskIndex : Nat} {stdin : List String}
    (prepared : game.prepareCodeTest taskIndex = .ok stdin) :
    ∃ task, game.tasks[taskIndex]? = some task ∧ task.publicStdin = stdin := by
  unfold prepareCodeTest at prepared
  split at prepared
  · split at prepared <;> cases prepared
    rename_i task found
    exact ⟨task, (getTaskIndexed_ok found).2, rfl⟩
  · cases prepared
  · cases prepared

namespace Cluster

variable {before after : Cluster × Handed} {action : Action} {party : Party}

/-- A handler hands its inputs over in the section of the public run. -/
def hand (cluster : Cluster) (action : Action) (handed : Handed) : Handed :=
  match (cluster.node action.party.shardId).reader action.party.id with
  | .busy _ _ (.compileRun _ _ stdin) =>
    match action.kind with
    | .advance | .timeout _ => Function.update handed action.party stdin
    | _ => handed
  | _ => handed

theorem hand_cases (cluster : Cluster) (action : Action) (handed : Handed) :
    cluster.hand action handed = handed ∨
      ∃ stdin, cluster.hand action handed = Function.update handed action.party stdin := by
  unfold hand
  split
  · split
    · exact .inr ⟨_, rfl⟩
    · exact .inr ⟨_, rfl⟩
    · exact .inl rfl
  · exact .inl rfl

theorem hand_other {cluster : Cluster} {handed : Handed} (other : party ≠ action.party) :
    cluster.hand action handed party = handed party := by
  rcases hand_cases cluster action handed with same | ⟨stdin, same⟩
  · rw [same]
  · simp [same, other]

theorem hand_advance {cluster : Cluster} {handed : Handed} {oracle : Oracle} {model : DefaultModel}
    {hostId : Uuid} {request : CompileRequest} {stdin : List String}
    (advances : action.kind = .advance)
    (busy : (cluster.node action.party.shardId).reader action.party.id =
      .busy oracle model (.compileRun hostId request stdin)) :
    cluster.hand action handed action.party = stdin := by
  simp [hand, advances, busy]

theorem hand_submission {cluster : Cluster} {handed : Handed} {oracle : Oracle}
    {model : DefaultModel} {pc : Pc}
    (busy : (cluster.node action.party.shardId).reader action.party.id = .busy oracle model pc) :
    pc.submission (cluster.hand action handed action.party) =
      pc.submission (handed action.party) := by
  cases pc with
  | compileValidate => simp [hand, busy]
  | _ => rfl

/-- The steps, with a note of what was handed to the sandbox. -/
def notedSteps : Transition.Step (Cluster × Handed) Action := Step.ofOption (recording step hand)

/-- A submission that is answered with a compilation response, after a public run that
succeeded, was run on the inputs of the task that it is compared with. -/
def GradedAlike (state : Cluster × Handed) : Prop :=
  ∀ (party : Party) oracle model hostId request result part response,
    (state.1.node party.shardId).reader party.id =
      .busy oracle model (.compileValidate hostId request result) →
    state.1.currentSection party = some part → part.next = .goto (.compileReply response) →
    result.success = true →
    ∃ host game task, Ctx.compileGame (state.1.world party.shardId) hostId = .ok (host, game) ∧
      game.getTaskIndexed request.taskIndex = .ok task ∧ task.publicStdin = state.2 party

/-- A Start gives the host a task with other inputs at the index of a submission that has
been prepared against this host and is not graded yet. -/
def Reassigns (state : Cluster × Handed) (action : Action) : Prop :=
  ∃ tasks task id oracle model pc index stdin, state.1.Starts action tasks ∧
    (state.1.node action.party.shardId).reader id = .busy oracle model pc ∧
    pc.submission (state.2 ⟨action.party.shardId, id⟩) = some (action.party.id, index, stdin) ∧
    tasks[index]? = some task ∧ task.publicStdin ≠ stdin

def keepsTasks : Transition.Step (Cluster × Handed) Action :=
  fun before action _ => ¬ Reassigns before action

/-- A submission that waits for its grading would be graded on the inputs it runs on. -/
def Matched (state : Cluster × Handed) : Prop :=
  ∀ (party : Party) oracle model pc hostId index stdin tasks task,
    (state.1.node party.shardId).reader party.id = .busy oracle model pc →
    pc.submission (state.2 party) = some (hostId, index, stdin) →
    (state.1.world party.shardId).tasksAt hostId = some tasks → tasks[index]? = some task →
    task.publicStdin = stdin

theorem answered_from {ctx : Ctx} {world : World} {hostId : Uuid} {request : CompileRequest}
    {result : SandboxResponse} {response : CompilationResponse}
    (answers : (ctx.runSection world (.compileValidate hostId request result)).next =
      .goto (.compileReply response)) :
    ∃ host game task, Ctx.compileGame world hostId = .ok (host, game) ∧
      game.getTaskIndexed request.taskIndex = .ok task := by
  simp only [Ctx.runSection, Ctx.compileValidate] at answers
  split at answers
  · cases answers
  · rename_i host game found
    cases there : game.getTaskIndexed request.taskIndex with
    | ok task => exact ⟨host, game, task, found, there⟩
    | error => simp [Game.validateCodeTest, Game.publicStage, there] at answers

theorem submission_submits {pc : Pc} {handed : List String} {asked : Uuid × Nat × List String}
    (submitted : pc.submission handed = some asked) : pc.Submits := by
  cases pc with
  | compileRun | compileValidate => trivial
  | _ => cases submitted

theorem ran_to {ctx : Ctx} {world : World} {next : Pc} {hostId : Uuid} {request : CompileRequest}
    {stdin : List String}
    (going : (ctx.runSection world (.compileRun hostId request stdin)).next = .goto next) :
    ∃ result, next = .compileValidate hostId request result := by
  simp only [Ctx.runSection, Ctx.compileRun] at going
  split at going <;> cases going
  exact ⟨_, rfl⟩

theorem prepared_from {ctx : Ctx} {world : World} {next : Pc} {hostId : Uuid}
    {request : CompileRequest} (submits : next.Submits)
    (going : (ctx.runSection world (.compilePrepare hostId request)).next = .goto next) :
    ∃ tasks task, world.tasksAt hostId = some tasks ∧ tasks[request.taskIndex]? = some task ∧
      next = .compileRun hostId request task.publicStdin := by
  simp only [Ctx.runSection, Ctx.compilePrepare] at going
  split at going
  · cases going
    exact submits.elim
  · rename_i client game found
    obtain ⟨present, playing, started⟩ := Ctx.compileGame_found found
    split at going <;> cases going
    · rename_i stdin prepared
      obtain ⟨task, there, rfl⟩ := Game.prepareCodeTest_ok prepared
      refine ⟨game.tasks, task, ?_, there, rfl⟩
      exact World.tasksAt_iff.mpr ⟨game, by simp [World.gameAt, present, playing], started, rfl⟩
    · exact submits.elim

/-- The step brings a handler no submission of another task than it ran on before. -/
theorem Matched.step (matched : Matched before)
    (stepped : recording Cluster.step hand before action = some after)
    (kept : keepsTasks before action after) : Matched after := by
  obtain ⟨cluster, handed⟩ := before
  obtain ⟨later, written⟩ := after
  obtain ⟨stepped, rfl⟩ := recording_eq_some.mp stepped
  -- where the host's game was started before, or is started now
  have graded : ∀ (party : Party) oracle model pc hostId index stdin tasks task,
      (cluster.node party.shardId).reader party.id = .busy oracle model pc →
      pc.submission (handed party) = some (hostId, index, stdin) →
      (later.world party.shardId).tasksAt hostId = some tasks → tasks[index]? = some task →
      task.publicStdin = stdin := by
    intro party oracle model pc hostId index stdin tasks task busy submitted running there
    rcases @step_tasks _ _ _ _ stepped ⟨party.shardId, hostId⟩ running with earlier | ⟨own, begun⟩
    · exact matched party oracle model pc hostId index stdin tasks task busy submitted earlier there
    · by_contra other
      obtain ⟨⟨shardId, acting⟩, kind⟩ := action
      obtain ⟨rfl, rfl⟩ := by simpa using own
      exact kept ⟨tasks, task, party.id, oracle, model, pc, index, stdin, begun, busy, submitted,
        there, other⟩
  intro party oracle model pc hostId index stdin tasks task busy submitted running there
  by_cases other : party ≠ action.party
  · rw [(step_other stepped party other).1] at busy
    have same : cluster.hand action handed party = handed party := hand_other other
    have submitted : pc.submission (handed party) = some (hostId, index, stdin) := by
      rwa [← same]
    exact graded party oracle model pc hostId index stdin tasks task busy submitted running there
  obtain rfl : party = action.party := not_not.mp other
  rcases step_reader stepped busy with same | rfl | rfl | ⟨earlier, part, advances, was, current, going⟩
  · have submitted : pc.submission (handed action.party) = some (hostId, index, stdin) := by
      rwa [← hand_submission same]
    exact graded _ oracle model pc hostId index stdin tasks task same submitted running there
  · cases submitted
  · cases submitted
  · obtain rfl : _ = part := by simpa [currentSection_busy was] using current
    have submits := submission_submits submitted
    rcases (Ctx.runSection_runs earlier).next pc going submits with
      ⟨host, request, rfl⟩ | ⟨host, request, inputs, rfl⟩
    · obtain ⟨prepared, chosen, held, here, rfl⟩ := prepared_from submits going
      obtain ⟨rfl, rfl, rfl⟩ : host = hostId ∧ request.taskIndex = index ∧
        chosen.publicStdin = stdin := by simpa [Pc.submission] using submitted
      rcases @step_tasks _ _ _ _ stepped ⟨action.party.shardId, host⟩ running with
        same | ⟨-, -, _, _, _, receiving, starts⟩
      · obtain rfl : prepared = tasks := Option.some.inj (held.symm.trans same)
        obtain rfl : chosen = task := Option.some.inj (here.symm.trans there)
        rfl
      · rw [was] at receiving
        cases receiving
        cases starts.receives
    · obtain ⟨result, rfl⟩ := ran_to going
      obtain ⟨rfl, rfl, rfl⟩ : host = hostId ∧ request.taskIndex = index ∧
        cluster.hand action handed action.party = stdin := by simpa [Pc.submission] using submitted
      rw [hand_advance advances was]
      exact graded _ oracle model _ host request.taskIndex inputs tasks task was rfl running there

/-- Under every interleaving in which no Start gives a host another task while a
submission against its present one is on its way, that submission is graded against the
inputs it was run on. -/
theorem graded_alike (state : Cluster × Handed)
    (reached : Reach (fun state => state.1.Fresh) (notedSteps.when keepsTasks) state) :
    GradedAlike state := by
  have matched : Matched state := by
    apply reached.invariant
    · intro state fresh party oracle model pc _ _ _ _ _ busy
      obtain ⟨tasks, started⟩ := fresh party.shardId
      simp [started, Node.fresh] at busy
    · exact fun _ _ _ matched step => matched.step step.1 step.2
  intro party oracle model hostId request result part response busy current answers _
  obtain rfl : _ = part := by simpa [currentSection_busy busy] using current
  obtain ⟨host, game, task, found, there⟩ := answered_from answers
  obtain ⟨present, playing, started⟩ := Ctx.compileGame_found found
  refine ⟨host, game, task, found, there, ?_⟩
  exact matched party oracle model _ hostId request.taskIndex (state.2 party) game.tasks task busy
    rfl (World.tasksAt_iff.mpr ⟨game, by simp [World.gameAt, present, playing], started, rfl⟩)
    (Game.getTaskIndexed_ok there).2

/-- Two clients act, and nobody's message is received while a submission is on its way. -/
def quietly (state : Cluster × Handed) (action : Action) : Bool :=
  let submits (id : Uuid) : Bool := match (state.1.node "a").reader id with
    | .busy _ _ (.compileRun _ _ _) | .busy _ _ (.compileValidate _ _ _) => true
    | _ => false
  let receives : Bool := match (state.1.node "a").reader action.party.id with
    | .busy _ _ .receive => true
    | _ => false
  decide (action.party = ⟨"a", 1⟩ ∨ action.party = ⟨"a", 2⟩) &&
    !(receives && (submits 1 || submits 2))

def notedLaunch (availableTasks : List GameTask) : Cluster × Handed :=
  (launch emptyRedis availableTasks, fun _ => [])

variable {availableTasks : List GameTask} {state : Cluster × Handed}

theorem quietly_absent (reached : Reach (· = notedLaunch availableTasks)
      (Step.ofOption (guarded quietly (recording step hand))) state) :
    ∀ id, id ≠ 1 → id ≠ 2 → (state.1.node "a").reader id = .absent := by
  apply reached.invariant
  · rintro _ rfl id - -
    rfl
  · intro before action after idle step id one two
    obtain ⟨quiet, taken⟩ := guarded_eq_some.mp step
    obtain ⟨acts, -⟩ := Bool.and_eq_true_iff.mp quiet
    have other : (⟨"a", id⟩ : Party) ≠ action.party := by
      intro same
      rcases of_decide_eq_true acts with acts | acts <;> rw [acts] at same <;> cases same
      · exact one rfl
      · exact two rfl
    exact (step_other (recording_eq_some.mp taken).1 ⟨"a", id⟩ other).1.trans (idle id one two)

theorem quietly_keeps (reached : Reach (· = notedLaunch availableTasks)
      (Step.ofOption (guarded quietly (recording step hand))) state) :
    Reach (fun state => state.1.Fresh) (notedSteps.when keepsTasks) state := by
  induction reached with
  | start initial =>
    subst initial
    exact .start (launch_fresh emptyRedis availableTasks)
  | @next before action after earlier taken ih =>
    obtain ⟨quiet, taken⟩ := guarded_eq_some.mp taken
    refine .next ih ⟨taken, ?_⟩
    rintro ⟨tasks, task, id, oracle, model, pc, index, stdin, starts, busy, submitted, -⟩
    obtain ⟨-, _, _, _, receiving, begins⟩ := starts
    obtain rfl := begins.receives
    simp only [quietly, Bool.and_eq_true, decide_eq_true_eq, Bool.not_eq_true'] at quiet
    obtain ⟨acts, quiet⟩ := quiet
    have here : action.party.shardId = "a" := by
      rcases acts with acts | acts <;> rw [acts]
    rw [here] at receiving busy
    simp only [receiving, Bool.true_and, Bool.or_eq_false_iff] at quiet
    have submits := submission_submits submitted
    have absent := quietly_absent earlier id
    cases pc with
    | compileRun | compileValidate =>
      by_cases one : id = 1
      · subst one
        simp [busy] at quiet
      · by_cases two : id = 2
        · subst two
          simp [busy] at quiet
        · simp [busy, one, two] at absent
    | _ => exact submits.elim

/-- What the submission of the second client was run on, and what it is compared with. -/
def runAndCompared (state : Cluster × Handed) : Option (List String × List String) :=
  match (state.1.node "a").reader 2, state.1.currentSection ⟨"a", 2⟩ with
  | .busy _ _ (.compileValidate hostId request result), some part =>
    match part.next, Ctx.compileGame (state.1.world "a") hostId with
    | .goto (.compileReply _), .ok (_, game) =>
      if result.success then
        game.tasks[request.taskIndex]?.map fun task => (state.2 ⟨"a", 2⟩, task.publicStdin)
      else none
    | _, _ => none
  | _, _ => none

theorem runAndCompared_seen {ranOn comparedWith : List String}
    (seen : runAndCompared state = some (ranOn, comparedWith)) :
    ∃ oracle model hostId request result part response,
      (state.1.node "a").reader 2 = .busy oracle model (.compileValidate hostId request result) ∧
      state.1.currentSection ⟨"a", 2⟩ = some part ∧ part.next = .goto (.compileReply response) ∧
      result.success = true ∧ state.2 ⟨"a", 2⟩ = ranOn ∧
      ∀ host game task, Ctx.compileGame (state.1.world "a") hostId = .ok (host, game) →
        game.getTaskIndexed request.taskIndex = .ok task → task.publicStdin = comparedWith := by
  unfold runAndCompared at seen
  split at seen
  · rename_i oracle model hostId request result part busy current
    split at seen
    · rename_i response host game answers found
      split at seen
      · rename_i success
        obtain ⟨task, there, same⟩ := Option.map_eq_some_iff.mp seen
        cases same
        refine ⟨oracle, model, hostId, request, result, part, response, busy, current, answers,
          success, rfl, fun other otherGame otherTask again indexed => ?_⟩
        cases found.symm.trans again
        cases there.symm.trans (Game.getTaskIndexed_ok indexed).2
        rfl
      · cases seen
    · cases seen
  · cases seen

theorem graded_alike_submission : ∃ state : Cluster × Handed,
    runAndCompared state = some (["1 2"], ["1 2"]) ∧ GradedAlike state := by
  have shows : (run (guarded quietly (recording step hand)) (notedLaunch [sampleTask])
      (submission "a" 1)).bind runAndCompared = some (["1 2"], ["1 2"]) := by decide +kernel
  obtain ⟨state, ran, seen⟩ := Option.bind_eq_some_iff.mp shows
  exact ⟨state, seen, graded_alike state (quietly_keeps (run_reach _ (.start rfl) ran))⟩

/-- While the submission runs, its host leaves, opens another game and starts that with
another task. -/
def reassignment : List Action :=
  let reopened := { Oracle.calm "18" with choose := fun tasks count => tasks.reverse.take count }
  let host : Party := ⟨"a", 1⟩
  submission "a" 1 ++ host.leaves (.calm "18") ++ host.creates (.calm "18") ++
    host.hosts (.calm "18") "18" ++ host.asks reopened 1 "Start" [("task_count", .integer 1)]

def otherTask : GameTask := ⟨6, "mul", [⟨"3 3", "9", 1⟩], []⟩

theorem reassignment_differs : ¬ ∀ state,
    Reach (fun state : Cluster × Handed => state.1.Fresh) notedSteps state →
    GradedAlike state := by
  intro always
  have shows : (run (recording step hand) (notedLaunch [sampleTask, otherTask])
      reassignment).bind runAndCompared = some (["1 2"], ["3 3"]) := by decide +kernel
  obtain ⟨state, ran, seen⟩ := Option.bind_eq_some_iff.mp shows
  obtain ⟨oracle, model, hostId, request, result, part, response, busy, current, answers, success,
    handed, compared⟩ := runAndCompared_seen seen
  obtain ⟨host, game, task, found, there, same⟩ := always state
    (run_reach reassignment (.start (launch_fresh emptyRedis _)) ran) ⟨"a", 2⟩ oracle model hostId
    request result part response busy current answers success
  have wrong := compared host game task found there
  rw [same, handed] at wrong
  exact absurd wrong (by decide)

end Cluster

end Grass
