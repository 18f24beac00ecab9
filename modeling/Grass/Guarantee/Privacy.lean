import Grass.Model.Grading

namespace Grass

def CompilationResponse.verdict (response : CompilationResponse) : Bool × Bool × Bool :=
  (response.isDone, response.isDonePublicTests, response.isDonePrivateTests)

/-- How the run on the private test cases ends. -/
inductive PrivateRun where
  | refused (error : ClientError)
  | rejected (stderr : String)
  | accepted
deriving DecidableEq

def privateRun (sandbox : Sandbox) (clientId : Uuid) (code : String) (tests : List TestCase) :
    PrivateRun :=
  match sandbox clientId code (tests.map TestCase.stdin) with
  | none => .refused (.internalServerError "internal compilation error")
  | some result =>
    if !result.success then .rejected (String.join result.stderr)
    else match checkOutputs tests 0 result.stdout .none with
      | none => .refused (.internalServerError "task response length mismatch")
      | some checked =>
        if checked.finished.length ≠ tests.length then .rejected (result.stderr.head?.getD "")
        else .accepted

namespace Game

/-- The same game, but for the private test cases of one task. -/
def withPrivate (taskIndex : Nat) (tests : List TestCase) (game : Game) : Game :=
  { game with tasks := game.tasks.modify taskIndex fun task =>
      { task with privateTestCases := tests } }

variable (order : IterOrder) (closed : SocketSender → Bool) (sandbox : Sandbox) (game : Game)
  (tests : List TestCase) (clientId : Uuid) (taskIndex : Nat) (code : String)
  (result : SandboxResponse)

/-- The answer after a private run that ended so, and what it sends. -/
def privateAnswer (task : SerializedTask) (who : Participant) (reports : List PublicTestProgress) :
    PrivateRun → Sending ClientError CompilationResponse
  | .refused error => ⟨.err error, []⟩
  | .rejected stderr => ⟨.ok {
      taskIndex, publicTestProgress := reports, isDone := false, isDonePublicTests := true
      isDonePrivateTests := false, stderr }, []⟩
  | .accepted =>
    match game.creditTask who taskIndex with
    | none => ⟨.panic, []⟩
    | some game => do
      (game.sendGlobal order closed (.gameEvent (.taskFinished task taskIndex clientId))
        (some [clientId])).ignore
      return {
        taskIndex, publicTestProgress := reports, isDone := true, isDonePublicTests := true
        isDonePrivateTests := true, stderr := "" }

theorem privateStage_answer (task : GameTask) (who : Participant)
    (reports : List PublicTestProgress) :
    (game.privateStage order closed sandbox clientId taskIndex code task who reports).2 =
      game.privateAnswer order closed clientId taskIndex task.serialize who reports
        (privateRun sandbox clientId code task.privateTestCases) := by
  simp only [privateStage, privateRun, compileCode]
  cases sandbox clientId code (task.privateTestCases.map TestCase.stdin) with
  | none => rfl
  | some response =>
    cases succeeded : response.success with
    | false => simp [succeeded, privateAnswer, pure]
    | true =>
      simp only [succeeded, Bool.not_true, Bool.false_eq_true, ↓reduceIte]
      cases checkOutputs task.privateTestCases 0 response.stdout .none with
      | none => rfl
      | some checked =>
        by_cases short : checked.finished.length ≠ task.privateTestCases.length
        · simp [short, privateAnswer, pure]
        · simp only [short, ↓reduceIte, privateAnswer]
          cases game.creditTask who taskIndex <;> rfl

theorem getTaskIndexed_withPrivate :
    (game.withPrivate taskIndex tests).getTaskIndexed taskIndex =
      (game.getTaskIndexed taskIndex).map fun task => { task with privateTestCases := tests } := by
  simp only [getTaskIndexed, withPrivate, List.getElem?_modify_eq]
  split
  · cases game.tasks[taskIndex]? <;> rfl
  · rfl

theorem publicStage_withPrivate :
    (game.withPrivate taskIndex tests).publicStage clientId taskIndex result =
      match game.publicStage clientId taskIndex result with
      | .answered exit => .answered exit
      | .passed task who reports =>
        .passed { task with privateTestCases := tests } who reports := by
  simp only [publicStage, getTaskIndexed_withPrivate]
  cases game.getTaskIndexed taskIndex with
  | error reason => rfl
  | ok task =>
    have same : (game.withPrivate taskIndex tests).participant clientId =
      game.participant clientId := rfl
    simp only [Except.map, same]
    repeat' split
    all_goals simp_all

theorem creditTask_withPrivate (who : Participant) :
    (game.withPrivate taskIndex tests).creditTask who taskIndex =
      (game.creditTask who taskIndex).map (withPrivate taskIndex tests) := by
  cases who with
  | host =>
    simp only [creditTask, withPrivate]
    cases game.partialHost.taskProgress <;> rfl
  | member id =>
    simp only [creditTask, withPrivate]
    cases game.connectedClients with
    | none => rfl
    | some roster =>
      cases found : roster.lookup id with
      | none => simp [found]
      | some client =>
        cases progress : client.taskProgress with
        | none => simp [found, progress]
        | some done =>
          simp only [found, progress, Option.bind_eq_bind, Option.bind_some, Option.pure_def,
            Option.map_some]
          rfl

theorem privateAnswer_withPrivate (task : SerializedTask) (who : Participant)
    (reports : List PublicTestProgress) (run : PrivateRun) :
    (game.withPrivate taskIndex tests).privateAnswer order closed clientId taskIndex task who
        reports run =
      game.privateAnswer order closed clientId taskIndex task who reports run := by
  cases run with
  | refused | rejected => rfl
  | accepted =>
    simp only [privateAnswer, creditTask_withPrivate]
    cases game.creditTask who taskIndex <;> rfl

theorem privateAnswer_accepted {task : SerializedTask} {who : Participant}
    {reports : List PublicTestProgress} {response : CompilationResponse}
    (answered : (game.privateAnswer order closed clientId taskIndex task who reports
      .accepted).exit = .ok response) : response.isDone = true := by
  simp only [privateAnswer] at answered
  cases credited : game.creditTask who taskIndex with
  | none => simp [credited] at answered
  | some after =>
    simp only [credited, bind] at answered
    split at answered
    · obtain rfl := by simpa using answered
      rfl
    · cases answered
    · cases answered

/-- Two private runs show in the answers beyond the flags exactly where both are
rejected with different texts. -/
theorem privateAnswer_same_iff (task : SerializedTask) (who : Participant)
    (reports : List PublicTestProgress) (run other : PrivateRun) :
    (∀ first second,
      (game.privateAnswer order closed clientId taskIndex task who reports run).exit = .ok first →
      (game.privateAnswer order closed clientId taskIndex task who reports other).exit =
        .ok second → first.verdict = second.verdict →
      first = second ∧
        (game.privateAnswer order closed clientId taskIndex task who reports run).sent =
        (game.privateAnswer order closed clientId taskIndex task who reports other).sent) ↔
      ∀ first second, run = .rejected first → other = .rejected second → first = second := by
  cases run with
  | refused error => simp [privateAnswer]
  | rejected stderr =>
    cases other with
    | refused error => simp [privateAnswer]
    | rejected text =>
      constructor
      · rintro same first second ⟨⟩ ⟨⟩
        exact congrArg CompilationResponse.stderr (same _ _ rfl rfl rfl).1
      · intro same first second one two _
        obtain rfl := same stderr text rfl rfl
        exact ⟨Exit.ok.inj (one.symm.trans two), rfl⟩
    | accepted =>
      refine iff_of_true (fun first second one two flags => ?_) (by simp)
      have done := game.privateAnswer_accepted order closed clientId taskIndex two
      obtain rfl := Exit.ok.inj one
      simp [CompilationResponse.verdict, done] at flags
  | accepted =>
    cases other with
    | refused error => simp [privateAnswer]
    | rejected text =>
      refine iff_of_true (fun first second one two flags => ?_) (by simp)
      have done := game.privateAnswer_accepted order closed clientId taskIndex one
      obtain rfl := Exit.ok.inj two
      simp [CompilationResponse.verdict, done] at flags
    | accepted =>
      refine iff_of_true (fun first second one two _ => ⟨?_, rfl⟩) (by simp)
      exact Exit.ok.inj (one.symm.trans two)

/-- For two games that differ in the private test cases of the graded task: where the
flags agree, so do the answers and the events. -/
def PrivateKept : Prop :=
  ∀ first second,
    (game.validateCodeTest order closed sandbox clientId taskIndex code result).2.exit =
      .ok first →
    ((game.withPrivate taskIndex tests).validateCodeTest order closed sandbox clientId taskIndex
      code result).2.exit = .ok second →
    first.verdict = second.verdict →
    first = second ∧
      (game.validateCodeTest order closed sandbox clientId taskIndex code result).2.sent =
      ((game.withPrivate taskIndex tests).validateCodeTest order closed sandbox clientId taskIndex
        code result).2.sent

/-- The private test cases stay private exactly unless both private runs are rejected
with different texts from the sandbox. -/
theorem private_kept_iff :
    game.PrivateKept order closed sandbox tests clientId taskIndex code result ↔
      ∀ task who reports first second,
        game.publicStage clientId taskIndex result = .passed task who reports →
        privateRun sandbox clientId code task.privateTestCases = .rejected first →
        privateRun sandbox clientId code tests = .rejected second → first = second := by
  have stage := game.publicStage_withPrivate tests clientId taskIndex result
  cases passed : game.publicStage clientId taskIndex result with
  | answered exit =>
    simp only [PrivateKept, validateCodeTest, stage, passed]
    refine iff_of_true (fun first second one other _ => ⟨?_, trivial⟩) (by simp)
    exact Exit.ok.inj (one.symm.trans other)
  | passed task who reports =>
    have serialized : ({ task with privateTestCases := tests } : GameTask).serialize =
      task.serialize := rfl
    simp only [PrivateKept, validateCodeTest, stage, passed, privateStage_answer,
      privateAnswer_withPrivate, serialized]
    rw [privateAnswer_same_iff]
    constructor
    · rintro same _ _ _ first second ⟨⟩ one two
      exact same first second one two
    · intro same first second one two
      exact same task who reports first second rfl one two

/-- A program that ends with an error and its input as the message. -/
def echo : Sandbox := fun _ _ stdin => some ⟨false, [], stdin⟩

/-- A started game of one task, whose host passes the public test. -/
def oneTask : Game :=
  let host := PartialClient.new 1 "n" "a" true (some 1)
  { Game.new true "17" host host with
    isStarted := true, tasks := [⟨5, "add", [⟨"1 2", "3", 0⟩], [⟨"3 4", "7", 0⟩]⟩] }

/-- The error text of the private run is sent to the client: a submission that prints
its input there reads the private tests. -/
theorem stderr_reveals : ¬ ∀ order closed sandbox (game : Game) tests clientId taskIndex code result,
    game.PrivateKept order closed sandbox tests clientId taskIndex code result := by
  intro kept
  have revealed := kept .stored (fun _ => false) echo oneTask [⟨"5 6", "11", 0⟩] 1 0 "program"
    ⟨true, ["3"], []⟩
  have same := (revealed _ _ rfl rfl rfl).1
  exact absurd same (by decide)

end Game

end Grass
