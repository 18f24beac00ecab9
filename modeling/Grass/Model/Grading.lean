import Mathlib.Data.List.Sort
import Grass.Model.Game

/-! Grading of a submission: the public comparison, the private run, and the
two report builders (`Game::validate_code_test`). -/

namespace Grass

structure SandboxResponse where
  success : Bool
  stdout : List String
  stderr : List String
deriving DecidableEq, Repr

/-- The sandbox service: user, code and inputs to a response, or an error. -/
abbrev Sandbox := Uuid → String → List String → Option SandboxResponse

def compileCode (sandbox : Sandbox) (clientId : Uuid) (code : String) (stdin : List String) :
    Exit ClientError SandboxResponse :=
  match sandbox clientId code stdin with
  | some result => .ok result
  | none => .err (.internalServerError "internal compilation error")

/-- Remove one trailing newline, if there is one. -/
def chomp (line : String) : String :=
  if line.toList.getLast? = some '\n' then String.ofList line.toList.dropLast else line

/-- The outputs matched so far: as expected, or not. -/
structure Checked where
  finished : List (TestCase × String)
  failed : List (TestCase × String)

def Checked.none : Checked := ⟨[], []⟩

/-- The comparison loop, from the output at `index` on; an output without a
test case is an error. -/
def checkOutputs (tests : List TestCase) (index : Nat) : List String → Checked → Option Checked
  | [], checked => some checked
  | output :: rest, checked =>
    let line := chomp output
    match tests[index]? with
    | .none => .none
    | some test =>
      if line = test.expected then
        checkOutputs tests (index + 1) rest
          { checked with finished := checked.finished ++ [(test, line)] }
      else
        checkOutputs tests (index + 1) rest
          { checked with failed := checked.failed ++ [(test, line)] }

def failedReport (entry : TestCase × String) : PublicTestProgress :=
  .newFailed entry.1.id entry.2 entry.1.expected

/-- Mark the reports at the given indices as passed; `none` is an unwrap out of
bounds. -/
def markPassed : List Nat → List PublicTestProgress → Option (List PublicTestProgress)
  | [], reports => some reports
  | index :: rest, reports =>
    match reports[index]? with
    | none => none
    | some report => markPassed rest (reports.set index report.makeNotFailed)

/-- The report after a failed public run: all tests as failed, the passed prefix
flipped, the failed ones appended, and the whole sorted by test id. -/
def failureReport (checked : Checked) : Option (List PublicTestProgress) :=
  (markPassed (List.range checked.finished.length) (checked.finished.map failedReport)).map
    fun passed => (passed ++ checked.failed.map failedReport).insertionSort
      fun first second => first.testIndex ≤ second.testIndex

/-- The report after a passed public run, numbered by position. -/
def successReport (finished : List (TestCase × String)) : List PublicTestProgress :=
  finished.zipIdx.map fun (entry, index) => .new index entry.2 entry.1.expected

/-- Whose progress a passed submission is written to. -/
inductive Participant where
  | host
  | member (id : Uuid)
deriving DecidableEq, Repr

namespace Game

def participant (game : Game) (clientId : Uuid) : Exit ClientError Participant :=
  if !game.isHost then
    match game.connectedClients with
    | none => .panic
    | some roster =>
      if clientId ∈ roster then .ok (.member clientId)
      else .err (.clientDoesNotExist "Client does not exist in the game")
  else .ok .host

/-- `task_progress.as_mut().unwrap().insert(task_index, true)`. -/
def creditTask (game : Game) (who : Participant) (taskIndex : Nat) : Option Game :=
  match who with
  | .host => do
    let progress ← game.partialHost.taskProgress
    return { game with partialHost :=
      { game.partialHost with taskProgress := some (progress.insert taskIndex true) } }
  | .member id => do
    let roster ← game.connectedClients
    let client ← roster.lookup id
    let progress ← client.taskProgress
    return { game with connectedClients := some (roster.replace id
      { client with taskProgress := some (progress.insert taskIndex true) }) }

/-- The grading up to the private run: an answer, or what the private run needs. -/
inductive PublicVerdict where
  | answered (exit : Exit ClientError CompilationResponse)
  | passed (task : GameTask) (who : Participant) (reports : List PublicTestProgress)

def publicStage (game : Game) (clientId : Uuid) (taskIndex : Nat) (result : SandboxResponse) :
    PublicVerdict :=
  match game.getTaskIndexed taskIndex with
  | .error _ => .answered (.err .outOfRangeTask)
  | .ok task =>
    match game.participant clientId with
    | .err error => .answered (.err error)
    | .panic => .answered .panic
    | .ok who =>
      if !result.success then
        .answered (.ok {
          taskIndex, publicTestProgress := [], isDone := false, isDonePublicTests := false
          isDonePrivateTests := false, stderr := String.join result.stderr })
      else match checkOutputs task.publicTestCases 0 result.stdout .none with
        | none => .answered (.err (.internalServerError "task response length mismatch"))
        | some checked =>
          if checked.finished.length ≠ task.publicTestCases.length then
            match failureReport checked with
            | none => .answered .panic
            | some reports => .answered (.ok {
                taskIndex, publicTestProgress := reports, isDone := false
                isDonePublicTests := false, isDonePrivateTests := false
                stderr := result.stderr.head?.getD "" })
          else .passed task who (successReport checked.finished)

def privateStage (order : IterOrder) (closed : SocketSender → Bool) (sandbox : Sandbox)
    (game : Game) (clientId : Uuid) (taskIndex : Nat) (code : String) (task : GameTask)
    (who : Participant) (reports : List PublicTestProgress) :
    Game × Sending ClientError CompilationResponse :=
  match compileCode sandbox clientId code (task.privateTestCases.map TestCase.stdin) with
  | .err error => (game, ⟨.err error, []⟩)
  | .panic => (game, ⟨.panic, []⟩)
  | .ok result =>
    if !result.success then
      (game, pure {
        taskIndex, publicTestProgress := reports, isDone := false, isDonePublicTests := true
        isDonePrivateTests := false, stderr := String.join result.stderr })
    else match checkOutputs task.privateTestCases 0 result.stdout .none with
      | none => (game, ⟨.err (.internalServerError "task response length mismatch"), []⟩)
      | some checked =>
        if checked.finished.length ≠ task.privateTestCases.length then
          (game, pure {
            taskIndex, publicTestProgress := reports, isDone := false, isDonePublicTests := true
            isDonePrivateTests := false, stderr := result.stderr.head?.getD "" })
        else match game.creditTask who taskIndex with
          | none => (game, ⟨.panic, []⟩)
          | some game => (game, do
              (game.sendGlobal order closed (.gameEvent (.taskFinished task.serialize taskIndex
                clientId)) (some [clientId])).ignore
              return {
                taskIndex, publicTestProgress := reports, isDone := true
                isDonePublicTests := true, isDonePrivateTests := true, stderr := "" })

def validateCodeTest (order : IterOrder) (closed : SocketSender → Bool) (sandbox : Sandbox)
    (game : Game) (clientId : Uuid) (taskIndex : Nat) (code : String) (result : SandboxResponse) :
    Game × Sending ClientError CompilationResponse :=
  match game.publicStage clientId taskIndex result with
  | .answered exit => (game, ⟨exit, []⟩)
  | .passed task who reports =>
    game.privateStage order closed sandbox clientId taskIndex code task who reports

end Game

example : chomp "4\n" = "4" := by decide
example : chomp "4\n\n" = "4\n" := by decide

end Grass
