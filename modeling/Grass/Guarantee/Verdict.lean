import Grass.Guarantee.Underway
import Grass.Refinement.Comparison

/-! What a submission to a started game is answered, whose progress records it, and
how its public tests are labelled. -/

namespace Grass

open Transition

/-- The three flags of a response. -/
structure Score where
  isDone : Bool
  isDonePublicTests : Bool
  isDonePrivateTests : Bool
deriving DecidableEq, Repr

namespace Score

def failed : Score := ⟨false, false, false⟩

def publicOnly : Score := ⟨false, true, false⟩

def full : Score := ⟨true, true, true⟩

end Score

def CompilationResponse.score (response : CompilationResponse) : Score where
  isDone := response.isDone
  isDonePublicTests := response.isDonePublicTests
  isDonePrivateTests := response.isDonePrivateTests

def Exit.map (f : α → β) : Exit ε α → Exit ε β
  | .ok value => .ok (f value)
  | .err error => .err error
  | .panic => .panic

/-- The submission is declared done. -/
def Exit.Done (exit : Exit ClientError CompilationResponse) : Prop :=
  ∃ response, exit = .ok response ∧ response.isDone = true

/-- What the public run of a submission comes to, of a host's game. -/
inductive PublicCase (task : GameTask) (taskIndex : Nat) (result : SandboxResponse) :
    Game.PublicVerdict → Prop where
  | crashed (failed : result.success = false) :
      PublicCase task taskIndex result (.answered (.ok {
        taskIndex, publicTestProgress := [], isDone := false, isDonePublicTests := false
        isDonePrivateTests := false, stderr := String.join result.stderr }))
  | tooLong (ran : result.success = true)
      (long : task.publicTestCases.length < result.stdout.length) :
      PublicCase task taskIndex result
        (.answered (.err (.internalServerError "task response length mismatch")))
  | wrong (ran : result.success = true)
      (fits : result.stdout.length ≤ task.publicTestCases.length)
      (differs : result.stdout.map chomp ≠ task.publicTestCases.map TestCase.expected)
      (made : failureReport (.ofEntries (answered task.publicTestCases result.stdout)) =
        some reports) :
      PublicCase task taskIndex result (.answered (.ok {
        taskIndex, publicTestProgress := reports, isDone := false, isDonePublicTests := false
        isDonePrivateTests := false, stderr := result.stderr.head?.getD "" }))
  | right (met : result.Meets task.publicTestCases) :
      PublicCase task taskIndex result (.passed task .host
        (successReport (task.publicTestCases.map fun test => (test, test.expected))))

/-- The game with a task of the host done. -/
def Game.credited (game : Game) (progress : Progress) (taskIndex : Nat) : Game :=
  { game with partialHost :=
    { game.partialHost with taskProgress := some (progress.insert taskIndex true) } }

/-- What the private run comes to, and the game after it. -/
inductive PrivateCase (game : Game) (progress : Progress) (taskIndex : Nat) (task : GameTask)
    (reports : List PublicTestProgress) (outcome : Option SandboxResponse) :
    Game → Exit ClientError CompilationResponse → Prop where
  | unavailable (missing : outcome = none) :
      PrivateCase game progress taskIndex task reports outcome game
        (.err (.internalServerError "internal compilation error"))
  | crashed (ran : outcome = some answer) (failed : answer.success = false) :
      PrivateCase game progress taskIndex task reports outcome game (.ok {
        taskIndex, publicTestProgress := reports, isDone := false, isDonePublicTests := true
        isDonePrivateTests := false, stderr := String.join answer.stderr })
  | tooLong (ran : outcome = some answer) (succeeded : answer.success = true)
      (long : task.privateTestCases.length < answer.stdout.length) :
      PrivateCase game progress taskIndex task reports outcome game
        (.err (.internalServerError "task response length mismatch"))
  | wrong (ran : outcome = some answer) (succeeded : answer.success = true)
      (fits : answer.stdout.length ≤ task.privateTestCases.length)
      (differs : answer.stdout.map chomp ≠ task.privateTestCases.map TestCase.expected) :
      PrivateCase game progress taskIndex task reports outcome game (.ok {
        taskIndex, publicTestProgress := reports, isDone := false, isDonePublicTests := true
        isDonePrivateTests := false, stderr := answer.stderr.head?.getD "" })
  | right (ran : outcome = some answer) (met : answer.Meets task.privateTestCases) :
      PrivateCase game progress taskIndex task reports outcome (game.credited progress taskIndex)
        (.ok {
          taskIndex, publicTestProgress := reports, isDone := true, isDonePublicTests := true
          isDonePrivateTests := true, stderr := "" })

theorem SandboxResponse.Meets.fits {result : SandboxResponse} {tests : List TestCase}
    (met : result.Meets tests) : result.stdout.length = tests.length := by
  simpa using congrArg List.length met.2

theorem PublicCase.unmet {task : GameTask} {taskIndex : Nat} {result : SandboxResponse}
    {exit : Exit ClientError CompilationResponse}
    (judged : PublicCase task taskIndex result (.answered exit)) :
    ¬ result.Meets task.publicTestCases ∧ ¬ exit.Done := by
  cases judged with
  | crashed failed => simp [SandboxResponse.Meets, failed, Exit.Done]
  | tooLong ran long =>
    refine ⟨fun met => ?_, by simp [Exit.Done]⟩
    have fits := met.fits
    omega
  | wrong ran fits differs made => simp [SandboxResponse.Meets, differs, Exit.Done]

section PrivateCase

variable {game after : Game} {progress : Progress} {taskIndex : Nat} {task : GameTask}
  {reports : List PublicTestProgress} {outcome : Option SandboxResponse}
  {exit : Exit ClientError CompilationResponse}

/-- Only a submission that passes the private run too is done, and recorded. -/
theorem PrivateCase.settled
    (judged : PrivateCase game progress taskIndex task reports outcome after exit) :
    ((∃ answer, outcome = some answer ∧ answer.Meets task.privateTestCases) ∧ exit.Done ∧
        after = game.credited progress taskIndex) ∨
      ((¬ ∃ answer, outcome = some answer ∧ answer.Meets task.privateTestCases) ∧ ¬ exit.Done ∧
        after = game) := by
  cases judged with
  | unavailable missing => exact .inr ⟨by simp [missing], by simp [Exit.Done], rfl⟩
  | crashed ran failed =>
    exact .inr ⟨by simp [ran, SandboxResponse.Meets, failed], by simp [Exit.Done], rfl⟩
  | tooLong ran succeeded long =>
    refine .inr ⟨?_, by simp [Exit.Done], rfl⟩
    rintro ⟨answer, same, met⟩
    obtain rfl := Option.some.inj (ran.symm.trans same)
    have fits := met.fits
    omega
  | wrong ran succeeded fits differs =>
    exact .inr ⟨by simp [ran, SandboxResponse.Meets, differs], by simp [Exit.Done], rfl⟩
  | right ran met => exact .inl ⟨⟨_, ran, met⟩, by simp [Exit.Done], rfl⟩

theorem PrivateCase.shows {response : CompilationResponse}
    (judged : PrivateCase game progress taskIndex task reports outcome after exit)
    (returned : exit = .ok response) :
    response.publicTestProgress = reports ∧ response.isDonePublicTests = true := by
  cases judged <;> cases returned <;> exact ⟨rfl, rfl⟩

theorem PrivateCase.crash {answer : SandboxResponse}
    (judged : PrivateCase game progress taskIndex task reports (some answer) after exit)
    (failed : answer.success = false) : ∃ response, exit = .ok response := by
  cases judged with
  | unavailable missing => cases missing
  | tooLong ran succeeded long =>
    cases ran
    simp [failed] at succeeded
  | _ => exact ⟨_, rfl⟩

end PrivateCase

namespace Game

variable {game later : Game} {count taskIndex : Nat} {task : GameTask}

/-- The public stage of a host's game, for a task it has. -/
theorem publicStage_case (host : game.isHost = true)
    (found : game.getTaskIndexed taskIndex = .ok task) (clientId : Uuid)
    (result : SandboxResponse) :
    PublicCase task taskIndex result (game.publicStage clientId taskIndex result) := by
  have submitter : game.participant clientId = .ok .host := by simp [participant, host]
  simp only [publicStage, found, submitter]
  cases ran : result.success with
  | false => exact .crashed ran
  | true =>
    simp only [Bool.not_true, Bool.false_eq_true, ↓reduceIte]
    rw [checkOutputs_eq]
    by_cases fits : result.stdout.length ≤ task.publicTestCases.length
    · simp only [fits, ↓reduceIte]
      by_cases met : result.stdout.map chomp = task.publicTestCases.map TestCase.expected
      · have everyone : (Checked.ofEntries (answered task.publicTestCases result.stdout)).finished =
            task.publicTestCases.map fun test => (test, test.expected) := by
          simp [answered_expected met, Checked.ofEntries, asExpected]
        simp only [everyone, List.length_map, ne_eq, not_true_eq_false, ↓reduceIte]
        exact .right ⟨ran, met⟩
      · have short := (finished_length_iff fits).not.mpr met
        obtain ⟨reports, made, -⟩ :=
          failureReport_ofEntries (answered task.publicTestCases result.stdout)
        simp only [short, ne_eq, not_false_eq_true, ↓reduceIte, made]
        exact .wrong ran fits met made
    · simp only [fits, ↓reduceIte]
      exact .tooLong ran (by omega)

/-- The private stage of a host's game that tracks its progress. -/
theorem Staffed.privateStage_case {roster : Roster} (staffed : game.Staffed roster)
    {progress : Progress} (tracked : game.partialHost.taskProgress = some progress)
    (order : IterOrder) (closed : SocketSender → Bool) (sandbox : Sandbox) (clientId : Uuid)
    (taskIndex : Nat) (code : String) (task : GameTask) (reports : List PublicTestProgress) :
    PrivateCase game progress taskIndex task reports
      (sandbox clientId code (task.privateTestCases.map TestCase.stdin))
      (game.privateStage order closed sandbox clientId taskIndex code task .host reports).1
      (game.privateStage order closed sandbox clientId taskIndex code task .host
        reports).2.exit := by
  unfold privateStage compileCode
  cases ran : sandbox clientId code (task.privateTestCases.map TestCase.stdin) with
  | none => exact .unavailable rfl
  | some answer =>
    cases succeeded : answer.success with
    | false =>
      simp only [succeeded, Bool.not_false, ↓reduceIte]
      exact .crashed rfl succeeded
    | true =>
      simp only [succeeded, Bool.not_true, Bool.false_eq_true, ↓reduceIte]
      rw [checkOutputs_eq]
      by_cases fits : answer.stdout.length ≤ task.privateTestCases.length
      · simp only [fits, ↓reduceIte]
        by_cases met : answer.stdout.map chomp = task.privateTestCases.map TestCase.expected
        · have complete := (finished_length_iff fits).mpr met
          have recorded : game.creditTask .host taskIndex =
              some (game.credited progress taskIndex) := by
            simp [creditTask, tracked, credited]
          have kept : (game.credited progress taskIndex).Staffed roster :=
            ⟨staffed.isHost, staffed.clients, staffed.wired, staffed.host⟩
          have told := @Sending.ignore_exit _ _ ClientError _ (kept.sendGlobal_calm order closed
            (.gameEvent (.taskFinished task.serialize taskIndex clientId)) (some [clientId]))
          simp only [complete, ne_eq, not_true_eq_false, ↓reduceIte, recorded]
          rw [Sending.bind_exit_ok _ told]
          exact .right rfl ⟨succeeded, met⟩
        · have short := (finished_length_iff fits).not.mpr met
          simp only [short, ne_eq, not_false_eq_true, ↓reduceIte]
          exact .wrong rfl succeeded fits met
      · simp only [fits, ↓reduceIte]
        exact .tooLong rfl succeeded (by omega)

section Underway

variable (underway : game.Underway count) (order : IterOrder) (closed : SocketSender → Bool)
  (sandbox : Sandbox) (clientId : Uuid) (taskIndex : Nat) (code : String)
  (result : SandboxResponse)

include underway

theorem Underway.missing (absent : game.tasks[taskIndex]? = none) :
    game.validateCodeTest order closed sandbox clientId taskIndex code result =
      (game, ⟨.err .outOfRangeTask, []⟩) := by
  simp [Game.validateCodeTest, publicStage, getTaskIndexed, underway.running.isStarted, absent]

/-- A submission is answered after its public run, or after the private one. -/
theorem Underway.stages (present : game.tasks[taskIndex]? = some task) :
    (∃ exit, PublicCase task taskIndex result (.answered exit) ∧
        game.validateCodeTest order closed sandbox clientId taskIndex code result =
          (game, ⟨exit, []⟩)) ∨
      ∃ progress, game.partialHost.taskProgress = some progress ∧
        result.Meets task.publicTestCases ∧
        PrivateCase game progress taskIndex task
          (successReport (task.publicTestCases.map fun test => (test, test.expected)))
          (sandbox clientId code (task.privateTestCases.map TestCase.stdin))
          (game.validateCodeTest order closed sandbox clientId taskIndex code result).1
          (game.validateCodeTest order closed sandbox clientId taskIndex code result).2.exit := by
  have found : game.getTaskIndexed taskIndex = .ok task := by
    simp [getTaskIndexed, underway.running.isStarted, present]
  obtain ⟨roster, staffed⟩ := underway.staffed
  obtain ⟨progress, tracked, -⟩ := underway.running.host
  have public_case := publicStage_case underway.running.isHost found clientId result
  rw [Game.validateCodeTest]
  generalize game.publicStage clientId taskIndex result = stage at public_case ⊢
  cases public_case with
  | crashed failed => exact .inl ⟨_, .crashed failed, rfl⟩
  | tooLong ran long => exact .inl ⟨_, .tooLong ran long, rfl⟩
  | wrong ran fits differs made => exact .inl ⟨_, .wrong ran fits differs made, rfl⟩
  | right met =>
    exact .inr ⟨progress, tracked, met, staffed.privateStage_case tracked order closed sandbox
      clientId taskIndex code task _⟩

end Underway

/-- What a submission is to be answered, in terms of the two runs alone. -/
def grade (game : Game) (sandbox : Sandbox) (clientId : Uuid) (taskIndex : Nat) (code : String)
    (result : SandboxResponse) : Exit ClientError Score :=
  match game.tasks[taskIndex]? with
  | none => .err .outOfRangeTask
  | some task =>
    if result.success = false then .ok .failed
    else if task.publicTestCases.length < result.stdout.length then
      .err (.internalServerError "task response length mismatch")
    else if result.stdout.map chomp ≠ task.publicTestCases.map TestCase.expected then .ok .failed
    else match sandbox clientId code (task.privateTestCases.map TestCase.stdin) with
      | none => .err (.internalServerError "internal compilation error")
      | some answer =>
        if answer.success = false then .ok .publicOnly
        else if task.privateTestCases.length < answer.stdout.length then
          .err (.internalServerError "task response length mismatch")
        else if answer.stdout.map chomp ≠ task.privateTestCases.map TestCase.expected then
          .ok .publicOnly
        else .ok .full

/-- Both runs of a submission for a task of the game are all as expected. -/
def Accepts (game : Game) (sandbox : Sandbox) (clientId : Uuid) (taskIndex : Nat) (code : String)
    (result : SandboxResponse) : Prop :=
  ∃ task, game.tasks[taskIndex]? = some task ∧ result.Meets task.publicTestCases ∧
    ∃ answer, sandbox clientId code (task.privateTestCases.map TestCase.stdin) = some answer ∧
      answer.Meets task.privateTestCases

section Graded

variable (underway : game.Underway count) (order : IterOrder) (closed : SocketSender → Bool)
  (sandbox : Sandbox) (clientId : Uuid) (taskIndex : Nat) (code : String)
  (result : SandboxResponse)

include underway

theorem Underway.graded :
    (game.validateCodeTest order closed sandbox clientId taskIndex code result).2.exit.map
        CompilationResponse.score =
      game.grade sandbox clientId taskIndex code result := by
  unfold grade
  cases present : game.tasks[taskIndex]? with
  | none =>
    rw [underway.missing order closed sandbox clientId taskIndex code result present]
    rfl
  | some task =>
    rcases underway.stages order closed sandbox clientId taskIndex code result present with
      ⟨exit, judged, same⟩ | ⟨progress, -, met, judged⟩
    · rw [same]
      cases judged with
      | crashed failed => simp [failed, Exit.map, CompilationResponse.score, Score.failed]
      | tooLong ran long => simp [ran, long, Exit.map]
      | wrong ran fits differs made =>
        simp [ran, fits, differs, Exit.map, CompilationResponse.score, Score.failed]
    · have fits := met.fits
      generalize (game.validateCodeTest order closed sandbox clientId taskIndex code result).1 =
        after at judged
      generalize (game.validateCodeTest order closed sandbox clientId taskIndex code result).2.exit =
        exit at judged ⊢
      simp only [met.1, fits, met.2, Bool.true_eq_false, lt_irrefl, ne_eq, not_true_eq_false,
        ↓reduceIte]
      cases judged with
      | unavailable missing => simp [missing, Exit.map]
      | crashed ran failed =>
        simp [ran, failed, Exit.map, CompilationResponse.score, Score.publicOnly]
      | tooLong ran succeeded long => simp [ran, succeeded, long, Exit.map]
      | wrong ran succeeded fits differs =>
        simp [ran, succeeded, fits, differs, Exit.map, CompilationResponse.score, Score.publicOnly]
      | right ran met =>
        simp [ran, met.1, met.2, met.fits, Exit.map, CompilationResponse.score, Score.full]

/-- A submission whose runs are both as expected is done, and sets the host's flag; any
other is not, and changes nothing. -/
theorem Underway.recorded : ∃ progress, game.partialHost.taskProgress = some progress ∧
    ((game.Accepts sandbox clientId taskIndex code result ∧
        (game.validateCodeTest order closed sandbox clientId taskIndex code result).2.exit.Done ∧
        (game.validateCodeTest order closed sandbox clientId taskIndex code result).1 =
          game.credited progress taskIndex) ∨
      (¬ game.Accepts sandbox clientId taskIndex code result ∧
        ¬ (game.validateCodeTest order closed sandbox clientId taskIndex code result).2.exit.Done ∧
        (game.validateCodeTest order closed sandbox clientId taskIndex code result).1 = game)) := by
  obtain ⟨progress, tracked, -⟩ := underway.running.host
  refine ⟨progress, tracked, ?_⟩
  cases present : game.tasks[taskIndex]? with
  | none =>
    rw [underway.missing order closed sandbox clientId taskIndex code result present]
    refine .inr ⟨?_, by simp [Exit.Done], rfl⟩
    rintro ⟨task, found, -⟩
    simp [present] at found
  | some task =>
    rcases underway.stages order closed sandbox clientId taskIndex code result present with
      ⟨exit, judged, same⟩ | ⟨other, known, met, judged⟩
    · obtain ⟨unmet, undone⟩ := judged.unmet
      rw [same]
      refine .inr ⟨?_, undone, rfl⟩
      rintro ⟨other, found, met, -⟩
      obtain rfl : task = other := Option.some.inj (present.symm.trans found)
      exact unmet met
    · obtain rfl : progress = other := Option.some.inj (tracked.symm.trans known)
      rcases judged.settled with ⟨accepted, done, after⟩ | ⟨refused, undone, after⟩
      · exact .inl ⟨⟨task, present, met, accepted⟩, done, after⟩
      · refine .inr ⟨?_, undone, after⟩
        rintro ⟨other, found, -, accepted⟩
        obtain rfl : task = other := Option.some.inj (present.symm.trans found)
        exact refused accepted

end Graded

/-- After a start that returned Ok, whatever has been called since, every submission is
answered as its two runs deserve, and is done exactly where both are as expected. -/
theorem grading_exact (game : Game) (order : IterOrder) (closed : SocketSender → Bool)
    (choose : List GameTask → Nat → List GameTask) (availableTasks : List GameTask)
    (taskCount : Nat)
    (finished : (game.start order closed choose availableTasks taskCount).2.exit = .ok ())
    (later : Game) (reached : Reach (fun started =>
      started = (game.start order closed choose availableTasks taskCount).1) calls later)
    (meets : IterOrder) (unreachable : SocketSender → Bool) (sandbox : Sandbox) (clientId : Uuid)
    (taskIndex : Nat) (code : String) (result : SandboxResponse) :
    (later.validateCodeTest meets unreachable sandbox clientId taskIndex code result).2.exit.map
        CompilationResponse.score = later.grade sandbox clientId taskIndex code result ∧
      ((later.validateCodeTest meets unreachable sandbox clientId taskIndex code
          result).2.exit.Done ↔ later.Accepts sandbox clientId taskIndex code result) := by
  have underway := (underway_of_start finished).reached reached
  refine ⟨underway.graded meets unreachable sandbox clientId taskIndex code result, ?_⟩
  obtain ⟨-, -, ⟨accepted, done, -⟩ | ⟨refused, undone, -⟩⟩ :=
    underway.recorded meets unreachable sandbox clientId taskIndex code result
  · exact iff_of_true done accepted
  · exact iff_of_false undone refused

/-- A submission with a trailing newline to a task without private tests. -/
theorem grading_exact_newline :
    let self := PartialClient.new 1 "n" "a" true (some 1)
    let task : GameTask := ⟨7, "q", [⟨"1", "1", 0⟩], []⟩
    let choose := fun (tasks : List GameTask) count => tasks.take count
    let started := ((Game.new true "17" self self).start .stored (fun _ => false) choose [task] 1).1
    let sandbox : Sandbox := fun _ _ _ => some ⟨true, [], []⟩
    (started.validateCodeTest .stored (fun _ => false) sandbox 1 0 "code"
      ⟨true, ["1\n"], []⟩).2.exit.Done := by
  intro self task choose started sandbox
  apply (grading_exact (.new true "17" self self) .stored (fun _ => false) choose [task] 1 rfl
    started (.start rfl) .stored (fun _ => false) sandbox 1 0 "code" ⟨true, ["1\n"], []⟩).2.mpr
  exact ⟨task, rfl, ⟨rfl, by decide⟩, _, rfl, rfl, rfl⟩

end Game

end Grass
