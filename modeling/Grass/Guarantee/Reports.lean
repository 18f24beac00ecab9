import Grass.Guarantee.Verdict
import Mathlib.Data.List.Perm.Subperm

namespace Grass

open Transition

/-- What a report says, without the verdict: the number, the line, the expectation. -/
def PublicTestProgress.label (report : PublicTestProgress) : Nat × String × String :=
  (report.testIndex, report.stdout, report.expected)

/-- Every report is about a test of its own, under the id of that test. -/
def LabelledById (tests : List TestCase) (stdout : List String)
    (reports : List PublicTestProgress) : Prop :=
  (reports.map PublicTestProgress.label).Subperm
    ((answered tests stdout).map fun entry => (entry.1.id, entry.2, entry.1.expected))

/-- Counting the tests gives each its own id, up to tests with the same expectation. -/
def NumberedById (tests : List TestCase) : Prop :=
  (tests.zipIdx.map fun (test, index) => (index, test.expected)).Perm
    (tests.map fun test => (test.id, test.expected))

variable {task : GameTask} {taskIndex : Nat} {result : SandboxResponse}

theorem labelled_failureReport {tests : List TestCase} {stdout : List String}
    {reports : List PublicTestProgress}
    (made : failureReport (.ofEntries (answered tests stdout)) = some reports) :
    LabelledById tests stdout reports := by
  obtain ⟨_, same, shuffled, -⟩ := failureReport_ofEntries (answered tests stdout)
  obtain rfl := Option.some.inj (made.symm.trans same)
  have labels := shuffled.map PublicTestProgress.label
  rw [List.map_map] at labels
  exact labels.subperm

/-- The report of a passed run is labelled by the ids exactly where counting gives them. -/
theorem labelled_successReport {tests : List TestCase} {stdout : List String}
    (met : stdout.map chomp = tests.map TestCase.expected) :
    LabelledById tests stdout (successReport (tests.map fun test => (test, test.expected))) ↔
      NumberedById tests := by
  let widen : Nat × String → Nat × String × String := fun pair => (pair.1, pair.2, pair.2)
  have injective : Function.Injective widen := by
    rintro ⟨first, _⟩ ⟨second, _⟩ same
    simpa [widen] using same
  have counted : (successReport (tests.map fun test => (test, test.expected))).map
      PublicTestProgress.label =
        (tests.zipIdx.map fun (test, index) => (index, test.expected)).map widen := by
    rw [successReport, List.zipIdx_map, List.map_map, List.map_map, List.map_map]
    rfl
  have identified : ((answered tests stdout).map fun entry =>
      (entry.1.id, entry.2, entry.1.expected)) =
        (tests.map fun test => (test.id, test.expected)).map widen := by
    rw [answered_expected met, List.map_map, List.map_map]
    rfl
  rw [LabelledById, counted, identified, List.map_subperm_map_iff injective, NumberedById]
  constructor
  · intro within
    exact within.perm_of_length_le (by simp)
  · exact List.Perm.subperm

namespace Game

variable {game : Game} {count : Nat}

/-- After a start that returned Ok, whatever has been called since, the report of a failed
public run has one entry for each line that was printed, sorted by the ids of the tests,
and no report that is marked is missing. -/
theorem failure_report_faithful (game : Game) (order : IterOrder) (closed : SocketSender → Bool)
    (choose : List GameTask → Nat → List GameTask) (availableTasks : List GameTask)
    (taskCount : Nat)
    (finished : (game.start order closed choose availableTasks taskCount).2.exit = .ok ())
    (later : Game) (reached : Reach (fun started =>
      started = (game.start order closed choose availableTasks taskCount).1) calls later)
    (meets : IterOrder) (unreachable : SocketSender → Bool) (sandbox : Sandbox) (clientId : Uuid)
    (taskIndex : Nat) (task : GameTask) (present : later.tasks[taskIndex]? = some task)
    (code : String) (result : SandboxResponse) (ran : result.success = true)
    (response : CompilationResponse)
    (returned : (later.validateCodeTest meets unreachable sandbox clientId taskIndex code
      result).2.exit = .ok response)
    (failed : response.isDonePublicTests = false) :
    result.stdout.length ≤ task.publicTestCases.length ∧
      response.publicTestProgress.Perm
        ((task.publicTestCases.zip (result.stdout.map chomp)).map fun (test, line) =>
          ⟨test.id, decide (line = test.expected), line, test.expected⟩) ∧
      response.publicTestProgress.Pairwise
        (fun first second => first.testIndex ≤ second.testIndex) ∧
      ∀ checked, checkOutputs task.publicTestCases 0 result.stdout .none = some checked →
        markPassed (List.range checked.finished.length) (checked.finished.map failedReport) ≠
          none := by
  have underway := (underway_of_start finished).reached reached
  rcases underway.stages meets unreachable sandbox clientId taskIndex code result present with
    ⟨exit, judged, same⟩ | ⟨progress, -, -, judged⟩
  · rw [same] at returned
    obtain rfl : exit = .ok response := returned
    cases judged with
    | crashed crashed => simp [ran] at crashed
    | wrong _ fits _ made =>
      obtain ⟨_, known, shuffled, sorted⟩ :=
        failureReport_ofEntries (answered task.publicTestCases result.stdout)
      obtain rfl := Option.some.inj (made.symm.trans known)
      refine ⟨fits, shuffled, sorted, fun checked _ => ?_⟩
      have marked := markPassed_all (checked.finished.map failedReport)
      rw [List.length_map] at marked
      simp [marked]
  · exact absurd (judged.shows returned).2 (by simp [failed])

/-- After a start that returned Ok, whatever has been called since, every response to a
submission labels its reports by the ids of the tests exactly where the public run is not
entirely as expected, or counting the tests gives their ids. -/
theorem labels_agree_iff (game : Game) (order : IterOrder) (closed : SocketSender → Bool)
    (choose : List GameTask → Nat → List GameTask) (availableTasks : List GameTask)
    (taskCount : Nat)
    (finished : (game.start order closed choose availableTasks taskCount).2.exit = .ok ())
    (later : Game) (reached : Reach (fun started =>
      started = (game.start order closed choose availableTasks taskCount).1) calls later)
    (taskIndex : Nat) (task : GameTask) (present : later.tasks[taskIndex]? = some task)
    (result : SandboxResponse) :
    (∀ meets unreachable sandbox clientId code response,
        (later.validateCodeTest meets unreachable sandbox clientId taskIndex code
          result).2.exit = .ok response →
        LabelledById task.publicTestCases result.stdout response.publicTestProgress) ↔
      (result.Meets task.publicTestCases → NumberedById task.publicTestCases) := by
  have underway := (underway_of_start finished).reached reached
  constructor
  · intro labelled met
    -- a private run that crashes still shows the report of the public one
    let crashing : Sandbox := fun _ _ _ => some ⟨false, [], []⟩
    rcases underway.stages order closed crashing 0 taskIndex "" result present with
      ⟨exit, judged, -⟩ | ⟨progress, -, -, judged⟩
    · exact absurd met judged.unmet.1
    · obtain ⟨response, returned⟩ := judged.crash rfl
      have shown := labelled _ _ _ _ _ response returned
      rwa [(judged.shows returned).1, labelled_successReport met.2] at shown
  · intro numbered meets unreachable sandbox clientId code response returned
    rcases underway.stages meets unreachable sandbox clientId taskIndex code result present with
      ⟨exit, judged, same⟩ | ⟨progress, -, met, judged⟩
    · rw [same] at returned
      obtain rfl : exit = .ok response := returned
      cases judged with
      | crashed failed => exact List.nil_subperm
      | wrong _ _ _ made => exact labelled_failureReport made
    · rw [(judged.shows returned).1]
      exact (labelled_successReport met.2).mpr (numbered met)

abbrev soloStarted (first second : Nat) : Game :=
  let self := PartialClient.new 1 "n" "a" true (some 1)
  ((Game.new true "17" self self).start .stored (fun _ => false) (fun tasks count => tasks.take count)
    [⟨7, "q", [⟨"1", "1", first⟩, ⟨"2", "4", second⟩], []⟩] 1).1

/-- The second line of a submission is wrong, and its test has the lower id. -/
theorem failure_report_faithful_swapped :
    let result : SandboxResponse := ⟨true, ["1\n", "5\n"], []⟩
    ∃ response, ((soloStarted 1 0).validateCodeTest .stored (fun _ => false) (fun _ _ _ => none) 1 0
        "code" result).2.exit = .ok response ∧
      response.publicTestProgress.Perm [⟨1, true, "1", "1"⟩, ⟨0, false, "5", "4"⟩] ∧
      response.publicTestProgress.Pairwise
        fun first second => first.testIndex ≤ second.testIndex := by
  intro result
  let self := PartialClient.new 1 "n" "a" true (some 1)
  let task : GameTask := ⟨7, "q", [⟨"1", "1", 1⟩, ⟨"2", "4", 0⟩], []⟩
  obtain ⟨-, reported, sorted, -⟩ := failure_report_faithful (.new true "17" self self) .stored
    (fun _ => false) (fun tasks count => tasks.take count) [task] 1 rfl (soloStarted 1 0) (.start rfl)
    .stored (fun _ => false) (fun _ _ _ => none) 1 0 task rfl "code" result rfl _ rfl rfl
  exact ⟨_, rfl, reported, sorted⟩

theorem labels_agree_counted :
    let result : SandboxResponse := ⟨true, ["1\n", "4\n"], []⟩
    ∀ sandbox response, ((soloStarted 0 1).validateCodeTest .stored (fun _ => false) sandbox 1 0
        "code" result).2.exit = .ok response →
      LabelledById [⟨"1", "1", 0⟩, ⟨"2", "4", 1⟩] result.stdout response.publicTestProgress := by
  intro result sandbox response returned
  let self := PartialClient.new 1 "n" "a" true (some 1)
  let task : GameTask := ⟨7, "q", [⟨"1", "1", 0⟩, ⟨"2", "4", 1⟩], []⟩
  exact (labels_agree_iff (.new true "17" self self) .stored (fun _ => false)
    (fun tasks count => tasks.take count) [task] 1 rfl (soloStarted 0 1) (.start rfl) 0 task rfl
    result).mpr (fun _ => .refl _) .stored (fun _ => false) sandbox 1 "code" response returned

/-- The same line of the same test, under the id of the test in a failed submission and
under its position in a passed one. -/
theorem labels_differ :
    let wrong : SandboxResponse := ⟨true, ["1\n", "5\n"], []⟩
    let right : SandboxResponse := ⟨true, ["1\n", "4\n"], []⟩
    let submit := fun result => ((soloStarted 3 5).validateCodeTest .stored (fun _ => false)
      (fun _ _ _ => some ⟨true, [], []⟩) 1 0 "code" result).2.exit
    (∃ response, submit wrong = .ok response ∧
      response.publicTestProgress = [⟨3, true, "1", "1"⟩, ⟨5, false, "5", "4"⟩]) ∧
    ∃ response, submit right = .ok response ∧
      response.publicTestProgress = [⟨0, true, "1", "1"⟩, ⟨1, true, "4", "4"⟩] ∧
      ¬ LabelledById [⟨"1", "1", 3⟩, ⟨"2", "4", 5⟩] right.stdout response.publicTestProgress := by
  intro wrong right submit
  refine ⟨⟨_, rfl, by decide +kernel⟩, _, rfl, by decide +kernel, fun labelled => ?_⟩
  have listed := labelled.subset (List.mem_map.mpr ⟨⟨0, true, "1", "1"⟩, by decide +kernel, rfl⟩)
  exact absurd listed (by decide +kernel)

end Game

end Grass
