import Grass.Model.Grading

namespace Grass

/-- The tests, each with the line it was answered by. -/
def answered (tests : List TestCase) (stdout : List String) : List (TestCase × String) :=
  tests.zip (stdout.map chomp)

def asExpected (entry : TestCase × String) : Bool :=
  decide (entry.2 = entry.1.expected)

def Checked.ofEntries (entries : List (TestCase × String)) : Checked where
  finished := entries.filter asExpected
  failed := entries.filter fun entry => !asExpected entry

/-- The run went well, and printed what the tests expect, test by test. -/
def SandboxResponse.Meets (result : SandboxResponse) (tests : List TestCase) : Prop :=
  result.success = true ∧ result.stdout.map chomp = tests.map TestCase.expected

/-- What a test and the line it was answered by are to be reported as. -/
def testReport (entry : TestCase × String) : PublicTestProgress :=
  ⟨entry.1.id, asExpected entry, entry.2, entry.1.expected⟩

variable {tests : List TestCase} {stdout : List String}

private theorem checkOutputs_from (tests : List TestCase) (index : Nat) (stdout : List String)
    (checked : Checked) (room : index ≤ tests.length) :
    checkOutputs tests index stdout checked =
      if index + stdout.length ≤ tests.length then
        some ⟨checked.finished ++ (Checked.ofEntries (answered (tests.drop index) stdout)).finished,
          checked.failed ++ (Checked.ofEntries (answered (tests.drop index) stdout)).failed⟩
      else none := by
  induction stdout generalizing index checked with
  | nil => simp [checkOutputs, answered, Checked.ofEntries, room]
  | cons output rest ih =>
    by_cases inside : index < tests.length
    · have next : answered (tests.drop index) (output :: rest) =
          (tests[index], chomp output) :: answered (tests.drop (index + 1)) rest := by
        rw [answered, List.drop_eq_getElem_cons inside, List.map_cons, List.zip_cons_cons]
        rfl
      have counted : index + (output :: rest).length = index + 1 + rest.length := by
        simp only [List.length_cons]
        omega
      rw [checkOutputs, List.getElem?_eq_getElem inside, next, counted]
      by_cases same : chomp output = tests[index].expected
      · have passed : asExpected (tests[index], chomp output) = true := by simp [asExpected, same]
        simp only [same, ↓reduceIte, Checked.ofEntries, List.filter_cons]
        rw [ih _ _ inside, ← same]
        simp [passed, Checked.ofEntries]
      · have missed : asExpected (tests[index], chomp output) = false := by simp [asExpected, same]
        simp only [same, ↓reduceIte, Checked.ofEntries, List.filter_cons]
        rw [ih _ _ inside]
        simp [missed, Checked.ofEntries]
    · have missing : tests[index]? = none := List.getElem?_eq_none (by omega)
      rw [checkOutputs, missing, if_neg]
      simp only [List.length_cons]
      omega

/-- The loop fails on a line too many, and otherwise sorts the tests into those answered
as expected and the others. -/
theorem checkOutputs_eq (tests : List TestCase) (stdout : List String) :
    checkOutputs tests 0 stdout .none =
      if stdout.length ≤ tests.length then some (.ofEntries (answered tests stdout)) else none := by
  simpa [Checked.none] using checkOutputs_from tests 0 stdout .none (Nat.zero_le _)

theorem answered_expected (met : stdout.map chomp = tests.map TestCase.expected) :
    answered tests stdout = tests.map fun test => (test, test.expected) := by
  rw [answered, met, List.zip_eq_zipWith, List.zipWith_map_right, List.zipWith_self]

/-- All tests are answered as expected exactly where the two lists agree. -/
theorem finished_length_iff (fits : stdout.length ≤ tests.length) :
    (Checked.ofEntries (answered tests stdout)).finished.length = tests.length ↔
      stdout.map chomp = tests.map TestCase.expected := by
  have paired : (answered tests stdout).length = stdout.length := by
    simp [answered, fits]
  constructor
  · intro complete
    have most := List.length_filter_le asExpected (answered tests stdout)
    have everyone := List.length_filter_eq_length_iff.mp
      (show (List.filter asExpected (answered tests stdout)).length =
        (answered tests stdout).length by simp only [Checked.ofEntries] at complete; omega)
    have level : tests.length = (stdout.map chomp).length := by
      simp only [Checked.ofEntries] at complete
      simp only [List.length_map]
      omega
    calc stdout.map chomp
        = (answered tests stdout).map Prod.snd := (List.map_snd_zip level.ge).symm
      _ = (answered tests stdout).map fun entry => entry.1.expected :=
          List.map_congr_left fun entry listed => by simpa [asExpected] using everyone entry listed
      _ = ((answered tests stdout).map Prod.fst).map TestCase.expected := by
          rw [List.map_map]
          rfl
      _ = tests.map TestCase.expected := by rw [answered, List.map_fst_zip level.le]
  · intro met
    rw [answered_expected met]
    simp [Checked.ofEntries, asExpected, List.filter_map, Function.comp_def]

private theorem markPassed_from (marked rest : List PublicTestProgress) :
    markPassed (List.range' marked.length rest.length) (marked ++ rest) =
      some (marked ++ rest.map PublicTestProgress.makeNotFailed) := by
  induction rest generalizing marked with
  | nil => simp [markPassed]
  | cons report rest ih =>
    have here : (marked ++ report :: rest)[marked.length]? = some report := by simp
    have flipped : (marked ++ report :: rest).set marked.length report.makeNotFailed =
        (marked ++ [report.makeNotFailed]) ++ rest := by simp
    have later := ih (marked ++ [report.makeNotFailed])
    rw [List.length_append, List.length_singleton] at later
    rw [List.length_cons, List.range'_succ, markPassed, here]
    simp only
    rw [flipped, later]
    simp

theorem markPassed_all (reports : List PublicTestProgress) :
    markPassed (List.range reports.length) reports =
      some (reports.map PublicTestProgress.makeNotFailed) := by
  rw [List.range_eq_range']
  exact markPassed_from [] reports

/-- The report of a failed run is made, sorted, and up to order that of each test. -/
theorem failureReport_ofEntries (entries : List (TestCase × String)) :
    ∃ reports, failureReport (.ofEntries entries) = some reports ∧
      reports.Perm (entries.map testReport) ∧
      reports.Pairwise (fun first second => first.testIndex ≤ second.testIndex) := by
  let finished := entries.filter asExpected
  let failed := entries.filter fun entry => !asExpected entry
  have marked := markPassed_all (finished.map failedReport)
  rw [List.length_map] at marked
  have flipped : (finished.map failedReport).map PublicTestProgress.makeNotFailed =
      finished.map testReport := by
    rw [List.map_map]
    refine List.map_congr_left fun entry listed => ?_
    have passed := (List.mem_filter.mp listed).2
    simp [failedReport, testReport, PublicTestProgress.newFailed,
      PublicTestProgress.makeNotFailed, passed]
  have kept : failed.map failedReport = failed.map testReport := by
    refine List.map_congr_left fun entry listed => ?_
    have missed := (List.mem_filter.mp listed).2
    simp only [Bool.not_eq_eq_eq_not, Bool.not_true] at missed
    simp [failedReport, testReport, PublicTestProgress.newFailed, missed]
  have made : failureReport (.ofEntries entries) = some (((finished ++ failed).map
      testReport).insertionSort fun first second => first.testIndex ≤ second.testIndex) := by
    rw [List.map_append, ← kept, ← flipped]
    exact congrArg (Option.map _) marked
  refine ⟨_, made, ?_, ?_⟩
  · exact (List.perm_insertionSort _ _).trans ((List.filter_append_perm asExpected entries).map _)
  · have total : Std.Total fun first second : PublicTestProgress =>
        first.testIndex ≤ second.testIndex := ⟨fun first second => Nat.le_total _ _⟩
    have transitive : IsTrans PublicTestProgress fun first second =>
        first.testIndex ≤ second.testIndex := ⟨fun _ _ _ => Nat.le_trans⟩
    exact List.pairwise_insertionSort _ _

end Grass
