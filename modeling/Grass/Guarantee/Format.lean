import Grass.Model.Format
import Mathlib.Data.List.InsertIdx
import Mathlib.Data.Nat.Digits.Lemmas

namespace Grass

section Written

variable {uuid : Uuid → String}

theorem usize_inj {first second : Nat} : Value.usize first = .usize second ↔ first = second := by
  simp only [Value.usize, Value.integer.injEq]
  omega

theorem map_document_inj {α : Type} {document : α → Value}
    (inj : ∀ {one other}, document one = document other → one = other) {first second : List α} :
    first.map document = second.map document ↔ first = second :=
  List.map_inj_right fun _ _ => inj

theorem TestCase.document_inj {first second : TestCase} (same : first.document = second.document) :
    first = second := by
  obtain ⟨_, _, _⟩ := first
  obtain ⟨_, _, _⟩ := second
  simpa [document, usize_inj] using same

theorem PublicTestProgress.document_inj {first second : PublicTestProgress}
    (same : first.document = second.document) : first = second := by
  obtain ⟨_, _, _, _⟩ := first
  obtain ⟨_, _, _, _⟩ := second
  simpa [document, usize_inj] using same

theorem CompilationResponse.document_inj {first second : CompilationResponse}
    (same : first.document = second.document) : first = second := by
  obtain ⟨_, _, _, _, _, _⟩ := first
  obtain ⟨_, _, _, _, _, _⟩ := second
  simpa [document, usize_inj, map_document_inj PublicTestProgress.document_inj] using same

theorem ClientError.document_inj {first second : ClientError}
    (same : first.document = second.document) : first = second := by
  cases first <;> cases second <;> simp_all [document]

theorem OpCode.name_inj {first second : OpCode} (same : first.name = second.name) : first = second :=
  Option.some.inj (by rw [← ofName_name first, same, ofName_name])

theorem Value.option_inj {first second : Option Value} (given : first ≠ some .null)
    (told : second ≠ some .null) (same : option first = option second) : first = second := by
  cases first <;> cases second <;> simp_all [option]

theorem DefaultModel.document_inj {first second : DefaultModel} (given : first.d ≠ some .null)
    (told : second.d ≠ some .null) (same : first.document = second.document) : first = second := by
  obtain ⟨op, d⟩ := first
  obtain ⟨other, e⟩ := second
  simp only [document, Value.object.injEq, List.cons.injEq, Prod.mk.injEq, Value.string.injEq,
    true_and, and_true] at same
  obtain rfl := OpCode.name_inj same.1
  obtain rfl : d = e := Value.option_inj given told same.2
  rfl

variable (distinct : Function.Injective uuid)

include distinct

theorem SerializedTask.document_inj {first second : SerializedTask}
    (same : first.document uuid = second.document uuid) : first = second := by
  obtain ⟨_, _, _⟩ := first
  obtain ⟨_, _, _⟩ := second
  simpa [document, distinct.eq_iff, map_document_inj TestCase.document_inj] using same

theorem GameEvent.document_inj {first second : GameEvent}
    (same : first.document uuid = second.document uuid) : first = second := by
  cases first <;> cases second <;>
    simp [document, payload, opCode, GameEventOpCode.name, usize_inj, distinct.eq_iff] at same ⊢
  · exact same
  · exact ⟨SerializedTask.document_inj distinct same.1, same.2⟩
  · exact same
  · exact same

theorem Response.document_inj {first second : Response}
    (given : ∀ model, first = .timeout model → model.d ≠ some .null)
    (told : ∀ model, second = .timeout model → model.d ≠ some .null)
    (same : first.document uuid = second.document uuid) : first = second := by
  cases first <;> cases second <;>
    simp [document, payload, opCode, ResponseOpCode.name] at same ⊢
  case task.task => exact SerializedTask.document_inj distinct same
  case timeout.timeout one other => exact DefaultModel.document_inj (given _ rfl) (told _ rfl) same
  case compile.compile => exact CompilationResponse.document_inj same
  all_goals exact same

/-- What a Timeout repeats is what some text was read as. -/
def Message.Echoes (message : Message) : Prop :=
  ∀ model, message = .response (.timeout model) → ∃ text, DefaultModel.fromStr text = some model

omit distinct in
theorem DefaultModel.fromStr_present {text : Value} {model : DefaultModel}
    (read : fromStr text = some model) : model.d ≠ some .null := by
  have option : ∀ value : Value, value.asOption ≠ some .null := by
    intro value same
    cases value <;> simp [Value.asOption] at same
  unfold fromStr at read
  split at read
  · split at read
    · simp only [Option.bind_eq_bind, Option.bind_eq_some_iff, Option.pure_def,
        Option.some.injEq] at read
      obtain ⟨op, -, rfl⟩ := read
      intro same
      obtain ⟨value, -, present⟩ := Option.bind_eq_some_iff.mp same
      exact option value present
    · cases read
  · simp only [Option.bind_eq_bind, Option.bind_eq_some_iff, Option.pure_def,
      Option.some.injEq] at read
    obtain ⟨op, -, rfl⟩ := read
    exact option _
  · cases read

end Written

/-- Different messages are written as different frames. -/
theorem frames_differ (uuid : Uuid → String) (distinct : Function.Injective uuid)
    (first second : Message) (given : first.Echoes) (told : second.Echoes)
    (differ : first ≠ second) : first.frame uuid ≠ second.frame uuid := by
  intro same
  refine differ ?_
  cases first <;> cases second <;>
    simp [Message.frame, DefaultModel.document, OpCode.name, Value.option] at same ⊢
  case hello.hello => exact distinct same
  case error.error => exact ClientError.document_inj same
  case gameEvent.gameEvent => exact GameEvent.document_inj distinct same
  case response.response =>
    have present : ∀ {answer : Response}, (Message.response answer).Echoes →
        ∀ model, answer = .timeout model → model.d ≠ some .null := by
      rintro answer echoes model rfl
      obtain ⟨text, read⟩ := echoes model rfl
      exact DefaultModel.fromStr_present read
    exact Response.document_inj distinct (present given) (present told) same
  all_goals exact same

/-- The digits of an id, the last one first, and zeros up to 32 of them. -/
def Uuid.digits (id : Uuid) : List Nat :=
  Nat.digits 16 id ++ List.replicate (32 - (Nat.digits 16 id).length) 0

/-- Hexadecimal digits in groups of 8, 4, 4, 4 and 12. -/
def Uuid.hyphenated (id : Uuid) : String :=
  .ofList (((((id.digits.reverse.map Nat.digitChar).insertIdx 8 '-').insertIdx 13 '-').insertIdx 18
    '-').insertIdx 23 '-')

example : Uuid.hyphenated 0x67e5504410b1426f9247bb680e5fe0c8 =
    "67e55044-10b1-426f-9247-bb680e5fe0c8" := by rfl

theorem Uuid.digits_lt {id : Uuid} {digit : Nat} (member : digit ∈ digits id) : digit < 16 := by
  simp only [digits, List.mem_append, List.mem_replicate] at member
  rcases member with digit | ⟨-, rfl⟩
  · exact Nat.digits_lt_base (by decide) digit
  · decide

theorem Uuid.digits_inj {first second : Uuid} (same : digits first = digits second) :
    first = second := by
  have told := congrArg (Nat.ofDigits 16) same
  simpa [digits, Nat.ofDigits_append, Nat.ofDigits_digits] using told

theorem Uuid.hyphenated_inj : Function.Injective hyphenated := by
  intro first second same
  simp only [hyphenated, String.ofList_inj] at same
  have letters := List.insertIdx_injective _ _ (List.insertIdx_injective _ _
    (List.insertIdx_injective _ _ (List.insertIdx_injective _ _ same)))
  rw [List.map_reverse, List.map_reverse, List.reverse_inj] at letters
  -- every letter stands for one digit
  have read : ∀ digit < 16, "0123456789abcdef".toList.idxOf digit.digitChar = digit := by decide
  have back : ∀ id : Uuid, (id.digits.map Nat.digitChar).map "0123456789abcdef".toList.idxOf =
      id.digits := by
    intro id
    rw [List.map_map]
    exact (List.map_congr_left fun digit member => read digit (digits_lt member)).trans
      (List.map_id _)
  exact digits_inj (by rw [← back first, letters, back])

theorem frames_differ_timeout :
    (Message.response (.timeout ⟨.request, none⟩)).frame Uuid.hyphenated ≠
      (Message.response (.timeout ⟨.hello, none⟩)).frame Uuid.hyphenated := by
  refine frames_differ Uuid.hyphenated Uuid.hyphenated_inj _ _ ?_ ?_ (by simp)
  · rintro _ ⟨⟩
    exact ⟨.object [("op", .string "Request")], rfl⟩
  · rintro _ ⟨⟩
    exact ⟨.array [.string "Hello", .null], rfl⟩

end Grass
