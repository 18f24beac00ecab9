import Grass.Model.Service

/-! What a race of three futures comes to, and how a server process ends. -/

namespace Grass

open Future

universe u v w

namespace Select

variable {Event : Type u} {A B C : Type v} {α β γ : Type w}

/-- Only the third future has a value to tell. -/
def told : α ⊕ β ⊕ γ → Option γ
  | .inl _ => none
  | .inr (.inl _) => none
  | .inr (.inr value) => some value

theorem outcome_told (pollA : Poller Event A α) (pollB : Poller Event B β)
    (pollC : Poller Event C γ) (a : A) (b : B) (c : C) (events : List Event) :
    outcome (poll pollA pollB pollC) (select a b c) events =
      ((outcome pollA a events).first
        ((outcome pollB b events).first (outcome pollC c events))).map told := by
  induction events generalizing a b c with
  | nil => rfl
  | cons event rest ih =>
    -- a future is polled only where the ones before it are pending
    rcases polledA : pollA event a with _ | ⟨value | _, nextA⟩
    · simp [outcome, Select.poll, select, polledA, Outcome.first_now, Outcome.map]
    · simp [outcome, Select.poll, select, polledA, Outcome.first_now, Outcome.map, told]
    rcases polledB : pollB event b with _ | ⟨value | _, nextB⟩
    · simp [outcome, Select.poll, select, polledA, polledB, Outcome.first_now,
        Outcome.delayed_first_now, Outcome.map]
    · simp [outcome, Select.poll, select, polledA, polledB, Outcome.first_now,
        Outcome.delayed_first_now, Outcome.map, told]
    rcases polledC : pollC event c with _ | ⟨value | _, nextC⟩
    · simp [outcome, Select.poll, select, polledA, polledB, polledC, Outcome.delayed_first_now,
        Outcome.map]
    · simp [outcome, Select.poll, select, polledA, polledB, polledC, Outcome.delayed_first_now,
        Outcome.map, told]
    · rw [outcome_waits polledA, outcome_waits polledB, outcome_waits polledC,
        Outcome.first_delay, Outcome.first_delay, Outcome.map_delay, ← ih]
      exact outcome_waits (by simp [Select.poll, select, polledA, polledB, polledC])

theorem poll_decided {pollA : Poller Event A α} {pollB : Poller Event B β}
    {pollC : Poller Event C γ} {event : Event} {self next : Select A B C} {result : Option γ}
    (decided : poll pollA pollB pollC event self = some (.ready result, next)) :
    next = ⟨none⟩ := by
  simp only [poll] at decided
  repeat' split at decided
  all_goals cases decided
  all_goals rfl

/-- Whatever the three futures are and whatever happens between the polls: the race ends
with the first of them to end, the earlier one of several that end at once, and tells the
third one's value only; and a poll after that is a panic. -/
theorem races (pollA : Poller Event A α) (pollB : Poller Event B β) (pollC : Poller Event C γ) :
    (∀ a b c events, outcome (poll pollA pollB pollC) (select a b c) events =
      ((outcome pollA a events).first
        ((outcome pollB b events).first (outcome pollC c events))).map told) ∧
    ∀ event self result next, poll pollA pollB pollC event self = some (.ready result, next) →
      ∀ later, poll pollA pollB pollC later next = none := by
  refine ⟨outcome_told pollA pollB pollC, fun event self result next decided later => ?_⟩
  rw [poll_decided decided]
  rfl

end Select

namespace Service

/-- No task has ended, and nothing has come over the error channel. -/
def Quiet (glimpse : Glimpse) : Prop :=
  glimpse.websockets = false ∧ glimpse.presence = false ∧ glimpse.channel = .waiting

/-- How a run ends where it finds the process like this. -/
def ending (glimpse : Glimpse) : Ending :=
  if glimpse.websockets || glimpse.presence then .returned
  else match glimpse.channel with
    | .sent error => .exited error.code
    | _ => .canceled

theorem poll_quiet {glimpse : Glimpse} (quiet : Quiet glimpse) :
    Select.poll (joinHandle Glimpse.websockets) (joinHandle Glimpse.presence) errorReceiver glimpse
      (select () () ()) = some (.pending, select () () ()) := by
  obtain ⟨websockets, presence, channel⟩ := quiet
  simp [Select.poll, select, joinHandle, errorReceiver, websockets, presence, channel]

theorem ends_now {glimpse : Glimpse} (rest : List Glimpse) (loud : ¬ Quiet glimpse) :
    ends (select () () ()) (glimpse :: rest) = .settled 0 (some (ending glimpse)) := by
  obtain ⟨websockets, presence, channel⟩ := glimpse
  cases websockets <;> cases presence <;> cases channel <;>
    first
    | exact absurd ⟨rfl, rfl, rfl⟩ loud
    | rfl

theorem quiet_or_loud (glimpses : List Glimpse) : (∀ glimpse ∈ glimpses, Quiet glimpse) ∨
    ∃ earlier glimpse rest, glimpses = earlier ++ glimpse :: rest ∧
      (∀ glimpse ∈ earlier, Quiet glimpse) ∧ ¬ Quiet glimpse := by
  induction glimpses with
  | nil => exact .inl (by simp)
  | cons glimpse rest ih =>
    by_cases quiet : Quiet glimpse
    · rcases ih with all | ⟨earlier, loud, later, rfl, silent, here⟩
      · exact .inl (List.forall_mem_cons.mpr ⟨quiet, all⟩)
      · exact .inr ⟨glimpse :: earlier, loud, later, rfl,
          List.forall_mem_cons.mpr ⟨quiet, silent⟩, here⟩
    · exact .inr ⟨[], glimpse, rest, rfl, by simp, quiet⟩

theorem ends_skip {earlier : List Glimpse} (quiet : ∀ glimpse ∈ earlier, Quiet glimpse)
    (rest : List Glimpse) : ends (select () () ()) (earlier ++ rest) =
      (ends (select () () ()) rest).delay earlier.length := by
  rw [ends, outcome_skip fun glimpse member => poll_quiet (quiet glimpse member),
    Outcome.map_delay]
  rfl

/-- A run goes on while no task has ended and nothing has come over the error channel; what
it finds first decides, an ended task before an error. As long as nothing comes over the
channel, whose sender the service keeps, a run can only return; and there is no second one. -/
theorem run_ends (service later : Service) (running : Select Unit Unit Unit)
    (ran : service.run = some (running, later)) :
    (∀ glimpses, (∀ glimpse ∈ glimpses, Quiet glimpse) → ends running glimpses = .pending) ∧
    (∀ earlier glimpse rest, (∀ glimpse ∈ earlier, Quiet glimpse) → ¬ Quiet glimpse →
      ends running (earlier ++ glimpse :: rest) =
        .settled earlier.length (some (ending glimpse))) ∧
    (∀ glimpses, (∀ glimpse ∈ glimpses, glimpse.channel = .waiting) → ∀ count result,
      ends running glimpses = .settled count result → result = some .returned) ∧
    later.sender = service.sender ∧ later.run = none := by
  simp only [run, Option.map_eq_some_iff, Prod.mk.injEq] at ran
  obtain ⟨⟨⟩, -, rfl, rfl⟩ := ran
  have waits : ∀ glimpses, (∀ glimpse ∈ glimpses, Quiet glimpse) →
      ends (select () () ()) glimpses = .pending := by
    intro glimpses quiet
    have skipped := ends_skip quiet []
    rwa [List.append_nil] at skipped
  have decides : ∀ earlier glimpse rest, (∀ glimpse ∈ earlier, Quiet glimpse) → ¬ Quiet glimpse →
      ends (select () () ()) (earlier ++ glimpse :: rest) =
        .settled earlier.length (some (ending glimpse)) := by
    intro earlier glimpse rest quiet loud
    rw [ends_skip quiet, ends_now rest loud, Outcome.delay, Nat.zero_add]
  refine ⟨waits, decides, fun glimpses waiting count result ended => ?_, rfl, rfl⟩
  rcases quiet_or_loud glimpses with quiet | ⟨earlier, glimpse, rest, rfl, quiet, loud⟩
  · simp [waits glimpses quiet] at ended
  · have open_ := waiting glimpse (by simp)
    rw [decides earlier glimpse rest quiet loud] at ended
    obtain ⟨-, rfl⟩ := Outcome.settled.inj ended
    cases websockets : glimpse.websockets with
    | true => simp [ending, websockets]
    | false =>
      cases presence : glimpse.presence with
      | true => simp [ending, presence]
      | false => exact absurd ⟨websockets, presence, open_⟩ loud

/-- The accept loop of a new service ends at the second poll. -/
theorem run_ends_new : ends (select () () ()) [⟨false, false, .waiting⟩, ⟨true, false, .waiting⟩] =
    .settled 1 (some .returned) :=
  (run_ends .new ⟨some (), none⟩ (select () () ()) rfl).2.1 [⟨false, false, .waiting⟩]
    ⟨true, false, .waiting⟩ [] (by simp [Quiet]) (by simp [Quiet])

end Service

end Grass
