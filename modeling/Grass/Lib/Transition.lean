import Mathlib.Data.List.Forall2

/-! Labelled transition systems given by a step relation: reachability, the
invariant and simulation rules, executable runs, and runs in which the parties
take turns. Nothing here depends on the modelled program. -/

namespace Transition

universe u v w x

variable {State : Type u} {Action : Type v}

/-- A labelled step relation: state before, action, state after. -/
abbrev Step (State : Type u) (Action : Type v) := State → Action → State → Prop

def Step.when (step condition : Step State Action) : Step State Action :=
  fun before action after => step before action after ∧ condition before action after

def Step.ofOption (step : State → Action → Option State) : Step State Action :=
  fun before action after => step before action = some after

/-- States reached from an initial one by finitely many steps. -/
inductive Reach (init : State → Prop) (step : Step State Action) : State → Prop where
  | start (initial : init state) : Reach init step state
  | next (reached : Reach init step before) (taken : step before action after) :
      Reach init step after

section Rules

variable {init : State → Prop} {step wider : Step State Action}

theorem Reach.invariant {Holds : State → Prop} (initially : ∀ state, init state → Holds state)
    (preserved : ∀ before action after, Holds before → step before action after → Holds after)
    (reached : Reach init step state) : Holds state := by
  induction reached with
  | start initial => exact initially _ initial
  | next _ taken ih => exact preserved _ _ _ ih taken

theorem Reach.invariant_using {Known Holds : State → Prop}
    (known : ∀ state, Reach init step state → Known state)
    (initially : ∀ state, init state → Holds state)
    (preserved : ∀ before action after, Known before → Known after → Holds before →
      step before action after → Holds after)
    (reached : Reach init step state) : Holds state := by
  induction reached with
  | start initial => exact initially _ initial
  | next earlier taken ih =>
    exact preserved _ _ _ (known _ earlier) (known _ (.next earlier taken)) ih taken

theorem Reach.mono (included : ∀ before action after, Reach init step before →
      step before action after → wider before action after)
    (reached : Reach init step state) : Reach init wider state := by
  induction reached with
  | start initial => exact .start initial
  | next earlier taken ih => exact .next ih (included _ _ _ earlier taken)

theorem Reach.widen {broader : State → Prop} (initially : ∀ state, init state → broader state)
    (reached : Reach init step state) : Reach broader step state := by
  induction reached with
  | start initial => exact .start (initially _ initial)
  | next _ taken ih => exact .next ih taken

/-- Where every step shows as a step of another system, or does not show, every reached
state shows as one that the other system reaches. -/
theorem Reach.simulated {Shown : Type w} {Move : Type x} {view : State → Shown}
    {origin : Shown → Prop} {moves : Step Shown Move}
    (initially : ∀ state, init state → origin (view state))
    (shows : ∀ before action after, Reach init step before → step before action after →
      view after = view before ∨ ∃ move, moves (view before) move (view after))
    (reached : Reach init step state) : Reach origin moves (view state) := by
  induction reached with
  | start initial => exact .start (initially _ initial)
  | next earlier taken ih =>
    rcases shows _ _ _ earlier taken with same | ⟨move, moved⟩
    · rwa [same]
    · exact .next ih moved

theorem Reach.trans (earlier : Reach init step middle)
    (later : Reach (fun origin => origin = middle) step state) : Reach init step state := by
  induction later with
  | start same => exact same ▸ earlier
  | next _ taken ih => exact .next ih taken

/-- What shows at the end of a run, and not at its start, was brought about by a step of the
run, and has shown ever since. -/
theorem Reach.appears {Shows : State → Prop} (initially : ∀ state, init state → ¬ Shows state)
    (reached : Reach init step state) (shows : Shows state) :
    ∃ before action after, Reach init step before ∧ ¬ Shows before ∧ step before action after ∧
      Shows after ∧
      Reach (fun origin => origin = after) (step.when fun _ _ later => Shows later) state := by
  induction reached with
  | start initial => exact absurd shows (initially _ initial)
  | @next middle action state earlier taken ih =>
    by_cases already : Shows middle
    · obtain ⟨before, first, after, reached, hidden, step, shown, since⟩ := ih already
      exact ⟨before, first, after, reached, hidden, step, shown, .next since ⟨taken, shows⟩⟩
    · exact ⟨middle, action, state, earlier, already, taken, shows, .start rfl⟩

end Rules

section Path

variable {Shown : Type w} {Move : Type x} {init : State → Prop} {step wider : Step State Action}

/-- A run with all its steps: the actions, each with the state it leads to. -/
inductive Path (step : Step State Action) : State → List (Action × State) → Prop where
  | nil (state : State) : Path step state []
  | cons (taken : step before action after) (rest : Path step after later) :
      Path step before ((action, after) :: later)

/-- How the steps of a run show: each by its label where it is taken, with a view of the state
it leads to. -/
def traced (view : State → Shown) (label : State → Action → Move) :
    State → List (Action × State) → List (Move × Shown)
  | _, [] => []
  | before, (action, after) :: later =>
    (label before action, view after) :: traced view label after later

theorem Path.mono (included : ∀ before action after, step before action after →
      wider before action after) {trace : List (Action × State)} (path : Path step start trace) :
    Path wider start trace := by
  induction path with
  | nil => exact .nil _
  | cons taken _ ih => exact .cons (included _ _ _ taken) ih

/-- Where every step shows as a step of another system, every run shows, step for step, as a
run of that system. -/
theorem Path.simulated {view : State → Shown} {label : State → Action → Move}
    {moves : Step Shown Move}
    (shows : ∀ before action after, Reach init step before → step before action after →
      moves (view before) (label before action) (view after))
    (reached : Reach init step start) {trace : List (Action × State)}
    (path : Path step start trace) : Path moves (view start) (traced view label start trace) := by
  induction path with
  | nil => exact .nil _
  | cons taken _ ih => exact .cons (shows _ _ _ reached taken) (ih (.next reached taken))

end Path

def run (step : State → Action → Option State) : State → List Action → Option State
  | state, [] => some state
  | state, action :: rest => (step state action).bind fun next => run step next rest

def guarded (guard : State → Action → Bool) (step : State → Action → Option State) :
    State → Action → Option State :=
  fun state action => if guard state action then step state action else none

theorem guarded_eq_some {guard : State → Action → Bool} {step : State → Action → Option State} :
    guarded guard step before action = some after ↔
      guard before action = true ∧ step before action = some after := by
  simp [guarded]

theorem run_reach {init : State → Prop} {step : State → Action → Option State}
    (actions : List Action) (reached : Reach init (Step.ofOption step) state)
    (ran : run step state actions = some final) : Reach init (Step.ofOption step) final := by
  induction actions generalizing state with
  | nil =>
    obtain rfl : state = final := by simpa [run] using ran
    exact reached
  | cons action rest ih =>
    obtain ⟨next, taken, continued⟩ := Option.bind_eq_some_iff.mp ran
    exact ih (.next reached taken) continued

theorem run_path {step : State → Action → Option State} (actions : List Action)
    (ran : run step state actions = some final) :
    ∃ trace, Path (Step.ofOption step) state trace ∧ trace.map Prod.fst = actions := by
  induction actions generalizing state with
  | nil => exact ⟨[], .nil _, rfl⟩
  | cons action rest ih =>
    obtain ⟨next, taken, continued⟩ := Option.bind_eq_some_iff.mp ran
    obtain ⟨trace, path, same⟩ := ih continued
    exact ⟨(action, next) :: trace, .cons taken path, by simp [same]⟩

/-- Where related states answer each other's steps, runs of the same actions from them go
through together and end in related states. -/
theorem run_related {init : State → Prop} {step : State → Action → Option State}
    {Related : State → State → Prop} {Same : Action → Action → Prop}
    (answered : ∀ before other action twin, Reach init (Step.ofOption step) before →
      Related before other → Same action twin →
      Option.Rel Related (step before action) (step other twin))
    {actions twins : List Action} (same : List.Forall₂ Same actions twins)
    (reached : Reach init (Step.ofOption step) state) (related : Related state other) :
    Option.Rel Related (run step state actions) (run step other twins) := by
  induction same generalizing state other with
  | nil => exact .some related
  | @cons action twin _ _ alike _ ih =>
    have answer := answered state other action twin reached related alike
    simp only [run]
    cases taken : step state action with
    | none =>
      cases moved : step other twin with
      | none => exact .none
      | some next => rw [taken, moved] at answer; cases answer
    | some after =>
      cases moved : step other twin with
      | none => rw [taken, moved] at answer; cases answer
      | some next =>
        rw [taken, moved] at answer
        cases answer with
        | some kept => exact ih (.next reached taken) kept

/-- Where some action of a kind can be taken as long as any rank is left, keeps what holds and
takes some rank away, as many of them as there is rank use it up. -/
theorem run_exhausts {step : State → Action → Option State} {rank : State → Nat}
    {Holds : State → Prop} {own : Action → Prop}
    (falls : ∀ state, Holds state → rank state ≠ 0 → ∃ action after, own action ∧
      step state action = some after ∧ Holds after ∧ rank after < rank state)
    (state : State) (holds : Holds state) :
    ∃ actions final, actions.length ≤ rank state ∧ (∀ action ∈ actions, own action) ∧
      run step state actions = some final ∧ Holds final ∧ rank final = 0 := by
  induction bound : rank state using Nat.strongRecOn generalizing state with
  | ind left ih =>
    subst bound
    by_cases spent : rank state = 0
    · exact ⟨[], state, Nat.zero_le _, by simp, rfl, holds, spent⟩
    · obtain ⟨action, after, owned, taken, kept, smaller⟩ := falls state holds spent
      obtain ⟨actions, final, few, others, ran, lasting, exhausted⟩ := ih _ smaller after kept rfl
      refine ⟨action :: actions, final, ?_, List.forall_mem_cons.mpr ⟨owned, others⟩, ?_, lasting,
        exhausted⟩
      · rw [List.length_cons]
        omega
      · rw [run, taken]
        exact ran

section History

variable {History : Type w} {step : State → Action → Option State}
  {note : State → Action → History → History}

/-- The step with a history variable beside the state, which it writes and never reads. -/
def recording (step : State → Action → Option State) (note : State → Action → History → History) :
    State × History → Action → Option (State × History) :=
  fun state action => (step state.1 action).map fun after => (after, note state.1 action state.2)

theorem recording_eq_some {before after : State × History} :
    recording step note before action = some after ↔
      step before.1 action = some after.1 ∧ after.2 = note before.1 action before.2 := by
  obtain ⟨later, written⟩ := after
  simp only [recording, Option.map_eq_some_iff, Prod.mk.injEq]
  constructor
  · rintro ⟨_, taken, rfl, rfl⟩
    exact ⟨taken, rfl⟩
  · rintro ⟨taken, rfl⟩
    exact ⟨later, taken, rfl, rfl⟩

end History

section Turns

variable {Party : Type w} [DecidableEq Party]

/-- Every party but the acting one rests. -/
def Alone (actor : Action → Party) (Rests : State → Party → Prop) : Step State Action :=
  fun before action _ => ∀ party, party ≠ actor action → Rests before party

/-- Execute a list of actions in which the turn passes to another party only
when the present one rests. -/
def runTurns (step : State → Action → Option State) (actor : Action → Party)
    (Rests : State → Party → Prop) [∀ state party, Decidable (Rests state party)] :
    State → Option Party → List Action → Option (State × Option Party)
  | state, turn, [] => some (state, turn)
  | state, turn, action :: rest =>
    if turn.all (fun party => party = actor action ∨ Rests state party) then
      (step state action).bind fun next =>
        runTurns step actor Rests next (some (actor action)) rest
    else none

variable {init : State → Prop} {step : State → Action → Option State}
  {actor : Action → Party} {Rests : State → Party → Prop}
  [∀ state party, Decidable (Rests state party)]

/-- A run in turns from a resting state takes only lone steps, and at its end
every party but the last to act rests. -/
theorem runTurns_alone
    (frame : ∀ before action after, step before action = some after →
      ∀ party, party ≠ actor action → Rests before party → Rests after party)
    (actions : List Action)
    (reached : Reach init ((Step.ofOption step).when (Alone actor Rests)) state)
    (resting : ∀ party, some party ≠ turn → Rests state party)
    (ran : runTurns step actor Rests state turn actions = some (final, last)) :
    Reach init ((Step.ofOption step).when (Alone actor Rests)) final ∧
      ∀ party, some party ≠ last → Rests final party := by
  induction actions generalizing state turn with
  | nil =>
    simp only [runTurns, Option.some.injEq, Prod.mk.injEq] at ran
    obtain ⟨rfl, rfl⟩ := ran
    exact ⟨reached, resting⟩
  | cons action rest ih =>
    rw [runTurns] at ran
    split at ran
    · rename_i passed
      obtain ⟨next, taken, continued⟩ := Option.bind_eq_some_iff.mp ran
      have alone : ∀ party, party ≠ actor action → Rests state party := by
        intro party other
        by_cases held : some party = turn
        · subst held
          simp only [Option.all_some, decide_eq_true_eq] at passed
          exact passed.resolve_left other
        · exact resting party held
      refine ih (.next reached ⟨taken, alone⟩) ?_ continued
      intro party other
      have different : party ≠ actor action := fun same => other (congrArg some same)
      exact frame _ _ _ taken party different (alone party different)
    · cases ran

end Turns

end Transition
