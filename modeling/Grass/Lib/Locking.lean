import Mathlib.Logic.Function.Basic
import Mathlib.Logic.Relation
import Grass.Lib.Transition

/-! Transition systems whose actions are carried out under guards. An agent takes the
guards of its action one by one, phase by phase, gives them back at the end of each
phase, and the action happens in the last. Nothing here depends on the modelled program. -/

namespace Locking

open Relation Transition

universe u v w x

section Cycles

variable {α : Type u} {β : Type v} {relation : α → α → Prop}

theorem linked_path {first last : α} (path : TransGen relation first last)
    (before : ∃ earlier, relation earlier first) (after : ∃ later, relation last later) :
    TransGen (fun one other => relation one other ∧ (∃ earlier, relation earlier one) ∧
      ∃ later, relation other later) first last := by
  induction path using TransGen.head_induction_on with
  | single edge => exact .single ⟨edge, before, after⟩
  | @head one other edge rest ih =>
    have goes : ∃ later, relation other later := by
      obtain ⟨later, edge, -⟩ := TransGen.head'_iff.mp rest
      exact ⟨later, edge⟩
    exact .head ⟨edge, before, goes⟩ (ih ⟨one, edge⟩)

theorem linked_cycle {point : α} (cycle : TransGen relation point point) :
    TransGen (fun one other => relation one other ∧ (∃ earlier, relation earlier one) ∧
      ∃ later, relation other later) point point := by
  obtain ⟨earlier, -, comes⟩ := TransGen.tail'_iff.mp cycle
  obtain ⟨later, goes, -⟩ := TransGen.head'_iff.mp cycle
  exact linked_path cycle ⟨earlier, comes⟩ ⟨later, goes⟩

theorem acyclic_grow {wider : α → α → Prop}
    (grows : ∀ one other, wider one other → relation one other ∨ ∀ later, ¬ wider other later)
    (acyclic : ∀ point, ¬ TransGen relation point point) (point : α) :
    ¬ TransGen wider point point := by
  intro cycle
  apply acyclic point
  apply (linked_cycle cycle).lift id
  rintro one other ⟨edge, -, later, goes⟩
  exact (grows one other edge).resolve_right fun ends => ends later goes

/-- A cycle is carried along a map that keeps the edges which can be on one. -/
theorem acyclic_of_map {order : β → β → Prop} (key : α → β)
    (ordered : ∀ one other, relation one other → (∃ earlier, relation earlier one) →
      (∃ later, relation other later) → order (key one) (key other))
    (acyclic : ∀ point, ¬ TransGen order point point) (point : α) :
    ¬ TransGen relation point point := by
  intro cycle
  exact acyclic (key point) ((linked_cycle cycle).lift key fun one other edge =>
    ordered one other edge.1 edge.2.1 edge.2.2)

end Cycles

/-- Actions, the agents that carry them out, and the guards these take for it. -/
structure Discipline (State : Type u) (Action : Type v) (Agent : Type w) (Guard : Type x) where
  step : State → Action → Option State
  agent : Action → Agent
  /-- The phases of an action, each the guards that are taken in it, in order. -/
  script : State → Action → List (List Guard)
  Conflicts : Guard → Guard → Prop
  symm : ∀ guard other, Conflicts guard other → Conflicts other guard

/-- A state, what every agent holds in the present phase of its action, and the number
of phases it has passed. -/
structure Table (State : Type u) (Agent : Type w) (Guard : Type x) where
  state : State
  held : Agent → List Guard
  passed : Agent → Nat

inductive Turn (Action : Type v) where
  | take (action : Action)
  | release (action : Action)
  | perform (action : Action)

def Turn.action {Action : Type v} : Turn Action → Action
  | .take action | .release action | .perform action => action

namespace Discipline

variable {State : Type u} {Action : Type v} {Agent : Type w} {Guard : Type x} [DecidableEq Agent]
  (discipline : Discipline State Action Agent Guard)

/-- The next guard that the action takes. -/
def Wants (table : Table State Agent Guard) (action : Action) (guard : Guard) : Prop :=
  ∃ phase, (discipline.script table.state action)[table.passed (discipline.agent action)]? =
      some phase ∧ table.held (discipline.agent action) ++ [guard] <+: phase

/-- The first agent's next guard conflicts with one that the second holds; these may be
the same agent. -/
def Waits (table : Table State Agent Guard) (waiting holding : Agent) : Prop :=
  ∃ action wanted, discipline.agent action = waiting ∧ discipline.Wants table action wanted ∧
    ∃ guard ∈ table.held holding, discipline.Conflicts wanted guard

def Deadlocked (table : Table State Agent Guard) : Prop :=
  ∃ agent, TransGen (discipline.Waits table) agent agent

/-- Whether an action may take a guard, go on to its next phase, or happen. -/
def Allowed (before : Table State Agent Guard) (turn : Turn Action)
    (after : Table State Agent Guard) : Prop :=
  let agent := discipline.agent turn.action
  let script := discipline.script before.state turn.action
  match turn with
  | .take action => ∃ guard, discipline.Wants before action guard ∧
      (∀ other, ∀ taken ∈ before.held other, ¬ discipline.Conflicts guard taken) ∧
      after = { before with
        held := Function.update before.held agent (before.held agent ++ [guard]) }
  | .release _ => script[before.passed agent]? = some (before.held agent) ∧
      before.passed agent + 1 < script.length ∧
      after = { before with
        held := Function.update before.held agent []
        passed := Function.update before.passed agent (before.passed agent + 1) }
  | .perform action => (script.drop (before.passed agent) = [before.held agent] ∨ script = []) ∧
      ∃ next, discipline.step before.state action = some next ∧
        after = { state := next
                  held := Function.update before.held agent []
                  passed := Function.update before.passed agent 0 }

def turns : Step (Table State Agent Guard) (Turn Action) := discipline.Allowed

def clear (state : State) : Table State Agent Guard := ⟨state, fun _ => [], fun _ => 0⟩

variable {discipline} {init : State → Prop} {start : Table State Agent Guard → Prop}
  {condition : Step (Table State Agent Guard) (Turn Action)} {table : Table State Agent Guard}

theorem reached_state (may : Action → Prop) (starts : ∀ table, start table → init table.state)
    (acts : ∀ before turn after, condition before turn after → may turn.action)
    (reached : Reach start (discipline.turns.when condition) table) :
    Reach init ((Step.ofOption discipline.step).when fun _ action _ => may action) table.state := by
  induction reached with
  | start initial => exact .start (starts _ initial)
  | @next _ turn _ _ taken ih =>
    cases turn with
    | take =>
      obtain ⟨-, -, -, rfl⟩ := taken.1
      exact ih
    | release =>
      obtain ⟨-, -, rfl⟩ := taken.1
      exact ih
    | perform =>
      obtain ⟨-, next, stepped, rfl⟩ := taken.1
      exact .next ih ⟨stepped, acts _ _ _ taken.2⟩

theorem reached_exclusive (starts : ∀ table, start table → ∀ agent, table.held agent = [])
    (reached : Reach start (discipline.turns.when condition) table) :
    ∀ first second, first ≠ second → ∀ guard ∈ table.held first, ∀ other ∈ table.held second,
      ¬ discipline.Conflicts guard other := by
  apply reached.invariant
  · intro table initial first second _ guard held
    simp [starts table initial] at held
  · rintro before turn after exclusive ⟨taken, -⟩
    -- what an agent gives back conflicts with nothing any more
    have given : ∀ agent first second, first ≠ second →
        ∀ guard ∈ Function.update before.held agent [] first,
          ∀ other ∈ Function.update before.held agent [] second,
            ¬ discipline.Conflicts guard other := by
      intro agent first second apart guard held other taken
      by_cases one : first = agent
      · simp [one] at held
      · by_cases two : second = agent
        · simp [two] at taken
        · exact exclusive first second apart guard (by simpa [one] using held) other
            (by simpa [two] using taken)
    cases turn with
    | take action =>
      obtain ⟨guard, -, free, rfl⟩ := taken
      intro first second apart one held other taken
      by_cases acts : first = discipline.agent action
      · subst acts
        have taken : other ∈ before.held second := by
          simpa [Turn.action, Ne.symm apart] using taken
        have held : one ∈ before.held (discipline.agent action) ++ [guard] := by
          simpa [Turn.action] using held
        rcases List.mem_append.mp held with earlier | new
        · exact exclusive _ _ apart one earlier other taken
        · rw [List.mem_singleton.mp new]
          exact free second other taken
      · have held : one ∈ before.held first := by simpa [Turn.action, acts] using held
        by_cases meets : second = discipline.agent action
        · subst meets
          have taken : other ∈ before.held (discipline.agent action) ++ [guard] := by
            simpa [Turn.action] using taken
          rcases List.mem_append.mp taken with earlier | new
          · exact exclusive _ _ apart one held other earlier
          · rw [List.mem_singleton.mp new]
            exact fun conflict => free first one held (discipline.symm _ _ conflict)
        · exact exclusive first second apart one held other (by simpa [Turn.action, meets] using taken)
    | release action =>
      obtain ⟨-, -, rfl⟩ := taken
      exact given _
    | perform action =>
      obtain ⟨-, next, -, rfl⟩ := taken
      exact given _

theorem reached_held (members : Agent → Prop)
    (starts : ∀ table, start table → ∀ agent, table.held agent = [])
    (acts : ∀ before turn after, condition before turn after → members (discipline.agent turn.action))
    (reached : Reach start (discipline.turns.when condition) table) (agent : Agent) :
    table.held agent ≠ [] → members agent := by
  induction reached with
  | start initial => exact fun holds => absurd (starts _ initial agent) holds
  | @next before turn after _ taken ih =>
    intro holds
    by_cases acting : agent = discipline.agent turn.action
    · exact acting ▸ acts _ _ _ taken.2
    · apply ih
      cases turn with
      | take =>
        obtain ⟨_, -, -, rfl⟩ := taken.1
        simpa [acting] using holds
      | release =>
        obtain ⟨-, -, rfl⟩ := taken.1
        simpa [acting] using holds
      | perform =>
        obtain ⟨-, next, -, rfl⟩ := taken.1
        simpa [acting] using holds

omit [DecidableEq Agent] in
/-- Nobody waits in a circle where an order without cycles goes from every agent that
holds something to the one it waits for, if that wants something itself. -/
theorem not_deadlocked {Key : Type*} {order : Key → Key → Prop} (key : Agent → Key)
    (acyclic : ∀ point, ¬ TransGen order point point)
    (ordered : ∀ waiting holding, discipline.Waits table waiting holding →
      table.held waiting ≠ [] →
      (∃ action wanted, discipline.agent action = holding ∧ discipline.Wants table action wanted) →
      order (key waiting) (key holding)) : ¬ discipline.Deadlocked table := by
  rintro ⟨agent, cycle⟩
  refine acyclic_of_map key ?_ acyclic agent cycle
  rintro waiting holding waits ⟨earlier, _, _, _, _, guard, held, _⟩
    ⟨later, action, wanted, acts, wants, _⟩
  exact ordered waiting holding waits (List.ne_nil_of_mem held) ⟨action, wanted, acts, wants⟩

/-- Nobody holds anything, and one agent has passed some phases of its action. -/
def between (state : State) (agent : Agent) (count : Nat) : Table State Agent Guard :=
  ⟨state, fun _ => [], Function.update (fun _ => 0) agent count⟩

variable {state next : State} {action : Action}

theorem performs {before after : Table State Agent Guard}
    (finished : (discipline.script before.state action).drop (before.passed (discipline.agent action)) =
        [before.held (discipline.agent action)] ∨ discipline.script before.state action = [])
    (stepped : discipline.step before.state action = some next)
    (same : after = { state := next
                      held := Function.update before.held (discipline.agent action) []
                      passed := Function.update before.passed (discipline.agent action) 0 }) :
    discipline.turns before (.perform action) after :=
  ⟨finished, next, stepped, same⟩

theorem releases {before after : Table State Agent Guard}
    (taken : (discipline.script before.state action)[before.passed (discipline.agent action)]? =
      some (before.held (discipline.agent action)))
    (more : before.passed (discipline.agent action) + 1 <
      (discipline.script before.state action).length)
    (same : after = { before with
      held := Function.update before.held (discipline.agent action) []
      passed := Function.update before.passed (discipline.agent action)
        (before.passed (discipline.agent action) + 1) }) :
    discipline.turns before (.release action) after :=
  ⟨taken, more, same⟩

theorem take_phase {count : Nat} {phase : List Guard}
    (may : ∀ before turn after, turn.action = action → condition before turn after)
    (here : (discipline.script state action)[count]? = some phase) (short : phase.length ≤ 1)
    (reached : Reach start (discipline.turns.when condition)
      (between state (discipline.agent action) count)) :
    Reach start (discipline.turns.when condition)
      ⟨state, Function.update (fun _ => []) (discipline.agent action) phase,
        Function.update (fun _ => 0) (discipline.agent action) count⟩ := by
  match phase, short with
  | [], _ => simpa [between] using reached
  | [guard], _ =>
    refine .next reached ⟨?_, may _ (.take action) _ rfl⟩
    refine ⟨guard, ⟨[guard], by simpa [between] using here, by simp [between]⟩, ?_, ?_⟩
    · intro other taken held
      simp [between] at held
    · simp [between, Turn.action]

theorem reach_perform (may : ∀ before turn after, turn.action = action → condition before turn after)
    (stepped : discipline.step state action = some next)
    (short : ∀ phase ∈ discipline.script state action, phase.length ≤ 1)
    (reached : Reach start (discipline.turns.when condition) (clear state)) :
    Reach start (discipline.turns.when condition) (clear next) := by
  -- from any phase on
  have goes : ∀ rest phase count, (discipline.script state action).drop count = phase :: rest →
      Reach start (discipline.turns.when condition)
        (between state (discipline.agent action) count) →
      Reach start (discipline.turns.when condition) (clear next) := by
    intro rest
    induction rest with
    | nil =>
      intro phase count last reached
      have here : (discipline.script state action)[count]? = some phase := by
        rw [← List.head?_drop, last, List.head?_cons]
      have held := take_phase may here (short phase (List.mem_of_getElem? here)) reached
      refine .next held ⟨performs (.inl ?_) stepped ?_, may _ _ _ rfl⟩
      · simpa using last
      · simp [clear]
    | cons later rest ih =>
      intro phase count here reached
      have now : (discipline.script state action)[count]? = some phase := by
        rw [← List.head?_drop, here, List.head?_cons]
      have held := take_phase may now (short phase (List.mem_of_getElem? now)) reached
      have left : (discipline.script state action).drop (count + 1) = later :: rest := by
        rw [← List.drop_drop, here, List.drop_one, List.tail_cons]
      have more : count + 1 < (discipline.script state action).length := by
        have := congrArg List.length left
        simp only [List.length_drop, List.length_cons] at this
        omega
      apply ih later (count + 1) left
      refine .next held ⟨releases ?_ ?_ ?_, may _ _ _ rfl⟩
      · simpa using now
      · simpa using more
      · simp [between]
  cases empty : discipline.script state action with
  | nil =>
    refine .next reached ⟨performs (.inr ?_) stepped ?_, may _ _ _ rfl⟩
    · simpa [clear] using empty
    · simp [clear]
  | cons phase rest =>
    apply goes rest phase 0 (by simpa using empty)
    simpa [between, clear] using reached

end Discipline

end Locking
