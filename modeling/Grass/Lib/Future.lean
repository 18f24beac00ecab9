import Mathlib.Logic.Basic

namespace Future

universe u v w

variable {Event : Type u} {State : Type v} {Other : Type v} {α β γ : Type w}

/-- What a poll answers. -/
inductive Poll (α : Type w) where
  | ready (value : α)
  | pending
deriving DecidableEq, Repr

/-- What a poll makes of a future, given what the outside shows it; none is a panic. -/
abbrev Poller (Event : Type u) (State : Type v) (α : Type w) :=
  Event → State → Option (Poll α × State)

/-- What polling again and again has come to: at that poll a value, or none for a panic. -/
inductive Outcome (α : Type w) where
  | pending
  | settled (count : Nat) (result : Option α)
deriving DecidableEq, Repr

namespace Outcome

/-- After so many polls more. -/
def delay (polls : Nat) : Outcome α → Outcome α
  | pending => pending
  | settled count result => settled (count + polls) result

def map (value : α → β) : Outcome α → Outcome β
  | pending => pending
  | settled count result => settled count (result.map value)

/-- The earlier of two, the first one where both settle at once. -/
def first : Outcome α → Outcome β → Outcome (α ⊕ β)
  | pending, other => other.map .inr
  | settled count result, pending => settled count (result.map .inl)
  | settled count result, settled other answer =>
    if count ≤ other then settled count (result.map .inl) else settled other (answer.map .inr)

variable (one : Outcome α) (other : Outcome β) (polls more : Nat)

@[simp] theorem delay_pending : (pending : Outcome α).delay polls = pending := rfl

@[simp] theorem delay_zero : one.delay 0 = one := by
  cases one <;> rfl

theorem delay_delay : (one.delay polls).delay more = one.delay (polls + more) := by
  cases one <;> simp [delay, Nat.add_assoc]

theorem map_delay (value : α → β) : (one.delay polls).map value = (one.map value).delay polls := by
  cases one <;> rfl

theorem first_delay :
    (one.delay polls).first (other.delay polls) = (one.first other).delay polls := by
  cases one with
  | pending => exact map_delay other polls _
  | settled count result =>
    cases other with
    | pending => rfl
    | settled second answer =>
      simp only [delay, first, Nat.add_le_add_iff_right]
      split <;> rfl

theorem first_now (result : Option α) :
    (settled 0 result).first other = settled 0 (result.map .inl) := by
  cases other <;> simp [first]

theorem delayed_first_now (answer : Option β) :
    (one.delay 1).first (settled 0 answer) = settled 0 (answer.map .inr) := by
  cases one <;> simp [delay, first, map]

end Outcome

/-- A future is polled at each event until it settles. -/
def outcome (poll : Poller Event State α) : State → List Event → Outcome α
  | _, [] => .pending
  | state, event :: rest =>
    match poll event state with
    | none => .settled 0 none
    | some (.ready value, _) => .settled 0 (some value)
    | some (.pending, next) => (outcome poll next rest).delay 1

section Poller

variable {poll : Poller Event State α} {event : Event} {state next : State} {rest : List Event}

theorem outcome_waits (waits : poll event state = some (.pending, next)) :
    outcome poll state (event :: rest) = (outcome poll next rest).delay 1 := by
  simp [outcome, waits]

theorem outcome_skip {earlier : List Event}
    (waits : ∀ event ∈ earlier, poll event state = some (.pending, state)) :
    outcome poll state (earlier ++ rest) = (outcome poll state rest).delay earlier.length := by
  induction earlier with
  | nil => simp
  | cons event earlier ih =>
    obtain ⟨now, others⟩ := List.forall_mem_cons.mp waits
    rw [List.cons_append, outcome_waits now, ih others, Outcome.delay_delay, List.length_cons]

end Poller

end Future
