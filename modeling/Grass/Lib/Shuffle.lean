import Mathlib.Data.List.Basic

namespace Shuffle

universe u v

variable {α : Type u} {β : Type v}

/-- Equal but for the order within runs of loose elements. -/
inductive Shuffled (loose : α → Prop) : List α → List α → Prop where
  | nil : Shuffled loose [] []
  | keep (item : α) (rest : Shuffled loose first second) :
      Shuffled loose (item :: first) (item :: second)
  | mix (order : earlier.Perm later) (free : ∀ item ∈ earlier, loose item)
      (rest : Shuffled loose first second) : Shuffled loose (earlier ++ first) (later ++ second)

variable {loose : α → Prop} {first second earlier later : List α}

theorem Shuffled.refl (items : List α) : Shuffled loose items items := by
  induction items with
  | nil => exact .nil
  | cons item rest ih => exact .keep item ih

theorem Shuffled.of_perm (order : first.Perm second) (free : ∀ item ∈ first, loose item) :
    Shuffled loose first second := by
  have mixed := Shuffled.mix order free .nil
  rwa [List.append_nil, List.append_nil] at mixed

theorem Shuffled.append (heads : Shuffled loose earlier later)
    (tails : Shuffled loose first second) :
    Shuffled loose (earlier ++ first) (later ++ second) := by
  induction heads with
  | nil => exact tails
  | keep item _ ih => exact .keep item ih
  | mix order free _ ih =>
    rw [List.append_assoc, List.append_assoc]
    exact .mix order free ih

/-- A fold in which loose elements commute does not see the order. -/
theorem Shuffled.foldl {combine : β → α → β} (commute : ∀ value item other, loose item →
      loose other → combine (combine value item) other = combine (combine value other) item)
    (shuffled : Shuffled loose first second) (value : β) :
    first.foldl combine value = second.foldl combine value := by
  induction shuffled generalizing value with
  | nil => rfl
  | keep item _ ih => exact ih (combine value item)
  | mix order free _ ih =>
    rw [List.foldl_append, List.foldl_append, ih]
    congr 1
    exact order.foldl_eq' (fun item here other there next =>
      commute next item other (free item here) (free other there)) value

end Shuffle
