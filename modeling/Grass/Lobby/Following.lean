import Grass.Lib.Locking
import Grass.Lobby.Invariant

namespace Grass.Lobby

open Relation

universe u v

variable {P : Type u} {G : Type v}

/-- The party is a guest of the host, or in its roster and about to become one. -/
def Follows (lobby : Lobby P G) (party host : P) : Prop :=
  (∃ game, lobby.seat party = some (.guest game host)) ∨
    ∃ game, lobby.stage party = .entering game host

/-- Nobody follows itself, and everyone followed has connected. -/
structure Ranked (lobby : Lobby P G) : Prop where
  acyclic : ∀ party, ¬ TransGen lobby.Follows party party
  born : ∀ party host, lobby.Follows party host → lobby.stage host ≠ .unborn

/-- Nobody is a member of its own game. -/
def Separate (lobby : Lobby P G) : Prop := ∀ host, ¬ lobby.Lists host host

variable [DecidableEq P] [DecidableEq G] {rules : Rules P G} {intent : Intent G}
  {party : P} {before after : Lobby P G} {known : Set P}

theorem Follows.move (follows : after.Follows other host)
    (move : Move rules intent party before after) :
    before.Follows other host ∨ ((∃ hosted, before.Hosts host hosted) ∧
      ∃ hosted members, after.seat host = some (.host hosted members)) := by
  rcases follows with ⟨game, taken⟩ | ⟨game, entering⟩
  · rcases move.guested taken with already | ⟨rfl, entering⟩
    · exact .inl (.inl ⟨game, already⟩)
    · exact .inl (.inr ⟨game, entering⟩)
  · rcases move.enters entering with already | ⟨-, -, hosted, members, taken, joined⟩
    · exact .inl (.inr ⟨game, already⟩)
    · exact .inr ⟨⟨hosted, members, taken⟩, hosted, _, joined⟩

theorem Ranked.move (ranked : before.Ranked) (coherent : Coherent rules.fault known before)
    (move : Move rules intent party before after) : after.Ranked where
  acyclic := by
    apply Locking.acyclic_grow _ ranked.acyclic
    intro other host follows
    apply (follows.move move).imp_right
    rintro ⟨-, hosted, members, taken⟩ next (⟨game, sits⟩ | ⟨game, entering⟩)
    · simp [taken] at sits
    · have vacant := move.vacant coherent.vacant (.inr (.inr (.inr ⟨game, next, entering⟩)))
      simp [taken] at vacant
  born other host follows := by
    apply move.born
    rcases follows.move move with already | ⟨⟨hosted, members, taken⟩, -⟩
    · exact ranked.born other host already
    · intro fresh
      simp [coherent.unborn host fresh] at taken

theorem Separate.move (separate : before.Separate) (coherent : Coherent rules.fault known before)
    (move : Move rules intent party before after) : after.Separate := by
  intro host lists
  rcases move.listed lists with earlier | ⟨rfl, game, entering⟩
  · exact separate host earlier
  · have vacant : after.seat host = none :=
      move.vacant coherent.vacant (.inr (.inr (.inr ⟨game, host, entering⟩)))
    obtain ⟨_, _, taken, -⟩ := lists
    simp [taken] at vacant

end Grass.Lobby
