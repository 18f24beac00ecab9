import Grass.Lobby.Effect

/-! What holds of every lobby whatever the interleaving: a party on its way into
a seat has none, records name hosts, and rosters list guests. -/

namespace Grass.Lobby

universe u v

variable {P : Type u} {G : Type v}

/-- A record may name the party for this game: it hosts it, or is about to, or a
failed deletion left the record behind. -/
def Owns (fault : Prop) (lobby : Lobby P G) (party : P) (game : G) : Prop :=
  lobby.Hosts party game ∨ lobby.stage party = .opening game ∨ (fault ∧ lobby.Barred party)

/-- The invariant. Records are constrained for the parties of `known`, those no
record names at the outset. -/
structure Coherent (fault : Prop) (known : Set P) (lobby : Lobby P G) : Prop where
  vacant : ∀ party, Seating (lobby.stage party) → lobby.seat party = none
  unborn : ∀ party, lobby.stage party = .unborn → lobby.seat party = none
  seated : ∀ party, lobby.seat party ≠ none → lobby.present party
  awake : ¬ fault → ∀ party, lobby.stage party ≠ .unborn → lobby.stage party ≠ .retired →
    lobby.present party
  recorded : ∀ party ∈ known, ∀ game, lobby.record game = some (some party) →
    lobby.stage party ≠ .unborn ∧ lobby.Owns fault party game
  rostered : ¬ fault → ∀ host party, lobby.Lists host party →
    (∃ game, lobby.seat party = some (.guest game host)) ∨
      ∃ game, lobby.stage party = .entering game host

variable [DecidableEq P] [DecidableEq G] {rules : Rules P G} {intent : Intent G}
  {party : P} {before after : Lobby P G} {known : Set P}

theorem Owns.move (owns : before.Owns rules.fault owner game)
    (coherent : Coherent rules.fault known before) (alive : before.stage owner ≠ .unborn)
    (move : Move rules intent party before after) (kept : after.record game ≠ none) :
    after.Owns rules.fault owner game := by
  have vacant := coherent.vacant
  rcases owns with hosts | opens | ⟨faulty, bars⟩
  · rcases move.hosting (vacant party) hosts with still | ⟨rfl, -, empty, gone | ⟨faulty, away⟩⟩
    · exact .inl still
    · exact absurd gone kept
    · exact .inr (.inr ⟨faulty, away, by simp [empty]⟩)
  · rcases move.opening opens with still | hosts | ⟨faulty, retired, same⟩
    · exact .inr (.inl still)
    · exact .inl hosts
    · have empty := vacant owner (.inr (.inl ⟨game, opens⟩))
      exact .inr (.inr ⟨faulty, .inl retired, by simp [same, empty]⟩)
  · exact .inr (.inr ⟨faulty, move.barred alive bars⟩)

/-- Every move keeps a lobby coherent. -/
theorem Coherent.move (coherent : Coherent rules.fault known before)
    (move : Move rules intent party before after) : Coherent rules.fault known after where
  vacant _ := move.vacant coherent.vacant
  unborn _ := move.unborn coherent.unborn
  seated _ := move.seated coherent.seated
  awake healthy _ := move.awake healthy (coherent.awake healthy)
  recorded owner member game record := by
    rcases move.named record with earlier | ⟨rfl, opening⟩
    · obtain ⟨alive, owns⟩ := coherent.recorded owner member game earlier
      exact ⟨move.born alive, owns.move coherent alive move (by simp [record])⟩
    · exact ⟨by simp [opening], .inr (.inl opening)⟩
  rostered healthy host other lists := by
    rcases move.listed lists with earlier | ⟨rfl, game, enters⟩
    · rcases coherent.rostered healthy host other earlier with ⟨game, taken⟩ | ⟨game, enters⟩
      · rcases move.seatedGuest (coherent.vacant party) taken with still | ⟨-, -, unlisted⟩
        · exact .inl ⟨game, still⟩
        · exact absurd lists unlisted
      · rcases move.entering enters with still | seated | faulty
        · exact .inr ⟨game, still⟩
        · exact .inl ⟨game, seated⟩
        · exact absurd faulty healthy
    · exact .inr ⟨game, enters⟩

end Grass.Lobby
