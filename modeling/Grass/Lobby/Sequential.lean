import Grass.Lobby.Invariant

namespace Grass.Lobby

universe u v

variable {P : Type u} {G : Type v}

/-- What a party has read or done earlier in its request still holds. -/
structure Focused (rules : Rules P G) (known : Set P) (lobby : Lobby P G) (party : P) : Prop where
  claimed : ∀ game, lobby.stage party = .claiming game → lobby.record game = some none
  opened : ∀ game, lobby.stage party = .opening game → lobby.record game = some (some party)
  knocked : ∀ game host, lobby.stage party = .knocking game host →
    lobby.record game = some (some host)
  entered : ∀ game host, host ∈ known → lobby.stage party = .entering game host →
    ∃ members, lobby.seat host = some (.host game members) ∧ party ∈ members
  checked : ¬ rules.fault → ∀ game host, lobby.stage party = .checking game host →
    ∃ owner, lobby.record game = some (some owner) ∧ host = rules.under party owner

theorem Focused.rest {rules : Rules P G} {known : Set P} {lobby : Lobby P G} {party : P}
    (rests : (lobby.stage party).Resting) : Focused rules known lobby party := by
  rcases rests with rest | rest | rest <;> constructor <;> simp [rest]

variable [DecidableEq P] [DecidableEq G] {rules : Rules P G} {intent : Intent G}
  {party : P} {before after : Lobby P G} {known : Set P}

omit [DecidableEq P] [DecidableEq G] in
theorem Focused.readHost (focused : Focused rules known before party)
    (coherent : Coherent rules.fault known before)
    (alone : ∀ other, other ≠ party → (before.stage other).Resting)
    (knocked : before.stage party = .knocking game host) (member : host ∈ known)
    (taken : before.seat host = some (.host hosted members)) : hosted = game := by
  have record := focused.knocked game host knocked
  have apart : host ≠ party := by
    rintro rfl
    have empty := coherent.vacant host (.inr (.inr (.inl ⟨game, host, knocked⟩)))
    simp [empty] at taken
  rcases (coherent.recorded host member game record).2 with ⟨_, hosts⟩ | opens | ⟨-, bars⟩
  · simp only [taken, Option.some.injEq, Seat.host.injEq] at hosts
    exact hosts.1
  · rcases alone host apart with rest | rest | rest <;> simp [rest] at opens
  · exact absurd taken (bars.2 hosted members)

/-- The acting party's own move keeps what it has read. -/
private theorem Focused.moveSelf (focused : Focused rules known before party)
    (coherent : Coherent rules.fault known before)
    (alone : ∀ other, other ≠ party → (before.stage other).Resting)
    (move : Move rules intent party before after) : Focused rules known after party where
  claimed game claiming := by
    rcases move.claims claiming with earlier | ⟨-, empty, kept⟩
    · rw [(move.paused (claiming.trans earlier.symm) (coherent.vacant party)
        (.inl (.inl ⟨game, earlier⟩))).1]
      exact focused.claimed game earlier
    · rw [kept]
      exact empty
  opened game opening := by
    rcases move.opens opening with earlier | ⟨-, -, published⟩
    · rw [(move.paused (opening.trans earlier.symm) (coherent.vacant party)
        (.inl (.inr (.inl ⟨game, earlier⟩)))).1]
      exact focused.opened game earlier
    · exact published
  knocked game host knocking := by
    rcases move.knocks knocking with earlier | ⟨-, record, kept, -⟩
    · rw [(move.paused (knocking.trans earlier.symm) (coherent.vacant party)
        (.inl (.inr (.inr (.inl ⟨game, host, earlier⟩))))).1]
      exact focused.knocked game host earlier
    · rw [kept]
      exact record
  entered game host member entering := by
    rcases move.enters entering with earlier | ⟨-, knocked, hosted, members, taken, joined⟩
    · rw [(move.paused (entering.trans earlier.symm) (coherent.vacant party)
        (.inl (.inr (.inr (.inr ⟨game, host, earlier⟩))))).2]
      exact focused.entered game host member earlier
    · obtain rfl := focused.readHost coherent alone knocked member taken
      exact ⟨_, joined, .inl rfl⟩
  checked healthy game host checking := by
    rcases move.checks checking with earlier | ⟨-, kept, owner, record, name⟩
    · rw [(move.paused (checking.trans earlier.symm) (coherent.vacant party)
        (.inr ⟨healthy, game, host, earlier⟩)).1]
      exact focused.checked healthy game host earlier
    · rw [kept]
      exact ⟨owner, record, name⟩

theorem Focused.move (focused : ∀ other, Focused rules known before other)
    (coherent : Coherent rules.fault known before)
    (alone : ∀ other, other ≠ party → (before.stage other).Resting)
    (move : Move rules intent party before after) (other : P) :
    Focused rules known after other := by
  by_cases acting : other = party
  · subst acting
    exact (focused other).moveSelf coherent alone move
  · refine .rest ?_
    rw [move.stage_other acting]
    exact alone other acting

end Grass.Lobby
