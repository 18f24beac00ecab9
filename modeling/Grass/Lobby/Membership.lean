import Grass.Lobby.Sequential

namespace Grass.Lobby

universe u v

variable {P : Type u} {G : Type v}

/-- Every guest's host holds the guest's game and lists the guest. -/
def Anchored (known : Set P) (lobby : Lobby P G) : Prop :=
  ∀ guest game, ∀ host ∈ known, lobby.seat guest = some (.guest game host) →
    ∃ members, lobby.seat host = some (.host game members) ∧ guest ∈ members

/-- Where a guest's host holds a game, it is the guest's and lists the guest. -/
def Aligned (known : Set P) (lobby : Lobby P G) : Prop :=
  ∀ guest game, ∀ host ∈ known, lobby.seat guest = some (.guest game host) →
    ∀ held members, lobby.seat host = some (.host held members) → held = game ∧ guest ∈ members

/-- Where the party knocked at hosts a game, it is the one that was read of. -/
def Informed (known : Set P) (lobby : Lobby P G) : Prop :=
  ∀ party game, ∀ host ∈ known, lobby.stage party = .knocking game host →
    ∀ held, lobby.Hosts host held → held = game

variable [DecidableEq P] [DecidableEq G] {rules : Rules P G} {intent : Intent G}
  {party : P} {before after : Lobby P G} {known : Set P}

private theorem memberKept (move : Move rules intent party before after)
    (coherent : Coherent rules.fault known before) (punctual : before.stage party ≠ .lapsing)
    (taken : before.seat host = some (.host game members)) (member : guest ∈ members)
    (hosts : after.seat host = some (.host held left)) (sits : after.seat guest ≠ none) :
    held = game ∧ guest ∈ left := by
  rcases move.roster hosts with ⟨rfl, opening⟩ | ⟨old, before, kept⟩
  · have empty := coherent.vacant host (.inr (.inl ⟨held, opening⟩))
    simp [empty] at taken
  · obtain ⟨rfl, rfl⟩ : game = held ∧ members = old := by simpa [before] using taken.symm
    rcases kept guest member with still | ⟨-, gone⟩ | lapsing
    · exact ⟨rfl, still⟩
    · exact absurd gone sits
    · exact absurd lapsing punctual

private theorem opened (move : Move rules intent party before after)
    (coherent : Coherent rules.fault known before) (opening : before.stage party = .opening game)
    (hosts : after.Hosts party game) : after.stage party ≠ .opening game := by
  intro stays
  have seating : Seating (before.stage party) := .inr (.inl ⟨game, opening⟩)
  have kept := (move.paused (stays.trans opening.symm) (coherent.vacant party) (.inl seating)).2
  obtain ⟨members, taken⟩ := hosts
  simp [kept, coherent.vacant party seating] at taken

/-- In turns, guests stay anchored while no party ends its game that a guest
names as host. -/
theorem Anchored.move (anchored : Anchored known before)
    (focused : Focused rules known before party)
    (coherent : Coherent rules.fault known before) (punctual : before.stage party ≠ .lapsing)
    (unnamed : intent.ends → party ∈ known →
      ∀ guest game, before.seat guest ≠ some (.guest game party))
    (move : Move rules intent party before after) : Anchored known after := by
  intro guest game host member sits
  have named : intent.ends → host ≠ party := by
    rintro ends rfl
    rcases move.guested sits with already | ⟨rfl, entering⟩
    · exact unnamed ends member guest game already
    · obtain ⟨members, taken, -⟩ := focused.entered game guest member entering
      have empty := coherent.vacant guest (.inr (.inr (.inr ⟨game, guest, entering⟩)))
      simp [empty] at taken
  obtain ⟨members, taken, listed⟩ :
      ∃ members, before.seat host = some (.host game members) ∧ guest ∈ members := by
    rcases move.guested sits with already | ⟨rfl, entering⟩
    · exact anchored guest game host member already
    · exact focused.entered game host member entering
  rcases move.hosting (coherent.vacant party) ⟨members, taken⟩ with
    ⟨left, hosts⟩ | ⟨acting, ends, -, -⟩
  · exact ⟨left, hosts,
      (memberKept move coherent punctual taken listed hosts (by simp [sits])).2⟩
  · exact absurd acting (named ends)

theorem Aligned.move (aligned : Aligned known before)
    (focused : Focused rules known before party)
    (coherent : Coherent rules.fault known before) (punctual : before.stage party ≠ .lapsing)
    (unnamed : party ∈ known → ∀ game, before.stage party = .opening game →
      after.stage party ≠ .opening game → ∀ guest held, before.seat guest ≠ some (.guest held party))
    (move : Move rules intent party before after) : Aligned known after := by
  intro guest game host member sits held left hosts
  rcases move.guested sits with already | ⟨rfl, entering⟩
  · rcases move.roster hosts with ⟨rfl, opening⟩ | ⟨old, taken, -⟩
    · exact absurd already
        (unnamed member held opening (opened move coherent opening ⟨left, hosts⟩) guest game)
    · obtain ⟨rfl, listed⟩ := aligned guest game host member already held old taken
      exact memberKept move coherent punctual taken listed hosts (by simp [sits])
  · obtain ⟨members, taken, listed⟩ := focused.entered game host member entering
    exact memberKept move coherent punctual taken listed hosts (by simp [sits])

/-- Whatever the interleaving, knocking parties stay informed while no party
opens another game than the one they have read of. -/
theorem Informed.move (informed : Informed known before)
    (coherent : Coherent rules.fault known before)
    (agrees : party ∈ known → ∀ opened, before.stage party = .opening opened →
      after.stage party ≠ .opening opened →
      ∀ other game, before.stage other = .knocking game party → opened = game)
    (move : Move rules intent party before after) : Informed known after := by
  intro other game host member knocking held hosts
  rcases move.knocks knocking with earlier | ⟨rfl, record, -, seats⟩
  · rcases move.hosted hosts with already | ⟨rfl, opening⟩
    · exact informed other game host member earlier held already
    · exact agrees member held opening (opened move coherent opening hosts) other game earlier
  · obtain ⟨members, taken⟩ : before.Hosts host held := by simpa [Hosts, seats] using hosts
    rcases (coherent.recorded host member game record).2 with ⟨_, same⟩ | opening | ⟨-, bars⟩
    · simp only [taken, Option.some.injEq, Seat.host.injEq] at same
      exact same.1
    · have empty := coherent.vacant host (.inr (.inl ⟨game, opening⟩))
      simp [empty] at taken
    · exact absurd taken (bars.2 held members)

end Grass.Lobby
