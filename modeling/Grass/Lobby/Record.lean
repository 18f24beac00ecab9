import Grass.Lobby.Sequential

namespace Grass.Lobby

universe u v

variable {P : Type u} {G : Type v}

/-- Every host is recorded, and no party holds the contrary. -/
structure Registered (lobby : Lobby P G) : Prop where
  hosted : ∀ owner game, lobby.Hosts owner game → lobby.record game = some (some owner)
  condemned : ∀ party game, lobby.stage party = .condemning game →
    ∀ owner, ¬ lobby.Hosts owner game
  answered : ∀ party game found, lobby.stage party = .answering game found →
    ∀ owner, lobby.Hosts owner game → found = true

def Uncondemned (lobby : Lobby P G) : Prop := ∀ party game, lobby.stage party ≠ .condemning game

/-- The step draws no id in use, and neither a party that misses the recorded
host nor a deletion by bare id concerns a hosted game. -/
structure Careful (rules : Rules P G) (intent : Intent G) (party : P) (before after : Lobby P G) :
    Prop where
  fresh : ∀ game, intent.draws game → before.record game = none
  punctual : before.stage party ≠ .lapsing
  checks : ∀ game host, before.stage party = .checking game host → ¬ before.present host →
    after.stage party = .condemning game → ∀ owner, ¬ before.Hosts owner game
  strikes : ∀ struck game, before.stage party = .striking struck →
    after.stage party ≠ .striking struck → rules.bare struck game →
    ∀ owner, ¬ before.Hosts owner game

/-- At most one party hosts the game or is about to, and none while its record is empty. -/
structure Exclusive (game : G) (lobby : Lobby P G) : Prop where
  unclaimed : lobby.record game = some none →
    ∀ owner, ¬ lobby.Hosts owner game ∧ lobby.stage owner ≠ .opening game
  unique : ∀ first second,
    (lobby.Hosts first game ∨ lobby.stage first = .opening game) →
    (lobby.Hosts second game ∨ lobby.stage second = .opening game) → first = second

variable [DecidableEq P] [DecidableEq G] {rules : Rules P G} {intent : Intent G}
  {party : P} {before after : Lobby P G} {known : Set P}

/-- Publishing only over an empty record keeps the host unique. -/
theorem Exclusive.move (exclusive : before.Exclusive game)
    (move : Move rules intent party before after) (undrawn : ¬ intent.draws game)
    (free : before.stage party = .claiming game → after.stage party = .opening game →
      before.record game = some none) : after.Exclusive game := by
  have earlier : ∀ owner, after.Hosts owner game ∨ after.stage owner = .opening game →
      (before.Hosts owner game ∨ before.stage owner = .opening game) ∨
        (owner = party ∧ before.record game = some none ∧
          after.record game = some (some owner)) := by
    rintro owner (hosts | opening)
    · rcases move.hosted hosts with already | ⟨rfl, opening⟩
      · exact .inl (.inl already)
      · exact .inl (.inr opening)
    · rcases move.opens opening with already | ⟨rfl, claiming, published⟩
      · exact .inl (.inr already)
      · exact .inr ⟨rfl, free claiming opening, published⟩
  constructor
  · intro empty owner
    have nobody := exclusive.unclaimed ((move.emptied empty).resolve_right undrawn)
    apply not_or.mp
    intro claims
    rcases earlier owner claims with already | ⟨-, -, published⟩
    · exact already.elim (nobody owner).1 (nobody owner).2
    · simp [empty] at published
  · intro first second claimsFirst claimsSecond
    have clash : ∀ {one : P}, (before.Hosts one game ∨ before.stage one = .opening game) →
        before.record game ≠ some none := fun {one} claims empty =>
      claims.elim (exclusive.unclaimed empty one).1 (exclusive.unclaimed empty one).2
    rcases earlier first claimsFirst with already | ⟨rfl, empty, -⟩ <;>
      rcases earlier second claimsSecond with also | ⟨rfl, vacant, -⟩
    · exact exclusive.unique first second already also
    · exact absurd vacant (clash already)
    · exact absurd empty (clash also)
    · rfl

private theorem Registered.recordKept (registered : before.Registered)
    (focused : Focused rules known before party) (careful : Careful rules intent party before after)
    (move : Move rules intent party before after)
    (record : before.record game = some (some owner))
    (hosts : before.Hosts owner game ∨ before.stage party = .opening game)
    (stays : after.Hosts owner game) : after.record game = some (some owner) := by
  rcases move.recordKept game with kept | claiming | ⟨host, knocking, empty⟩ | condemning |
    ⟨struck, striking, bare, struckDown⟩ | drawn | ⟨acting, ended⟩ | lapsing
  · rw [kept, record]
  · have free := focused.claimed game claiming
    simp [record] at free
  · have read := focused.knocked game host knocking
    obtain rfl : owner = host := by simpa [record] using read
    rcases hosts with ⟨members, taken⟩ | opening
    · simp [empty] at taken
    · simp [knocking] at opening
  · rcases hosts with hosts | opening
    · exact absurd hosts (registered.condemned party game condemning owner)
    · simp [condemning] at opening
  · rcases hosts with hosts | opening
    · exact absurd hosts (careful.strikes struck game striking struckDown bare owner)
    · simp [striking] at opening
  · simp [careful.fresh game drawn] at record
  · have same := registered.hosted party game acting
    obtain rfl : owner = party := by simpa [record] using same
    obtain ⟨members, taken⟩ := stays
    simp [ended] at taken
  · exact absurd lapsing careful.punctual

/-- In turns, careful moves keep every host recorded. -/
theorem Registered.move (registered : before.Registered)
    (focused : Focused rules known before party)
    (coherent : Coherent rules.fault known before) (healthy : ¬ rules.fault)
    (alone : ∀ other, other ≠ party → (before.stage other).Resting)
    (careful : Careful rules intent party before after)
    (move : Move rules intent party before after) : after.Registered where
  hosted owner game hosts := by
    rcases move.hosted hosts with already | ⟨rfl, opening⟩
    · exact registered.recordKept focused careful move (registered.hosted owner game already)
        (.inl already) hosts
    · exact registered.recordKept focused careful move (focused.opened game opening)
        (.inr opening) hosts
  condemned other game condemning owner hosts := by
    rcases move.condemns condemning with earlier | ⟨rfl, host, absent, reading⟩
    · have acting : other = party := by
        by_contra apart
        rcases alone other apart with rest | rest | rest <;> simp [rest] at earlier
      subst acting
      rcases move.hosted hosts with already | ⟨rfl, opening⟩
      · exact registered.condemned other game earlier owner already
      · simp [earlier] at opening
    · have already : before.Hosts owner game := by
        rcases move.hosted hosts with already | ⟨rfl, opening⟩
        · exact already
        · rcases reading with knocking | checking
          · simp [knocking] at opening
          · simp [checking] at opening
      rcases reading with knocking | checking
      · have read := focused.knocked game host knocking
        obtain rfl : owner = host := by
          simpa [registered.hosted owner game already] using read
        obtain ⟨members, taken⟩ := already
        exact absent (coherent.seated owner (by simp [taken]))
      · exact careful.checks game host checking absent condemning owner already
  answered other game found answering owner hosts := by
    rcases move.answers answering with earlier | ⟨rfl, seats, grounds⟩
    · have acting : other = party := by
        by_contra apart
        rcases alone other apart with rest | rest | rest <;> simp [rest] at earlier
      subst acting
      rcases move.hosted hosts with already | ⟨rfl, opening⟩
      · exact registered.answered other game found earlier owner already
      · simp [earlier] at opening
    · have already : before.Hosts owner game := by
        simpa [Hosts, seats] using hosts
      rcases grounds with yes | missing | faulty | condemning
      · exact yes
      · simp [registered.hosted owner game already] at missing
      · exact absurd faulty healthy
      · exact absurd already (registered.condemned other game condemning owner)

end Grass.Lobby
