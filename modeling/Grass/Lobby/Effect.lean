import Grass.Lobby.Protocol

/-! What one move can do to each part of a lobby. Every invariant is derived from
these facts, not from the moves themselves. -/

namespace Grass.Lobby

universe u v

variable {P : Type u} {G : Type v}

def Hosts (lobby : Lobby P G) (party : P) (game : G) : Prop :=
  ∃ members, lobby.seat party = some (.host game members)

/-- The game the host holds lists the party. -/
def Lists (lobby : Lobby P G) (host party : P) : Prop :=
  ∃ game members, lobby.seat host = some (.host game members) ∧ party ∈ members

/-- The party is on its way into a seat. -/
def Seating (stage : Stage P G) : Prop :=
  (∃ game, stage = .claiming game) ∨ (∃ game, stage = .opening game) ∨
    (∃ game host, stage = .knocking game host) ∨ ∃ game host, stage = .entering game host

/-- The party hosts nothing and can take no seat any more. -/
def Barred (lobby : Lobby P G) (party : P) : Prop :=
  (lobby.stage party = .retired ∨ ¬ lobby.present party) ∧
    ∀ game members, lobby.seat party ≠ some (.host game members)

section Expel

variable [DecidableEq P] (seat : P → Option (Seat P G)) (party host : P)

theorem expel_eq_none_iff (other : P) :
    expel seat party host other = none ↔ seat other = none := by
  unfold expel
  split <;> simp

theorem expel_guest_iff (other : P) (game : G) (owner : P) :
    expel seat party host other = some (.guest game owner) ↔
      seat other = some (.guest game owner) := by
  unfold expel
  split
  · cases seat other with
    | none => simp
    | some place => cases place <;> simp [Seat.without]
  · rfl

/-- A roster after an expulsion is the one before, less the party at that host. -/
theorem expel_host_iff (other : P) (game : G) (members : Set P) :
    expel seat party host other = some (.host game members) ↔
      ∃ old, seat other = some (.host game old) ∧
        members = if other = host then old \ {party} else old := by
  unfold expel
  split
  · cases seat other with
    | none => simp
    | some place => cases place <;> simp [Seat.without, eq_comm, and_comm]
  · simp

theorem expel_host {other : P} {game : G} {members : Set P}
    (taken : seat other = some (.host game members)) :
    expel seat party host other =
      some (.host game (if other = host then members \ {party} else members)) :=
  (expel_host_iff seat party host other game _).mpr ⟨members, taken, rfl⟩

end Expel

namespace Move

variable [DecidableEq P] [DecidableEq G] {rules : Rules P G} {intent : Intent G}
  {party : P} {before after : Lobby P G}

attribute [local grind =] Stage.Resting Stage.Final Stage.Bound Seating Barred Hosts
  Function.update_apply expel_eq_none_iff expel_guest_iff expel_host_iff
  Set.mem_diff Set.mem_singleton_iff

theorem stage_other (move : Move rules intent party before after) (different : other ≠ party) :
    after.stage other = before.stage other := by
  cases move with
  | quit _ _ _ ended | depart _ _ ended => cases ended <;> subst_vars <;> grind
  | _ => subst_vars; grind

theorem born (move : Move rules intent party before after) (alive : before.stage other ≠ .unborn) :
    after.stage other ≠ .unborn := by
  cases move with
  | quit _ _ _ ended | depart _ _ ended => cases ended <;> subst_vars <;> grind
  | _ => subst_vars; grind

/-- Only a publication makes a record name anybody. -/
theorem named (move : Move rules intent party before after)
    (record : after.record game = some (some owner)) :
    before.record game = some (some owner) ∨
      (owner = party ∧ after.stage party = .opening game) := by
  cases move with
  | quit _ _ _ ended | depart _ _ ended => cases ended <;> subst_vars <;> grind
  | _ => subst_vars; grind

/-- A host keeps its game until it gives it up, and then its record goes too. -/
theorem hosting (move : Move rules intent party before after)
    (vacant : Seating (before.stage party) → before.seat party = none)
    (hosts : before.Hosts owner game) :
    after.Hosts owner game ∨
      (owner = party ∧ intent.ends ∧ after.seat owner = none ∧ (after.record game = none ∨
        rules.fault ∧ (after.stage owner = .retired ∨ ¬ after.present owner))) := by
  obtain ⟨members, taken⟩ := hosts
  have kept := fun host => expel_host before.seat party host taken
  cases move with
  | quit _ _ _ ended | depart _ _ ended => cases ended <;> subst_vars <;> grind
  | _ => subst_vars; grind

theorem hosted (move : Move rules intent party before after) (hosts : after.Hosts owner game) :
    before.Hosts owner game ∨ (owner = party ∧ before.stage party = .opening game) := by
  cases move with
  | quit _ _ _ ended | depart _ _ ended => cases ended <;> subst_vars <;> grind
  | _ => subst_vars; grind

theorem opening (move : Move rules intent party before after)
    (opens : before.stage owner = .opening game) :
    after.stage owner = .opening game ∨ after.Hosts owner game ∨
      (rules.fault ∧ after.stage owner = .retired ∧ after.seat owner = before.seat owner) := by
  cases move with
  | quit _ _ _ ended | depart _ _ ended => cases ended <;> subst_vars <;> grind
  | _ => subst_vars; grind

theorem barred (move : Move rules intent party before after)
    (alive : before.stage other ≠ .unborn) (bars : before.Barred other) :
    after.Barred other := by
  cases move with
  | quit _ _ _ ended | depart _ _ ended => cases ended <;> subst_vars <;> grind
  | _ => subst_vars; grind

/-- A roster grows only by the party that enters it. -/
theorem listed (move : Move rules intent party before after) (lists : after.Lists host other) :
    before.Lists host other ∨
      (other = party ∧ ∃ game, after.stage party = .entering game host) := by
  obtain ⟨game, members, taken, member⟩ := lists
  cases move with
  | welcome _ owner _ old _ hosted result =>
    subst result
    by_cases same : host = owner
    · subst same
      simp only [Function.update_self, Option.some.injEq, Seat.host.injEq] at taken
      obtain ⟨rfl, rfl⟩ := taken
      rcases member with rfl | earlier
      · exact .inr ⟨rfl, _, Function.update_self ..⟩
      · exact .inl ⟨_, _, hosted, earlier⟩
    · simp only [ne_eq, same, not_false_eq_true, Function.update_of_ne] at taken
      exact .inl ⟨_, _, taken, member⟩
  | quit _ _ _ ended | depart _ _ ended =>
    simp only [Lists]
    cases ended <;> subst_vars <;> grind
  | _ =>
    simp only [Lists]
    subst_vars
    grind

/-- A guest that gives its seat up is struck off its host's roster. -/
theorem seatedGuest (move : Move rules intent party before after)
    (vacant : Seating (before.stage party) → before.seat party = none)
    (taken : before.seat other = some (.guest game host)) :
    after.seat other = some (.guest game host) ∨
      (other = party ∧ after.seat other = none ∧ ¬ after.Lists host other) := by
  simp only [Lists]
  cases move with
  | quit _ _ _ ended | depart _ _ ended => cases ended <;> subst_vars <;> grind
  | _ => subst_vars; grind

theorem entering (move : Move rules intent party before after)
    (enters : before.stage other = .entering game host) :
    after.stage other = .entering game host ∨ after.seat other = some (.guest game host) ∨
      rules.fault := by
  cases move with
  | quit _ _ _ ended | depart _ _ ended => cases ended <;> subst_vars <;> grind
  | _ => subst_vars; grind

theorem vacant (move : Move rules intent party before after)
    (vacant : ∀ other, Seating (before.stage other) → before.seat other = none)
    (seating : Seating (after.stage other)) : after.seat other = none := by
  cases move with
  | quit _ _ _ ended | depart _ _ ended => cases ended <;> subst_vars <;> grind
  | _ => subst_vars; grind

theorem unborn (move : Move rules intent party before after)
    (unborn : ∀ other, before.stage other = .unborn → before.seat other = none)
    (fresh : after.stage other = .unborn) : after.seat other = none := by
  cases move with
  | quit _ _ _ ended | depart _ _ ended => cases ended <;> subst_vars <;> grind
  | _ => subst_vars; grind

theorem seated (move : Move rules intent party before after)
    (seated : ∀ other, before.seat other ≠ none → before.present other)
    (taken : after.seat other ≠ none) : after.present other := by
  cases move with
  | quit _ _ _ ended | depart _ _ ended => cases ended <;> subst_vars <;> grind
  | _ => subst_vars; grind

theorem awake (move : Move rules intent party before after) (healthy : ¬ rules.fault)
    (awake : ∀ other, before.stage other ≠ .unborn → before.stage other ≠ .retired →
      before.present other)
    (alive : after.stage other ≠ .unborn) (active : after.stage other ≠ .retired) :
    after.present other := by
  cases move with
  | quit _ _ _ ended | depart _ _ ended => cases ended <;> subst_vars <;> grind
  | _ => subst_vars; grind

/-- A record changes only where a party may change it. -/
theorem recordKept (move : Move rules intent party before after) (game : G) :
    after.record game = before.record game ∨ before.stage party = .claiming game ∨
      (∃ host, before.stage party = .knocking game host ∧ before.seat host = none) ∨
      before.stage party = .condemning game ∨
      (∃ struck, before.stage party = .striking struck ∧ rules.bare struck game ∧
        after.stage party ≠ .striking struck) ∨
      intent.draws game ∨ (before.Hosts party game ∧ after.seat party = none) ∨
      before.stage party = .lapsing := by
  cases move with
  | strike struck striking _ _ spared result =>
    by_cases bare : rules.bare struck game
    · have done : after.stage party ≠ .striking struck := by simp [result]
      exact .inr (.inr (.inr (.inr (.inl ⟨struck, striking, bare, done⟩))))
    · subst_vars
      exact .inl (spared game bare)
  | quit _ _ _ ended | depart _ _ ended => cases ended <;> subst_vars <;> grind
  | _ => subst_vars; grind

theorem emptied (move : Move rules intent party before after)
    (empty : after.record game = some none) : before.record game = some none ∨ intent.draws game := by
  cases move with
  | quit _ _ _ ended | depart _ _ ended => cases ended <;> subst_vars <;> grind
  | _ => subst_vars; grind

theorem opens (move : Move rules intent party before after)
    (opening : after.stage other = .opening game) :
    before.stage other = .opening game ∨ (other = party ∧ before.stage other = .claiming game ∧
      after.record game = some (some other)) := by
  cases move with
  | quit _ _ _ ended | depart _ _ ended => cases ended <;> subst_vars <;> grind
  | _ => subst_vars; grind

theorem knocks (move : Move rules intent party before after)
    (knocking : after.stage other = .knocking game host) :
    before.stage other = .knocking game host ∨
      (other = party ∧ before.record game = some (some host) ∧ after.record = before.record ∧
        after.seat = before.seat) := by
  cases move with
  | quit _ _ _ ended | depart _ _ ended => cases ended <;> subst_vars <;> grind
  | _ => subst_vars; grind

theorem condemns (move : Move rules intent party before after)
    (condemning : after.stage other = .condemning game) :
    before.stage other = .condemning game ∨ (other = party ∧ ∃ host, ¬ before.present host ∧
      (before.stage party = .knocking game host ∨ before.stage party = .checking game host)) := by
  cases move with
  | quit _ _ _ ended | depart _ _ ended => cases ended <;> subst_vars <;> grind
  | _ => subst_vars; grind

/-- What an answer about a game's existence rests on. -/
theorem answers (move : Move rules intent party before after)
    (answering : after.stage other = .answering game found) :
    before.stage other = .answering game found ∨ (other = party ∧ after.seat = before.seat ∧
      (found = true ∨ before.record game = none ∨ rules.fault ∨
        before.stage party = .condemning game)) := by
  cases move with
  | quit _ _ _ ended | depart _ _ ended => cases ended <;> subst_vars <;> grind
  | _ => subst_vars; grind

theorem vacated (move : Move rules intent party before after) (different : other ≠ party)
    (empty : before.seat other = none) : after.seat other = none := by
  cases move with
  | quit _ _ _ ended | depart _ _ ended => cases ended <;> subst_vars <;> grind
  | _ => subst_vars; grind

theorem guested (move : Move rules intent party before after)
    (taken : after.seat other = some (.guest game host)) :
    before.seat other = some (.guest game host) ∨
      (other = party ∧ before.stage party = .entering game host) := by
  cases move with
  | quit _ _ _ ended | depart _ _ ended => cases ended <;> subst_vars <;> grind
  | _ => subst_vars; grind

/-- A roster loses only a party that gives its seat up, or one whose request lapsed. -/
theorem roster (move : Move rules intent party before after)
    (taken : after.seat host = some (.host game members)) :
    (host = party ∧ before.stage party = .opening game) ∨
      ∃ old, before.seat host = some (.host game old) ∧ ∀ member ∈ old, member ∈ members ∨
        (member = party ∧ after.seat member = none) ∨ before.stage party = .lapsing := by
  cases move with
  | quit _ _ _ ended | depart _ _ ended => cases ended <;> subst_vars <;> grind
  | _ => subst_vars; grind

/-- Entering a roster, seen from the party that enters it. -/
theorem enters (move : Move rules intent party before after)
    (entering : after.stage other = .entering game host) :
    before.stage other = .entering game host ∨
      (other = party ∧ before.stage party = .knocking game host ∧ ∃ hosted members,
        before.seat host = some (.host hosted members) ∧
          after.seat host = some (.host hosted (insert other members))) := by
  cases move with
  | quit _ _ _ ended | depart _ _ ended => cases ended <;> subst_vars <;> grind
  | _ => subst_vars; grind

/-- A move within a request that keeps its stage keeps all it may have read. -/
theorem paused (move : Move rules intent party before after)
    (same : after.stage party = before.stage party)
    (vacant : Seating (before.stage party) → before.seat party = none)
    (busy : Seating (before.stage party) ∨
      (¬ rules.fault ∧ ∃ game host, before.stage party = .checking game host)) :
    after.record = before.record ∧ after.seat = before.seat := by
  cases move with
  | quit _ _ _ ended | depart _ _ ended => cases ended <;> subst_vars <;> grind
  | _ => subst_vars; grind

theorem claims (move : Move rules intent party before after)
    (claiming : after.stage other = .claiming game) :
    before.stage other = .claiming game ∨
      (other = party ∧ before.record game = some none ∧ after.record = before.record) := by
  cases move with
  | quit _ _ _ ended | depart _ _ ended => cases ended <;> subst_vars <;> grind
  | _ => subst_vars; grind

theorem checks (move : Move rules intent party before after)
    (checking : after.stage other = .checking game host) :
    before.stage other = .checking game host ∨ (other = party ∧ after.record = before.record ∧
      ∃ owner, before.record game = some (some owner) ∧ host = rules.under party owner) := by
  cases move with
  | quit _ _ _ ended | depart _ _ ended => cases ended <;> subst_vars <;> grind
  | _ => subst_vars; grind

/-- A party that stays idle keeps its seat or loses it. -/
theorem idled (move : Move rules intent party before after) (idle : before.stage party = .idle)
    (stays : after.stage party = .idle) :
    after.seat party = before.seat party ∨ after.seat party = none := by
  cases move with
  | quit _ _ _ ended | depart _ _ ended => cases ended <;> subst_vars <;> grind
  | _ => subst_vars; grind

theorem lapses (move : Move rules intent party before after)
    (lapsing : after.stage other = .lapsing) : before.stage other = .lapsing ∨ intent.lapses := by
  cases move with
  | quit _ _ _ ended | depart _ _ ended => cases ended <;> subst_vars <;> grind
  | _ => subst_vars; grind

end Move

end Grass.Lobby
