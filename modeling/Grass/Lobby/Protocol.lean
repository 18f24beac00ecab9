import Mathlib.Data.Set.Insert
import Mathlib.Logic.Function.Basic

/-! What the server's game handling is for, without messages, grading or JSON:
who sits in which game, which record says so, and how far each party is with a
request. The handlers are shown to make only these moves. -/

namespace Grass

universe u v

/-- A party's place: host of a game, with its members, or guest of a host. -/
inductive Seat (P : Type u) (G : Type v) where
  | host (game : G) (members : Set P)
  | guest (game : G) (host : P)

/-- The same place, the party struck off its roster. -/
def Seat.without {P : Type u} {G : Type v} (party : P) : Seat P G → Seat P G
  | .host game members => .host game (members \ {party})
  | .guest game owner => .guest game owner

/-- How far a party is with a request that touches games. -/
inductive Stage (P : Type u) (G : Type v) where
  | unborn
  | idle
  /-- read an empty record, about to publish -/
  | claiming (game : G)
  /-- published, about to take the host's seat -/
  | opening (game : G)
  /-- read a local record, about to enter the host's roster -/
  | knocking (game : G) (host : P)
  /-- entered the roster, about to take the guest's seat -/
  | entering (game : G) (host : P)
  /-- read a foreign record, about to delete by its bare id -/
  | striking (game : G)
  /-- read a record, about to look for its host under this name -/
  | checking (game : G) (host : P)
  /-- found no host, about to delete the record -/
  | condemning (game : G)
  /-- about to answer whether the game exists -/
  | answering (game : G) (found : Bool)
  /-- in the timeout branch -/
  | lapsing
  /-- no request will be handled any more -/
  | retired

namespace Stage

variable {P : Type u} {G : Type v}

/-- No request is being handled. -/
def Resting (stage : Stage P G) : Prop := stage = .unborn ∨ stage = .idle ∨ stage = .retired

/-- Where a request may end, or lapse if it can. -/
def Final (lapses : Prop) (stage : Stage P G) : Prop :=
  stage = .idle ∨ (lapses ∧ stage = .lapsing) ∨ stage = .retired

/-- Stages whose next step cannot simply be given up. -/
def Bound (stage : Stage P G) : Prop :=
  stage = .unborn ∨ stage = .retired ∨ (∃ game, stage = .opening game) ∨
    ∃ game host, stage = .entering game host

end Stage

@[ext] structure Lobby (P : Type u) (G : Type v) where
  seat : P → Option (Seat P G)
  /-- No record, an empty one, or one that names a host. -/
  record : G → Option (Option P)
  stage : P → Stage P G
  present : P → Prop

namespace Lobby

variable {P : Type u} {G : Type v} [DecidableEq P] [DecidableEq G]

/-- Strike a party off the roster of whatever game the host holds. -/
def expel (seat : P → Option (Seat P G)) (party host : P) : P → Option (Seat P G) := fun other =>
  if other = host then (seat other).map (Seat.without party) else seat other

/-- What does not change: whether Redis may fail, which record a deletion by bare
id hits, and the name by which a party looks for another one's entry in its own
map. -/
structure Rules (P : Type u) (G : Type v) where
  fault : Prop
  bare : G → G → Prop
  under : P → P → P

/-- What a step may be about: whether it ends the party's own game, the id drawn
for a new one, and whether the request times out. -/
structure Intent (G : Type v) where
  ends : Prop
  draws : G → Prop
  lapses : Prop

/-- A party's game ends: a guest leaves its host's roster, a host's record goes
with it unless the deletion is lost. -/
inductive Unseat (ends lossy : Prop) (party : P) (before after : Lobby P G) : Prop where
  | empty (vacant : before.seat party = none) (result : after = before)
  | guest (game : G) (host : P) (taken : before.seat party = some (.guest game host))
      (result : after = { before with
        seat := Function.update (expel before.seat party host) party none })
  | host (willing : ends) (game : G) (members : Set P)
      (taken : before.seat party = some (.host game members))
      (result : after = { before with
        seat := Function.update before.seat party none
        record := Function.update before.record game none })
  | lost (willing : ends) (loses : lossy) (game : G) (members : Set P)
      (taken : before.seat party = some (.host game members))
      (result : after = { before with seat := Function.update before.seat party none })

/-- The atomic moves of one party. -/
inductive Move (rules : Rules P G) (intent : Intent G) (party : P)
    (before after : Lobby P G) : Prop where
  | still (result : after = before)
  | arrive (fresh : before.stage party = .unborn) (vacant : before.seat party = none)
      (result : after = { before with
        stage := Function.update before.stage party .idle
        present := Function.update before.present party True })
  | settle (free : ¬ (before.stage party).Bound) (stage : Stage P G)
      (final : stage.Final intent.lapses)
      (result : after = { before with stage := Function.update before.stage party stage })
  | abandon (faulty : rules.fault) (awake : before.stage party ≠ .unborn)
      (result : after = { before with stage := Function.update before.stage party .retired })
  | claim (game : G) (ready : before.stage party = .idle) (vacant : before.seat party = none)
      (here : before.present party) (empty : before.record game = some none)
      (result : after = { before with
        stage := Function.update before.stage party (.claiming game) })
  | publish (game : G) (claimed : before.stage party = .claiming game)
      (result : after = { before with
        record := Function.update before.record game (some (some party))
        stage := Function.update before.stage party (.opening game) })
  | openGame (game : G) (opened : before.stage party = .opening game)
      (here : before.present party) (stage : Stage P G) (final : stage.Final intent.lapses)
      (result : after = { before with
        seat := Function.update before.seat party (some (.host game ∅))
        stage := Function.update before.stage party stage })
  | knock (game : G) (host : P) (ready : before.stage party = .idle)
      (vacant : before.seat party = none) (here : before.present party)
      (recorded : before.record game = some (some host))
      (result : after = { before with
        stage := Function.update before.stage party (.knocking game host) })
  | welcome (game : G) (host : P) (hosted : G) (members : Set P)
      (knocked : before.stage party = .knocking game host)
      (taken : before.seat host = some (.host hosted members))
      (result : after = { before with
        seat := Function.update before.seat host (some (.host hosted (insert party members)))
        stage := Function.update before.stage party (.entering game host) })
  | miss (game : G) (host : P) (knocked : before.stage party = .knocking game host)
      (absent : ¬ before.present host)
      (result : after = { before with
        stage := Function.update before.stage party (.condemning game) })
  | evict (game : G) (host : P) (knocked : before.stage party = .knocking game host)
      (vacant : before.seat host = none)
      (result : after = { before with
        record := Function.update before.record game none
        stage := Function.update before.stage party .retired })
  | enter (game : G) (host : P) (entered : before.stage party = .entering game host)
      (here : before.present party) (stage : Stage P G) (final : stage.Final intent.lapses)
      (result : after = { before with
        seat := Function.update before.seat party (some (.guest game host))
        stage := Function.update before.stage party stage })
  | read (game : G) (host : P) (ready : before.stage party = .idle)
      (recorded : before.record game = some (some host))
      (result : after = { before with
        stage := Function.update before.stage party (.checking game (rules.under party host)) })
  | find (game : G) (host : P) (checked : before.stage party = .checking game host)
      (here : before.present host)
      (result : after = { before with
        stage := Function.update before.stage party (.answering game true) })
  | condemn (game : G) (host : P) (checked : before.stage party = .checking game host)
      (absent : ¬ before.present host)
      (result : after = { before with
        stage := Function.update before.stage party (.condemning game) })
  | purge (game : G) (condemned : before.stage party = .condemning game) (stage : Stage P G)
      (final : stage = .retired ∨ stage = .answering game false)
      (result : after = { before with
        record := Function.update before.record game none
        stage := Function.update before.stage party stage })
  | purgeLost (faulty : rules.fault) (game : G)
      (condemned : before.stage party = .condemning game)
      (result : after = { before with
        stage := Function.update before.stage party (.answering game false) })
  | answer (game : G) (found : Bool) (ready : before.stage party = .idle)
      (truthful : if found then before.record game = some none
        else before.record game = none ∨ rules.fault)
      (result : after = { before with
        stage := Function.update before.stage party (.answering game found) })
  | foreign (game : G) (host : P) (ready : before.stage party = .idle)
      (recorded : before.record game = some (some host))
      (elsewhere : rules.under party host ≠ host)
      (result : after = { before with
        stage := Function.update before.stage party (.striking game) })
  | strike (game : G) (struck : before.stage party = .striking game)
      (records : G → Option (Option P))
      (hit : ∀ other, rules.bare game other → records other = none)
      (spared : ∀ other, ¬ rules.bare game other → records other = before.record other)
      (result : after = { before with
        record := records, stage := Function.update before.stage party .idle })
  | create (game : G) (ready : before.stage party = .idle) (drawn : intent.draws game)
      (result : after = { before with record := Function.update before.record game (some none) })
  | quit (stage : Stage P G)
      (turn : (before.stage party = .idle ∧ stage.Final intent.lapses) ∨
        (before.stage party = .retired ∧ stage = .retired)) (unseated : Lobby P G)
      (ended : Unseat intent.ends (rules.fault ∧ stage = .retired) party before unseated)
      (result : after = { unseated with
        stage := Function.update unseated.stage party stage })
  | depart (due : rules.fault ∨ before.stage party = .retired) (unseated : Lobby P G)
      (ended : Unseat intent.ends rules.fault party before unseated)
      (result : after = { unseated with
        present := Function.update unseated.present party False })
  | relinquish (host : P) (lapsed : before.stage party = .lapsing) (stage : Stage P G)
      (final : stage.Final True)
      (result : after = { before with
        seat := expel before.seat party host
        stage := Function.update before.stage party stage })
  | unlist (game : G) (lapsed : before.stage party = .lapsing) (stage : Stage P G)
      (final : stage.Final True)
      (result : after = { before with
        record := Function.update before.record game none
        stage := Function.update before.stage party stage })

end Lobby

end Grass
