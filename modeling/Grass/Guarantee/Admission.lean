import Grass.Lobby.Membership
import Grass.Guarantee.Session

namespace Grass.Cluster

open Lobby Transition

variable {shardId : ShardId} {cluster before after : Cluster} {action : Action}

/-- The connection's Join is in the roster of that host and about to answer that it
succeeded. -/
def Enters (cluster : Cluster) (party : Party) (gameId : String) (hostId : Uuid) : Prop :=
  ∃ oracle model hostNickname hostChannel nickname,
    (cluster.node party.shardId).reader party.id =
      .busy oracle model (.joinEnter gameId hostId hostNickname hostChannel nickname true)

theorem enters_iff {party : Party} {gameId : String} {hostId : Uuid} :
    cluster.Enters party gameId hostId ↔
      cluster.lobby.stage party = .entering gameId ⟨party.shardId, hostId⟩ := by
  constructor
  · rintro ⟨oracle, model, hostNickname, hostChannel, nickname, busy⟩
    rw [lobby_stage, busy]
    rfl
  · intro entering
    obtain ⟨oracle, model, pc, busy, at_⟩ := busy_of_stage entering (by simp [Stage.Resting])
    obtain ⟨hostNickname, hostChannel, nickname, rfl, -⟩ := Pc.stage_entering at_
    exact ⟨oracle, model, hostNickname, hostChannel, nickname, busy⟩

/-- A step by which a Join of a game gets into a roster: it is the roster of a host
game with that id. -/
def AdmitsNamed (shardId : ShardId) : Transition.Step Cluster Action :=
  fun before action after => action.party.shardId = shardId → ∀ gameId hostId,
    after.Enters action.party gameId hostId → ¬ before.Enters action.party gameId hostId →
    ∃ game, (before.world shardId).gameAt hostId = some game ∧ game.isHost = true ∧
      game.gameId = gameId ∧ ∃ joined, (after.world shardId).gameAt hostId = some joined ∧
        joined.isHost = true ∧ joined.gameId = gameId ∧ joined.Lists action.party.id

/-- A host's game is installed only while no Join that has read another record of
this host waits for it. -/
def InstallsRead (shardId : ShardId) : Transition.Step Cluster Action := fun before action _ =>
  action.party.shardId = shardId → ∀ gameId, before.Installs action gameId →
    ∀ id oracle model read nickname channel, (before.node shardId).reader id =
      .busy oracle model (.joinRegister read action.party.id nickname channel) → read = gameId

/-- Under every interleaving, while hosts install only games that waiting Joins have
read of, a Join gets into the game it names. -/
theorem admits_named (shardId : ShardId) (before after : Cluster) (action : Action)
    (reached : Reach (Started shardId) (steps.when (InstallsRead shardId)) before)
    (stepped : steps before action after) : AdmitsNamed shardId before action after := by
  have sound : ∀ cluster, Reach (Started shardId) (steps.when (InstallsRead shardId)) cluster →
      cluster.Sound True (shard shardId) := fun _ earlier =>
    reached_sound (fun _ => Started.apart)
      (fun _ _ _ step => ⟨step.1, Action.failing⟩) earlier
  have informed : Informed (shard shardId) before.lobby := by
    refine reached_lobby sound (fun _ sound => sound) (fun _ _ _ step => ⟨step.1, Action.failing⟩) ?_ ?_
      reached
    · intro cluster started party game host member knocking
      simp [(started.1.empty party).2] at knocking
    · intro before action after sound step move informed
      refine Informed.move informed sound.coherent
        (fun member opened opening leaves other game knocking => ?_) move
      obtain ⟨oracle, model, pc, busy, at_⟩ := busy_of_stage knocking (by simp [Stage.Resting])
      obtain ⟨nickname, channel, rfl, here⟩ := Pc.stage_knocking at_
      have installs := installs_of_opening sound.valid step.1 opening leaves
      have same : other.shardId = shardId := here.symm.trans member
      rw [same] at busy
      exact (step.2 member opened installs other.id oracle model game nickname channel busy).symm
  rintro here gameId hostId enters outside
  have move := (sound before reached).move Action.failing stepped
  rcases move.enters (enters_iff.mp enters) with already | ⟨-, knocking, hosted, members, taken, joined⟩
  · exact absurd (enters_iff.mpr already) outside
  · obtain rfl := informed action.party gameId ⟨action.party.shardId, hostId⟩ here knocking hosted
      ⟨members, taken⟩
    obtain ⟨game, held, host, same, -⟩ := host_of_seat taken
    obtain ⟨later, holds, hosts, kept, roster⟩ := host_of_seat joined
    subst here
    have member : action.party ∈ Roster.parties action.party.shardId later.connectedClients :=
      roster ▸ Set.mem_insert ..
    exact ⟨game, held, host, same, later, holds, hosts, kept, (later.mem_parties _ _).mp member⟩

/-- The game and the host of a Join that is about to answer. -/
def entered? (party : Party) (cluster : Cluster) : Option (String × Uuid) :=
  match (cluster.node party.shardId).reader party.id with
  | .busy _ _ (.joinEnter gameId hostId _ _ _ true) => some (gameId, hostId)
  | _ => none

theorem entered?_eq_some {party : Party} {gameId : String} {hostId : Uuid} :
    cluster.entered? party = some (gameId, hostId) ↔ cluster.Enters party gameId hostId := by
  constructor
  · intro seen
    unfold entered? at seen
    split at seen
    · rename_i busy
      obtain ⟨rfl, rfl⟩ := by simpa using seen
      exact ⟨_, _, _, _, _, busy⟩
    · cases seen
  · rintro ⟨oracle, model, hostNickname, hostChannel, nickname, busy⟩
    simp [entered?, busy]

/-- What a party's section does to its Join: from not entered to entered, and the id of
the game that the host has then. -/
def admission (party : Party) (before : Cluster) : Option ((String × Uuid) × String) :=
  if before.entered? party = none then
    (before.step ⟨party, .advance⟩).bind fun after => (after.entered? party).bind fun entry =>
      ((before.world party.shardId).gameAt entry.2).map fun game => (entry, game.gameId)
  else none

theorem admission_step {party : Party} {gameId hosted : String} {hostId : Uuid}
    (seen : before.admission party = some ((gameId, hostId), hosted)) :
    ∃ after game, steps before ⟨party, .advance⟩ after ∧ after.Enters party gameId hostId ∧
      ¬ before.Enters party gameId hostId ∧
      (before.world party.shardId).gameAt hostId = some game ∧ game.gameId = hosted := by
  unfold admission at seen
  split at seen
  · rename_i outside
    obtain ⟨after, stepped, seen⟩ := Option.bind_eq_some_iff.mp seen
    obtain ⟨entry, enters, seen⟩ := Option.bind_eq_some_iff.mp seen
    obtain ⟨game, held, same⟩ := Option.map_eq_some_iff.mp seen
    obtain ⟨rfl, rfl⟩ := Prod.mk.inj same
    exact ⟨after, game, stepped, entered?_eq_some.mp enters,
      fun already => by simp [entered?_eq_some.mpr already] at outside, held, rfl⟩
  · cases seen

theorem turns_installsRead (turn : turns before action after) :
    InstallsRead shardId before action after := by
  rintro here gameId ⟨-, oracle, model, installs⟩ id other last read nickname channel busy
  subst here
  by_cases same : id = action.party.id
  · subst same
    simp [installs] at busy
  · have rests := turn.2.1 ⟨action.party.shardId, id⟩ fun equal => same (by rw [← equal])
    simp [AtRest, busy, Reader.isBusy] at rests

/-- A Join that is about to register with the host it has read of. -/
def knocks (shardId : ShardId) (hostId id : Uuid) (gameId : String) : List Action :=
  let host : Party := ⟨shardId, hostId⟩
  let guest : Party := ⟨shardId, id⟩
  let oracle := Oracle.calm gameId
  host.enters oracle ++ guest.enters oracle ++ host.creates oracle ++ host.hosts oracle gameId ++
    guest.asks oracle 1 "Join" [("game_id", .string gameId)]

theorem admits_named_pair : ∃ before after : Cluster,
    AdmitsNamed "a" before ⟨⟨"a", 2⟩, .advance⟩ after ∧ after.Enters ⟨"a", 2⟩ "17" 1 := by
  obtain ⟨before, reached, seen⟩ := session_shows (started_empty "a" [])
    (show ((launch emptyRedis []).play (fun _ action => !decide action.lapses && true)
      (knocks "a" 1 2 "17")).bind (admission ⟨"a", 2⟩) = some (("17", 1), "17") by decide +kernel)
  obtain ⟨after, game, stepped, enters, -⟩ := admission_step seen
  have read : Reach (Started "a") (steps.when (InstallsRead "a")) before :=
    reached.mono fun _ _ _ _ step => ⟨step.1.1, turns_installsRead step.1⟩
  exact ⟨before, after, admits_named "a" before after ⟨⟨"a", 2⟩, .advance⟩ read stepped, enters⟩

/-- Between the read and the registration the host leaves and hosts another game,
which the Join gets into. -/
theorem rehosted_admits : ¬ ∀ before after action, Reach (Started "a") steps before →
    steps before action after → AdmitsNamed "a" before action after := by
  intro named
  let host : Party := ⟨"a", 1⟩
  obtain ⟨before, reached, seen⟩ := run_shows (started_empty "a" [])
    (show (run (guarded (fun _ _ => true) step) (launch emptyRedis []) (knocks "a" 1 2 "17" ++
      host.leaves (.calm "18") ++ host.creates (.calm "18") ++
        host.hosts (.calm "18") "18")).bind (admission ⟨"a", 2⟩) = some (("17", 1), "18") by
          decide +kernel)
  obtain ⟨after, game, stepped, enters, outside, held, hosted⟩ := admission_step seen
  obtain ⟨other, has, -, same, -⟩ :=
    named before after ⟨⟨"a", 2⟩, .advance⟩ (reached.mono fun _ _ _ _ step => step.1) stepped rfl
      "17" 1 enters outside
  obtain rfl : game = other := Option.some.inj (held.symm.trans has)
  simp [hosted] at same

end Grass.Cluster
