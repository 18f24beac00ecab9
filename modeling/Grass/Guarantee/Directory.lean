import Grass.Guarantee.Closing
import Grass.Guarantee.Keys

namespace Grass

open Lobby Transition

theorem userKey_inj {first second : Uuid} : userKey first = userKey second ↔ first = second := by
  refine ⟨fun same => ?_, congrArg userKey⟩
  have digits : Nat.toDigits 10 first = Nat.toDigits 10 second := by
    simpa [userKey, Nat.toString_eq_ofList_toDigits] using congrArg String.toList same
  calc
    first = Nat.ofDigitChars 10 (Nat.toDigits 10 first) 0 := Nat.ofDigitChars_ten_toDigits.symm
    _ = Nat.ofDigitChars 10 (Nat.toDigits 10 second) 0 := by rw [digits]
    _ = second := Nat.ofDigitChars_ten_toDigits

/-! Drops and handlers pass no key of the directory. -/

theorem World.shutdownKeys_game (oracle : Oracle) (world : World) (game : Game) :
    ∀ key ∈ world.shutdownKeys oracle game, ∀ id, key ≠ .user id := by
  unfold shutdownKeys
  split
  · dsimp only
    split
    · split <;> simp
    · simp
  · simp

theorem World.deleteKeys_game (oracle : Oracle) (gameId : String) :
    ∀ key ∈ World.deleteKeys oracle gameId, ∀ id, key ≠ .user id := by
  unfold deleteKeys
  split <;> simp

theorem World.dropKeys_game (oracle : Oracle) (world : World) (held : Option Game) :
    ∀ key ∈ world.dropKeys oracle held, ∀ id, key ≠ .user id := by
  unfold dropKeys
  split
  · simp
  · split
    · refine List.forall_mem_append.mpr ⟨shutdownKeys_game _ _ _, ?_⟩
      split
      · simp
      · exact deleteKeys_game _ _
    · simp

theorem Ctx.requestKeys_game (ctx : Ctx) (world : World) (request : Request) :
    ∀ key ∈ ctx.requestKeys world request, ∀ id, key ≠ .user id := by
  unfold requestKeys
  repeat' split
  all_goals first
    | exact World.dropKeys_game _ _ _
    | simp

theorem Ctx.enterKeys_game (ctx : Ctx) (world : World) :
    ∀ key ∈ ctx.enterKeys world, ∀ id, key ≠ .user id := by
  unfold enterKeys
  split
  · simp
  · exact World.dropKeys_game _ _ _

theorem Ctx.passes_game (ctx : Ctx) (world : World) (pc : Pc) :
    ∀ key ∈ ctx.passes world pc, ∀ id, key ≠ .user id := by
  cases pc <;> simp only [passes]
  all_goals
    repeat' split
    all_goals first
      | exact requestKeys_game _ _ _
      | exact enterKeys_game _ _
      | exact World.shutdownKeys_game _ _ _
      | exact World.deleteKeys_game _ _
      | simp

/-- `accept_connection` passes the key of no user but its own. -/
theorem acceptKeys_own {id : Uuid} (oracle : Oracle) {world : World} (valid : world.Valid)
    (phase : Phase) (reader : Reader) :
    ∀ key ∈ acceptKeys id oracle world phase reader, ∀ other, key = .user other → other = id := by
  have dropped : ∀ {before : World} {held : Option Game} {key : RedisKey},
      key ∈ before.dropKeys oracle held → ∀ other, key = .user other → other = id :=
    fun member other same => absurd same (World.dropKeys_game _ _ _ _ member other)
  unfold acceptKeys
  split
  case h_1 =>
    split
    · simp
    · rename_i client found
      have named := (valid _ _ found).named
      refine List.forall_mem_append.mpr ⟨?_, ?_⟩
      · split <;> simp [named]
      · split
        · exact fun key => dropped
        · simp
  case h_2 =>
    split
    · exact fun key => dropped
    · simp
  case h_3 =>
    split
    · simp
    · rename_i client found
      have named := (valid _ _ found).named
      split <;> simp [named]
  case h_4 =>
    split
    · simp
    · exact fun key => dropped
  case h_5 => simp

namespace World

variable {world after : World} {id : Uuid} {oracle : Oracle}

/-- The user's record in the store. -/
def userRecord (world : World) (id : Uuid) : Option RedisValue := world.redis (userKey id)

theorem dropGame?_userRecord (oracle : Oracle) (held : Option Game) :
    (world.dropGame? oracle held).1.userRecord id = world.userRecord id := by
  refine dropGame?_writes oracle held (userKey id) fun key member same => ?_
  have built := dropKeys_built oracle world held key member
  cases key with
  | game gameId => exact userKey_ne_gameKey id gameId same.symm
  | user other => exact dropKeys_game _ _ _ _ member other rfl
  | bare text => exact built

/-- The directory names the process of a connection, if any: while the connection has its
entry and is served, or closed and not yet unregistered, and only then, or where a panic of
`accept_connection` has left the record behind. -/
structure Enrols (world : World) (shardId : ShardId) (id : Uuid) (phase : Phase) : Prop where
  sound : ∀ value, world.userRecord id = some value →
    value = .text shardId ∧ world.sockets id ≠ none ∧
      (phase = .serving ∨ phase = .closed ∨ phase = .crashed)
  complete : phase = .serving ∨ phase = .closed → world.sockets id ≠ none →
    world.userRecord id = some (.text shardId)

variable {shardId : ShardId} {phase next : Phase} {reader : Reader}

theorem Enrols.absent (enrols : world.Enrols shardId id phase) (served : phase ≠ .serving)
    (open_ : phase ≠ .closed) (runs : phase ≠ .crashed) : world.userRecord id = none := by
  cases found : world.userRecord id with
  | none => rfl
  | some value =>
    obtain ⟨-, -, shown⟩ := enrols.sound value found
    simp [served, open_, runs] at shown

theorem Enrols.missing (absent : world.userRecord id = none)
    (gone : phase = .serving ∨ phase = .closed → world.sockets id = none) :
    world.Enrols shardId id phase where
  sound value found := by simp [absent] at found
  complete served here := absurd (gone served) here

theorem Enrols.same (enrols : world.Enrols shardId id phase)
    (same : after.userRecord id = world.userRecord id)
    (entry : after.sockets id = none ↔ world.sockets id = none) :
    after.Enrols shardId id phase where
  sound value found := by
    rw [ne_eq, entry]
    exact enrols.sound value (same ▸ found)
  complete served here := by
    rw [same]
    exact enrols.complete served (entry.not.mp here)

theorem Enrols.crashed (enrols : world.Enrols shardId id phase) :
    (world.dropLocal id).Enrols shardId id .crashed where
  sound value found := by
    obtain ⟨named, here, -⟩ := enrols.sound value (by simpa [userRecord, dropLocal] using found)
    exact ⟨named, by simpa [dropLocal] using here, .inr (.inr rfl)⟩
  complete served := by simp at served

/-- A step of `accept_connection` whose unregistration does not fail. -/
theorem Enrols.accept (enrols : world.Enrols shardId id phase) (valid : world.Valid)
    (answers : phase = .closed →
      (oracle.fails .unregisterPool || oracle.fails .unregisterDel) = false)
    (stepped : acceptStep shardId id oracle world phase reader = some (after, next)) :
    after.Enrols shardId id next := by
  unfold acceptStep at stepped
  cases phase <;> simp only at stepped
  case unborn | gone | crashed => cases stepped
  case inserted =>
    have absent := enrols.absent (by simp) (by simp) (by simp)
    split at stepped
    · cases stepped
      exact enrols.crashed
    · split at stepped <;> cases stepped
      · exact enrols.crashed
      · exact .missing (by simpa [userRecord, send_redis] using absent) (by simp)
  case greeted =>
    have absent := enrols.absent (by simp) (by simp) (by simp)
    split at stepped
    · cases stepped
      exact enrols.crashed
    · rename_i client found
      split at stepped
      · have expelled : ((world.remove id).dropClient oracle client).1.Enrols shardId id .serving :=
          .missing ((dropGame?_userRecord oracle _).trans (by simpa [userRecord] using absent))
            fun _ => removed_missing oracle client
        split at stepped <;> cases stepped <;> rename_i dropped <;> rw [dropped] at expelled
        · exact expelled.crashed
        · exact expelled
      · cases stepped
        have named := (valid _ _ found).named
        exact ⟨fun value told =>
            ⟨by simpa [userRecord, named] using told.symm, by simp [found], .inl rfl⟩,
          fun _ _ => by simp [userRecord, named]⟩
  case serving =>
    split at stepped
    · split at stepped
      · cases stepped
        exact enrols.crashed
      · rename_i client found
        have entry := valid id client found
        let taken := world.put id { client with game := none, performedSafeShutdown := true }
        have takenValid : taken.Valid :=
          valid.put ⟨entry.named, entry.wired, fun _ playing => by cases playing⟩
        have leads := dropGame?_leads oracle takenValid fun game held => (entry.playing game held).2
        have served := enrols.complete (.inl rfl) (by simp [found])
        have closed : taken.Enrols shardId id .closed :=
          ⟨fun value told =>
              ⟨Option.some.inj (told.symm.trans served), by simp [taken], .inr (.inl rfl)⟩,
            fun _ _ => served⟩
        have ended := closed.same (dropGame?_userRecord oracle client.game) (leads.entry id).missing
        split at stepped <;> cases stepped <;> rename_i dropped <;>
          simp only [taken, dropped] at ended
        · exact ended.crashed
        · exact ended
    · cases stepped
  case closed =>
    split at stepped
    · cases stepped
      exact enrols.crashed
    · rename_i client found
      simp only [answers rfl] at stepped
      obtain ⟨rfl, rfl⟩ := by simpa using stepped
      exact .missing (by simp [userRecord, (valid _ _ found).named]) (by simp)
  case unregistered =>
    have absent := enrols.absent (by simp) (by simp) (by simp)
    split at stepped
    · cases stepped
      exact .missing (by simpa [userRecord, dropLocal] using absent) (by simp)
    · rename_i client found
      have expelled : ((world.remove id).dropClient oracle client).1.userRecord id = none :=
        (dropGame?_userRecord oracle _).trans (by simpa [userRecord] using absent)
      split at stepped <;> cases stepped <;> rename_i dropped <;> rw [dropped] at expelled
      · exact .missing (by simpa [userRecord, dropLocal] using expelled) (by simp)
      · exact .missing (by simpa [userRecord, dropLocal] using expelled) (by simp)

end World

namespace Cluster

variable {cluster before after : Cluster} {action : Action} {party : Party} {fault : Prop}
  {known : Set Party}

/-- The directory is right about the connection. -/
def Enrolled (party : Party) (cluster : Cluster) : Prop :=
  (cluster.world party.shardId).Enrols party.shardId party.id
    ((cluster.node party.shardId).phase party.id)

/-- No other connection has the id, no Join takes the key of the user's record for a game's
id, and where the connection unregisters, Redis answers. -/
structure Answered (party : Party) (before : Cluster) (action : Action) : Prop where
  single : action.party.id = party.id → action.party = party
  spared : .bare (userKey party.id) ∉ before.passes action
  answers : ∀ oracle, action = ⟨party, .accept oracle⟩ →
    (before.node party.shardId).phase party.id = .closed →
      (oracle.fails .unregisterPool || oracle.fails .unregisterDel) = false

/-- Fresh processes, and a store without the user. -/
def Unlisted (party : Party) (cluster : Cluster) : Prop :=
  cluster.Fresh ∧ cluster.redis (userKey party.id) = none

theorem passes_user (entries : (before.world action.party.shardId).Valid) {id : Uuid}
    (passed : .user id ∈ before.passes action) :
    id = action.party.id ∧ ∃ oracle, action.kind = .accept oracle := by
  obtain ⟨acting, kind⟩ := action
  cases kind with
  | connect | frame | hangup | sever => simp [passes] at passed
  | accept oracle =>
    exact ⟨acceptKeys_own oracle entries _ _ _ passed id rfl, oracle, rfl⟩
  | advance | timeout =>
    simp only [passes] at passed
    split at passed
    · exact absurd rfl (Ctx.passes_game _ _ _ _ passed id)
    · cases passed

/-- A step of anything but the connection's own `accept_connection` leaves its record. -/
theorem step_userRecord (sound : before.Sound fault known) (stepped : before.step action = some after)
    (answered : before.Answered party action)
    (waits : ¬ (party = action.party ∧ ∃ oracle, action.kind = .accept oracle)) :
    after.redis (userKey party.id) = before.redis (userKey party.id) := by
  refine step_writes stepped _ fun key passed same => ?_
  cases key with
  | game gameId => exact userKey_ne_gameKey party.id gameId same.symm
  | user id =>
    obtain ⟨rfl, accepts⟩ := passes_user (sound.valid.entries _) passed
    exact waits ⟨(answered.single (userKey_inj.mp same)).symm, accepts⟩
  | bare text =>
    obtain rfl : text = userKey party.id := same
    exact answered.spared passed

theorem Enrolled.step (enrolled : before.Enrolled party) (sound : before.Sound fault known)
    (healthy : ¬ fault → action.Healthy) (stepped : before.step action = some after)
    (answered : before.Answered party action) : after.Enrolled party := by
  have kept := step_userRecord sound stepped answered
  rcases step_life sound healthy stepped party with
    ⟨rfl, unborn⟩ | ⟨oracle, world, next, rfl, accepted, rfl, rfl⟩ | ⟨waits, phase, leads⟩
  · have absent := enrolled.absent (by simp [unborn]) (by simp [unborn]) (by simp [unborn])
    have same := kept (by simp)
    simp only [Cluster.step, unborn, ↓reduceIte] at stepped
    cases stepped
    exact .missing (same.trans absent) (by simp [setNode, Node.setPhase])
  · exact World.Enrols.accept enrolled (sound.valid.entries _) (answered.answers oracle rfl) accepted
  · have same := kept fun acts => waits ⟨acts.1, .inr acts.2⟩
    rw [Enrolled, phase]
    exact World.Enrols.same enrolled same leads.missing

/-- Whatever fails elsewhere, from a store without the user on: the store names no process for
the user but its own, and names it while the user has its entry there and is served, or closed
and not yet unregistered; at no other time, unless `accept_connection` has panicked before
the unregistration. -/
theorem users_enrolled (party : Party) (cluster : Cluster)
    (reached : Reach (Unlisted party)
      (steps.when fun before action _ => before.Answered party action) cluster) :
    cluster.Enrolled party := by
  have sound : ∀ cluster, Reach (Unlisted party)
      (steps.when fun before action _ => before.Answered party action) cluster →
      cluster.Sound True ∅ :=
    fun _ reached => reached_sound (fun _ fresh => fresh.1.apart)
      (fun _ _ _ step => ⟨step.1, Action.failing⟩) reached
  refine reached.invariant_using sound ?_ ?_
  · rintro cluster ⟨fresh, absent⟩
    obtain ⟨tasks, started⟩ := fresh party.shardId
    exact .missing absent (by simp [started, Node.fresh])
  · intro before action after sound _ enrolled step
    exact enrolled.step sound Action.failing step.1 step.2

/-- The step is one that leaves the connection's record to the connection. -/
def answeredGuard (party : Party) (before : Cluster) (action : Action) : Bool :=
  (decide (action.party.id ≠ party.id) || decide (action.party = party)) &&
    decide (.bare (userKey party.id) ∉ before.passes action) &&
    match action.kind with
    | .accept oracle => decide (action.party ≠ party) ||
        decide ((before.node party.shardId).phase party.id ≠ .closed) ||
        !(oracle.fails .unregisterPool || oracle.fails .unregisterDel)
    | _ => true

theorem answered_of_guard (guards : answeredGuard party before action = true) :
    before.Answered party action := by
  simp only [answeredGuard, Bool.and_eq_true, Bool.or_eq_true, decide_eq_true_eq] at guards
  obtain ⟨⟨single, spared⟩, answers⟩ := guards
  refine ⟨fun same => single.resolve_left fun other => other same, spared, ?_⟩
  rintro oracle rfl closed
  simpa [closed] using answers

/-- A host, a participant, and nobody leaves. -/
theorem users_enrolled_pair : ∃ cluster : Cluster, cluster.Enrolled ⟨"a", 1⟩ ∧
    (cluster.node "a").phase 1 = .serving ∧ cluster.redis (userKey 1) = some (.text "a") := by
  obtain ⟨cluster, reached, seen⟩ := run_shows
    (show Unlisted ⟨"a", 1⟩ (launch emptyRedis []) from ⟨launch_fresh emptyRedis [], rfl⟩)
    (show (run (guarded (answeredGuard ⟨"a", 1⟩) step) (launch emptyRedis [])
      (pair "a" "17" 1 2)).bind (fun cluster => some ((cluster.node "a").phase 1,
        cluster.redis (userKey 1))) = some (.serving, some (.text "a")) by decide +kernel)
  obtain ⟨serving, enrolled⟩ := by simpa using seen
  exact ⟨cluster, users_enrolled ⟨"a", 1⟩ cluster (reached.mono fun _ _ _ _ step =>
    ⟨step.1, answered_of_guard step.2⟩), serving, enrolled⟩

end Cluster

end Grass
