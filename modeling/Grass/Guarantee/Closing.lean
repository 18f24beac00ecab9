import Grass.Guarantee.Session
import Grass.Refinement.Entries

/-! How `accept_connection` ends: step by step through its phases to the removal of the
connection's entry, unless a failure on the way makes it panic. -/

namespace Grass

open Lobby Transition

/-- What `accept_connection` comes to next. -/
def Phase.next : Phase → Option Phase
  | .inserted => some .greeted
  | .greeted => some .serving
  | .serving => some .closed
  | .closed => some .unregistered
  | .unregistered => some .gone
  | _ => none

theorem Phase.next_gone {phase : Phase} (ends : phase.next = some .gone) :
    phase = .unregistered := by
  cases phase <;> simp [next] at ends ⊢

namespace Cluster

variable {cluster before after : Cluster} {action : Action} {party : Party} {oracle : Oracle}
  {fault : Prop} {known : Set Party}

/-- Nothing goes wrong that `accept_connection` cannot cope with: the hello has a
receiver, the user is registered, and a host's record can be deleted. -/
def Smooth (cluster : Cluster) (party : Party) (oracle : Oracle) : Prop :=
  match (cluster.node party.shardId).phase party.id with
  | .inserted => (cluster.world party.shardId).closed party.id = false
  | .greeted => (oracle.fails .registerPool || oracle.fails .registerSet) = false
  | .serving => ∀ game, (cluster.world party.shardId).gameAt party.id = some game →
      game.isHost = true → (oracle.fails .dropPool || oracle.fails .dropDel) = false
  | _ => True

/-- Of this connection, only smooth steps of `accept_connection` are taken. -/
def Smoothly (party : Party) : Transition.Step Cluster Action := fun before action _ =>
  ∀ oracle, action.kind = .accept oracle → action.party = party → before.Smooth party oracle

/-- The connection comes to its end: `accept_connection` has not panicked, each smooth
step takes it to its next phase, and at the end its entry is gone. -/
structure Closes (cluster : Cluster) (party : Party) : Prop where
  calm : (cluster.node party.shardId).phase party.id ≠ .crashed
  proceeds : ∀ next, ((cluster.node party.shardId).phase party.id).next = some next →
    ((cluster.node party.shardId).phase party.id = .serving →
      (cluster.node party.shardId).reader party.id = .ended) →
    ∀ oracle, cluster.Smooth party oracle → ∃ after,
      cluster.step ⟨party, .accept oracle⟩ = some after ∧
      (after.node party.shardId).phase party.id = next
  removed : (cluster.node party.shardId).phase party.id = .gone →
    (cluster.node party.shardId).sockets party.id = none

/-- What a connection keeps of its entry on the way. -/
structure Kept (party : Party) (cluster : Cluster) : Prop where
  calm : (cluster.node party.shardId).phase party.id ≠ .crashed
  entry : (cluster.node party.shardId).phase party.id ≠ .unborn →
    (cluster.node party.shardId).phase party.id ≠ .gone →
    (cluster.world party.shardId).sockets party.id ≠ none
  emptied : (cluster.node party.shardId).phase party.id = .closed ∨
    (cluster.node party.shardId).phase party.id = .unregistered →
    (cluster.world party.shardId).gameAt party.id = none
  removed : (cluster.node party.shardId).phase party.id = .gone →
    (cluster.world party.shardId).sockets party.id = none

/-- What a smooth step of `accept_connection` to this phase leaves. -/
structure Proceeded (party : Party) (next : Phase) (world : World) : Prop where
  calm : next ≠ .crashed
  entry : next ≠ .gone → world.sockets party.id ≠ none
  emptied : next = .closed ∨ next = .unregistered → world.gameAt party.id = none
  removed : next = .gone → world.sockets party.id = none

/-- `on_close` of a client whose record can be deleted leaves the entry, without a game. -/
theorem on_close_calm {shardId : ShardId} {id : Uuid} {world : World} {client : SocketClient}
    (entries : world.Valid) (found : world.sockets id = some client)
    (smooth : ∀ game, world.gameAt id = some game → game.isHost = true →
      (oracle.fails .dropPool || oracle.fails .dropDel) = false) :
    ∃ after, acceptStep shardId id oracle world .serving .ended = some (after, .closed) ∧
      after.sockets id ≠ none ∧ after.gameAt id = none := by
  have entry := entries id client found
  let taken := world.put id { client with game := none, performedSafeShutdown := true }
  have takenValid : taken.Valid :=
    entries.put ⟨entry.named, entry.wired, fun _ playing => by cases playing⟩
  have playing : ∀ game, client.game = some game → game.Valid id :=
    fun game held => (entry.playing game held).2
  have quiet : (taken.dropGame? oracle client.game).2 ≠ .panic := by
    intro panicked
    obtain ⟨game, held, host, fails⟩ :=
      (World.dropGame?_panics oracle takenValid playing).mp panicked
    rw [smooth game (by simp [World.gameAt, found, held]) host] at fails
    cases fails
  have leads := World.dropGame?_leads oracle takenValid playing
  refine ⟨(taken.dropGame? oracle client.game).1, ?_, ?_, ?_⟩
  · simp only [acceptStep, found]
    split
    · rename_i panicked
      exact absurd (congrArg Prod.snd panicked) quiet
    · rename_i done
      simp [taken, done]
  · rw [ne_eq, (leads.entry id).missing]
    simp [taken]
  · exact World.dropGame?_vacant oracle _ (by simp [taken, World.gameAt])

theorem Kept.proceeds (kept : cluster.Kept party) (valid : cluster.Valid fault) {next : Phase}
    (goes : ((cluster.node party.shardId).phase party.id).next = some next)
    (ended : (cluster.node party.shardId).phase party.id = .serving →
      (cluster.node party.shardId).reader party.id = .ended)
    (smooth : cluster.Smooth party oracle) :
    ∃ world, acceptStep party.shardId party.id oracle (cluster.world party.shardId)
        ((cluster.node party.shardId).phase party.id)
        ((cluster.node party.shardId).reader party.id) = some (world, next) ∧
      Proceeded party next world := by
  have entries := valid.entries party.shardId
  have entry := kept.entry
  have emptied := kept.emptied
  unfold Smooth at smooth
  cases phase : (cluster.node party.shardId).phase party.id <;>
    simp only [phase] at goes ended smooth entry emptied <;> cases goes
  all_goals
    obtain ⟨client, found⟩ := Option.ne_none_iff_exists'.mp (entry (by simp) (by simp))
    have wired := (entries _ _ found).wired
  case inserted =>
    refine ⟨(cluster.world party.shardId).send client.sendChannel (.hello client.id), ?_, ?_⟩
    · simp [acceptStep, found, wired, smooth]
    · exact ⟨by simp, fun _ => by simp [found], by simp, by simp⟩
  case greeted =>
    refine ⟨(cluster.world party.shardId).set (userKey client.id) (.text party.shardId), ?_, ?_⟩
    · simp [acceptStep, found, smooth]
    · exact ⟨by simp, fun _ => by simp [found], by simp, by simp⟩
  case serving =>
    obtain ⟨world, closes, here, vacant⟩ :=
      @on_close_calm oracle party.shardId _ _ _ entries found smooth
    exact ⟨world, by rw [ended trivial, closes], by simp, fun _ => here, fun _ => vacant, by simp⟩
  case closed =>
    have vacant := emptied (.inl trivial)
    by_cases fails : (oracle.fails .unregisterPool || oracle.fails .unregisterDel) = true
    · refine ⟨cluster.world party.shardId, ?_, by simp, fun _ => by simp [found], fun _ => vacant,
        by simp⟩
      simp [acceptStep, found, fails]
    · refine ⟨(cluster.world party.shardId).del (userKey client.id), ?_, by simp,
        fun _ => by simp [found], fun _ => vacant, by simp⟩
      simp [acceptStep, found, fails]
  case unregistered =>
    have vacant : client.game = none := by simpa [World.gameAt, found] using emptied (.inr trivial)
    refine ⟨(((cluster.world party.shardId).remove party.id).announceDrop client).dropLocal
      party.id, ?_, by simp, by simp, by simp, fun _ => ?_⟩
    · simp [acceptStep, found, World.dropClient, vacant, World.dropGame?]
    · simp [World.dropLocal]

theorem acceptStep_phase {shardId : ShardId} {id : Uuid} {world later : World} {phase next : Phase}
    {reader : Reader} (stepped : acceptStep shardId id oracle world phase reader = some (later, next)) :
    (next = .crashed ∨ phase.next = some next) ∧ ∃ following, phase.next = some following ∧
      (phase = .serving → reader = .ended) := by
  cases phase <;> simp only [acceptStep, reduceCtorEq] at stepped
  all_goals
    repeat' split at stepped
    all_goals cases stepped
    all_goals simp [Phase.next]

/-- What a step means for the life of a connection: it opens, its `accept_connection` goes on,
or it stays where it is, and its entry is led on. -/
theorem step_life (sound : before.Sound fault known) (healthy : ¬ fault → action.Healthy)
    (stepped : before.step action = some after) (party : Party) :
    (action = ⟨party, .connect⟩ ∧ (before.node party.shardId).phase party.id = .unborn) ∨
    (∃ oracle world next, action = ⟨party, .accept oracle⟩ ∧
      acceptStep party.shardId party.id oracle (before.world party.shardId)
        ((before.node party.shardId).phase party.id)
        ((before.node party.shardId).reader party.id) = some (world, next) ∧
      (after.node party.shardId).phase party.id = next ∧ after.world party.shardId = world) ∨
    (¬ (party = action.party ∧ (action.kind = .connect ∨ ∃ oracle, action.kind = .accept oracle)) ∧
      (after.node party.shardId).phase party.id = (before.node party.shardId).phase party.id ∧
      (before.world party.shardId).LeadsAt party.id (after.world party.shardId)) := by
  by_cases acts : party = action.party ∧
      (action.kind = .connect ∨ ∃ oracle, action.kind = .accept oracle)
  · obtain ⟨acting, kind⟩ := action
    obtain ⟨rfl, connects | ⟨oracle, accepts⟩⟩ := acts
    · subst connects
      refine .inl ⟨rfl, ?_⟩
      cases step_does stepped with
      | connects unborn => exact unborn
    · subst accepts
      obtain ⟨world, next, accepted, phase, later⟩ := step_accept stepped
      exact .inr (.inl ⟨oracle, world, next, rfl, accepted, phase, later⟩)
  · exact .inr (.inr ⟨acts, (step_phase stepped party).resolve_right acts,
      (step_leads sound healthy stepped party).resolve_right acts⟩)

theorem step_ended (stepped : before.step action = some after)
    (ended : (before.node action.party.shardId).reader action.party.id = .ended) :
    action.kind = .connect ∨ (∃ oracle, action.kind = .accept oracle) ∨ action.kind = .sever := by
  obtain ⟨acting, kind⟩ := action
  cases step_does stepped with
  | connects => exact .inl rfl
  | accepts => exact .inr (.inl ⟨_, rfl⟩)
  | receives idle | answers idle | hangs idle => cases ended.symm.trans idle
  | advances busy | lapses busy => cases ended.symm.trans busy
  | severs => exact .inr (.inr rfl)

theorem step_vacant (sound : before.Sound fault known) (healthy : ¬ fault → action.Healthy)
    (stepped : before.step action = some after)
    (ended : (before.node party.shardId).reader party.id = .ended)
    (waits : action.party = party → ¬ (action.kind = .connect ∨ ∃ oracle, action.kind = .accept oracle))
    (vacant : (before.world party.shardId).gameAt party.id = none) :
    (after.world party.shardId).gameAt party.id = none := by
  by_cases own : party = action.party
  · subst own
    rcases step_ended stepped ended with connects | accepts | severs
    · exact absurd (.inl connects) (waits rfl)
    · exact absurd (.inr accepts) (waits rfl)
    · obtain ⟨acting, kind⟩ := action
      subst severs
      cases stepped
      simpa [setNode, World.gameAt] using vacant
  · have empty : after.lobby.seat party = none :=
      (sound.move healthy stepped).vacated own (by simp [seat_gameAt, vacant])
    simpa [seat_gameAt] using empty

theorem Kept.step (kept : before.Kept party) (sound : before.Sound fault known)
    (healthy : ¬ fault → action.Healthy) (stepped : before.step action = some after)
    (smooth : Smoothly party before action after) : after.Kept party := by
  rcases step_life sound healthy stepped party with
    ⟨rfl, unborn⟩ | ⟨oracle, world, next, rfl, accepted, rfl, rfl⟩ | ⟨waits, phase, leads⟩
  · simp only [Cluster.step, unborn, ↓reduceIte] at stepped
    cases stepped
    constructor <;> simp [setNode, Node.setPhase, Node.setReader, Node.setWorld]
  · have calmly := smooth oracle rfl rfl
    obtain ⟨-, following, goes, ended⟩ := acceptStep_phase accepted
    obtain ⟨later, proceeds, done⟩ := kept.proceeds sound.valid goes ended calmly
    obtain ⟨rfl, rfl⟩ := by simpa [proceeds] using accepted
    exact ⟨done.calm, fun _ => done.entry, done.emptied, done.removed⟩
  · refine ⟨by rw [phase]; exact kept.calm, fun born here => ?_, fun closing => ?_, fun gone => ?_⟩
    · rw [ne_eq, leads.missing]
      exact kept.entry (by rwa [phase] at born) (by rwa [phase] at here)
    · rw [phase] at closing
      have ended : (before.node party.shardId).reader party.id = .ended :=
        (sound.valid.orderly party).closing
          (by rcases closing with same | same <;> simp [same, Phase.closing])
      exact step_vacant sound healthy stepped ended (fun own acts => waits ⟨own.symm, acts⟩)
        (kept.emptied closing)
    · exact leads.missing.mpr (kept.removed (by rwa [phase] at gone))

/-- Whatever the other connections do and whatever Redis does to them: a connection whose
own steps are smooth comes to its end, and its entry is removed. -/
theorem closes (party : Party) (cluster : Cluster)
    (reached : Reach Fresh (steps.when (Smoothly party)) cluster) : cluster.Closes party := by
  have sound : ∀ cluster, Reach Fresh (steps.when (Smoothly party)) cluster →
      cluster.Sound True ∅ :=
    fun _ => reached_failing fun _ _ _ step => step.1
  have kept : cluster.Kept party := by
    refine reached.invariant_using sound ?_ ?_
    · intro cluster fresh
      obtain ⟨tasks, started⟩ := fresh party.shardId
      constructor <;> simp [started, Node.fresh]
    · intro before action after known _ kept step
      exact kept.step known Action.failing step.1 step.2
  refine ⟨kept.calm, fun next goes ended oracle smooth => ?_, kept.removed⟩
  obtain ⟨world, accepted, -⟩ := kept.proceeds (sound cluster reached).valid goes ended smooth
  refine ⟨cluster.setNode party.shardId world.redis
    (((cluster.node party.shardId).setWorld world).setPhase party.id next), ?_, ?_⟩
  · simp only [step, accepted]
  · simp [setNode, Node.setPhase]

/-- `accept_connection` has panicked, or is going to: the entry it expects is gone. -/
def Doomed (cluster : Cluster) (party : Party) : Prop :=
  (cluster.node party.shardId).phase party.id = .crashed ∨
    ((cluster.node party.shardId).phase party.id = .serving ∧
      (cluster.world party.shardId).sockets party.id = none)

theorem accept_rough (entries : (cluster.world party.shardId).Valid) {world : World} {next : Phase}
    (stepped : acceptStep party.shardId party.id oracle (cluster.world party.shardId)
      ((cluster.node party.shardId).phase party.id)
      ((cluster.node party.shardId).reader party.id) = some (world, next))
    (rough : ¬ cluster.Smooth party oracle) :
    next = .crashed ∨ (next = .serving ∧ world.sockets party.id = none) := by
  unfold Smooth at rough
  unfold acceptStep at stepped
  cases phase : (cluster.node party.shardId).phase party.id <;>
    simp only [phase, not_true_eq_false] at rough stepped
  case inserted =>
    split at stepped
    · cases stepped
      exact .inl rfl
    · rename_i client found
      rw [(entries _ _ found).wired] at stepped
      simp only [rough, ↓reduceIte] at stepped
      cases stepped
      exact .inl rfl
  case greeted =>
    split at stepped
    · cases stepped
      exact .inl rfl
    · rename_i client found
      have fails : (oracle.fails .registerPool || oracle.fails .registerSet) = true :=
        eq_true_of_ne_false rough
      have gone : (((cluster.world party.shardId).remove party.id).dropClient oracle
          client).1.sockets party.id = none :=
        World.removed_missing oracle client
      simp only [fails, ↓reduceIte] at stepped
      split at stepped <;> cases stepped
      · exact .inl rfl
      · rename_i dropped
        rw [dropped] at gone
        exact .inr ⟨rfl, gone⟩
  case serving =>
    split at stepped
    · split at stepped
      · cases stepped
        exact .inl rfl
      · rename_i client found
        have panics : (((cluster.world party.shardId).put party.id
            { client with game := none, performedSafeShutdown := true }).dropGame? oracle
              client.game).2 = .panic := by
          refine (World.dropGame?_panics oracle ?_ fun game held =>
            ((entries _ _ found).playing game held).2).mpr ?_
          · exact entries.put ⟨(entries _ _ found).named, (entries _ _ found).wired,
              fun _ playing => by cases playing⟩
          · simp only [not_forall, Bool.not_eq_false] at rough
            obtain ⟨game, held, host, fails⟩ := rough
            exact ⟨game, by simpa [World.gameAt, found] using held, host, fails⟩
        split at stepped <;> cases stepped
        · exact .inl rfl
        · rename_i calm dropped
          rw [dropped] at panics
          exact absurd panics (by simpa using calm)
    · cases stepped

theorem Doomed.step (doomed : before.Doomed party) (sound : before.Sound fault known)
    (healthy : ¬ fault → action.Healthy) (stepped : before.step action = some after) :
    after.Doomed party := by
  rcases step_life sound healthy stepped party with
    ⟨-, unborn⟩ | ⟨oracle, world, next, -, accepted, phase, -⟩ | ⟨-, phase, leads⟩
  · rcases doomed with crashed | ⟨serving, -⟩
    · cases unborn.symm.trans crashed
    · cases unborn.symm.trans serving
  · rcases doomed with crashed | ⟨serving, missing⟩
    · simp [acceptStep, crashed] at accepted
    · simp only [acceptStep, serving, missing] at accepted
      split at accepted <;> cases accepted
      exact .inl phase
  · unfold Doomed
    rw [phase, leads.missing]
    exact doomed

/-- The condition is exact: after one step that is not smooth, the connection never comes to
its end, whatever happens. -/
theorem rough_fatal {later : Cluster} (reached : Reach Fresh steps before)
    (stepped : before.step ⟨party, .accept oracle⟩ = some after)
    (rough : ¬ before.Smooth party oracle) (continued : Reach (· = after) steps later) :
    (later.node party.shardId).phase party.id ≠ .gone := by
  have sound : before.Sound True ∅ := reached_steps reached
  have doomed : later.Sound True ∅ ∧ later.Doomed party := by
    induction continued with
    | start same =>
      subst same
      refine ⟨sound.step Action.failing stepped, ?_⟩
      obtain ⟨world, next, accepted, rfl, rfl⟩ := step_accept stepped
      exact accept_rough (sound.valid.entries _) accepted rough
    | next _ step ih => exact ⟨ih.1.step Action.failing step, ih.2.step ih.1 Action.failing step⟩
  intro gone
  rcases doomed.2 with crashed | ⟨serving, -⟩
  · cases gone.symm.trans crashed
  · cases gone.symm.trans serving

instance : Decidable (cluster.Smooth party oracle) := by
  unfold Smooth
  split
  · infer_instance
  · infer_instance
  · exact decidable_of_iff (((cluster.world party.shardId).gameAt party.id).all (fun game =>
      !game.isHost || !(oracle.fails .dropPool || oracle.fails .dropDel)) = true) (by
        simp [Option.all_eq_true, imp_iff_not_or])
  · infer_instance

/-- A host whose connection ends while Redis is given by the oracle. -/
def hostCloses (party : Party) (oracle : Oracle) : List Action :=
  party.enters (.calm "17") ++ party.creates (.calm "17") ++ party.hosts (.calm "17") "17" ++
    [⟨party, .hangup⟩] ++ List.replicate 3 ⟨party, .accept oracle⟩

/-- How far the connection is, and whether it has an entry. -/
def standing (party : Party) (cluster : Cluster) : Option (Phase × Bool) :=
  some ((cluster.node party.shardId).phase party.id,
    ((cluster.node party.shardId).sockets party.id).isSome)

/-- The own steps of the connection are smooth. -/
def smoothGuard (party : Party) (before : Cluster) (action : Action) : Bool :=
  match action.kind with
  | .accept oracle => action.party ≠ party || decide (before.Smooth party oracle)
  | _ => true

theorem closes_host : ∃ cluster : Cluster, cluster.Closes ⟨"a", 1⟩ ∧
    (cluster.node "a").phase 1 = .gone := by
  let failing : Oracle := { Oracle.calm "17" with
    fails := fun site => site = .shutdownPool || site = .unregisterDel }
  obtain ⟨cluster, reached, seen⟩ := run_shows (launch_fresh emptyRedis [])
    (show (run (guarded (smoothGuard ⟨"a", 1⟩) step) (launch emptyRedis [])
      (hostCloses ⟨"a", 1⟩ failing)).bind (standing ⟨"a", 1⟩) = some (.gone, false) by
        decide +kernel)
  have smoothly : Reach Fresh (steps.when (Smoothly ⟨"a", 1⟩)) cluster := by
    apply reached.mono
    rintro before action after - step
    refine ⟨step.1, fun oracle accepts own => ?_⟩
    have passed := step.2
    simp only [checks, smoothGuard, accepts, own, ne_eq, not_true_eq_false, decide_false,
      Bool.false_or, decide_eq_true_eq] at passed
    exact passed
  obtain ⟨gone, -⟩ := by simpa [standing] using seen
  exact ⟨cluster, closes _ cluster smoothly, gone⟩

/-- No channel is severed: whatever fails is Redis. -/
def unsevered (_ : Cluster) (action : Action) : Bool :=
  match action.kind with
  | .sever => false
  | _ => true

/-- Redis fails while a host closes: `accept_connection` panics, and the entry stays. -/
theorem host_leaks : ¬ ∀ (party : Party) (cluster : Cluster),
    Reach Fresh (steps.when (checks unsevered)) cluster → cluster.Closes party := by
  intro always
  let failing : Oracle := { Oracle.calm "17" with fails := fun site => site = .dropPool }
  obtain ⟨cluster, reached, seen⟩ := run_shows (launch_fresh emptyRedis [])
    (show (run (guarded unsevered step) (launch emptyRedis [])
      ((hostCloses ⟨"a", 1⟩ failing).dropLast.dropLast)).bind (standing ⟨"a", 1⟩) =
        some (.crashed, true) by decide +kernel)
  obtain ⟨crashed, -⟩ := by simpa [standing] using seen
  exact (always ⟨"a", 1⟩ cluster reached).calm crashed

end Cluster

end Grass
