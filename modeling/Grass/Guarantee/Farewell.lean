import Grass.Guarantee.Closing
import Grass.Refinement.Told

/-! When a client is told that it is disconnected: on the drop of any copy of its entry that
`on_close` has not marked, the handle that `accept_connection` keeps among them. -/

namespace Grass.Cluster

open Transition

variable {cluster before after : Cluster} {action : Action} {party : Party} {oracle : Oracle}
  {fault : Prop} {known : Set Party}

/-- The connection's own step drops an unmarked copy of its entry: the clone of the timeout
branch, or the handle of `accept_connection`, at its end or in a panic of `on_close`. -/
def Unmarked (cluster : Cluster) (party : Party) (kind : ActionKind) : Prop :=
  match kind with
  | .advance =>
    match (cluster.node party.shardId).reader party.id with
    | .busy _ _ (.timeoutReply clone) => clone.performedSafeShutdown = false
    | _ => False
  | .accept oracle =>
    match (cluster.node party.shardId).phase party.id with
    | .serving => ¬ cluster.Smooth party oracle
    | .unregistered => True
    | _ => False
  | _ => False

/-- Where the connection drops an unmarked copy, its channel is closed. -/
def Mutely (party : Party) : Transition.Step Cluster Action := fun before action _ =>
  action.party = party → before.Unmarked party action.kind →
    (before.world party.shardId).closed party.id = true

/-- `accept_connection` finds the entry and calls `on_close` in its next step. -/
structure ReachesOnClose (cluster : Cluster) (party : Party) : Prop where
  serving : (cluster.node party.shardId).phase party.id = .serving
  entry : (cluster.world party.shardId).sockets party.id ≠ none

/-- What is known of a connection's last message once a step is taken. -/
structure Tidings (before : Cluster) (action : Action) (after : Cluster) (party : Party) : Prop where
  kept : (before.world party.shardId).Told party.id → (after.world party.shardId).Told party.id
  told : (after.world party.shardId).Told party.id → (before.world party.shardId).Told party.id ∨
    (party = action.party ∧ (before.world party.shardId).closed party.id = false ∧
      (before.Unmarked party action.kind ∨ ∃ oracle, action.kind = .accept oracle ∧
        ((after.node party.shardId).phase party.id).Lost (after.world party.shardId) party.id))

theorem step_tidings (sound : before.Sound fault known) (stepped : before.step action = some after)
    (party : Party) : Tidings before action after party := by
  obtain ⟨shardId, id⟩ := party
  have unchanged : (after.world shardId).wire = (before.world shardId).wire →
      Tidings before action after ⟨shardId, id⟩ := fun same =>
    ⟨fun told => by rwa [World.Told, same], fun told => .inl (by rwa [World.Told, same] at told)⟩
  by_cases here : shardId = action.party.shardId
  · subst here
    by_cases severs : action.kind = .sever
    · obtain ⟨acting, kind⟩ := action
      subst severs
      cases stepped
      exact unchanged (by simp [Cluster.world, setNode, Node.world])
    · obtain ⟨tells, cause⟩ := step_tells sound stepped severs
      refine ⟨tells.kept id, fun told => ?_⟩
      rcases cause with quiet | ⟨advances, oracle, model, clone, busy, live⟩ | ends
      · exact .inl ((quiet.told id).mp told)
      · refine (tells.only id told).imp_right ?_
        rintro ⟨rfl, hears⟩
        exact ⟨rfl, hears, .inl (by simp [Unmarked, advances, busy, live])⟩
      · refine (tells.only id told).imp_right ?_
        rintro ⟨rfl, hears⟩
        exact ⟨rfl, hears, .inr ends⟩
  · exact unchanged (by simp [Cluster.world, step_node stepped here, Node.world])

/-- Who has been told before `on_close` never comes to it. -/
def DoomedIfTold (party : Party) (cluster : Cluster) : Prop :=
  (cluster.world party.shardId).Told party.id → cluster.Doomed party

theorem DoomedIfTold.step (doomed : before.DoomedIfTold party) (sound : before.Sound True known)
    (stepped : before.step action = some after) (mute : Mutely party before action after) :
    after.DoomedIfTold party := by
  intro told
  rcases (step_tidings sound stepped party).told told with earlier | ⟨rfl, hears, cause⟩
  · exact (doomed earlier).step sound Action.failing stepped
  · have spared : ¬ before.Unmarked action.party action.kind := by
      intro unmarked
      cases hears.symm.trans (mute rfl unmarked)
    obtain ⟨oracle, accepts, lost⟩ := cause.resolve_left spared
    obtain ⟨acting, kind⟩ := action
    subst accepts
    rcases lost with crashed | gone | serving
    · exact .inl crashed
    · obtain ⟨world, next, accepted, phase, -⟩ := step_accept stepped
      have last := (acceptStep_phase accepted).1
      rw [← phase, gone] at last
      exact absurd (by simp [Unmarked, Phase.next_gone (last.resolve_left (by simp))]) spared
    · exact .inr serving

/-- After `on_close`: nothing has been said, and the entry stays until the end. -/
structure Silent (party : Party) (cluster : Cluster) : Prop where
  untold : ¬ (cluster.world party.shardId).Told party.id
  closing : ((cluster.node party.shardId).phase party.id).closing = true ∨
    (cluster.node party.shardId).phase party.id = .crashed
  entry : (cluster.node party.shardId).phase party.id = .closed →
    (cluster.world party.shardId).sockets party.id ≠ none

theorem Silent.step (silent : before.Silent party) (sound : before.Sound True known)
    (stepped : before.step action = some after) (mute : Mutely party before action after) :
    after.Silent party := by
  have tidings := step_tidings sound stepped party
  rcases step_life sound Action.failing stepped party with
    ⟨rfl, unborn⟩ | ⟨oracle, world, next, rfl, accepted, phase, -⟩ | ⟨waits, phase, leads⟩
  · simpa [unborn, Phase.closing] using silent.closing
  · obtain ⟨goes, following, proceeds, -⟩ := acceptStep_phase accepted
    rcases silent.closing with closing | crashed
    · cases earlier : (before.node party.shardId).phase party.id <;>
        simp only [earlier, Phase.closing, Bool.false_eq_true] at closing
      case closed =>
        -- the entry is there, and is left as it is
        obtain ⟨client, found⟩ := Option.ne_none_iff_exists'.mp (silent.entry earlier)
        have quiet : next = .unregistered := by
          simp only [earlier, acceptStep, found] at accepted
          split at accepted <;> cases accepted <;> rfl
        subst quiet
        refine ⟨fun told => ?_, .inl (by simp [phase, Phase.closing]), by simp [phase]⟩
        rcases tidings.told told with before | ⟨-, hears, unmarked | ⟨_, -, lost⟩⟩
        · exact silent.untold before
        · simp [Unmarked, earlier] at unmarked
        · simp [Phase.Lost, phase] at lost
      case unregistered =>
        have shut := mute rfl (by simp [Unmarked, earlier])
        have ends : next = .crashed ∨ next = .gone := by
          simpa [earlier, Phase.next, eq_comm] using goes
        refine ⟨fun told => ?_, ?_, ?_⟩
        · rcases tidings.told told with before | ⟨-, hears, -⟩
          · exact silent.untold before
          · cases hears.symm.trans shut
        · rcases ends with rfl | rfl <;> simp [phase, Phase.closing]
        · rcases ends with rfl | rfl <;> simp [phase]
      case gone => simp [earlier, Phase.next] at proceeds
    · simp [crashed, Phase.next] at proceeds
  · refine ⟨fun told => ?_, by rw [phase]; exact silent.closing, fun closed => ?_⟩
    · rcases tidings.told told with before | ⟨rfl, hears, unmarked | ⟨oracle, accepts, -⟩⟩
      · exact silent.untold before
      · cases hears.symm.trans (mute rfl unmarked)
      · exact waits ⟨rfl, .inr ⟨oracle, accepts⟩⟩
    · rw [ne_eq, leads.missing]
      exact silent.entry (by rwa [phase] at closed)

theorem Silent.start (sound : before.Sound True known) (onClose : before.ReachesOnClose party)
    (untold : ¬ (before.world party.shardId).Told party.id)
    (stepped : before.step ⟨party, .accept oracle⟩ = some after)
    (mute : Mutely party before ⟨party, .accept oracle⟩ after) : after.Silent party := by
  have tidings := step_tidings sound stepped party
  obtain ⟨client, found⟩ := Option.ne_none_iff_exists'.mp onClose.entry
  obtain ⟨world, next, accepted, phase, later⟩ := step_accept stepped
  obtain ⟨goes, -, -, ended⟩ := acceptStep_phase accepted
  by_cases smooth : before.Smooth party oracle
  · have calm : ∀ game, (before.world party.shardId).gameAt party.id = some game →
        game.isHost = true → (oracle.fails .dropPool || oracle.fails .dropDel) = false := by
      simpa only [Smooth, onClose.serving] using smooth
    obtain ⟨closed, closes, here, -⟩ := @on_close_calm oracle party.shardId _ _ _
      (sound.valid.entries _) found calm
    obtain ⟨rfl, rfl⟩ := by
      simpa [onClose.serving, ended onClose.serving, closes] using accepted
    refine ⟨fun told => ?_, .inl (by simp [phase, Phase.closing]), fun _ => by rwa [later]⟩
    rcases tidings.told told with earlier | ⟨-, -, unmarked | ⟨_, -, lost⟩⟩
    · exact untold earlier
    · simp [Unmarked, onClose.serving, smooth] at unmarked
    · simp [Phase.Lost, phase] at lost
  · have shut := mute rfl (by simp [Unmarked, onClose.serving, smooth])
    have panics : next = .crashed := by
      rcases accept_rough (sound.valid.entries _) accepted smooth with same | ⟨rfl, -⟩
      · exact same
      · simp [onClose.serving, Phase.next] at goes
    refine ⟨fun told => ?_, .inr (by rw [phase, panics]), fun closed => ?_⟩
    · rcases tidings.told told with earlier | ⟨-, hears, -⟩
      · exact untold earlier
      · cases hears.symm.trans shut
    · rw [phase, panics] at closed
      cases closed

/-- In every life that comes to `on_close` the client is told nothing, before or after,
provided its channel is closed whenever an unmarked copy is dropped. -/
theorem never_told (party : Party) (oracle : Oracle) (before after later : Cluster)
    (reached : Reach Fresh (steps.when (Mutely party)) before)
    (onClose : before.ReachesOnClose party)
    (closes : steps.when (Mutely party) before ⟨party, .accept oracle⟩ after)
    (continued : Reach (· = after) (steps.when (Mutely party)) later) :
    ¬ (later.world party.shardId).Told party.id := by
  have sound : ∀ cluster, Reach Fresh (steps.when (Mutely party)) cluster → cluster.Sound True ∅ :=
    fun _ => reached_failing fun _ _ _ step => step.1
  have doomed : before.DoomedIfTold party := by
    refine reached.invariant_using sound ?_ ?_
    · intro cluster fresh told
      obtain ⟨tasks, started⟩ := fresh party.shardId
      simp [World.Told, Cluster.world, started, Node.fresh, Node.world] at told
    · exact fun _ _ _ known _ doomed step => doomed.step known step.1 step.2
  have untold : ¬ (before.world party.shardId).Told party.id := by
    intro told
    rcases doomed told with crashed | ⟨-, missing⟩
    · cases onClose.serving.symm.trans crashed
    · exact onClose.entry missing
  have silent : later.Sound True ∅ ∧ later.Silent party := by
    induction continued with
    | start same =>
      subst same
      exact ⟨(sound before reached).step Action.failing closes.1,
        .start (sound before reached) onClose untold closes.1 closes.2⟩
    | next _ step ih => exact ⟨ih.1.step Action.failing step.1, ih.2.step ih.1 step.1 step.2⟩
  exact silent.2.untold

/-- The condition cannot be met while the channel is open: every life that comes to its end
so has been told. -/
theorem gone_told (cluster : Cluster) (reached : Reach Fresh steps cluster)
    (gone : (cluster.node party.shardId).phase party.id = .gone) :
    (cluster.world party.shardId).Told party.id ∨
      (cluster.world party.shardId).closed party.id = true := by
  have sound : ∀ cluster, Reach Fresh steps cluster → cluster.Sound True ∅ :=
    fun _ => reached_steps
  induction reached with
  | start fresh =>
    obtain ⟨tasks, started⟩ := fresh party.shardId
    simp [started, Node.fresh] at gone
  | @next before action after earlier step ih =>
    have known := sound before earlier
    have tidings := step_tidings known step party
    rcases step_life known Action.failing step party with
      ⟨rfl, unborn⟩ | ⟨oracle, world, next, rfl, accepted, phase, later⟩ | ⟨-, same, -⟩
    · simp only [steps, Step.ofOption, Cluster.step, unborn, ↓reduceIte] at step
      cases step
      simp [setNode, Node.setPhase] at gone
    · have ends := (acceptStep_tells (known.valid.entries _) accepted).2.2 (phase.symm.trans gone)
      cases shut : (before.world party.shardId).closed party.id with
      | false => exact .inl (by rw [later]; exact ends shut)
      | true => exact .inr (step_severed known step shut)
    · exact (ih (same ▸ gone)).imp tidings.kept (step_severed known step)

/-- The last three steps of a connection: where it stands before and after them, and whether
its channel is closed in the end. -/
def lastSteps (guard : Cluster → Action → Bool) (party : Party) (oracle : Oracle)
    (before : Cluster) : Option ((Phase × Bool) × Phase × Bool) :=
  (guarded guard step before ⟨party, .accept oracle⟩).bind fun after =>
    (run (guarded guard step) after (List.replicate 2 ⟨party, .accept oracle⟩)).map fun later =>
      (((before.node party.shardId).phase party.id, ((before.world party.shardId).sockets
        party.id).isSome), (later.node party.shardId).phase party.id,
          (later.world party.shardId).closed party.id)

theorem life_shows {guard : Cluster → Action → Bool} {actions : List Action} {shut : Bool}
    (shows : (run (guarded guard step) (launch emptyRedis []) actions).bind
      (lastSteps guard party oracle) = some ((.serving, true), .gone, shut)) :
    ∃ before after later, Reach Fresh (steps.when (checks guard)) before ∧
      before.ReachesOnClose party ∧
      steps.when (checks guard) before ⟨party, .accept oracle⟩ after ∧
      Reach (· = after) (steps.when (checks guard)) later ∧
      (later.node party.shardId).phase party.id = .gone ∧
      (later.world party.shardId).closed party.id = shut := by
  obtain ⟨before, reached, seen⟩ := run_shows (launch_fresh emptyRedis []) shows
  obtain ⟨after, taken, seen⟩ := Option.bind_eq_some_iff.mp seen
  obtain ⟨later, ran, seen⟩ := Option.map_eq_some_iff.mp seen
  obtain ⟨⟨serving, entry⟩, gone, closed⟩ := by simpa using seen
  obtain ⟨guards, stepped⟩ := guarded_eq_some.mp taken
  refine ⟨before, after, later, reached, ⟨serving, ?_⟩, ⟨stepped, guards⟩, ?_, gone, closed⟩
  · exact Option.ne_none_iff_isSome.mpr entry
  · have made : Reach (· = after) (Step.ofOption (guarded guard step)) later :=
      run_reach _ (.start rfl) ran
    refine made.mono fun _ _ _ _ step => ?_
    obtain ⟨allowed, made⟩ := guarded_eq_some.mp step
    exact ⟨made, allowed⟩

/-- Every connection is told in the end, as nothing ever marks the handle that
`accept_connection` keeps. -/
theorem closed_told : ¬ ∀ (party : Party) (oracle : Oracle) (before after later : Cluster),
    Reach Fresh (steps.when (checks unsevered)) before → before.ReachesOnClose party →
    steps.when (checks unsevered) before ⟨party, .accept oracle⟩ after →
    Reach (· = after) (steps.when (checks unsevered)) later →
    ¬ (later.world party.shardId).Told party.id := by
  intro never
  obtain ⟨before, after, later, reached, onClose, closes, continued, gone, hears⟩ :=
    life_shows (show (run (guarded unsevered step) (launch emptyRedis [])
      (Party.enters ⟨"a", 1⟩ (.calm "17") ++ [⟨⟨"a", 1⟩, .hangup⟩])).bind
        (lastSteps unsevered ⟨"a", 1⟩ (.calm "17")) = some ((.serving, true), .gone, false) by
          decide +kernel)
  have whole : Reach Fresh steps later := by
    have start : Reach Fresh steps after :=
      .next (reached.mono fun _ _ _ _ step => step.1) closes.1
    clear gone hears
    induction continued with
    | start same => exact same ▸ start
    | next _ step ih => exact .next ih step.1
  rcases gone_told later whole gone with told | shut
  · exact never _ _ before after later reached onClose closes continued told
  · cases hears.symm.trans shut

instance (kind : ActionKind) : Decidable (cluster.Unmarked party kind) :=
  decidable_of_iff ((match kind with
    | .advance =>
      match (cluster.node party.shardId).reader party.id with
      | .busy _ _ (.timeoutReply clone) => !clone.performedSafeShutdown
      | _ => false
    | .accept oracle =>
      match (cluster.node party.shardId).phase party.id with
      | .serving => decide (¬ cluster.Smooth party oracle)
      | .unregistered => true
      | _ => false
    | _ => false) = true) (by
      unfold Unmarked
      split
      · split <;> simp_all
      · split <;> simp_all
      · simp)

def muteGuard (party : Party) (before : Cluster) (action : Action) : Bool :=
  decide (action.party = party → before.Unmarked party action.kind →
    (before.world party.shardId).closed party.id = true)

theorem never_told_severed : ∃ later : Cluster, (later.node "a").phase 1 = .gone ∧
    ¬ (later.world "a").Told 1 := by
  obtain ⟨before, after, later, reached, onClose, closes, continued, gone, -⟩ :=
    life_shows (show (run (guarded (muteGuard ⟨"a", 1⟩) step) (launch emptyRedis [])
      (Party.enters ⟨"a", 1⟩ (.calm "17") ++ [⟨⟨"a", 1⟩, .sever⟩, ⟨⟨"a", 1⟩, .hangup⟩])).bind
        (lastSteps (muteGuard ⟨"a", 1⟩) ⟨"a", 1⟩ (.calm "17")) =
          some ((.serving, true), .gone, true) by decide +kernel)
  have mutes : ∀ before action after, checks (muteGuard ⟨"a", 1⟩) before action after →
      Mutely ⟨"a", 1⟩ before action after := by
    intro before action after guards
    simpa only [checks, muteGuard, decide_eq_true_eq, Mutely] using guards
  exact ⟨later, gone, never_told _ _ before after later
    (reached.mono fun _ _ _ _ step => ⟨step.1, mutes _ _ _ step.2⟩) onClose
    ⟨closes.1, mutes _ _ _ closes.2⟩
    (continued.mono fun _ _ _ _ step => ⟨step.1, mutes _ _ _ step.2⟩)⟩

end Grass.Cluster
