import Grass.Guarantee.Closing
import Grass.Guarantee.Truth
import Grass.Guarantee.Work

/-! The end of a connection: it can be reached from anywhere by the connection's own steps,
and then the connection is in no game, and nothing is enqueued for it any more. -/

namespace Grass

open Lobby Transition

/-- An event is told to whoever acted, or to somebody in the game: as it is afterwards or,
where the game has ended, as it was. -/
theorem Game.Truth.inside {who id : Uuid} {errand : Errand} {before : Game} {after : Option Game}
    {event : GameEvent} (truth : before.Truth who id errand after event) :
    id = who ∨ (∃ game, after = some game ∧ game.Includes id) ∨ before.Lists id := by
  cases truth with
  | greets newcomer => exact .inl newcomer
  | arrives _ _ inside | departs inside | starts _ inside | finishes inside =>
    exact .inr (.inl ⟨_, rfl, inside⟩)
  | ends _ listed => exact .inr (.inr listed)

/-- How many steps of `accept_connection` are left. -/
def Phase.rank : Phase → Nat
  | .inserted => 5
  | .greeted => 4
  | .serving => 3
  | .closed => 2
  | .unregistered => 1
  | _ => 0

theorem Phase.next_rank {phase next : Phase} (follows : phase.next = some next) :
    next.rank < phase.rank := by
  cases phase <;> cases follows <;> decide

/-- Whether a reader has still to end. -/
def Reader.live : Reader → Nat
  | .ended => 0
  | _ => 1

theorem Reader.live_le (reader : Reader) : reader.live ≤ 1 := by
  cases reader <;> simp [live]

theorem Pc.rank_le (grace : Nat) (pc : Pc) : pc.rank grace ≤ 5 + grace := by
  cases pc <;> simp only [Pc.rank] <;> omega

namespace Cluster

variable {fault : Prop} {known : Set Party} {before after cluster : Cluster} {action : Action}
  {party : Party}

/-- `accept_connection` has come to its end. -/
def Gone (cluster : Cluster) (party : Party) : Prop :=
  (cluster.node party.shardId).phase party.id = .gone

instance (cluster : Cluster) (party : Party) : Decidable (cluster.Gone party) :=
  inferInstanceAs (Decidable (_ = _))

/-- The end of `accept_connection` removes the entry, and nothing puts it back. -/
theorem Gone.step_missing (sound : before.Sound fault known) (healthy : ¬ fault → action.Healthy)
    (stepped : before.step action = some after)
    (missing : before.Gone party → (before.world party.shardId).sockets party.id = none)
    (gone : after.Gone party) : (after.world party.shardId).sockets party.id = none := by
  rcases step_life sound healthy stepped party with
    ⟨rfl, unborn⟩ | ⟨oracle, world, next, rfl, accepted, phase, same⟩ | ⟨-, phase, leads⟩
  · simp only [Cluster.step, unborn, ↓reduceIte] at stepped
    cases stepped
    simp [Gone, setNode, Node.setPhase] at gone
  · obtain rfl : next = .gone := phase.symm.trans gone
    obtain ⟨crashed | follows, -⟩ := acceptStep_phase accepted
    · cases crashed
    have last : (before.node party.shardId).phase party.id = .unregistered := by
      cases earlier : (before.node party.shardId).phase party.id <;> simp_all [Phase.next]
    rw [last, acceptStep] at accepted
    rw [same]
    split at accepted
    · rename_i absent
      obtain ⟨rfl, -⟩ := by simpa using accepted
      simpa [World.dropLocal] using absent
    · rename_i client found
      have removed := @World.removed_missing (before.world party.shardId) party.id oracle client
      split at accepted <;> cases accepted
      rename_i dropped
      simpa [dropped, World.dropLocal] using removed
  · exact leads.missing.mpr (missing (phase.symm.trans gone))

theorem Gone.outside (gone : cluster.Gone party) (sound : cluster.Sound False known)
    (missing : (cluster.world party.shardId).sockets party.id = none) {hostId : Uuid} {game : Game}
    (held : (cluster.world party.shardId).hostedAt hostId = some game) :
    ¬ game.Includes party.id := by
  obtain ⟨playing, hosting⟩ := World.hostedAt_iff.mp held
  have absent : ¬ cluster.lobby.present party := by simp [present_iff, missing]
  rintro (⟨roster, clients, listed⟩ | hosts)
  · have lists : cluster.lobby.Lists ⟨party.shardId, hostId⟩ party :=
      ⟨_, _, seat_of_host playing hosting, rfl, roster, clients, listed⟩
    rcases sound.coherent.rostered id _ _ lists with ⟨gameId, taken⟩ | ⟨gameId, entering⟩
    · exact absent (sound.coherent.seated party (by simp [taken]))
    · have ended := (sound.valid.orderly party).closing (by rw [gone]; rfl)
      simp [lobby_stage, ended, Reader.stage] at entering
  · obtain ⟨owner, -⟩ := ((sound.valid.entries _).gameAt playing).hosting hosting
    obtain ⟨client, found, -⟩ := World.gameAt_entry playing
    rw [hosts, owner, found] at missing
    cases missing

theorem Gone.step_severs (gone : before.Gone action.party) (sound : before.Sound fault known)
    (stepped : before.step action = some after) : action.kind = .sever := by
  have ended := (sound.valid.orderly action.party).closing (by rw [gone]; rfl)
  obtain ⟨party, kind⟩ := action
  rcases step_ended stepped ended with rfl | ⟨oracle, rfl⟩ | severs
  · cases step_does stepped with
    | connects unborn => cases gone.symm.trans unborn
  · cases step_does stepped with
    | accepts accepted =>
      obtain ⟨-, _, follows, -⟩ := acceptStep_phase accepted
      rw [gone] at follows
      cases follows
  · exact severs

/-- Redis answers, and requests are served in time. -/
def punctual : Transition.Step Cluster Action := steps.when fun _ action _ => Punctual action

/-- What is gone is not there. -/
def Departed (cluster : Cluster) : Prop :=
  ∀ party, cluster.Gone party → (cluster.world party.shardId).sockets party.id = none

theorem reached_departed (reached : Reach Fresh punctual cluster) :
    cluster.Sound False ∅ ∧ cluster.Departed := by
  have sound : ∀ cluster, Reach Fresh punctual cluster → cluster.Sound False ∅ := fun _ reached =>
    reached_sound (fun _ => Fresh.apart) (fun _ _ _ step => ⟨step.1, fun _ => step.2.1⟩) reached
  refine ⟨sound _ reached, reached.invariant_using sound ?_ ?_⟩
  · intro cluster fresh party gone
    obtain ⟨tasks, started⟩ := fresh party.shardId
    simp [Gone, started, Node.fresh] at gone
  · exact fun before action after sound _ departed step party =>
      Gone.step_missing sound (fun _ => step.2.1) step.1 (departed party)

/-- What is gone stays so, and is sent nothing. -/
theorem Gone.step (gone : before.Gone party) (reached : Reach Fresh punctual before)
    (step : punctual before action after) : after.Gone party ∧
      mail party.id (after.world party.shardId).wire =
        mail party.id (before.world party.shardId).wire := by
  obtain ⟨sound, departed⟩ := reached_departed reached
  obtain ⟨later, afterwards⟩ := reached_departed (reached.next step)
  obtain ⟨stepped, -, punctual⟩ := step
  have run : Reach Fresh timely before := reached.mono fun _ _ _ _ step => ⟨step.1, step.2.2⟩
  by_cases own : action.party = party
  · subst own
    have severs := gone.step_severs sound stepped
    obtain ⟨acting, kind⟩ := action
    subst severs
    cases step_does stepped
    simpa [Gone, setNode, world, Node.world] using gone
  · have stays : after.Gone party :=
      ((step_phase stepped party).resolve_right fun acts => own acts.1.symm).trans gone
    obtain ⟨sent, wire, each⟩ := step_truth run stepped punctual party.shardId
    refine ⟨stays, ?_⟩
    rw [wire, mail_append, List.append_right_eq_self]
    refine mail_elsewhere fun delivery member channel => ?_
    obtain ⟨here, told⟩ := each delivery member
    have apart : party.id ≠ action.party.id := by
      intro same
      obtain ⟨shardId, id⟩ := party
      exact own (by cases action.party; simp_all)
    rcases told with answers | ⟨hostId, game, event, held, -, truth⟩
    · exact apart (channel.symm.trans answers.1)
    · rw [channel] at truth
      rcases truth.inside with self | ⟨now, found, inside⟩ | listed
      · exact apart self
      · exact stays.outside later (afterwards party stays) found inside
      · exact gone.outside sound (departed party gone) held (.inl listed)

/-- Under every interleaving, whichever channels close, as long as Redis answers and no
request is timed out: once `accept_connection` has come to its end, the connection is in no
game of its process, and nothing is ever enqueued for it again. -/
theorem gone_silent (party : Party) (before after : Cluster) (reached : Reach Fresh punctual before)
    (gone : before.Gone party) (later : Reach (fun origin => origin = before) punctual after) :
    mail party.id (after.world party.shardId).wire =
        mail party.id (before.world party.shardId).wire ∧
      ∀ hostId game, (after.world party.shardId).hostedAt hostId = some game →
        ¬ game.Includes party.id := by
  have silent : after.Gone party ∧ mail party.id (after.world party.shardId).wire =
      mail party.id (before.world party.shardId).wire := by
    induction later with
    | start same => exact ⟨same ▸ gone, by rw [same]⟩
    | next since step ih =>
      obtain ⟨stays, same⟩ := ih.1.step (reached.trans since) step
      exact ⟨stays, same.trans ih.2⟩
  obtain ⟨sound, departed⟩ := reached_departed (reached.trans later)
  exact ⟨silent.2, fun hostId game held => silent.1.outside sound (departed party silent.1) held⟩

/-- A participant goes, and the host ends the game after it. -/
theorem gone_silent_participant : ∃ before after : Cluster, before.Gone ⟨"a", 2⟩ ∧
    Reach (fun origin => origin = before) punctual after ∧
    (before.world "a").hostedAt 1 ≠ none ∧ (after.world "a").hostedAt 1 = none ∧
    mail 2 (after.world "a").wire = mail 2 (before.world "a").wire := by
  let guard : Cluster → Action → Bool := fun _ action => decide (Punctual action)
  let host : Party := ⟨"a", 1⟩
  let guest : Party := ⟨"a", 2⟩
  have timed : ∀ {init : Cluster → Prop} {final : Cluster},
      Reach init (steps.when (checks guard)) final → Reach init punctual final :=
    fun reached => reached.mono fun _ _ _ _ step =>
      ⟨step.1, by simpa [checks, guard] using step.2⟩
  obtain ⟨before, reached, shown⟩ := run_shows (launch_fresh emptyRedis [])
    (show (run (guarded guard step) (launch emptyRedis []) (pair "a" "17" 1 2 ++
        ⟨guest, .hangup⟩ :: List.replicate 3 ⟨guest, .accept (.calm "17")⟩)).bind
        (fun before : Cluster => (run (guarded guard step) before (host.leaves (.calm "17"))).map
          fun after => (decide (before.Gone guest), ((before.world "a").hostedAt 1).isSome,
            ((after.world "a").hostedAt 1).isNone)) = some (true, true, true) by decide +kernel)
  obtain ⟨after, ran, same⟩ := Option.map_eq_some_iff.mp shown
  simp only [Prod.mk.injEq, decide_eq_true_eq, Option.isSome_iff_ne_none, Option.isNone_iff_eq_none]
    at same
  obtain ⟨gone, hosting, ended⟩ := same
  have played : Reach (fun origin => origin = before) (Step.ofOption (guarded guard step)) after :=
    run_reach _ (.start rfl) ran
  have later : Reach (fun origin => origin = before) (steps.when (checks guard)) after :=
    played.mono fun _ _ _ _ step => (guarded_eq_some.mp step).symm
  exact ⟨before, after, gone, timed later, hosting, ended,
    (gone_silent guest before after (timed reached) gone (timed later)).1⟩

/-- How many steps of its own a connection has left at most: sections of its handler, the end
of its reader, and steps of `accept_connection`. -/
def stepsLeft (cluster : Cluster) (party : Party) : Nat :=
  cluster.workLeft 4 party + ((cluster.node party.shardId).reader party.id).live +
    ((cluster.node party.shardId).phase party.id).rank

/-- Redis answers, and nobody closes the connection's channel. -/
def attended (party : Party) : Transition.Step Cluster Action :=
  healthySteps.when fun _ action _ => action.kind = .sever → action.party ≠ party

theorem attended_open (reached : Reach Fresh (attended party) cluster) :
    (cluster.world party.shardId).closed party.id = false := by
  induction reached with
  | start fresh =>
    obtain ⟨tasks, started⟩ := fresh party.shardId
    simp [world, started, Node.world, Node.fresh]
  | @next before action after earlier step open_ =>
    have sound : before.Sound True ∅ := reached_failing (fun _ _ _ step => step.1.1) earlier
    obtain ⟨⟨stepped, -⟩, others⟩ := step
    by_cases severs : action.kind = .sever
    · obtain ⟨acting, kind⟩ := action
      subst severs
      have apart := others rfl
      cases step_does stepped
      by_cases here : party.shardId = acting.shardId
      · have distinct : party.id ≠ acting.id := by
          intro same
          obtain ⟨shardId, id⟩ := party
          exact apart (by cases acting; simp_all)
        rw [here] at open_ ⊢
        simpa [setNode, world, Node.world, distinct] using open_
      · simpa [setNode, world, Node.world, here] using open_
    · rwa [step_closed sound stepped severs]

theorem attended_smooth (reached : Reach Fresh (attended party) cluster) {oracle : Oracle}
    (healthy : oracle.Healthy) : cluster.Smooth party oracle := by
  unfold Smooth
  split
  · exact attended_open reached
  · simp [healthy _]
  · exact fun _ _ _ => by simp [healthy _]
  · trivial

theorem attended_closes (reached : Reach Fresh (attended party) cluster) : cluster.Closes party := by
  refine closes party cluster (reached.mono fun before action after earlier step => ⟨step.1.1, ?_⟩)
  rintro oracle accepts rfl
  have healthy : action.Healthy := step.1.2
  simp only [Action.Healthy, accepts] at healthy
  exact attended_smooth earlier healthy

/-- Wherever a connection stands, it has a step of its own that takes it on. -/
theorem step_winds (reached : Reach Fresh (attended party) cluster)
    (opened : (cluster.node party.shardId).phase party.id ≠ .unborn) {oracle : Oracle}
    (healthy : oracle.Healthy) (pending : cluster.stepsLeft party ≠ 0) :
    ∃ action after, action.party = party ∧ attended party cluster action after ∧
      (after.node party.shardId).phase party.id ≠ .unborn ∧
      after.stepsLeft party < cluster.stepsLeft party := by
  have sound : cluster.Sound True ∅ := reached_failing (fun _ _ _ step => step.1.1) reached
  cases reader : (cluster.node party.shardId).reader party.id with
  | absent => exact absurd reader ((sound.valid.orderly party).born opened)
  | busy oracle model pc =>
    obtain ⟨after, stepped, falls⟩ := advance_works 4 cluster party (by
      rw [workLeft, reader]
      exact (pc.rank_pos 4).ne')
    have phase := (step_phase stepped party).resolve_right (by simp)
    refine ⟨⟨party, .advance⟩, after, rfl, ⟨⟨stepped, trivial⟩, by simp⟩, phase ▸ opened, ?_⟩
    have live : ((after.node party.shardId).reader party.id).live ≤
        (Reader.busy oracle model pc).live := Reader.live_le _
    simp only [stepsLeft, phase, reader]
    omega
  | idle =>
    have stepped : cluster.step ⟨party, .hangup⟩ =
        some (cluster.update party (cluster.world party.shardId) .ended) := by
      simp [step, reader]
    have phase := (step_phase stepped party).resolve_right (by simp)
    refine ⟨⟨party, .hangup⟩, _, rfl, ⟨⟨stepped, trivial⟩, by simp⟩, phase ▸ opened, ?_⟩
    simp [stepsLeft, phase, workLeft, reader, Reader.live, Reader.rank]
  | ended =>
    obtain ⟨next, follows⟩ : ∃ next,
        ((cluster.node party.shardId).phase party.id).next = some next := by
      cases phase : (cluster.node party.shardId).phase party.id <;>
        simp [stepsLeft, workLeft, reader, Reader.rank, Reader.live, phase, Phase.rank, Phase.next]
          at pending ⊢
    obtain ⟨after, stepped, phase⟩ := (attended_closes reached).proceeds next follows
      (fun _ => reader) oracle (attended_smooth reached healthy)
    have kept : (after.node party.shardId).reader party.id = .ended := by
      cases step_does stepped with
      | accepts => simpa [setNode, Node.setPhase, Node.setWorld] using reader
    refine ⟨⟨party, .accept oracle⟩, after, rfl, ⟨⟨stepped, healthy⟩, by simp⟩, ?_, ?_⟩
    · rw [phase]
      rintro rfl
      cases earlier : (cluster.node party.shardId).phase party.id <;> simp [earlier, Phase.next] at follows
    · have falls := Phase.next_rank follows
      simpa [stepsLeft, workLeft, reader, kept, phase, Reader.rank, Reader.live] using falls

theorem stepsLeft_le (cluster : Cluster) (party : Party) : cluster.stepsLeft party ≤ 15 := by
  have work : cluster.workLeft 4 party ≤ 9 := by
    rw [workLeft]
    cases (cluster.node party.shardId).reader party.id with
    | busy oracle model pc => exact pc.rank_le 4
    | absent | idle | ended => exact Nat.zero_le 9
  have live := ((cluster.node party.shardId).reader party.id).live_le
  have rank : ((cluster.node party.shardId).phase party.id).rank ≤ 5 := by
    cases (cluster.node party.shardId).phase party.id <;> decide
  simp only [stepsLeft]
  omega

/-- Whatever the others have done, requests that timed out included, as long as Redis answers
and the connection's channel stays open: wherever a connection stands, at most fifteen steps
of its own bring it to its end, without a panic; then it has no entry and is in no game. -/
theorem connection_ends (party : Party) (cluster : Cluster)
    (reached : Reach Fresh (attended party) cluster)
    (opened : (cluster.node party.shardId).phase party.id ≠ .unborn) :
    ∃ actions final, actions.length ≤ 15 ∧ (∀ action ∈ actions, action.party = party) ∧
      run step cluster actions = some final ∧ final.Gone party ∧
      (final.world party.shardId).sockets party.id = none ∧
      ∀ hostId game, (final.world party.shardId).hostedAt hostId = some game →
        ¬ game.Includes party.id := by
  have winds : ∀ cluster : Cluster, Reach Fresh (attended party) cluster ∧
      (cluster.node party.shardId).phase party.id ≠ .unborn → cluster.stepsLeft party ≠ 0 →
      ∃ action after, action.party = party ∧ cluster.step action = some after ∧
        (Reach Fresh (attended party) after ∧
          (after.node party.shardId).phase party.id ≠ .unborn) ∧
        after.stepsLeft party < cluster.stepsLeft party := by
    rintro cluster ⟨reached, opened⟩ pending
    obtain ⟨action, after, own, step, later, falls⟩ :=
      @step_winds _ _ reached opened (.calm "") (fun _ => rfl) pending
    exact ⟨action, after, own, step.1.1, ⟨reached.next step, later⟩, falls⟩
  obtain ⟨actions, final, few, own, ran, ⟨last, alive⟩, spent⟩ :=
    run_exhausts winds cluster ⟨reached, opened⟩
  have sound : final.Sound False ∅ :=
    reached_sound (fun _ => Fresh.apart) (fun _ _ _ step => ⟨step.1.1, fun _ => step.1.2⟩) last
  have closes := attended_closes last
  have gone : final.Gone party := by
    have calm := closes.calm
    have rank : ((final.node party.shardId).phase party.id).rank = 0 := by
      simp only [stepsLeft] at spent
      omega
    rw [Gone]
    cases phase : (final.node party.shardId).phase party.id <;> simp_all [Phase.rank]
  have missing := closes.removed gone
  exact ⟨actions, final, few.trans (cluster.stepsLeft_le party), own, ran, gone, missing,
    fun hostId game held => gone.outside sound missing held⟩

/-- A host is handling a request while somebody is in its game. -/
theorem connection_ends_host : ∃ cluster final : Cluster, ∃ actions : List Action,
    (cluster.world "a").hostedAt 1 ≠ none ∧ ((cluster.node "a").reader 1).isBusy = true ∧
    actions.length ≤ 15 ∧ run step cluster actions = some final ∧ final.Gone ⟨"a", 1⟩ ∧
    (final.world "a").hostedAt 1 = none := by
  let host : Party := ⟨"a", 1⟩
  obtain ⟨cluster, reached, shown⟩ := run_shows (launch_fresh emptyRedis [])
    (show (run (guarded (fun before action => decide action.Healthy && unsevered before action) step)
        (launch emptyRedis []) (pair "a" "17" 1 2 ++ host.asks (.calm "17") 1 "Compile"
          [("code", .string "x"), ("task_index", .integer 0)])).bind (fun cluster : Cluster =>
            some (((cluster.world "a").hostedAt 1).isSome, ((cluster.node "a").reader 1).isBusy,
              decide ((cluster.node "a").phase 1 = .unborn))) = some (true, true, false) by
                decide +kernel)
  simp only [Option.some.injEq, Prod.mk.injEq, Option.isSome_iff_ne_none,
    decide_eq_false_iff_not] at shown
  obtain ⟨hosting, busy, opened⟩ := shown
  have heeded : Reach Fresh (attended host) cluster := by
    refine reached.mono fun _ action _ _ step => ?_
    have passed := step.2
    simp only [checks, Bool.and_eq_true, decide_eq_true_eq] at passed
    exact ⟨⟨step.1, passed.1⟩, fun severs => by simp [unsevered, severs] at passed⟩
  obtain ⟨actions, final, few, -, ran, gone, missing, -⟩ :=
    connection_ends host cluster heeded opened
  refine ⟨cluster, final, actions, hosting, busy, few, ran, gone, ?_⟩
  simp [World.hostedAt, World.gameAt, show (final.world "a").sockets 1 = none from missing]

end Cluster

end Grass
