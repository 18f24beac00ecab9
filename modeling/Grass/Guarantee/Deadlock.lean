import Grass.Guarantee.Collision
import Grass.Lobby.Following

namespace Grass

open Lobby Transition

namespace Cluster

variable {Lock : Type} {lock : Party → Lock} {clients : Set Party} {cluster before after : Cluster}
  {party : Party} {action : Action} {guard : Guard} {phase : List Guard}

/-- The guards of a phase: at most one, or that of the party's own entry and then that of
the host of its game; a host that reads its own task shares both. -/
def Nested (cluster : Cluster) (party : Party) (phase : List Guard) : Prop :=
  phase.length ≤ 1 ∨ ∃ mode guard, phase = [⟨party, mode⟩, guard] ∧
    (cluster.lobby.Follows party guard.party ∨
      (guard.party = party ∧ mode = .shared ∧ guard.mode = .shared))

theorem follows_of_guest {game : Game} (held : (cluster.world party.shardId).gameAt party.id = some game)
    (guest : game.isHost = false) :
    cluster.lobby.Follows party ⟨party.shardId, game.partialHost.id⟩ :=
  .inl ⟨game.gameId, seat_of_guest held guest⟩

/-- Dropping a game takes at most the host's entry of a guest. -/
theorem dropGuards_cases (cluster : Cluster) (party : Party) :
    (cluster.world party.shardId).dropGuards party.shardId party.id = [] ∨
      ∃ guard, (cluster.world party.shardId).dropGuards party.shardId party.id = [guard] ∧
        cluster.lobby.Follows party guard.party := by
  unfold World.dropGuards
  split
  · exact .inl rfl
  · rename_i game held
    unfold Game.dropGuards
    split
    · rename_i guest
      simp only [Bool.and_eq_true, Bool.not_eq_true'] at guest
      exact .inr ⟨_, rfl, follows_of_guest held guest.1⟩
    · exact .inl rfl

theorem dropGuards_short (cluster : Cluster) (party : Party) :
    ((cluster.world party.shardId).dropGuards party.shardId party.id).length ≤ 1 := by
  rcases cluster.dropGuards_cases party with same | ⟨guard, same, -⟩ <;> simp [same]

theorem nested_dropping (cluster : Cluster) (party : Party) :
    cluster.Nested party (⟨party, .exclusive⟩ ::
      (cluster.world party.shardId).dropGuards party.shardId party.id) := by
  rcases cluster.dropGuards_cases party with same | ⟨guard, same, follows⟩
  · exact .inl (by simp [same])
  · exact .inr ⟨.exclusive, guard, by rw [same], .inl follows⟩

theorem nested_request (valid : (cluster.world party.shardId).Valid) {oracle : Oracle}
    {model : DefaultModel} {request : Request}
    (member : phase ∈ (cluster.ctx party oracle model).requestGuards (cluster.world party.shardId)
      request) : cluster.Nested party phase := by
  have short : phase.length ≤ 1 → cluster.Nested party phase := .inl
  unfold Ctx.requestGuards at member
  split at member
  · split at member
    · cases member
    · exact short (by simp [List.mem_singleton.mp member])
  · rw [List.mem_singleton.mp member]
    exact cluster.nested_dropping party
  · split at member
    · exact short (by simp [List.mem_singleton.mp member])
    · split at member
      · exact short (by simp [List.mem_singleton.mp member])
      · rw [List.mem_singleton.mp member]
        exact cluster.nested_dropping party
  · split at member
    · rename_i game _ held _
      have held : (cluster.world party.shardId).gameAt party.id = some game := held
      rw [List.mem_singleton.mp member]
      refine .inr ⟨.shared, _, rfl, ?_⟩
      cases host : game.isHost with
      | false => exact .inl (follows_of_guest held host)
      | true =>
        have own := ((valid.gameAt held).hosting host).1
        refine .inr ⟨?_, rfl, rfl⟩
        simp [Ctx.get, ctx, own]
    · exact short (by simp [List.mem_singleton.mp member])
  · exact short (by simp [List.mem_singleton.mp member])
  · exact short (by simp [List.mem_singleton.mp member])
  · exact short (by simp [List.mem_singleton.mp member])
  · cases member
  · cases member

theorem nested_section (valid : (cluster.world party.shardId).Valid) {oracle : Oracle}
    {model : DefaultModel} {pc : Pc}
    (member : phase ∈ (cluster.ctx party oracle model).guards (cluster.world party.shardId) pc) :
    cluster.Nested party phase := by
  have single : ∀ {guard : Guard}, phase ∈ [[guard]] → cluster.Nested party phase := by
    intro guard member
    exact .inl (by simp [List.mem_singleton.mp member])
  have drops : phase ∈ (cluster.ctx party oracle model).dropping (cluster.world party.shardId) →
      cluster.Nested party phase := by
    intro member
    rw [List.mem_singleton.mp member]
    exact cluster.nested_dropping party
  cases pc <;> simp only [Ctx.guards] at member
  case receive =>
    split at member
    · rename_i data _ _
      cases decoded : Request.fromValue data with
      | none => simp [decoded] at member
      | some request => exact nested_request valid (by simpa [decoded] using member)
    · cases member
  case joinHost => exact drops member
  case joinEnter =>
    split at member
    · exact drops member
    · exact single member
  case joinSet | joinPurge | joinForeign | compileRun | existsPurge | timeoutReply
      | timeoutShutdown | timeoutDelete => cases member
  all_goals exact single member

theorem nested_accept {oracle : Oracle}
    (member : phase ∈ acceptGuards party.shardId party.id oracle (cluster.world party.shardId)
      ((cluster.node party.shardId).phase party.id) ((cluster.node party.shardId).reader party.id)) :
    cluster.Nested party phase := by
  have removal : phase ∈ [[(⟨party, .exclusive⟩ : Guard)],
      (cluster.world party.shardId).dropGuards party.shardId party.id] →
      cluster.Nested party phase := by
    intro member
    rcases List.mem_cons.mp member with rfl | member
    · exact .inl (by simp)
    · rw [List.mem_singleton.mp member]
      exact .inl (cluster.dropGuards_short party)
  unfold acceptGuards at member
  dsimp only at member
  split at member
  · exact .inl (by simp [List.mem_singleton.mp member])
  · split at member
    · rcases List.mem_cons.mp member with rfl | member
      · exact .inl (by simp)
      · exact removal member
    · exact .inl (by simp [List.mem_singleton.mp member])
  · split at member
    · rw [List.mem_singleton.mp member]
      exact cluster.nested_dropping party
    · cases member
  · exact .inl (by simp [List.mem_singleton.mp member])
  · exact removal member
  · cases member

/-- Every phase of every step. -/
theorem nested_script (valid : (cluster.world action.party.shardId).Valid)
    (member : phase ∈ cluster.script action) : cluster.Nested action.party phase := by
  have own : ∀ {mode : GuardMode}, phase ∈ [[(⟨action.party, mode⟩ : Guard)]] →
      cluster.Nested action.party phase := by
    intro mode member
    exact .inl (by simp [List.mem_singleton.mp member])
  unfold script at member
  dsimp only at member
  split at member
  · split at member
    · exact own member
    · cases member
  · exact nested_accept member
  · split at member
    · cases member
    · exact own member
    · cases member
  · split at member
    · exact nested_section valid member
    · cases member
  · split at member
    · exact nested_section valid member
    · cases member
  · cases member
  · cases member

/-- An agent that holds a guard and wants another has its own entry and wants that of its
host, or reads its own entry twice. -/
theorem wants_nested {table : Locking.Table Cluster Agent Guard}
    (valid : (table.state.world action.party.shardId).Valid)
    (wants : (discipline lock).Wants table action guard)
    (holds : table.held action.agent ≠ []) :
    ∃ mode, table.held action.agent = [⟨action.party, mode⟩] ∧
      (table.state.lobby.Follows action.party guard.party ∨
        (guard.party = action.party ∧ mode = .shared ∧ guard.mode = .shared)) := by
  obtain ⟨phase, here, start⟩ := wants
  have more : 2 ≤ (table.held action.agent ++ [guard]).length := by
    have := List.length_pos_iff.mpr holds
    simp only [List.length_append, List.length_singleton]
    omega
  rcases nested_script valid (List.mem_of_getElem? here) with short | ⟨mode, next, rfl, follows⟩
  · have long := more.trans start.length_le
    omega
  · obtain ⟨rest, same⟩ := start
    change table.held action.agent ++ [guard] ++ rest = _ at same
    generalize table.held action.agent = held at same holds ⊢
    match held, holds with
    | [first], _ =>
      simp only [List.cons_append, List.nil_append, List.cons.injEq] at same
      obtain ⟨rfl, rfl, -⟩ := same
      exact ⟨mode, rfl, follows⟩
    | first :: second :: others, _ =>
      have := congrArg List.length same
      simp at this

/-- No two of the clients are on one lock of their process. -/
def Apart (lock : Party → Lock) (clients : Set Party) : Prop :=
  ∀ first ∈ clients, ∀ second ∈ clients, first.shardId = second.shardId →
    lock first = lock second → first = second

theorem reached_clients {cluster : Cluster}
    (reached : Reach Fresh (steps.when fun _ action _ => action.party ∈ clients) cluster)
    (alive : cluster.lobby.stage party ≠ .unborn) : party ∈ clients := by
  induction reached with
  | start fresh => exact absurd (fresh.empty party).2 alive
  | @next before action after _ step ih =>
    by_cases acting : party = action.party
    · exact acting ▸ step.2
    · apply ih
      rwa [lobby_stage, ← (step_other step.1 party acting).1, ← lobby_stage]

theorem Fresh.ranked (fresh : cluster.Fresh) : cluster.lobby.Ranked := by
  have nobody : ∀ party host, ¬ cluster.lobby.Follows party host := by
    rintro party host (⟨game, sits⟩ | ⟨game, entering⟩)
    · simp [(fresh.empty party).1] at sits
    · simp [(fresh.empty party).2] at entering
  constructor
  · intro party cycle
    obtain ⟨host, follows, -⟩ := Relation.TransGen.head'_iff.mp cycle
    exact nobody party host follows
  · exact fun party host follows => absurd follows (nobody party host)

theorem apart_not_deadlocked (apart : Apart lock clients)
    {table : Locking.Table Cluster Agent Guard}
    (reached : Reach Unlocked (lockTurns lock clients) table) :
    ¬ (discipline lock).Deadlocked table := by
  have states : Reach Fresh (steps.when fun _ action _ => action.party ∈ clients) table.state := by
    refine Locking.Discipline.reached_state (fun action : Action => action.party ∈ clients) ?_ ?_
      reached
    · rintro _ ⟨cluster, fresh, rfl⟩
      exact fresh
    · exact fun _ _ _ acts => acts
  have sounds : ∀ cluster, Reach Fresh (steps.when fun _ action _ => action.party ∈ clients) cluster →
      cluster.Sound True ∅ := fun _ => reached_failing fun _ _ _ step => step.1
  have sound := sounds _ states
  have ranked : table.state.lobby.Ranked := by
    refine reached_lobby sounds (fun _ sound => sound)
      (fun _ _ _ step => ⟨step.1, Action.failing⟩) ?_ ?_ states
    · exact fun cluster fresh => fresh.ranked
    · exact fun before action after sound _ move ranked => ranked.move sound.coherent move
  have empty : ∀ table, Unlocked table → ∀ agent, table.held agent = [] := by
    rintro _ ⟨cluster, fresh, rfl⟩ agent
    rfl
  have exclusive := Locking.Discipline.reached_exclusive empty reached
  have acting : ∀ agent, table.held agent ≠ [] → agent.party ∈ clients := by
    refine Locking.Discipline.reached_held (fun agent : Agent => agent.party ∈ clients) empty ?_
      reached
    exact fun _ _ _ acts => acts
  apply Locking.Discipline.not_deadlocked Agent.party ranked.acyclic
  rintro waiting holding ⟨action, wanted, rfl, wants, guard, held, conflict⟩ holds
    ⟨later, next, rfl, goes⟩
  obtain ⟨mode, waits, nested⟩ :=
    wants_nested (sound.valid.entries action.party.shardId) wants holds
  obtain ⟨other, kept, -⟩ :=
    wants_nested (sound.valid.entries later.party.shardId) goes (List.ne_nil_of_mem held)
  obtain rfl : guard = ⟨later.party, other⟩ := List.mem_singleton.mp (kept ▸ held)
  obtain ⟨process, same, modes⟩ := conflict
  have member : later.party ∈ clients := acting later.agent (List.ne_nil_of_mem held)
  rcases nested with follows | ⟨own, rfl, shares⟩
  · have known := reached_clients states (ranked.born _ _ follows)
    rw [apart _ known _ member process same] at follows
    exact follows
  · -- a host that reads its own task waits for nobody
    rw [own] at process same
    have writes : other = .exclusive := by simpa [shares] using modes
    subst writes
    have mine : (⟨action.party, .shared⟩ : Guard) ∈ table.held action.agent := by simp [waits]
    by_cases self : action.agent = later.agent
    · rw [self, kept, List.mem_singleton] at mine
      simp at mine
    · exact absurd ⟨process, same, .inr rfl⟩
        (exclusive action.agent later.agent self _ mine _ (kept ▸ List.mem_singleton_self _))

/-- For every assignment of ids to locks and any set of clients, however many processes
and under every interleaving: handlers and closing connections never wait for each other
or for themselves in a circle exactly if no two clients of a process share a lock. -/
theorem deadlock_free_iff {Lock : Type} (lock : Party → Lock) (clients : Set Party) :
    (∀ table, Reach Unlocked (lockTurns lock clients) table → ¬ (discipline lock).Deadlocked table) ↔
      Apart lock clients := by
  constructor
  · rintro free ⟨shardId, first⟩ member ⟨_, second⟩ another rfl same
    by_contra different
    have apart : first ≠ second := fun same => different (by rw [same])
    obtain ⟨table, reached, deadlocked⟩ := collision_deadlocks apart member another same
    exact free table reached deadlocked
  · exact fun apart table reached => apart_not_deadlocked apart reached

/-- All ids on one lock: a leaving guest waits for itself. -/
theorem one_lock_deadlocks : ¬ ∀ (Lock : Type) (lock : Party → Lock) (clients : Set Party) table,
    Reach Unlocked (lockTurns lock clients) table → ¬ (discipline lock).Deadlocked table := by
  intro always
  obtain ⟨table, reached, deadlocked⟩ := @collision_deadlocks Unit (fun _ => ()) Set.univ "a" 2 1
    (by decide) trivial trivial rfl
  exact always Unit (fun _ => ()) Set.univ table reached deadlocked

end Cluster

end Grass
