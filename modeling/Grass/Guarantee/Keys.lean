import Grass.Guarantee.Session
import Grass.Refinement.Keys

namespace Grass

open Transition

/-- The two namespaces of the store: `GAME:<game id>` and `SOCKET:USER:<socket id>`. -/
def Prefixed (text : String) : Prop :=
  (∃ gameId, text = gameKey gameId) ∨ ∃ id, text = userKey id

theorem RedisKey.Built.prefixed {key : RedisKey} (built : key.Built) : Prefixed key.text := by
  cases key with
  | game gameId => exact .inl ⟨gameId, rfl⟩
  | user id => exact .inr ⟨id, rfl⟩
  | bare text => exact built.elim

namespace Cluster

/-- The keys passed so far, oldest first. -/
abbrev Passed := List RedisKey

def pass (cluster : Cluster) (action : Action) (passed : Passed) : Passed :=
  passed ++ cluster.passes action

/-- The steps, with a note of every key they pass to a SET or a DEL. -/
def keyedSteps : Transition.Step (Cluster × Passed) Action := Step.ofOption (recording step pass)

variable {redis : Redis} {before after state : Cluster × Passed} {action : Action}

/-- Processes that have just started on this store, with nothing passed yet. -/
def Begun (redis : Redis) (state : Cluster × Passed) : Prop :=
  state.1.Fresh ∧ state.1.redis = redis ∧ state.2 = []

/-- Every key passed so far is an id under its prefix, none is a text that a client
chose, and outside the two namespaces the store is as it was. -/
structure KeysKept (redis : Redis) (state : Cluster × Passed) : Prop where
  prefixed : ∀ key ∈ state.2, Prefixed key.text
  built : ∀ key ∈ state.2, ∀ text, key ≠ .bare text
  kept : ∀ text, ¬ Prefixed text → state.1.redis text = redis text

/-- A Join that found the record of another shard deletes the id it was sent, over a
connection that the pool gave it. -/
def DeletesBare (cluster : Cluster) (action : Action) : Prop :=
  match action.kind, (cluster.node action.party.shardId).reader action.party.id with
  | .advance, .busy oracle _ (.joinForeign _) => oracle.fails .joinForeignPool = false
  | _, _ => False

instance (cluster : Cluster) (action : Action) : Decidable (cluster.DeletesBare action) :=
  decidable_of_iff ((match action.kind, (cluster.node action.party.shardId).reader action.party.id with
    | .advance, .busy oracle _ (.joinForeign _) => !oracle.fails .joinForeignPool
    | _, _ => false) = true) (by unfold DeletesBare; split <;> simp)

def deletesNoneBare : Transition.Step (Cluster × Passed) Action :=
  fun before action _ => ¬ before.1.DeletesBare action

/-- A step passes a client's text exactly where it is such a deletion. -/
theorem passes_built_iff {cluster later : Cluster} (stepped : cluster.step action = some later) :
    (∀ key ∈ cluster.passes action, key.Built) ↔ ¬ cluster.DeletesBare action := by
  have does := step_does stepped
  obtain ⟨party, kind⟩ := action
  simp only [passes, DeletesBare]
  cases does with
  | accepts => simpa using acceptKeys_built _ _ _ _ _
  | connects | receives | answers | hangs | severs => simp
  | advances busy =>
    rename_i oracle model pc
    simp only [busy]
    cases pc with
    | joinForeign gameId =>
      cases pool : oracle.fails .joinForeignPool <;> simp [Ctx.passes, ctx, pool, RedisKey.Built]
    | _ => simpa using Ctx.passes_built _ _ (by simp)
  | lapses busy paused =>
    rename_i oracle model pc await cut
    simp only [busy, not_false_eq_true, iff_true]
    apply Ctx.passes_built
    rintro gameId rfl
    -- the deletion awaits nothing, so no timeout cuts it
    simp only [Ctx.runSection, Ctx.joinForeign] at paused
    repeat' split at paused
    all_goals cases paused

theorem spared_of_built (reached : Reach (Begun redis) keyedSteps state)
    (built : ∀ key ∈ state.2, key.Built) :
    Reach (Begun redis) (keyedSteps.when deletesNoneBare) state := by
  induction reached with
  | start begun => exact .start begun
  | next _ step ih =>
    obtain ⟨stepped, noted⟩ := recording_eq_some.mp step
    rw [noted, pass, List.forall_mem_append] at built
    exact .next (ih built.1) ⟨step, (passes_built_iff stepped).mp built.2⟩

theorem step_kept {cluster later : Cluster} (stepped : cluster.step action = some later)
    (spares : ¬ cluster.DeletesBare action) {text : String} (outside : ¬ Prefixed text) :
    later.redis text = cluster.redis text := by
  refine step_writes stepped text fun key passed same => outside ?_
  rw [← same]
  exact ((passes_built_iff stepped).mpr spares key passed).prefixed

theorem keys_kept (reached : Reach (Begun redis) (keyedSteps.when deletesNoneBare) state) :
    (∀ key ∈ state.2, key.Built) ∧ ∀ text, ¬ Prefixed text → state.1.redis text = redis text := by
  induction reached with
  | start begun =>
    obtain ⟨-, same, none⟩ := begun
    exact ⟨by simp [none], fun text _ => by rw [same]⟩
  | next _ step kept =>
    obtain ⟨built, outside⟩ := kept
    obtain ⟨stepped, noted⟩ := recording_eq_some.mp step.1
    constructor
    · rw [noted, pass, List.forall_mem_append]
      exact ⟨built, (passes_built_iff stepped).mpr step.2⟩
    · intro text other
      rw [step_kept stepped step.2 other, outside text other]

/-- On any number of processes and in every run: every key passed to a SET or a DEL is in
one of the namespaces, and all else in the store is untouched, if and only if no Join
deletes a record of another shard. -/
theorem keys_kept_iff (redis : Redis) (state : Cluster × Passed)
    (reached : Reach (Begun redis) keyedSteps state) :
    KeysKept redis state ↔ Reach (Begun redis) (keyedSteps.when deletesNoneBare) state := by
  constructor
  · intro kept
    refine spared_of_built reached fun key passed => ?_
    cases key with
    | game | user => trivial
    | bare text => exact absurd rfl (kept.built _ passed text)
  · intro spared
    obtain ⟨built, outside⟩ := keys_kept spared
    refine ⟨fun key passed => (built key passed).prefixed, fun key passed text bare => ?_, outside⟩
    subst bare
    exact built _ passed

def keyedLaunch (redis : Redis) : Cluster × Passed := (launch redis [], [])

theorem keyedLaunch_begun (redis : Redis) : Begun redis (keyedLaunch redis) :=
  ⟨launch_fresh redis [], rfl, rfl⟩

/-- A host comes and goes, on one of two processes. -/
theorem keys_kept_host : ∃ state : Cluster × Passed, KeysKept emptyRedis state ∧
    state.2 = [.user 9, .game "17", .game "17", .game "17", .game "17"] := by
  let host : Party := ⟨"b", 9⟩
  let oracle := Oracle.calm "17"
  have shows : (run (guarded (fun before action => !decide (before.1.DeletesBare action))
      (recording step pass)) (keyedLaunch emptyRedis) (host.enters oracle ++ host.creates oracle ++
        host.hosts oracle "17" ++ host.leaves oracle)).map Prod.snd =
      some [.user 9, .game "17", .game "17", .game "17", .game "17"] := by decide +kernel
  obtain ⟨state, ran, seen⟩ := Option.map_eq_some_iff.mp shows
  have spared : Reach (Begun emptyRedis) (keyedSteps.when deletesNoneBare) state := by
    refine (run_reach _ (.start (keyedLaunch_begun emptyRedis)) ran).mono fun _ _ _ _ step => ?_
    obtain ⟨spares, stepped⟩ := guarded_eq_some.mp step
    exact ⟨stepped, of_decide_eq_false (by simpa using spares)⟩
  have reached : Reach (Begun emptyRedis) keyedSteps state :=
    spared.mono fun _ _ _ _ step => step.1
  exact ⟨state, (keys_kept_iff emptyRedis state reached).mpr spared, seen⟩

/-- A client of one process joins a game that another process has recorded, and a key of
another program that happens to be its id is deleted. -/
theorem foreign_deletes_bare : ∃ redis state, Reach (Begun redis) keyedSteps state ∧
    RedisKey.bare "17" ∈ state.2 ∧ ¬ Prefixed "17" ∧ redis "17" = some (.text "x") ∧
      state.1.redis "17" = none ∧ ¬ KeysKept redis state := by
  let host : Party := ⟨"b", 9⟩
  let guest : Party := ⟨"a", 1⟩
  let oracle := Oracle.calm "17"
  let redis : Redis := Function.update emptyRedis "17" (some (.text "x"))
  have shows : (run (recording step pass) (keyedLaunch redis) (host.enters oracle ++
      host.creates oracle ++ host.hosts oracle "17" ++ guest.enters oracle ++
        guest.joins oracle "17")).map (fun state => (state.2, state.1.redis "17")) =
      some ([.user 9, .game "17", .game "17", .user 1, .bare "17"], none) := by decide +kernel
  obtain ⟨state, ran, seen⟩ := Option.map_eq_some_iff.mp shows
  obtain ⟨passed, gone⟩ := Prod.mk.inj seen
  have bare : RedisKey.bare "17" ∈ state.2 := by simp [passed]
  have outside : ¬ Prefixed "17" := by
    rintro (⟨gameId, same⟩ | ⟨id, same⟩)
    · simpa [gameKey] using congrArg String.toList same
    · simpa [userKey] using congrArg String.toList same
  refine ⟨redis, state, run_reach _ (.start (keyedLaunch_begun redis)) ran, bare, outside, ?_, gone,
    fun kept => kept.built _ bare "17" rfl⟩
  simp [redis]

end Cluster

end Grass
