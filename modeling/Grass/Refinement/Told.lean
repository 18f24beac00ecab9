import Grass.Refinement.Wire

namespace Grass

namespace Ctx

open World

variable {ctx : Ctx} {world : World}

theorem timeoutReply_left (clone : SocketClient) :
    (ctx.timeoutReply world clone).final =
        (world.send clone.sendChannel (.response (.timeout ctx.model))).announceDrop clone ∧
      (ctx.timeoutReply world clone).paused = [] := by
  unfold timeoutReply
  dsimp only
  repeat' split
  all_goals exact ⟨rfl, rfl⟩

theorem runSection_tells {pc : Pc} (entries : world.Valid) (relies : pc.Valid world ctx.clientId)
    {after : World}
    (left : after ∈ (ctx.runSection world pc).final :: (ctx.runSection world pc).paused) :
    world.Discreet after ∨ ∃ clone, pc = .timeoutReply clone ∧
      clone.performedSafeShutdown = false := by
  by_cases replies : ∃ clone, pc = .timeoutReply clone
  · obtain ⟨clone, rfl⟩ := replies
    obtain ⟨final, paused⟩ := @timeoutReply_left ctx world clone
    obtain rfl : after = _ := by simpa [runSection, paused, final] using left
    have answered : world.Discreet
        (world.send clone.sendChannel (.response (.timeout ctx.model))) := .send (by simp)
    cases flag : clone.performedSafeShutdown with
    | false => exact .inr ⟨clone, rfl, flag⟩
    | true =>
      left
      simpa [announceDrop, flag] using answered
  · have walk := ctx.runSection_carries entries.knows (permits_plain _ _) trivial relies
      relies.mentions fun clone same => replies ⟨clone, same⟩
    exact .inl (walk.left after left).discreet

end Ctx

/-- The connection is about to end, or has lost its entry. -/
def Phase.Lost (phase : Phase) (world : World) (id : Uuid) : Prop :=
  phase = .crashed ∨ phase = .gone ∨ (phase = .serving ∧ world.sockets id = none)

/-- `accept_connection` tells its client only where it ends or gives the entry up; and at its
end it does, if the client's channel is open. -/
theorem acceptStep_tells {shardId : ShardId} {id : Uuid} {oracle : Oracle} {world after : World}
    {phase next : Phase} {reader : Reader} (entries : world.Valid)
    (stepped : acceptStep shardId id oracle world phase reader = some (after, next)) :
    world.Tells id after ∧ (world.Discreet after ∨ next.Lost after id) ∧
      (next = .gone → world.closed id = false → after.Told id) := by
  have tells := (acceptStep_carries entries.knows (permits_tells id world.closed) trivial
    (fun hears => .inr ⟨rfl, hears⟩) stepped).tells
  refine ⟨tells, ?_⟩
  cases acceptStep_accepts stepped with
  | greets found => exact ⟨.inl (.send (by simp)), by simp⟩
  | registers | unregisters => exact ⟨.inl (.same rfl rfl), by simp⟩
  | stays => exact ⟨.inl (.refl world), by simp⟩
  | expels => exact ⟨.inr (.inr (.inr ⟨rfl, World.removed_missing oracle _⟩)), by simp⟩
  | @closes client found =>
    let emptied := world.put id { client with game := none, performedSafeShutdown := true }
    have valid : emptied.Valid :=
      entries.put ⟨(entries id client found).named, (entries id client found).wired, by simp⟩
    have kept : world.Discreet emptied := .same rfl rfl
    have dropped := valid.dropGame?_discreet oracle fun game playing =>
      ((entries id client found).playing game playing).2
    exact ⟨.inl (kept.trans dropped), by simp⟩
  | drops leaving done =>
    refine ⟨.inr (done.imp_right .inl), fun _ hears => World.dropLocal_told ?_⟩
    rw [← tells.closed] at hears
    simpa [World.dropLocal] using hears

namespace Cluster

variable {before after : Cluster} {action : Action} {fault : Prop} {known : Set Party} {party : Party}

theorem step_node (stepped : before.step action = some after) {shardId : ShardId}
    (other : shardId ≠ action.party.shardId) : after.node shardId = before.node shardId := by
  obtain ⟨acting, kind⟩ := action
  cases step_does stepped with
  | _ => simp [update, setNode, other]

/-- The acting connection may be told, where a clone that `on_close` has not marked is dropped,
or `accept_connection` ends or gives the entry up; nobody else is. -/
theorem step_tells (sound : before.Sound fault known) (stepped : before.step action = some after)
    (kept : action.kind ≠ .sever) :
    (before.world action.party.shardId).Tells action.party.id (after.world action.party.shardId) ∧
      ((before.world action.party.shardId).Discreet (after.world action.party.shardId) ∨
        (action.kind = .advance ∧ ∃ oracle model clone,
          (before.node action.party.shardId).reader action.party.id =
            .busy oracle model (.timeoutReply clone) ∧ clone.performedSafeShutdown = false) ∨
        ∃ oracle, action.kind = .accept oracle ∧
          ((after.node action.party.shardId).phase action.party.id).Lost
            (after.world action.party.shardId) action.party.id) := by
  have entries := sound.valid.entries action.party.shardId
  have relies := (sound.valid.orderly action.party).relies
  have walk := step_carries sound.valid stepped kept entries.knows
    (permits_tells action.party.id _) trivial (fun hears => .inr ⟨rfl, hears⟩)
    fun oracle model pc busy => (relies oracle model pc busy).1.mentions
  refine ⟨walk.1.tells, ?_⟩
  clear walk
  obtain ⟨acting, kind⟩ := action
  cases step_does stepped with
  | connects =>
    left
    constructor <;>
      simp [Cluster.world, setNode, Node.world, Node.setPhase, Node.setReader, Node.setWorld,
        World.Told]
  | @accepts oracle =>
    obtain ⟨world, next, accepted, phase, later⟩ := step_accept stepped
    rw [later, phase]
    exact (acceptStep_tells entries accepted).2.1.imp_right fun lost => .inr ⟨oracle, rfl, lost⟩
  | receives | hangs =>
    rw [update_world]
    exact .inl (.refl _)
  | @answers sent =>
    rw [update_world]
    exact .inl (bareFrame_carries entries.knows (permits_plain _ _) sent).discreet
  | @advances oracle model pc busy =>
    rw [update_world]
    refine (Ctx.runSection_tells entries (relies oracle model pc busy).1
      List.mem_cons_self).imp_right fun drops => .inl ⟨rfl, ?_⟩
    obtain ⟨clone, rfl, live⟩ := drops
    exact ⟨oracle, model, clone, busy, live⟩
  | @lapses oracle model pc _ _ busy paused =>
    have member := List.mem_of_getElem? paused
    rw [update_world]
    refine .inl ((Ctx.runSection_tells entries (relies oracle model pc busy).1
      (List.mem_cons_of_mem _ member)).resolve_right ?_)
    -- the section that drops the clone has no await
    rintro ⟨clone, rfl, -⟩
    simp [Ctx.runSection, (Ctx.timeoutReply_left clone).2] at member
  | severs => exact absurd rfl kept

theorem step_closed (sound : before.Sound fault known) (stepped : before.step action = some after)
    (kept : action.kind ≠ .sever) (shardId : ShardId) :
    (after.world shardId).closed = (before.world shardId).closed := by
  by_cases here : shardId = action.party.shardId
  · subst here
    exact (step_tells sound stepped kept).1.closed
  · simp [Cluster.world, step_node stepped here, Node.world]

theorem step_severed (sound : before.Sound fault known) (stepped : before.step action = some after)
    (shut : (before.world party.shardId).closed party.id = true) :
    (after.world party.shardId).closed party.id = true := by
  by_cases severs : action.kind = .sever
  · obtain ⟨acting, kind⟩ := action
    subst severs
    cases stepped
    by_cases here : party.shardId = acting.shardId
    · by_cases same : party.id = acting.id
      · simp [Cluster.world, setNode, Node.world, here, same]
      · simpa [Cluster.world, setNode, Node.world, here, same] using shut
    · simpa [Cluster.world, setNode, Node.world, here] using shut
  · rwa [step_closed sound stepped severs]

end Cluster

end Grass
