import Grass.Refinement.Tasks

namespace Grass

open Lobby

namespace World

variable {world : World} {id : Uuid} {held : Option Game}

theorem dropGame?_leads (oracle : Oracle) (worldValid : world.Valid)
    (valid : ∀ game, held = some game → game.Valid id) :
    world.Leads (world.dropGame? oracle held).1 := by
  cases held with
  | none => exact .refl worldValid
  | some game =>
    have gameValid := valid game rfl
    cases host : game.isHost with
    | true =>
      obtain ⟨after, exit, dropped, sockets, -⟩ := dropGame_host oracle world gameValid host
      rw [dropGame?, dropped]
      exact (Leads.refl worldValid).same sockets
    | false =>
      obtain ⟨after, left, leads, -⟩ := leaveGame_spec oracle "" worldValid gameValid
      simpa [dropGame?, dropGame, host, gameValid.host.isLocal, left] using leads

/-- The drop of a valid game panics exactly where it is a host's and its own deletion of
the record fails. -/
theorem dropGame?_panics (oracle : Oracle) (worldValid : world.Valid)
    (valid : ∀ game, held = some game → game.Valid id) :
    (world.dropGame? oracle held).2 = .panic ↔ ∃ game, held = some game ∧ game.isHost = true ∧
      (oracle.fails .dropPool || oracle.fails .dropDel) = true := by
  cases held with
  | none => simp [dropGame?]
  | some game =>
    have gameValid := valid game rfl
    cases host : game.isHost with
    | true =>
      obtain ⟨middle, last, exit, shut, calm, -⟩ := shutdownGame_spec oracle world gameValid host
      have deletes : world.dropGame? oracle (some game) =
          middle.deleteRecord oracle game.gameId := by
        rw [dropGame?, dropGame, if_pos host, shut]
        cases exit with
        | panic => exact absurd rfl calm
        | ok | err => rfl
      rw [deletes, deleteRecord]
      split <;> simp_all
    | false =>
      obtain ⟨after, left, -⟩ := leaveGame_spec oracle "" worldValid gameValid
      simp [dropGame?, dropGame, host, gameValid.host.isLocal, left]

/-- A drop leaves an entry without a game as it is. -/
theorem dropGame?_entry (oracle : Oracle) (held : Option Game) (vacant : world.gameAt id = none) :
    (world.dropGame? oracle held).1.sockets id = world.sockets id := by
  have struck : ∀ game,
      (world.unregisterFromHost oracle game).1.sockets id = world.sockets id := by
    intro game
    unfold unregisterFromHost
    split
    · rename_i hostClient found
      split
      · rename_i hostGame playing
        have apart : id ≠ game.partialHost.id := by
          rintro rfl
          simp [gameAt, found, playing] at vacant
        simp [apart]
      · rfl
    · rfl
  cases held with
  | none => rfl
  | some game =>
    rw [dropGame?, dropGame]
    split
    · have shut := shutdownGame_sockets oracle world game
      split
      · rename_i ended
        rw [ended] at shut
        exact congrFun shut id
      · rename_i ended
        rw [ended] at shut
        exact congrFun ((deleteRecord_sockets ..).trans shut) id
    · split
      · have left := struck game
        unfold leaveGame
        split
        · rename_i ended
          rwa [ended] at left
        · rename_i ended
          rw [ended] at left
          exact left
      · rfl

theorem dropGame?_vacant (oracle : Oracle) (held : Option Game) (vacant : world.gameAt id = none) :
    (world.dropGame? oracle held).1.gameAt id = none := by
  rw [gameAt, dropGame?_entry oracle held vacant]
  exact vacant

theorem removed_missing (oracle : Oracle) (client : SocketClient) :
    ((world.remove id).dropClient oracle client).1.sockets id = none := by
  have gone : ((world.remove id).announceDrop client).sockets id = none := by simp
  exact (dropGame?_entry oracle client.game (by rw [gameAt, gone]; rfl)).trans gone

theorem Named.of_missing (missing : world.sockets id = none) : world.Named id := by
  intro client found
  simp [missing] at found

theorem Named.of_same {other : World} (named : world.Named id)
    (same : other.sockets id = world.sockets id) : other.Named id :=
  (LeadsAt.same same).named named

end World

namespace Cluster

variable {fault : Prop} {known : Set Party} {before after : Cluster} {action : Action}
  {party : Party} {world : World} {oracle : Oracle} {next : Phase}

/-- `accept_connection` removes its entry or keeps the nickname in it. -/
theorem accept_named (valid : before.Valid fault)
    (stepped : acceptStep party.shardId party.id oracle (before.world party.shardId)
      ((before.node party.shardId).phase party.id)
      ((before.node party.shardId).reader party.id) = some (world, next))
    (named : (before.world party.shardId).Named party.id) : world.Named party.id := by
  have entries := valid.entries party.shardId
  have removed : ∀ {client}, (before.world party.shardId).sockets party.id = some client →
      (((before.world party.shardId).remove party.id).dropClient oracle client).1.Named party.id :=
    fun {client} _ => .of_missing (World.removed_missing oracle client)
  have emptied : ∀ {client}, (before.world party.shardId).sockets party.id = some client →
      (((before.world party.shardId).put party.id { client with
        game := none, performedSafeShutdown := true }).dropGame? oracle client.game).1.Named
          party.id := by
    intro client found
    have entry := entries _ _ found
    let taken := (before.world party.shardId).put party.id
      { client with game := none, performedSafeShutdown := true }
    have takenNamed : taken.Named party.id := by
      intro other present
      obtain rfl : { client with game := none, performedSafeShutdown := true } = other := by
        simpa [taken] using present
      exact named client found
    have leads : taken.Leads (taken.dropGame? oracle client.game).1 := by
      apply World.dropGame?_leads oracle
      · exact entries.put ⟨entry.named, entry.wired, fun _ playing => by cases playing⟩
      · exact fun game playing => (entry.playing game playing).2
    exact (leads.entry party.id).named takenNamed
  have left : ∀ {middle : World}, Leaving party.id oracle (before.world party.shardId) middle →
      middle.Named party.id := by
    rintro middle (_ | ⟨found⟩ | ⟨found⟩)
    · exact named
    · exact removed found
    · exact emptied found
  cases acceptStep_accepts stepped with
  | greets found => exact named.of_same (by simp)
  | registers found => exact named.of_same rfl
  | expels found => exact removed found
  | closes found => exact emptied found
  | stays => exact named
  | unregisters found => exact named.of_same rfl
  | drops leaving done => exact (left leaving).of_same (by simp [World.dropLocal])

theorem leads_setNode {acting : Party} {redis : Redis} {node : Node}
    (leads : party.shardId = acting.shardId →
      (before.world acting.shardId).LeadsAt party.id (node.world redis)) :
    (before.world party.shardId).LeadsAt party.id
      ((before.setNode acting.shardId redis node).world party.shardId) := by
  by_cases here : party.shardId = acting.shardId
  · rw [here]
    exact (leads here).trans (.same (by simp [setNode, Node.world]))
  · exact .same (by simp [setNode, here])

theorem leads_update {acting : Party} (reader : Reader)
    (leads : (before.world acting.shardId).Leads world) :
    (before.world party.shardId).LeadsAt party.id
      ((before.update acting world reader).world party.shardId) :=
  leads_setNode fun _ => leads.entry party.id

/-- Whatever step is taken, the entry of any other connection is led on; and so is the
acting connection's, but where it opens or its `accept_connection` runs. -/
theorem step_leads (sound : before.Sound fault known) (healthy : ¬ fault → action.Healthy)
    (stepped : before.step action = some after) (party : Party) :
    (before.world party.shardId).LeadsAt party.id (after.world party.shardId) ∨
      (party = action.party ∧ (action.kind = .connect ∨ ∃ oracle, action.kind = .accept oracle)) := by
  have entries := sound.valid.entries action.party.shardId
  have apart : party ≠ action.party → party.shardId = action.party.shardId →
      party.id ≠ action.party.id := by
    rintro other here same
    obtain ⟨shardId, id⟩ := party
    subst here same
    exact other rfl
  obtain ⟨acting, kind⟩ := action
  cases step_does stepped with
  | connects =>
    by_cases same : party = acting
    · exact .inr ⟨same, .inl rfl⟩
    · refine .inl (leads_setNode fun here => .same ?_)
      simp [Node.world, Node.setPhase, Node.setReader, Node.setWorld, apart same here]
  | accepts accepted =>
    by_cases same : party = acting
    · exact .inr ⟨same, .inr ⟨_, rfl⟩⟩
    · have done := accept_sound sound.valid healthy accepted
      exact .inl (leads_setNode fun here => done.others party.id (apart same here))
  | receives | hangs => exact .inl (leads_update _ (.refl entries))
  | answers =>
    exact .inl (leads_update _ (bareFrame_still entries acting.shardId acting.id _).leads)
  | advances busy =>
    have done := sound.valid.sound sound.coherent busy (currentSection_busy busy)
      (intends ⟨acting, .advance⟩ rfl busy)
    exact .inl (leads_update _ (done.leads _ List.mem_cons_self))
  | lapses busy paused =>
    have done : Section.Sound fault ⟨True, fun _ => True, True⟩ before
        (before.ctx acting _ _) _ :=
      sound.valid.sound sound.coherent busy (currentSection_busy busy) fun _ _ _ =>
        ⟨fun _ => trivial, fun _ => trivial⟩
    exact .inl (leads_update _ (done.leads _ (List.mem_cons_of_mem _ (List.mem_of_getElem? paused))))
  | severs => exact .inl (leads_setNode fun _ => .same rfl)

theorem step_accept (stepped : before.step ⟨party, .accept oracle⟩ = some after) :
    ∃ world next, acceptStep party.shardId party.id oracle (before.world party.shardId)
        ((before.node party.shardId).phase party.id)
        ((before.node party.shardId).reader party.id) = some (world, next) ∧
      (after.node party.shardId).phase party.id = next ∧ after.world party.shardId = world := by
  cases step_does stepped with
  | @accepts _ world next accepted =>
    refine ⟨world, next, accepted, by simp [setNode, Node.setPhase], ?_⟩
    simp [Cluster.world, setNode, Node.world, Node.setPhase, Node.setWorld]

/-- Once a connection has opened, its nickname stays as long as its entry. -/
theorem step_named (sound : before.Sound fault known) (healthy : ¬ fault → action.Healthy)
    (stepped : before.step action = some after) (party : Party)
    (alive : before.lobby.stage party ≠ .unborn) (named : (before.world party.shardId).Named party.id) :
    (after.world party.shardId).Named party.id := by
  rcases step_leads sound healthy stepped party with leads | ⟨rfl, connects | ⟨oracle, accepts⟩⟩
  · exact leads.named named
  · obtain ⟨acting, kind⟩ := action
    subst connects
    simp only [step] at stepped
    split at stepped
    · rename_i fresh
      have absent := ((sound.valid.orderly acting).unborn fresh).1
      exact absurd (by simp [lobby_stage, absent, Reader.stage]) alive
    · cases stepped
  · obtain ⟨acting, kind⟩ := action
    subst accepts
    obtain ⟨world, next, accepted, -, same⟩ := step_accept stepped
    rw [same]
    exact accept_named sound.valid accepted named

end Cluster

end Grass
