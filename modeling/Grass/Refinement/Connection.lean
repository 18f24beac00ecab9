import Grass.Refinement.Step

/-! The steps of a connection outside of its handlers: opening, greeting, frames,
and the close sequence. -/

namespace Grass

open Lobby

variable {fault : Prop} {cluster : Cluster} {party : Party} {world : World}

theorem Orderly.proceed {before after : World} {id : Uuid} {reader : Reader} {phase next : Phase}
    (orderly : Orderly fault before id reader phase) (leads : before.LeadsAt id after)
    (alive : phase ≠ .unborn) (going : next ≠ .unborn)
    (closing : next.closing = true → reader = .ended)
    (present : ¬ fault → next ≠ .gone → after.sockets id ≠ none) :
    Orderly fault after id reader next where
  relies := (orderly.leads leads).relies
  unborn fresh := absurd fresh going
  born _ := orderly.born alive
  present calm _ here := present calm here
  closing := closing
  flagged := (orderly.leads leads).flagged

/-- The entry may go once Redis has failed, or at the very end. -/
theorem Orderly.removed {before after : World} {id : Uuid} {reader : Reader} {phase next : Phase}
    (orderly : Orderly fault before id reader phase) (alive : phase ≠ .unborn)
    (gone : after.sockets id = none) (going : next ≠ .unborn)
    (closing : next.closing = true → reader = .ended) (excused : fault ∨ next = .gone) :
    Orderly fault after id reader next where
  relies oracle model pc busy := by
    obtain ⟨valid, healthy⟩ := orderly.relies oracle model pc busy
    have named : after.Named id := fun client found => by simp [gone] at found
    refine ⟨?_, healthy⟩
    cases pc with
    | joinSet | joinHost => exact named
    | joinRegister | joinEnter => exact ⟨named, valid.2⟩
    | _ => exact valid
  unborn fresh := absurd fresh going
  born _ := orderly.born alive
  present calm _ here := excused.elim (fun faulty => absurd faulty calm) (fun done => absurd done here)
  closing := closing
  flagged client found := by simp [gone] at found

theorem Orderly.finished {after : World} {id : Uuid} {reader : Reader} {next : Phase}
    (ended : reader = .ended) (going : next ≠ .unborn) (here : after.sockets id ≠ none) :
    Orderly fault after id reader next where
  relies _ _ _ busy := by simp [ended] at busy
  unborn fresh := absurd fresh going
  born _ := by simp [ended]
  present _ _ _ := here
  closing _ := ended
  flagged _ _ _ := ended

section Accepts

variable (shardId : ShardId) (id : Uuid) (oracle : Oracle) (world : World)

/-- What `accept_connection` leaves of a process when it drops its own handle. -/
inductive Leaving : World → Prop where
  | untouched : Leaving world
  | expelled (found : world.sockets id = some client) :
      Leaving ((world.remove id).dropClient oracle client).1
  | closed (found : world.sockets id = some client) :
      Leaving ((world.put id { client with game := none, performedSafeShutdown := true }).dropGame?
        oracle client.game).1

/-- What one step of `accept_connection` does, and where it gets. -/
inductive Accepts : World → Phase → Prop where
  | greets (found : world.sockets id = some client) :
      Accepts (world.send client.sendChannel (.hello client.id)) .greeted
  | registers (found : world.sockets id = some client) :
      Accepts (world.set (userKey client.id) (.text shardId)) .serving
  | expels (found : world.sockets id = some client) :
      Accepts ((world.remove id).dropClient oracle client).1 .serving
  | closes (found : world.sockets id = some client) :
      Accepts ((world.put id { client with game := none, performedSafeShutdown := true }).dropGame?
        oracle client.game).1 .closed
  | stays : Accepts world .unregistered
  | unregisters (found : world.sockets id = some client) :
      Accepts (world.del (userKey client.id)) .unregistered
  | drops (left : Leaving id oracle world middle) (done : next = .crashed ∨ next = .gone) :
      Accepts (middle.dropLocal id) next

theorem acceptStep_accepts {shardId : ShardId} {id : Uuid} {oracle : Oracle} {world after : World}
    {phase next : Phase} {reader : Reader}
    (stepped : acceptStep shardId id oracle world phase reader = some (after, next)) :
    Accepts shardId id oracle world after next := by
  have crash : ∀ {middle : World}, Leaving id oracle world middle →
      Accepts shardId id oracle world (middle.dropLocal id) .crashed :=
    fun left => .drops left (.inl rfl)
  unfold acceptStep at stepped
  cases phase <;> simp only at stepped
  case unborn | gone | crashed => cases stepped
  case inserted =>
    split at stepped
    · cases stepped
      exact crash .untouched
    · rename_i client found
      split at stepped <;> cases stepped
      · exact crash .untouched
      · exact .greets found
  case greeted =>
    split at stepped
    · cases stepped
      exact crash .untouched
    · rename_i client found
      have expelled : Leaving id oracle world ((world.remove id).dropClient oracle client).1 :=
        .expelled found
      have expels : Accepts shardId id oracle world ((world.remove id).dropClient oracle client).1
          .serving := .expels found
      split at stepped
      · split at stepped <;> cases stepped
        · rename_i dropped
          rw [dropped] at expelled
          exact crash expelled
        · rename_i dropped
          rw [dropped] at expels
          exact expels
      · cases stepped
        exact .registers found
  case serving =>
    split at stepped
    · split at stepped
      · cases stepped
        exact crash .untouched
      · rename_i client found
        let taken := world.put id { client with game := none, performedSafeShutdown := true }
        have closed : Leaving id oracle world (taken.dropGame? oracle client.game).1 := .closed found
        have closes : Accepts shardId id oracle world (taken.dropGame? oracle client.game).1
            .closed := .closes found
        simp only [taken] at closed closes
        split at stepped <;> cases stepped
        · rename_i dropped
          rw [dropped] at closed
          exact crash closed
        · rename_i dropped
          rw [dropped] at closes
          exact closes
    · cases stepped
  case closed =>
    split at stepped
    · cases stepped
      exact crash .untouched
    · rename_i client found
      split at stepped <;> cases stepped
      · exact .stays
      · exact .unregisters found
  case unregistered =>
    split at stepped
    · cases stepped
      exact .drops .untouched (.inr rfl)
    · rename_i client found
      have expelled : Leaving id oracle world ((world.remove id).dropClient oracle client).1 :=
        .expelled found
      split at stepped <;> cases stepped
      · rename_i dropped
        rw [dropped] at expelled
        exact crash expelled
      · rename_i dropped
        rw [dropped] at expelled
        exact .drops expelled (.inr rfl)

end Accepts
namespace Cluster

theorem moved_seat_remove {stage : Stage Party String}
    (places : world.places party.shardId = Function.update
      ((cluster.world party.shardId).places party.shardId) party.id none) :
    (cluster.moved party world stage).seat = Function.update cluster.lobby.seat party none := by
  funext other
  obtain ⟨shardId, name⟩ := other
  by_cases here : shardId = party.shardId
  · subst here
    by_cases same : name = party.id
    · subst same
      simp [moved, places]
    · have apart : (⟨party.shardId, name⟩ : Party) ≠ party := fun equal => same (by rw [← equal])
      simp [moved, places, same, apart, lobby]
  · have apart : (⟨shardId, name⟩ : Party) ≠ party := fun equal => here (by rw [← equal])
    simp [moved, here, apart]

/-- Where only the party's own entry may come or go. -/
theorem moved_present_entry {stage : Stage Party String}
    (others : ∀ id, id ≠ party.id → (world.sockets id = none ↔
      (cluster.world party.shardId).sockets id = none)) :
    (cluster.moved party world stage).present =
      Function.update cluster.lobby.present party (world.sockets party.id ≠ none) := by
  funext other
  obtain ⟨shardId, name⟩ := other
  by_cases here : shardId = party.shardId
  · subst here
    by_cases same : name = party.id
    · subst same
      simp [moved, World.places, Option.isSome_iff_ne_none]
    · have apart : (⟨party.shardId, name⟩ : Party) ≠ party := fun equal => same (by rw [← equal])
      have kept := others name same
      simp only [moved, lobby, World.places, Option.isSome_map, ne_eq, apart, not_false_eq_true,
        Function.update_of_ne, ↓reduceIte, eq_iff_iff]
      rw [Option.isSome_iff_ne_none, Option.isSome_iff_ne_none]
      exact not_congr kept
  · have apart : (⟨shardId, name⟩ : Party) ≠ party := fun equal => here (by rw [← equal])
    simp [moved, here, apart]

/-- Removing an entry and dropping it is a departure. -/
theorem depart_sound (valid : cluster.Valid fault) {oracle : Oracle} {client : SocketClient}
    (healthy : ¬ fault → oracle.Healthy)
    (found : (cluster.world party.shardId).sockets party.id = some client)
    (due : fault ∨ (cluster.node party.shardId).reader party.id = .ended) :
    ∃ after exit, ((cluster.world party.shardId).remove party.id).dropClient oracle client =
        (after, exit) ∧
      (exit = .panic → fault) ∧ after.Valid ∧ after.sockets party.id = none ∧
      (∀ id, id ≠ party.id → (cluster.world party.shardId).LeadsAt id after) ∧
      ∀ intent : Intent String, intent.ends →
        Move (rules fault) intent party cluster.lobby
          (cluster.moved party after (cluster.lobby.stage party)) := by
  let removed := ((cluster.world party.shardId).remove party.id).announceDrop client
  have sockets : removed.sockets =
      Function.update (cluster.node party.shardId).sockets party.id none := by
    simp [removed]
  have removedValid : removed.Valid := by
    intro id other present
    by_cases same : id = party.id
    · simp [sockets, same] at present
    · apply valid.entries party.shardId id other
      simpa [sockets, same] using present
  have seats : ∀ stage, (cluster.moved party removed stage).seat =
      Function.update cluster.lobby.seat party none := by
    intro stage
    apply moved_seat_remove
    rw [← World.places_remove]
    exact World.places_congr _ (World.announceDrop_sockets _ client)
  obtain ⟨after, exit, dropped, leads, faulty, unseated, unseat, placed, records, stages, presence⟩ :=
    Cluster.unseat party (valid.entries _) healthy found removedValid
      (World.announceDrop_redis _ client) seats fun _ _ _ => trivial
  have gone : after.sockets party.id = none := (leads.entry party.id).missing.mpr (by simp [sockets])
  have others : ∀ id, id ≠ party.id → (cluster.world party.shardId).LeadsAt id after :=
    fun id apart => (World.LeadsAt.same (by simp [sockets, apart])).trans (leads.entry id)
  refine ⟨after, exit, dropped, faulty, leads.valid, gone, others, fun intent ends => ?_⟩
  refine .depart ?_ unseated (unseat.mono (fun _ => ends) And.left) ?_
  · rcases due with faulty | ended
    · exact .inl faulty
    · exact .inr ((lobby_stage party).trans (by rw [ended]; rfl))
  · refine Lobby.ext (placed _) records ?_ ?_
    · rw [stages]
      exact Function.update_eq_self ..
    · rw [presence]
      rw [moved_present_entry fun id apart => (others id apart).missing]
      simp [gone]

/-- `on_close` takes the game out of the entry and drops it. -/
theorem close_sound (valid : cluster.Valid fault) {oracle : Oracle} {client : SocketClient}
    (healthy : ¬ fault → oracle.Healthy)
    (found : (cluster.world party.shardId).sockets party.id = some client)
    (ended : (cluster.node party.shardId).reader party.id = .ended) :
    ∃ after exit, ((cluster.world party.shardId).put party.id { client with
          game := none, performedSafeShutdown := true }).dropGame? oracle client.game =
        (after, exit) ∧
      (exit = .panic → fault) ∧ after.Valid ∧ after.sockets party.id ≠ none ∧
      (∀ id, id ≠ party.id → (cluster.world party.shardId).LeadsAt id after) ∧
      ∀ intent : Intent String, intent.ends →
        Move (rules fault) intent party cluster.lobby
          (cluster.moved party after (cluster.lobby.stage party)) := by
  have retired : cluster.lobby.stage party = .retired :=
    (lobby_stage party).trans (by rw [ended]; rfl)
  have clientValid := valid.entries _ _ _ found
  let taken := (cluster.world party.shardId).put party.id
    { client with game := none, performedSafeShutdown := true }
  have sockets : taken.sockets = Function.update (cluster.node party.shardId).sockets party.id
      (some { client with game := none, performedSafeShutdown := true }) := rfl
  have takenValid : taken.Valid := (valid.entries _).put
    ⟨clientValid.named, clientValid.wired, fun _ held => by cases held⟩
  obtain ⟨after, exit, dropped, leads, faulty, unseated, unseat, placed, records, stages, presence⟩ :=
    Cluster.unseat party (valid.entries _) healthy found takenValid rfl
      (fun _ => moved_seat_put (World.places_put ..)) fun _ _ _ => trivial
  have here : after.sockets party.id ≠ none := by
    rw [ne_eq, (leads.entry party.id).missing]
    simp [sockets]
  have others : ∀ id, id ≠ party.id → (cluster.world party.shardId).LeadsAt id after :=
    fun id apart => (World.LeadsAt.same (by simp [sockets, apart])).trans (leads.entry id)
  refine ⟨after, exit, dropped, faulty, leads.valid, here, others, fun intent ends => ?_⟩
  refine .quit .retired (.inr ⟨retired, rfl⟩) unseated
    (unseat.mono (fun _ => ends) fun lost => ⟨lost.1, rfl⟩) ?_
  refine Lobby.ext (placed _) records ?_ ?_
  · rw [stages, ← retired]
    rfl
  · rw [presence]
    apply moved_present_same
    intro id
    by_cases same : id = party.id
    · subst same
      exact iff_of_false here (by simp [found])
    · exact (others id same).missing

/-- What a step of `accept_connection` that ends in this world and phase has done. -/
structure Accepted (fault : Prop) (cluster : Cluster) (party : Party) (oracle : Oracle)
    (world : World) (next : Phase) : Prop where
  valid : world.Valid
  others : ∀ id, id ≠ party.id → (cluster.world party.shardId).LeadsAt id world
  orderly : Orderly fault world party.id ((cluster.node party.shardId).reader party.id) next
  move : ∀ intent : Intent String,
    (((cluster.node party.shardId).phase party.id).drops oracle = true → intent.ends) →
    Move (rules fault) intent party cluster.lobby
      (cluster.moved party world (cluster.lobby.stage party))

/-- Sends and user keys show nowhere. -/
theorem Accepted.still (valid : cluster.Valid fault) {oracle : Oracle} {next : Phase}
    (sockets : world.sockets = (cluster.world party.shardId).sockets)
    (records : world.redis.records = cluster.redis.records)
    (alive : (cluster.node party.shardId).phase party.id ≠ .unborn) (going : next ≠ .unborn)
    (closing : next.closing = true → (cluster.node party.shardId).reader party.id = .ended)
    (present : ¬ fault → next ≠ .gone →
      (cluster.node party.shardId).sockets party.id ≠ none) :
    Accepted fault cluster party oracle world next := by
  have leads : (cluster.world party.shardId).Leads world :=
    (World.Leads.refl (valid.entries _)).same sockets
  refine ⟨leads.valid, fun id _ => leads.entry id, ?_, fun intent _ => .still ?_⟩
  · refine (valid.orderly party).proceed (leads.entry _) alive going closing fun calm here => ?_
    rw [sockets]
    exact present calm here
  · rw [moved_still ⟨leads, World.places_congr _ sockets, records⟩, Function.update_eq_self]

/-- `accept_connection` panics: only its own handle of the client is dropped. -/
theorem Accepted.crash {oracle : Oracle} {next : Phase}
    (accepted : Accepted fault cluster party oracle world next)
    (going : next ≠ .unborn) (present : ¬ fault → world.sockets party.id ≠ none) :
    Accepted fault cluster party oracle (world.dropLocal party.id) .crashed where
  valid := ((World.Leads.refl accepted.valid).same (World.announceDrop_sockets _ _)).valid
  others id apart := (accepted.others id apart).trans
    (.same (by rw [World.dropLocal, World.announceDrop_sockets]))
  orderly := by
    have same : (world.dropLocal party.id).sockets = world.sockets := World.announceDrop_sockets _ _
    refine accepted.orderly.proceed (.same (by rw [same])) going (by simp)
      (by simp [Phase.closing]) fun calm _ => ?_
    rw [same]
    exact present calm
  move intent ends := by
    rw [World.dropLocal, moved_congr (World.announceDrop_sockets _ _) (World.announceDrop_redis _ _)]
    exact accepted.move intent ends

theorem Accepted.finished {oracle : Oracle}
    (accepted : Accepted fault cluster party oracle world .gone) :
    Accepted fault cluster party oracle (world.dropLocal party.id) .gone where
  valid := ((World.Leads.refl accepted.valid).same (World.announceDrop_sockets _ _)).valid
  others id apart := (accepted.others id apart).trans
    (.same (by rw [World.dropLocal, World.announceDrop_sockets]))
  orderly := accepted.orderly.leads (.same (by rw [World.dropLocal, World.announceDrop_sockets]))
  move intent ends := by
    rw [World.dropLocal, moved_congr (World.announceDrop_sockets _ _) (World.announceDrop_redis _ _)]
    exact accepted.move intent ends

theorem records_user (redis : Redis) (id : Uuid) (value : Option RedisValue) :
    Redis.records (Function.update redis (userKey id) value) = redis.records :=
  redis.records_other value (userKey_ne_gameKey id)

section Accept

variable (valid : cluster.Valid fault) {oracle : Oracle} (healthy : ¬ fault → oracle.Healthy)
  {reader : Reader} {next : Phase}

include valid

theorem Accepted.quiet (alive : (cluster.node party.shardId).phase party.id ≠ .unborn) :
    Accepted fault cluster party oracle (cluster.world party.shardId)
      ((cluster.node party.shardId).phase party.id) :=
  .still valid rfl rfl alive alive (valid.orderly party).closing fun calm here =>
    (valid.orderly party).present calm alive here

theorem Accepted.lost (alive : (cluster.node party.shardId).phase party.id ≠ .unborn)
    (going : (cluster.node party.shardId).phase party.id ≠ .gone) :
    Accepted fault cluster party oracle ((cluster.world party.shardId).dropLocal party.id)
      .crashed :=
  (Accepted.quiet valid alive).crash alive fun calm =>
    (valid.orderly party).present calm alive going

theorem inserted_sound (phase : (cluster.node party.shardId).phase party.id = .inserted)
    (stepped : acceptStep party.shardId party.id oracle (cluster.world party.shardId) .inserted
      reader = some (world, next)) : Accepted fault cluster party oracle world next := by
  simp only [acceptStep] at stepped
  split at stepped
  · obtain ⟨rfl, rfl⟩ := by simpa using stepped
    exact .lost valid (by simp [phase]) (by simp [phase])
  · split at stepped
    · obtain ⟨rfl, rfl⟩ := by simpa using stepped
      exact .lost valid (by simp [phase]) (by simp [phase])
    · obtain ⟨rfl, rfl⟩ := by simpa using stepped
      exact .still valid (World.send_sockets _) (by rw [World.send_redis]; rfl) (by simp [phase])
        (by simp) (by simp [Phase.closing]) fun calm _ =>
          (valid.orderly party).present calm (by simp [phase]) (by simp [phase])

theorem closed_sound (phase : (cluster.node party.shardId).phase party.id = .closed)
    (stepped : acceptStep party.shardId party.id oracle (cluster.world party.shardId) .closed
      reader = some (world, next)) : Accepted fault cluster party oracle world next := by
  have here : ¬ fault → (cluster.node party.shardId).sockets party.id ≠ none := fun calm =>
    (valid.orderly party).present calm (by simp [phase]) (by simp [phase])
  have ended := (valid.orderly party).closing (by simp [phase, Phase.closing])
  simp only [acceptStep] at stepped
  split at stepped
  · obtain ⟨rfl, rfl⟩ := by simpa using stepped
    exact .lost valid (by simp [phase]) (by simp [phase])
  · split at stepped
    · obtain ⟨rfl, rfl⟩ := by simpa using stepped
      exact .still valid rfl rfl (by simp [phase]) (by simp) (fun _ => ended) fun calm _ => here calm
    · obtain ⟨rfl, rfl⟩ := by simpa using stepped
      exact .still valid rfl (records_user ..) (by simp [phase]) (by simp) (fun _ => ended)
        fun calm _ => here calm

include healthy

theorem greeted_sound (phase : (cluster.node party.shardId).phase party.id = .greeted)
    (stepped : acceptStep party.shardId party.id oracle (cluster.world party.shardId) .greeted
      reader = some (world, next)) : Accepted fault cluster party oracle world next := by
  simp only [acceptStep] at stepped
  split at stepped
  · obtain ⟨rfl, rfl⟩ := by simpa using stepped
    exact .lost valid (by simp [phase]) (by simp [phase])
  · rename_i client found
    split at stepped
    · -- the registration has failed, and the client is dropped
      rename_i fails
      have faulty : fault := by
        by_contra calm
        simp [healthy calm .registerPool, healthy calm .registerSet] at fails
      obtain ⟨after, exit, dropped, -, afterValid, gone, others, move⟩ :=
        depart_sound valid healthy found (.inl faulty)
      have departed : Accepted fault cluster party oracle after .serving :=
        ⟨afterValid, others, (valid.orderly party).removed (by simp [phase]) gone (by simp)
          (by simp [Phase.closing]) (.inl faulty),
          fun intent ends => move intent (ends (by simp [phase, Phase.drops, fails]))⟩
      simp only [dropped] at stepped
      cases exit with
      | panic =>
        obtain ⟨rfl, rfl⟩ := by simpa using stepped
        exact departed.crash (by simp) fun calm => absurd faulty calm
      | ok | err =>
        obtain ⟨rfl, rfl⟩ := by simpa using stepped
        exact departed
    · obtain ⟨rfl, rfl⟩ := by simpa using stepped
      exact .still valid rfl (records_user ..) (by simp [phase]) (by simp)
        (by simp [Phase.closing]) fun calm _ =>
          (valid.orderly party).present calm (by simp [phase]) (by simp [phase])

theorem serving_sound (phase : (cluster.node party.shardId).phase party.id = .serving)
    (stepped : acceptStep party.shardId party.id oracle (cluster.world party.shardId) .serving
      ((cluster.node party.shardId).reader party.id) = some (world, next)) :
    Accepted fault cluster party oracle world next := by
  simp only [acceptStep] at stepped
  split at stepped
  · rename_i ended
    split at stepped
    · obtain ⟨rfl, rfl⟩ := by simpa using stepped
      exact .lost valid (by simp [phase]) (by simp [phase])
    · rename_i client found
      obtain ⟨after, exit, dropped, faulty, afterValid, here, others, move⟩ :=
        close_sound valid healthy found ended
      have closed : Accepted fault cluster party oracle after .closed :=
        ⟨afterValid, others, .finished ended (by simp) here,
          fun intent ends => move intent (ends (by simp [phase, Phase.drops]))⟩
      simp only [dropped] at stepped
      cases exit with
      | panic =>
        obtain ⟨rfl, rfl⟩ := by simpa using stepped
        exact closed.crash (by simp) fun _ => here
      | ok | err =>
        obtain ⟨rfl, rfl⟩ := by simpa using stepped
        exact closed
  · cases stepped

theorem unregistered_sound (phase : (cluster.node party.shardId).phase party.id = .unregistered)
    (stepped : acceptStep party.shardId party.id oracle (cluster.world party.shardId)
      .unregistered reader = some (world, next)) :
    Accepted fault cluster party oracle world next := by
  have ended := (valid.orderly party).closing (by simp [phase, Phase.closing])
  simp only [acceptStep] at stepped
  split at stepped
  · obtain ⟨rfl, rfl⟩ := by simpa using stepped
    have gone : Accepted fault cluster party oracle (cluster.world party.shardId) .gone :=
      .still valid rfl rfl (by simp [phase]) (by simp) (fun _ => ended) fun _ alive =>
        absurd rfl alive
    exact gone.finished
  · rename_i client found
    obtain ⟨after, exit, dropped, faulty, afterValid, gone, others, move⟩ :=
      depart_sound valid healthy found (.inr ended)
    have departed : Accepted fault cluster party oracle after .gone :=
      ⟨afterValid, others, (valid.orderly party).removed (by simp [phase]) gone (by simp)
        (fun _ => ended) (.inr rfl),
        fun intent ends => move intent (ends (by simp [phase, Phase.drops]))⟩
    simp only [dropped] at stepped
    cases exit with
    | panic =>
      obtain ⟨rfl, rfl⟩ := by simpa using stepped
      exact departed.crash (by simp) fun calm => absurd (faulty rfl) calm
    | ok | err =>
      obtain ⟨rfl, rfl⟩ := by simpa using stepped
      exact departed.finished

/-- Every step of `accept_connection` leaves all in order and is a move. -/
theorem accept_sound
    (stepped : acceptStep party.shardId party.id oracle (cluster.world party.shardId)
      ((cluster.node party.shardId).phase party.id)
      ((cluster.node party.shardId).reader party.id) = some (world, next)) :
    Accepted fault cluster party oracle world next := by
  cases phase : (cluster.node party.shardId).phase party.id with
  | unborn | gone | crashed => simp [phase, acceptStep] at stepped
  | inserted => exact inserted_sound valid phase (phase ▸ stepped)
  | greeted => exact greeted_sound valid healthy phase (phase ▸ stepped)
  | serving => exact serving_sound valid healthy phase (phase ▸ stepped)
  | closed => exact closed_sound valid phase (phase ▸ stepped)
  | unregistered => exact unregistered_sound valid healthy phase (phase ▸ stepped)

end Accept

end Cluster

end Grass
