import Grass.Refinement.Carries

namespace Grass

/-- The message says nothing of a disconnection. -/
def Delivery.Plain (delivery : Delivery) : Prop := delivery.message ≠ .forcedDisconnection

theorem permits_tells (id : Uuid) (closed : SocketSender → Bool) : Permits
    (fun delivery => delivery.Plain ∨ (delivery.channel = id ∧ closed id = false)) (fun _ => True)
    id closed where
  own _ _ hears := .inr ⟨rfl, hears⟩
  event _ _ _ _ := .inl (by simp [Delivery.Plain])

theorem permits_plain (id : Uuid) (closed : SocketSender → Bool) :
    Permits Delivery.Plain (fun _ => True) id closed where
  own _ plain _ := plain
  event _ _ _ _ := by simp [Delivery.Plain]

namespace World

variable {world before middle after : World} {id : Uuid}

/-- The client has been told that it is disconnected. -/
def Told (world : World) (id : Uuid) : Prop :=
  (⟨id, .forcedDisconnection⟩ : Delivery) ∈ world.wire

/-- Afterwards the same clients have been told so, and the same channels are closed. -/
structure Discreet (before after : World) : Prop where
  closed : after.closed = before.closed
  told : ∀ id, after.Told id ↔ before.Told id

theorem Discreet.same (closed : after.closed = before.closed) (wire : after.wire = before.wire) :
    before.Discreet after :=
  ⟨closed, fun id => by rw [Told, Told, wire]⟩

theorem Discreet.refl (world : World) : world.Discreet world := .same rfl rfl

theorem Discreet.trans (first : before.Discreet middle) (second : middle.Discreet after) :
    before.Discreet after :=
  ⟨second.closed.trans first.closed, fun id => (second.told id).trans (first.told id)⟩

theorem Carries.discreet {known : Uuid → Prop}
    (carries : before.Carries known Delivery.Plain after) : before.Discreet after := by
  refine ⟨carries.closed, fun id => ?_⟩
  obtain ⟨sent, same, plain⟩ := carries.wire
  have unsaid : (⟨id, .forcedDisconnection⟩ : Delivery) ∉ sent := fun member => plain _ member rfl
  simp [Told, same, unsaid]

theorem Discreet.send {channel : SocketSender} {message : Message}
    (plain : message ≠ .forcedDisconnection) : world.Discreet (world.send channel message) := by
  unfold World.send
  split
  · exact .refl world
  · refine ⟨rfl, fun id => ?_⟩
    simp [Told, plain.symm]

theorem Valid.dropGame?_discreet (valid : world.Valid) (oracle : Oracle) {held : Option Game}
    (own : ∀ game, held = some game → game.Valid id) :
    world.Discreet (world.dropGame? oracle held).1 :=
  ((Carries.refl valid.knows).dropGame? (permits_plain id world.closed) oracle own
    fun _ _ => ⟨trivial, fun _ _ => trivial⟩).discreet

variable (world)

/-- A drop tells the client, unless `on_close` has marked this copy or nobody listens. -/
theorem announceDrop_told (client : SocketClient) (id : Uuid) :
    (world.announceDrop client).Told id ↔ world.Told id ∨ (id = client.sendChannel ∧
      client.performedSafeShutdown = false ∧ world.closed client.sendChannel = false) := by
  unfold announceDrop
  cases client.performedSafeShutdown
  · cases closed : world.closed client.sendChannel <;> simp [send, closed, Told, or_comm]
  · simp

/-- At most this client is told, on its open channel. -/
structure Tells (id : Uuid) (before after : World) : Prop where
  closed : after.closed = before.closed
  kept : ∀ other, before.Told other → after.Told other
  only : ∀ other, after.Told other → before.Told other ∨ (other = id ∧ before.closed id = false)

variable {world}

/-- All messages are plain, but for those to one open channel. -/
theorem Carries.tells {known : Uuid → Prop} (carries : before.Carries known
      (fun delivery => delivery.Plain ∨ (delivery.channel = id ∧ before.closed id = false)) after) :
    before.Tells id after := by
  obtain ⟨sent, same, each⟩ := carries.wire
  refine ⟨carries.closed, fun other told => ?_, fun other told => ?_⟩
  · rw [Told, same]
    exact List.mem_append_left _ told
  · rw [Told, same] at told
    rcases List.mem_append.mp told with earlier | new
    · exact .inl earlier
    · exact .inr ((each _ new).resolve_left fun plain => plain rfl)

theorem dropLocal_told (hears : world.closed id = false) : (world.dropLocal id).Told id :=
  (announceDrop_told world _ id).mpr (.inr ⟨rfl, rfl, hears⟩)

end World

end Grass
