import Grass.Refinement.Connection

namespace Grass

open Lobby Transition

namespace Cluster

variable {fault : Prop} {cluster after : Cluster} {party : Party} {action : Action} {world : World}

theorem bareFrame_still (valid : world.Valid) (shardId : ShardId) (id : Uuid) (frame : Frame) :
    world.Still shardId (bareFrame world id frame).1 := by
  rcases bareFrame_cases world id frame with same | ⟨client, message, -, -, same⟩
  · rw [same]
    exact .refl valid
  · rw [same]
    exact (World.Still.refl valid).send ..

theorem lobby_accept (phase : Phase) :
    (cluster.setNode party.shardId world.redis
        (((cluster.node party.shardId).setWorld world).setPhase party.id phase)).lobby =
      cluster.moved party world (cluster.lobby.stage party) := by
  apply lobby_setNode rfl
  intro id
  rw [Function.update_eq_self]
  rfl

/-- A new connection arrives in the lobby. -/
theorem connect_sound (valid : cluster.Valid fault)
    (fresh : (cluster.node party.shardId).phase party.id = .unborn) (intent : Intent String)
    {node : Node} (connected : node = (((cluster.node party.shardId).setWorld
      ((cluster.world party.shardId).put party.id (.new party.id party.id))).setReader party.id
        .idle).setPhase party.id .inserted) :
    (cluster.setNode party.shardId cluster.redis node).Valid fault ∧
      Move (rules fault) intent party cluster.lobby
        (cluster.setNode party.shardId cluster.redis node).lobby := by
  subst connected
  obtain ⟨absent, missing⟩ := (valid.orderly party).unborn fresh
  let inserted := (cluster.world party.shardId).put party.id (.new party.id party.id)
  have insertedValid : inserted.Valid := (valid.entries _).put (.new _)
  have here : inserted.sockets party.id = some (.new party.id party.id) :=
    Function.update_self ..
  constructor
  · refine valid.setNode insertedValid rfl (fun id apart => ⟨.same ?_, ?_, ?_⟩) ?_
    · simp [inserted, apart]
    · simp [Node.setPhase, Node.setReader, Node.setWorld, apart]
    · simp [Node.setPhase, Node.setReader, Node.setWorld, apart]
    · simp only [Node.setPhase, Node.setReader, Function.update_self]
      exact {
        relies := by simp
        unborn := by simp
        born := by simp
        present := by simp [here]
        closing := by simp [Phase.closing]
        flagged := by simp [here, SocketClient.new] }
  · have empty : (cluster.node party.shardId).sockets party.id = none := missing
    have vacant : cluster.lobby.seat party = none := by
      simp [lobby, World.places, empty]
    refine .arrive ((lobby_stage party).trans (by rw [absent]; rfl)) vacant ?_
    have shown : (cluster.setNode party.shardId inserted.redis
        ((((cluster.node party.shardId).setWorld inserted).setReader party.id .idle).setPhase
          party.id .inserted)).lobby = cluster.moved party inserted .idle :=
      lobby_setNode rfl fun id => setReader_stage .idle id
    refine shown.trans (Lobby.ext ?_ rfl rfl ?_)
    · refine (moved_seat_put (World.places_put ..)).trans ?_
      exact Function.update_eq_self_iff.mpr vacant.symm
    · rw [moved_present_entry fun id apart => by simp [inserted, apart]]
      simp [here]

/-- A step of `accept_connection` is a move. -/
theorem accepted_sound {oracle : Oracle} {world : World} {next : Phase} (valid : cluster.Valid fault)
    (healthy : ¬ fault → oracle.Healthy)
    (accepted : acceptStep party.shardId party.id oracle (cluster.world party.shardId)
      ((cluster.node party.shardId).phase party.id)
      ((cluster.node party.shardId).reader party.id) = some (world, next)) {intent : Intent String}
    (ends : ((cluster.node party.shardId).phase party.id).drops oracle = true → intent.ends) :
    (cluster.setNode party.shardId world.redis
        (((cluster.node party.shardId).setWorld world).setPhase party.id next)).Valid fault ∧
      Move (rules fault) intent party cluster.lobby
        (cluster.setNode party.shardId world.redis
          (((cluster.node party.shardId).setWorld world).setPhase party.id next)).lobby := by
  have accepted := accept_sound valid healthy accepted
  constructor
  · refine valid.setNode accepted.valid rfl
      (fun id apart => ⟨accepted.others id apart, rfl, ?_⟩) ?_
    · simp [Node.setPhase, Node.setWorld, apart]
    · simpa [Node.setPhase, Node.setWorld] using accepted.orderly
  · rw [lobby_accept]
    exact accepted.move _ ends

section Idle

variable (valid : cluster.Valid fault)
  (idle : (cluster.node party.shardId).reader party.id = .idle) (intent : Intent String)

include idle

theorem stage_of_idle : cluster.lobby.stage party = .idle :=
  (lobby_stage party).trans (by rw [idle]; rfl)

include valid

theorem receive_sound {oracle : Oracle} (model : DefaultModel)
    (healthy : ¬ fault → oracle.Healthy) :
    (cluster.update party (cluster.world party.shardId) (.busy oracle model .receive)).Valid fault ∧
      Move (rules fault) intent party cluster.lobby
        (cluster.update party (cluster.world party.shardId)
          (.busy oracle model .receive)).lobby := by
  constructor
  · refine valid.update (by simp [idle]) (by simp [idle]) (.refl (valid.entries _)) (by simp)
      fun later _ next same => ?_
    cases same
    exact ⟨trivial, healthy⟩
  · refine .still ?_
    rw [lobby_update, moved_still (.refl (valid.entries _))]
    simp [Reader.stage, Pc.stage, ← stage_of_idle idle]

/-- A frame that is no message is answered. -/
theorem bareFrame_sound (frame : Frame) {world : World} {result : Exit ClientError Bool}
    (answered : bareFrame (cluster.world party.shardId) party.id frame = (world, result)) :
    (cluster.update party world (.after result)).Valid fault ∧
      Move (rules fault) intent party cluster.lobby
        (cluster.update party world (.after result)).lobby := by
  have still := bareFrame_still (valid.entries party.shardId) party.shardId party.id frame
  rw [answered] at still
  have stage := stage_of_idle idle
  rcases Reader.after_idle result with same | same
  · rw [same]
    refine ⟨valid.update (by simp [idle]) (by simp [idle]) still.leads (by simp) (by simp), ?_⟩
    refine .settle (by simp [stage, Stage.Bound]) .idle (.inl rfl) ?_
    rw [lobby_update, moved_still still]
    rfl
  · rw [same]
    refine ⟨valid.update (by simp [idle]) (by simp [idle]) still.leads (by simp) (by simp), ?_⟩
    refine .settle (by simp [stage, Stage.Bound]) .retired (.inr (.inr rfl)) ?_
    rw [lobby_update, moved_still still]
    rfl

theorem hangup_sound :
    (cluster.update party (cluster.world party.shardId) .ended).Valid fault ∧
      Move (rules fault) intent party cluster.lobby
        (cluster.update party (cluster.world party.shardId) .ended).lobby := by
  refine ⟨valid.update (by simp [idle]) (by simp [idle]) (.refl (valid.entries _)) (by simp)
    (by simp), ?_⟩
  refine .settle (by simp [stage_of_idle idle, Stage.Bound]) .retired (.inr (.inr rfl)) ?_
  rw [lobby_update, moved_still (.refl (valid.entries _))]
  rfl

end Idle

/-- Whose channels are closed shows nowhere. -/
theorem sever_sound (valid : cluster.Valid fault) (intent : Intent String) {node : Node}
    (severed : node = { cluster.node party.shardId with
      closed := Function.update (cluster.node party.shardId).closed party.id true }) :
    (cluster.setNode party.shardId cluster.redis node).Valid fault ∧
      Move (rules fault) intent party cluster.lobby
        (cluster.setNode party.shardId cluster.redis node).lobby := by
  subst severed
  have still : (cluster.world party.shardId).Still party.shardId (cluster.world party.shardId) :=
    .refl (valid.entries _)
  constructor
  · exact valid.setNode (valid.entries party.shardId) rfl (fun _ _ => ⟨.same rfl, rfl, rfl⟩)
      (valid.orderly party)
  · let severed : Node := { cluster.node party.shardId with
      closed := Function.update (cluster.node party.shardId).closed party.id true }
    have sockets : severed.sockets = (cluster.world party.shardId).sockets := rfl
    have shown : (cluster.setNode party.shardId cluster.redis severed).lobby =
        cluster.moved party (cluster.world party.shardId) (cluster.lobby.stage party) := by
      apply lobby_setNode sockets
      intro id
      rw [Function.update_eq_self]
      rfl
    exact .still (by rw [shown, moved_still still, Function.update_eq_self])

theorem step_sound (valid : cluster.Valid fault) {known : Set Party}
    (coherent : Coherent fault known cluster.lobby) (healthy : ¬ fault → action.Healthy)
    (stepped : cluster.step action = some after) :
    after.Valid fault ∧
      Move (rules fault) (cluster.intent action) action.party cluster.lobby after.lobby := by
  obtain ⟨party, kind⟩ := action
  cases step_does stepped with
  | connects unborn => exact connect_sound valid unborn _ rfl
  | accepts accepted => exact accepted_sound valid healthy accepted fun drops => drops
  | @receives model _ _ idle parses => exact receive_sound valid idle _ model healthy
  | @answers frame _ idle => exact bareFrame_sound valid idle _ frame rfl
  | advances busy =>
    exact advance_sound ⟨party, .advance⟩ valid coherent rfl busy (currentSection_busy busy)
  | @lapses _ _ _ await _ busy paused =>
    exact timeout_sound ⟨party, .timeout await⟩ valid coherent rfl busy (currentSection_busy busy)
      paused
  | hangs idle => exact hangup_sound valid idle _
  | severs => exact sever_sound valid _ rfl

/-- Every process has just started. -/
def Fresh (cluster : Cluster) : Prop :=
  ∀ shardId, ∃ availableTasks, cluster.node shardId = .fresh availableTasks

/-- No record names a party of the set. -/
def Unnamed (known : Set Party) (cluster : Cluster) : Prop :=
  ∀ party ∈ known, ∀ gameId, cluster.lobby.record gameId ≠ some (some party)

theorem Fresh.valid (fresh : cluster.Fresh) : cluster.Valid fault where
  entries shardId := by
    obtain ⟨tasks, started⟩ := fresh shardId
    intro id client found
    simp [started, Node.fresh] at found
  orderly party := by
    obtain ⟨tasks, started⟩ := fresh party.shardId
    constructor <;> simp [started, Node.fresh, Phase.closing]

theorem Fresh.empty (fresh : cluster.Fresh) (party : Party) :
    cluster.lobby.seat party = none ∧ cluster.lobby.stage party = .unborn := by
  obtain ⟨tasks, started⟩ := fresh party.shardId
  exact ⟨by simp [lobby, World.places, started, Node.fresh],
    by simp [lobby_stage, started, Node.fresh, Reader.stage]⟩

theorem Fresh.coherent (fresh : cluster.Fresh) {known : Set Party} (unnamed : cluster.Unnamed known) :
    Coherent fault known cluster.lobby := by
  have empty : ∀ party, cluster.lobby.seat party = none := fun party => (fresh.empty party).1
  have unborn : ∀ party, cluster.lobby.stage party = .unborn := fun party => (fresh.empty party).2
  constructor
  · exact fun party _ => empty party
  · exact fun party _ => empty party
  · exact fun party seated => absurd (empty party) seated
  · exact fun _ party alive => absurd (unborn party) alive
  · exact fun party member game record => absurd record (unnamed party member game)
  · rintro - host party ⟨game, members, taken, -⟩
    simp [empty] at taken

/-- What holds in every reached cluster. -/
structure Sound (fault : Prop) (known : Set Party) (cluster : Cluster) : Prop where
  valid : cluster.Valid fault
  coherent : Coherent fault known cluster.lobby

theorem Sound.move {known : Set Party} (sound : cluster.Sound fault known)
    (healthy : ¬ fault → action.Healthy) (stepped : cluster.step action = some after) :
    Move (rules fault) (cluster.intent action) action.party cluster.lobby after.lobby :=
  (step_sound sound.valid sound.coherent healthy stepped).2

theorem Sound.step {known : Set Party} (sound : cluster.Sound fault known)
    (healthy : ¬ fault → action.Healthy) (stepped : cluster.step action = some after) :
    after.Sound fault known :=
  ⟨(step_sound sound.valid sound.coherent healthy stepped).1,
    sound.coherent.move (sound.move healthy stepped)⟩

/-- In every run from fresh processes, everything stays in order and coherent. -/
theorem reached_sound {known : Set Party} {init : Cluster → Prop}
    {steps : Transition.Step Cluster Action}
    (fresh : ∀ cluster, init cluster → cluster.Fresh ∧ cluster.Unnamed known)
    (taken : ∀ before action after, steps before action after →
      before.step action = some after ∧ (¬ fault → action.Healthy))
    (reached : Reach init steps cluster) : cluster.Sound fault known := by
  apply reached.invariant
  · intro cluster initial
    obtain ⟨started, unnamed⟩ := fresh cluster initial
    exact ⟨started.valid, started.coherent unnamed⟩
  · intro before action after sound step
    obtain ⟨stepped, healthy⟩ := taken before action after step
    exact sound.step healthy stepped

/-- What the initial lobbies meet and every move from a cluster known to be sound
keeps holds of the lobby of every reached cluster. -/
theorem reached_lobby {known : Set Party} {init : Cluster → Prop}
    {steps : Transition.Step Cluster Action} {Known : Cluster → Prop}
    {Holds : Lobby Party String → Prop}
    (knows : ∀ cluster, Reach init steps cluster → Known cluster)
    (sound : ∀ cluster, Known cluster → cluster.Sound fault known)
    (taken : ∀ before action after, steps before action after →
      before.step action = some after ∧ (¬ fault → action.Healthy))
    (initially : ∀ cluster, init cluster → Holds cluster.lobby)
    (preserved : ∀ before action after, Known before → steps before action after →
      Move (rules fault) (before.intent action) action.party before.lobby after.lobby →
      Holds before.lobby → Holds after.lobby)
    (reached : Reach init steps cluster) : Holds cluster.lobby := by
  induction reached with
  | start initial => exact initially _ initial
  | next earlier step ih =>
    have known := knows _ earlier
    obtain ⟨stepped, healthy⟩ := taken _ _ _ step
    exact preserved _ _ _ known step ((sound _ known).move healthy stepped) ih

end Cluster

end Grass
