import Grass.Refinement.Handler

/-! A cluster keeps its entries, readers and phases in order, and each of its
steps is a move of the acting party. -/

namespace Grass

open Lobby

/-- The connection is being closed, or is. -/
def Phase.closing : Phase → Bool
  | .closed | .unregistered | .gone => true
  | _ => false

/-- No Redis failure is in store for this step. -/
def Action.Healthy (action : Action) : Prop :=
  match action.kind with
  | .accept oracle => oracle.Healthy
  | .frame _ oracle => oracle.Healthy
  | _ => True

theorem Action.failing {action : Action} (calm : ¬ True) : action.Healthy :=
  absurd trivial calm

/-- The state of one connection: its entry, its reader and its phase agree. -/
structure Orderly (fault : Prop) (world : World) (id : Uuid) (reader : Reader) (phase : Phase) :
    Prop where
  relies : ∀ oracle model pc, reader = .busy oracle model pc →
    pc.Valid world id ∧ (¬ fault → oracle.Healthy)
  unborn : phase = .unborn → reader = .absent ∧ world.sockets id = none
  born : phase ≠ .unborn → reader ≠ .absent
  present : ¬ fault → phase ≠ .unborn → phase ≠ .gone → world.sockets id ≠ none
  closing : phase.closing = true → reader = .ended
  flagged : ∀ client, world.sockets id = some client → client.performedSafeShutdown = true →
    reader = .ended

section Orderly

variable {fault : Prop} {before after : World} {id : Uuid} {reader : Reader} {phase : Phase}

/-- A connection stays in order whatever the others do. -/
theorem Orderly.leads (orderly : Orderly fault before id reader phase)
    (leads : before.LeadsAt id after) : Orderly fault after id reader phase where
  relies oracle model pc busy := by
    obtain ⟨valid, healthy⟩ := orderly.relies oracle model pc busy
    exact ⟨leads.pc valid, healthy⟩
  unborn fresh := by
    obtain ⟨absent, missing⟩ := orderly.unborn fresh
    exact ⟨absent, leads.missing.mpr missing⟩
  born := orderly.born
  present calm alive here missing := orderly.present calm alive here (leads.kept missing)
  closing := orderly.closing
  flagged client found flag := by
    obtain ⟨old, known, later⟩ := leads.succeeds client found
    exact orderly.flagged old known (later.flag ▸ flag)

end Orderly

/-- The messages that answer a frame which is none. -/
def Message.Bare : Message → Prop
  | .ping _ | .pong _ | .error _ => True
  | _ => False

/-- Such a frame is answered with at most one message. -/
theorem bareFrame_cases (world : World) (id : Uuid) (frame : Frame) :
    (bareFrame world id frame).1 = world ∨
      ∃ client message, world.sockets id = some client ∧ message.Bare ∧
        (bareFrame world id frame).1 = world.send client.sendChannel message := by
  unfold bareFrame
  split
  · exact .inl rfl
  · split
    · exact .inl rfl
    · rename_i client found
      split
      · exact .inr ⟨client, .pong _, found, trivial, rfl⟩
      · exact .inr ⟨client, .ping _, found, trivial, rfl⟩
      · exact .inr ⟨client, .error _, found, trivial, rfl⟩

namespace Cluster

structure Valid (fault : Prop) (cluster : Cluster) : Prop where
  entries : ∀ shardId, (cluster.world shardId).Valid
  orderly : ∀ party : Party, Orderly fault (cluster.world party.shardId) party.id
    ((cluster.node party.shardId).reader party.id) ((cluster.node party.shardId).phase party.id)

variable {fault : Prop} {cluster : Cluster} {party : Party} {world : World} {node : Node}

/-- A process changes: every connection but one is led, that one is in order again. -/
theorem Valid.setNode (valid : cluster.Valid fault) (entries : world.Valid)
    (sockets : node.sockets = world.sockets)
    (others : ∀ id, id ≠ party.id → (cluster.world party.shardId).LeadsAt id world ∧
      node.reader id = (cluster.node party.shardId).reader id ∧
      node.phase id = (cluster.node party.shardId).phase id)
    (self : Orderly fault world party.id (node.reader party.id) (node.phase party.id)) :
    (cluster.setNode party.shardId world.redis node).Valid fault where
  entries shardId := by
    intro id client found
    by_cases here : shardId = party.shardId
    · subst here
      apply entries id client
      simpa [Cluster.setNode, sockets] using found
    · apply valid.entries shardId id client
      simpa [Cluster.setNode, here] using found
  orderly other := by
    obtain ⟨shardId, id⟩ := other
    by_cases here : shardId = party.shardId
    · subst here
      have same : world.LeadsAt id
          ((cluster.setNode party.shardId world.redis node).world party.shardId) := by
        refine .same ?_
        simp [Cluster.setNode, sockets]
      by_cases acting : id = party.id
      · subst acting
        simpa [Cluster.setNode] using self.leads same
      · obtain ⟨leads, reader, phase⟩ := others id acting
        have orderly := (valid.orderly ⟨party.shardId, id⟩).leads leads
        simpa [Cluster.setNode, reader, phase] using orderly.leads same
    · have same : (cluster.world shardId).LeadsAt id
          ((cluster.setNode party.shardId world.redis node).world shardId) := by
        refine .same ?_
        simp [Cluster.setNode, here]
      simpa [Cluster.setNode, here] using (valid.orderly ⟨shardId, id⟩).leads same

/-- A live reader goes on: it leads the map on, and its next section may rely on
what it needs. -/
theorem Valid.update (valid : cluster.Valid fault)
    (started : (cluster.node party.shardId).reader party.id ≠ .absent)
    (running : (cluster.node party.shardId).reader party.id ≠ .ended)
    (leads : (cluster.world party.shardId).Leads world) {reader : Reader}
    (present : reader ≠ .absent)
    (relies : ∀ oracle model pc, reader = .busy oracle model pc →
      pc.Valid world party.id ∧ (¬ fault → oracle.Healthy)) :
    (cluster.update party world reader).Valid fault := by
  have orderly := (valid.orderly party).leads (leads.entry party.id)
  refine valid.setNode leads.valid rfl (fun id apart => ⟨leads.entry id, ?_, rfl⟩) ?_
  · simp [Node.setReader, Node.setWorld, apart]
  · simp only [Node.setReader, Function.update_self]
    exact {
      relies
      unborn := fun fresh => absurd (orderly.unborn fresh).1 started
      born := fun _ => present
      present := orderly.present
      closing := fun closing => absurd (orderly.closing closing) running
      flagged := fun client found flag => absurd (orderly.flagged client found flag) running }

/-- The context in which a reader runs its sections. -/
def ctx (cluster : Cluster) (party : Party) (oracle : Oracle) (model : DefaultModel) : Ctx where
  shardId := party.shardId
  clientId := party.id
  oracle := oracle
  availableTasks := (cluster.node party.shardId).availableTasks
  model := model

@[simp] theorem update_ctx {reader : Reader} (oracle : Oracle) (model : DefaultModel) :
    (cluster.update party world reader).ctx party oracle model = cluster.ctx party oracle model := by
  simp [ctx, update, setNode, Node.setReader, Node.setWorld]

theorem update_update {later : World} {reader next : Reader} :
    (cluster.update party world reader).update party later next =
      cluster.update party later next := by
  simp [update, setNode, Node.setReader, Node.setWorld]

theorem currentSection_busy {oracle : Oracle} {model : DefaultModel} {pc : Pc}
    (busy : (cluster.node party.shardId).reader party.id = .busy oracle model pc) :
    cluster.currentSection party = some
      ((cluster.ctx party oracle model).runSection (cluster.world party.shardId) pc) := by
  simp [currentSection, busy, ctx]

theorem step_advance {oracle : Oracle} {model : DefaultModel} {pc : Pc}
    (busy : (cluster.node party.shardId).reader party.id = .busy oracle model pc) :
    cluster.step ⟨party, .advance⟩ = some (cluster.update party
      ((cluster.ctx party oracle model).runSection (cluster.world party.shardId) pc).final
      (nextReader oracle model
        ((cluster.ctx party oracle model).runSection (cluster.world party.shardId) pc).next)) := by
  simp [step, busy, currentSection_busy busy]

/-- What an action of the party does, one case for each of its outcomes. -/
inductive Does (before : Cluster) (party : Party) : ActionKind → Cluster → Prop where
  | connects (unborn : (before.node party.shardId).phase party.id = .unborn) :
      Does before party .connect (before.setNode party.shardId before.redis
        ((((before.node party.shardId).setWorld ((before.world party.shardId).put party.id
          (.new party.id party.id))).setReader party.id .idle).setPhase party.id .inserted))
  | accepts (accepted : acceptStep party.shardId party.id oracle (before.world party.shardId)
        ((before.node party.shardId).phase party.id)
        ((before.node party.shardId).reader party.id) = some (made, next)) :
      Does before party (.accept oracle) (before.setNode party.shardId made.redis
        (((before.node party.shardId).setWorld made).setPhase party.id next))
  | receives (idle : (before.node party.shardId).reader party.id = .idle)
      (parses : frame.model? = some model) : Does before party (.frame frame oracle)
        (before.update party (before.world party.shardId) (.busy oracle model .receive))
  | answers (idle : (before.node party.shardId).reader party.id = .idle)
      (bare : frame.model? = none) : Does before party (.frame frame oracle)
        (before.update party (bareFrame (before.world party.shardId) party.id frame).1
          (.after (bareFrame (before.world party.shardId) party.id frame).2))
  | advances (busy : (before.node party.shardId).reader party.id = .busy oracle model pc) :
      Does before party .advance (before.update party
        ((before.ctx party oracle model).runSection (before.world party.shardId) pc).final
        (nextReader oracle model
          ((before.ctx party oracle model).runSection (before.world party.shardId) pc).next))
  | lapses (busy : (before.node party.shardId).reader party.id = .busy oracle model pc)
      (paused : ((before.ctx party oracle model).runSection (before.world party.shardId)
        pc).paused[await]? = some cut) :
      Does before party (.timeout await) (before.update party cut (.busy oracle model .timeoutClone))
  | hangs (idle : (before.node party.shardId).reader party.id = .idle) :
      Does before party .hangup (before.update party (before.world party.shardId) .ended)
  | severs : Does before party .sever (before.setNode party.shardId before.redis
      { before.node party.shardId with
        closed := Function.update (before.node party.shardId).closed party.id true })

theorem step_does {before after : Cluster} {action : Action}
    (stepped : before.step action = some after) : before.Does action.party action.kind after := by
  obtain ⟨party, kind⟩ := action
  unfold step at stepped
  cases kind <;> simp only at stepped ⊢
  case connect =>
    split at stepped <;> cases stepped
    exact .connects ‹_›
  case accept =>
    split at stepped <;> cases stepped
    exact .accepts ‹_›
  case frame =>
    split at stepped
    · split at stepped <;> cases stepped
      · exact .receives ‹_› ‹_›
      · exact .answers ‹_› ‹_›
    · cases stepped
  case advance =>
    split at stepped
    · rename_i busy running
      cases stepped
      rw [currentSection_busy busy] at running
      obtain rfl := Option.some.inj running
      exact .advances busy
    · cases stepped
  case timeout =>
    split at stepped
    · rename_i busy running
      rw [currentSection_busy busy] at running
      obtain rfl := Option.some.inj running
      split at stepped <;> cases stepped
      exact .lapses busy ‹_›
    · cases stepped
  case hangup =>
    split at stepped <;> cases stepped
    exact .hangs ‹_›
  case sever =>
    cases stepped
    exact .severs

theorem lobby_stage (party : Party) : cluster.lobby.stage party =
    ((cluster.node party.shardId).reader party.id).stage party.shardId := rfl

theorem Pc.stage_awake (pc : Pc) (shardId : ShardId) :
    pc.stage shardId ≠ .unborn ∧ pc.stage shardId ≠ .retired := by
  cases pc with
  | joinEnter _ _ _ _ _ admitted => cases admitted <;> simp [Pc.stage]
  | _ => simp [Pc.stage]

theorem Valid.ready (valid : cluster.Valid fault) {known : Set Party}
    (coherent : Coherent fault known cluster.lobby) {oracle : Oracle} {model : DefaultModel}
    {pc : Pc} (busy : (cluster.node party.shardId).reader party.id = .busy oracle model pc) :
    (cluster.ctx party oracle model).Ready fault cluster pc where
  world := valid.entries party.shardId
  relies := ((valid.orderly party).relies oracle model pc busy).1
  stage := (lobby_stage party).trans (by rw [busy]; rfl)
  healthy := ((valid.orderly party).relies oracle model pc busy).2
  vacant := coherent.vacant party
  present calm := by
    apply coherent.awake calm party
    · simpa [lobby_stage, busy, Reader.stage] using (Pc.stage_awake pc party.shardId).1
    · simpa [lobby_stage, busy, Reader.stage] using (Pc.stage_awake pc party.shardId).2

theorem intends (action : Action) {oracle : Oracle} {model : DefaultModel} {pc : Pc}
    (advancing : action.kind = .advance)
    (busy : (cluster.node action.party.shardId).reader action.party.id = .busy oracle model pc) :
    pc = .receive → (cluster.ctx action.party oracle model).Intends (cluster.intent action) := by
  rintro rfl request asked
  have asked : model.request? = some request := asked
  have requested : cluster.requested action.party = some (oracle, request) := by
    simp [Cluster.requested, busy, asked]
  constructor
  · intro leave
    simp only [intent, Ends, advancing]
    exact ⟨oracle, request, requested, leave⟩
  · intro create
    simp only [intent, Draws, advancing]
    exact ⟨oracle, request, requested, create, rfl⟩

theorem Valid.sound (valid : cluster.Valid fault) {known : Set Party}
    (coherent : Coherent fault known cluster.lobby) {oracle : Oracle} {model : DefaultModel}
    {pc : Pc} (busy : (cluster.node party.shardId).reader party.id = .busy oracle model pc)
    {current : Section} (running : cluster.currentSection party = some current)
    {intent : Intent String}
    (intends : pc = .receive → (cluster.ctx party oracle model).Intends intent) :
    current.Sound fault intent cluster (cluster.ctx party oracle model) := by
  obtain rfl : _ = current := by simpa [currentSection_busy busy] using running
  exact Ctx.runSection_sound (valid.ready coherent busy) intends

theorem Reader.after_idle (result : Exit ClientError Bool) :
    Reader.after result = .idle ∨ Reader.after result = .ended := by
  cases result with
  | ok shouldClose => cases shouldClose <;> simp [Reader.after]
  | err | panic => simp [Reader.after]

theorem nextReader_present (oracle : Oracle) (model : DefaultModel) (next : Next) :
    nextReader oracle model next ≠ .absent := by
  cases next with
  | goto pc => simp [nextReader]
  | handled exit => rcases Reader.after_idle (handledResult exit) with same | same <;>
      simp [nextReader, same]
  | returned result => rcases Reader.after_idle result with same | same <;>
      simp [nextReader, same]

theorem nextReader_busy {oracle later : Oracle} {model last : DefaultModel} {next : Next} {pc : Pc}
    (busy : nextReader oracle model next = .busy later last pc) : next = .goto pc ∧ later = oracle := by
  cases next with
  | goto other =>
    simp only [nextReader, Reader.busy.injEq] at busy
    exact ⟨by rw [busy.2.2], busy.1.symm⟩
  | handled exit => rcases Reader.after_idle (handledResult exit) with same | same <;>
      simp [nextReader, same] at busy
  | returned result => rcases Reader.after_idle result with same | same <;>
      simp [nextReader, same] at busy

/-- A handler's next section. -/
theorem advance_sound (action : Action) (valid : cluster.Valid fault) {known : Set Party}
    (coherent : Coherent fault known cluster.lobby)
    (advancing : action.kind = .advance) {oracle : Oracle} {model : DefaultModel} {pc : Pc}
    (busy : (cluster.node action.party.shardId).reader action.party.id = .busy oracle model pc)
    {current : Section} (running : cluster.currentSection action.party = some current) :
    (cluster.update action.party current.final
        (nextReader oracle model current.next)).Valid fault ∧
      Move (rules fault) (cluster.intent action) action.party cluster.lobby
        (cluster.update action.party current.final
          (nextReader oracle model current.next)).lobby := by
  have sound := valid.sound coherent busy running (intends action advancing busy)
  constructor
  · refine valid.update (by simp [busy]) (by simp [busy])
      (sound.leads current.final List.mem_cons_self)
      (nextReader_present oracle model current.next) fun later _ next same => ?_
    obtain ⟨going, rfl⟩ := nextReader_busy same
    have relies := sound.next
    rw [going] at relies
    exact ⟨relies, (valid.ready coherent busy).healthy⟩
  · rw [lobby_update, nextReader_stage]
    exact sound.move

/-- A handler cancelled at an await. -/
theorem timeout_sound (action : Action) (valid : cluster.Valid fault) {known : Set Party}
    (coherent : Coherent fault known cluster.lobby) {await : Nat}
    (lapsing : action.kind = .timeout await) {oracle : Oracle} {model : DefaultModel} {pc : Pc}
    (busy : (cluster.node action.party.shardId).reader action.party.id = .busy oracle model pc)
    {current : Section} (running : cluster.currentSection action.party = some current)
    (paused : current.paused[await]? = some world) :
    (cluster.update action.party world (.busy oracle model .timeoutClone)).Valid fault ∧
      Move (rules fault) (cluster.intent action) action.party cluster.lobby
        (cluster.update action.party world (.busy oracle model .timeoutClone)).lobby := by
  have sound : current.Sound fault ⟨True, fun _ => True, True⟩ cluster
      (cluster.ctx action.party oracle model) :=
    valid.sound coherent busy running fun _ _ _ => ⟨fun _ => trivial, fun _ => trivial⟩
  have member := List.mem_of_getElem? paused
  constructor
  · refine valid.update (by simp [busy]) (by simp [busy])
      (sound.leads _ (List.mem_cons_of_mem _ member)) (by simp) fun later _ next same => ?_
    cases same
    exact ⟨trivial, (valid.ready coherent busy).healthy⟩
  · rw [lobby_update]
    exact sound.pause world member (cluster.intent action) (by simp [intent, Action.lapses, lapsing])

end Cluster

end Grass
