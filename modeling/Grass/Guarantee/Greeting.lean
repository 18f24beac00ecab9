import Grass.Guarantee.Broadcast
import Grass.Refinement.Early
import Grass.Refinement.Told

namespace Grass

open Lobby Transition

/-- `on_open` is over. -/
def Phase.opened : Phase → Bool
  | .unborn | .inserted => false
  | _ => true

namespace Node

/-- The connection has been opened, or nothing can be sent to it. -/
def Known (node : Node) (id : Uuid) : Prop :=
  (node.phase id).opened = true ∨ node.closed id = true

/-- The messages enqueued on a connection's channel, oldest first. -/
def received (node : Node) (id : Uuid) : List Delivery := deliveredTo id node.wire

/-- A connection that is not open yet is in no game, its reader has answered nothing, and
nobody else speaks to it; an open one has got its Hello first. -/
structure Mannered (node : Node) : Prop where
  knows : ∀ id client, node.sockets id = some client → client.Known node.Known id
  mentions : ∀ id oracle model pc, node.reader id = .busy oracle model pc → pc.Known node.Known id
  waiting : ∀ id, node.phase id = .inserted → node.closed id = false →
    ∃ client, node.sockets id = some client ∧ client.game = none ∧
      (node.reader id).Early client.nickname
  silent : ∀ id, (node.phase id).opened = false → node.received id = []
  greeted : ∀ id, (node.phase id).opened = true →
    (∃ rest, node.received id = ⟨id, .hello id⟩ :: rest) ∨
      (node.closed id = true ∧ node.received id = [])

theorem fresh_mannered (availableTasks : List GameTask) : (fresh availableTasks).Mannered where
  knows _ _ found := by cases found
  mentions _ _ _ _ busy := by cases busy
  waiting _ inserted := by cases inserted
  silent _ _ := rfl
  greeted _ opened := by cases opened

variable {node : Node} {id : Uuid}

theorem Mannered.first (mannered : node.Mannered) {delivery : Delivery}
    (head : (node.received id).head? = some delivery) : delivery.message = .hello id := by
  cases opened : (node.phase id).opened with
  | false => simp [mannered.silent id opened] at head
  | true =>
    rcases mannered.greeted id opened with ⟨rest, greeted⟩ | ⟨-, none⟩
    · obtain rfl : _ = delivery := by simpa [greeted] using head
      rfl
    · simp [none] at head

end Node

theorem Pc.Early.mentions {known : Uuid → Prop} {nickname : Option String} {pc : Pc}
    {world : World} {id : Uuid} (early : pc.Early nickname) (relies : pc.Valid world id) :
    pc.Known known id := by
  cases pc with
  | timeoutReply clone =>
    have vacant : clone.game = none := early
    exact ⟨relies, fun game playing => by simp [vacant] at playing⟩
  | joinEnter | timeoutShutdown | timeoutLeave => exact early.elim
  | _ => trivial

theorem acceptStep_opened {shardId : ShardId} {id : Uuid} {oracle : Oracle} {world after : World}
    {phase next : Phase} {reader : Reader}
    (stepped : acceptStep shardId id oracle world phase reader = some (after, next)) :
    next.opened = true := by
  cases acceptStep_accepts stepped with
  | drops _ done => rcases done with rfl | rfl <;> rfl
  | _ => rfl

namespace Cluster

variable {before after : Cluster} {action : Action} {fault : Prop} {known : Set Party}

theorem step_opened (stepped : before.step action = some after) (party : Party)
    (opened : ((before.node party.shardId).phase party.id).opened = true) :
    ((after.node party.shardId).phase party.id).opened = true := by
  obtain ⟨acting, kind⟩ := action
  rcases step_phase stepped party with same | ⟨rfl, connects | ⟨oracle, accepts⟩⟩
  · rwa [same]
  · subst connects
    cases step_does stepped with
    | connects unborn =>
      simp [show (before.node party.shardId).phase party.id = _ from unborn, Phase.opened] at opened
  · subst accepts
    obtain ⟨world, next, accepted, phase, -⟩ := step_accept stepped
    rw [phase]
    exact acceptStep_opened accepted

theorem step_known (sound : before.Sound fault known) (stepped : before.step action = some after)
    (party : Party) (heard : (before.node party.shardId).Known party.id) :
    (after.node party.shardId).Known party.id :=
  heard.imp (step_opened stepped party) (step_severed sound stepped)

theorem step_apart (stepped : before.step action = some after) {id : Uuid}
    (other : id ≠ action.party.id) :
    (after.node action.party.shardId).reader id = (before.node action.party.shardId).reader id ∧
      (after.node action.party.shardId).phase id = (before.node action.party.shardId).phase id :=
  step_other stepped ⟨action.party.shardId, id⟩ fun same => other (congrArg Party.id same)

/-- A step speaks to known parties only, where they can hear it. -/
structure Speaks (id : Uuid) (before after : Node) : Prop where
  closed : after.closed = before.closed
  strangers : ∀ other, ¬ before.Known other → after.sockets other = before.sockets other
  knows : ∀ other client, after.sockets other = some client → client.Known before.Known other
  mentions : ∀ oracle model pc, after.reader id = .busy oracle model pc →
    pc.Known before.Known id
  received : ∀ other, ∃ more, after.received other = before.received other ++ more ∧
    (¬ before.Known other ∨ before.closed other = true → more = [])

/-- A known party speaks so. -/
theorem step_speaks (sound : before.Sound fault known) (stepped : before.step action = some after)
    (kept : action.kind ≠ .sever) (mannered : (before.node action.party.shardId).Mannered)
    (self : (before.node action.party.shardId).Known action.party.id) :
    Speaks action.party.id (before.node action.party.shardId)
      (after.node action.party.shardId) := by
  obtain ⟨⟨closed, ⟨sent, wire, each⟩, strangers, knows⟩, later⟩ :=
    @step_carries
      (fun delivery => (before.node action.party.shardId).Known delivery.channel ∧
        (before.node action.party.shardId).closed delivery.channel = false) _ _ _ _ _ sound.valid
      stepped kept mannered.knows
      ⟨fun _ _ hears => ⟨self, hears⟩, fun _ _ heard hears => ⟨heard, hears⟩⟩ self
      (fun hears => ⟨self, hears⟩) (mannered.mentions action.party.id)
  have appended : (after.node action.party.shardId).wire =
    (before.node action.party.shardId).wire ++ sent := wire
  refine ⟨closed, strangers, knows, later, fun other => ⟨deliveredTo other sent, ?_, fun deaf => ?_⟩⟩
  · rw [Node.received, appended]
    exact List.filter_append ..
  · refine List.filter_eq_nil_iff.mpr fun delivery member => ?_
    obtain ⟨heard, hears⟩ := each delivery member
    simp only [decide_eq_true_eq]
    rintro rfl
    rcases deaf with strange | shut
    · exact strange heard
    · simp [shut] at hears

/-- Which keeps the manners of the process. -/
theorem Speaks.mannered (sound : before.Sound fault known)
    (stepped : before.step action = some after)
    (mannered : (before.node action.party.shardId).Mannered)
    (self : (before.node action.party.shardId).Known action.party.id)
    (speaks : Speaks action.party.id (before.node action.party.shardId)
      (after.node action.party.shardId)) : (after.node action.party.shardId).Mannered := by
  have more : ∀ id, (before.node action.party.shardId).Known id →
      (after.node action.party.shardId).Known id :=
    fun id => step_known sound stepped ⟨action.party.shardId, id⟩
  constructor
  · exact fun id client found => (speaks.knows id client found).mono more
  · intro id oracle model pc busy
    by_cases own : id = action.party.id
    · subst own
      exact (speaks.mentions oracle model pc busy).mono more
    · rw [(step_apart stepped own).1] at busy
      exact (mannered.mentions id oracle model pc busy).mono more
  · intro id inserted hears
    have strange : ¬ (before.node action.party.shardId).Known id := fun heard => by
      simpa [Node.Known, inserted, Phase.opened, hears] using more id heard
    have other : id ≠ action.party.id := fun same => strange (same ▸ self)
    obtain ⟨reader, phase⟩ := step_apart stepped other
    rw [speaks.strangers id strange, reader]
    exact mannered.waiting id (phase ▸ inserted) (by rwa [← speaks.closed])
  · intro id unopened
    have earlier : ((before.node action.party.shardId).phase id).opened = false := by
      cases opened : ((before.node action.party.shardId).phase id).opened with
      | false => rfl
      | true => simp [step_opened stepped ⟨action.party.shardId, id⟩ opened] at unopened
    have deaf : ¬ (before.node action.party.shardId).Known id ∨
        (before.node action.party.shardId).closed id = true := by
      by_cases heard : (before.node action.party.shardId).Known id
      · exact .inr (heard.resolve_left (by simp [earlier]))
      · exact .inl heard
    obtain ⟨sent, received, none⟩ := speaks.received id
    rw [received, mannered.silent id earlier, none deaf]
    rfl
  · intro id opened
    obtain ⟨sent, received, none⟩ := speaks.received id
    rw [received, speaks.closed]
    cases earlier : ((before.node action.party.shardId).phase id).opened with
    | true =>
      rcases mannered.greeted id earlier with ⟨rest, greeted⟩ | ⟨shut, empty⟩
      · exact .inl ⟨rest ++ sent, by simp [greeted]⟩
      · exact .inr ⟨shut, by simp [empty, none (.inr shut)]⟩
    | false =>
      -- only a party itself opens its connection, and this one can no longer be sent to
      have own : id = action.party.id := by
        by_contra other
        rw [(step_apart stepped other).2, earlier] at opened
        cases opened
      subst own
      have shut := self.resolve_left (by simp [earlier])
      exact .inr ⟨shut, by simp [mannered.silent _ earlier, none (.inr shut)]⟩

theorem step_severs {party : Party}
    (stepped : before.step ⟨party, .sever⟩ = some after)
    (mannered : (before.node party.shardId).Mannered) : (after.node party.shardId).Mannered := by
  cases stepped
  have severed : ∀ id, (before.node party.shardId).closed id = true →
      Function.update (before.node party.shardId).closed party.id true id = true := by
    intro id shut
    by_cases same : id = party.id <;> simp [same, shut]
  have more : ∀ id, (before.node party.shardId).Known id →
      Node.Known { before.node party.shardId with
        closed := Function.update (before.node party.shardId).closed party.id true } id :=
    fun id => Or.imp_right (severed id)
  simp only [setNode, Function.update_self]
  constructor
  · exact fun id client found => (mannered.knows id client found).mono more
  · exact fun id oracle model pc busy => (mannered.mentions id oracle model pc busy).mono more
  · intro id inserted hears
    refine mannered.waiting id inserted ?_
    by_contra shut
    simp [severed id (by simpa using shut)] at hears
  · exact mannered.silent
  · exact fun id opened => (mannered.greeted id opened).imp_right (And.imp_left (severed id))

/-- A connection that is not open yet goes on, and nobody hears of it. -/
theorem step_aside (later : after.Sound fault known) (stepped : before.step action = some after)
    (sound : before.Sound fault known) (mannered : (before.node action.party.shardId).Mannered)
    (hidden : ((before.node action.party.shardId).phase action.party.id).opened = false)
    (inserted : (after.node action.party.shardId).phase action.party.id = .inserted)
    (wire : (after.node action.party.shardId).wire = (before.node action.party.shardId).wire)
    (closed : (after.node action.party.shardId).closed = (before.node action.party.shardId).closed)
    (others : ∀ id, id ≠ action.party.id → (after.node action.party.shardId).sockets id =
      (before.node action.party.shardId).sockets id)
    {client : SocketClient}
    (found : (after.node action.party.shardId).sockets action.party.id = some client)
    (vacant : client.game = none)
    (early : ((after.node action.party.shardId).reader action.party.id).Early client.nickname) :
    (after.node action.party.shardId).Mannered := by
  have more : ∀ id, (before.node action.party.shardId).Known id →
      (after.node action.party.shardId).Known id :=
    fun id => step_known sound stepped ⟨action.party.shardId, id⟩
  have received : ∀ id, (after.node action.party.shardId).received id =
      (before.node action.party.shardId).received id := fun id => by
    rw [Node.received, wire]
    rfl
  constructor
  · intro id present there
    by_cases own : id = action.party.id
    · subst own
      obtain rfl := Option.some.inj (found.symm.trans there)
      exact ⟨later.valid.entries _ _ _ found, fun game playing => by simp [vacant] at playing⟩
    · exact (mannered.knows id present (by rwa [← others id own])).mono more
  · intro id oracle model pc busy
    by_cases own : id = action.party.id
    · subst own
      rw [busy] at early
      exact Pc.Early.mentions early ((later.valid.orderly action.party).relies oracle model pc busy).1
    · rw [(step_apart stepped own).1] at busy
      exact (mannered.mentions id oracle model pc busy).mono more
  · intro id fresh hears
    by_cases own : id = action.party.id
    · subst own
      exact ⟨client, found, vacant, early⟩
    · obtain ⟨reader, phase⟩ := step_apart stepped own
      rw [others id own, reader]
      exact mannered.waiting id (phase ▸ fresh) (by rwa [← closed])
  · intro id unopened
    rw [received]
    by_cases own : id = action.party.id
    · subst own
      exact mannered.silent _ hidden
    · exact mannered.silent id ((step_apart stepped own).2 ▸ unopened)
  · intro id opened
    rw [received, closed]
    by_cases own : id = action.party.id
    · subst own
      simp [inserted, Phase.opened] at opened
    · exact mannered.greeted id ((step_apart stepped own).2 ▸ opened)

/-- `on_open` finds nothing in the channel, and puts Hello there. -/
theorem step_greets {party : Party} {oracle : Oracle}
    (stepped : before.step ⟨party, .accept oracle⟩ = some after)
    (sound : before.Sound fault known) (mannered : (before.node party.shardId).Mannered)
    (inserted : (before.node party.shardId).phase party.id = .inserted)
    (hears : (before.node party.shardId).closed party.id = false) :
    (after.node party.shardId).Mannered := by
  have more : ∀ id, (before.node party.shardId).Known id → (after.node party.shardId).Known id :=
    fun id => step_known sound stepped ⟨party.shardId, id⟩
  obtain ⟨client, found, -⟩ := mannered.waiting party.id inserted hears
  have valid := (mannered.knows party.id client found).valid
  have greeted : acceptStep party.shardId party.id oracle (before.world party.shardId) .inserted
      ((before.node party.shardId).reader party.id) =
        some ((before.world party.shardId).deliver [⟨party.id, .hello party.id⟩], .greeted) := by
    have there : (before.world party.shardId).sockets party.id = some client := found
    have open_ : (before.world party.shardId).closed party.id = false := hears
    simp [acceptStep, there, valid.wired, valid.named, open_, World.send]
  cases step_does stepped with
  | accepts accepted =>
    rw [inserted, greeted] at accepted
    cases accepted
    simp only [setNode, Function.update_self] at more ⊢
    constructor
    · exact fun id client found => (mannered.knows id client found).mono more
    · exact fun id oracle model pc busy => (mannered.mentions id oracle model pc busy).mono more
    · intro id still hears
      by_cases own : id = party.id
      · simp [Node.setPhase, own] at still
      · exact mannered.waiting id (by simpa [Node.setPhase, Node.setWorld, own] using still) hears
    · intro id unopened
      by_cases own : id = party.id
      · simp [Node.setPhase, own, Phase.opened] at unopened
      · have silent := mannered.silent id (by simpa [Node.setPhase, Node.setWorld, own] using unopened)
        simpa [Node.received, deliveredTo, Node.setPhase, Node.setWorld, Cluster.world, Node.world,
          Ne.symm own] using silent
    · intro id opened
      by_cases own : id = party.id
      · subst own
        have silent := mannered.silent party.id (by simp [inserted, Phase.opened])
        refine .inl ⟨[], ?_⟩
        simpa [Node.received, deliveredTo, Node.setPhase, Node.setWorld, Cluster.world,
          Node.world] using silent
      · have earlier := mannered.greeted id (by simpa [Node.setPhase, Node.setWorld, own] using opened)
        simpa [Node.received, deliveredTo, Node.setPhase, Node.setWorld, Cluster.world, Node.world,
          Ne.symm own] using earlier

/-- Between its insertion and `on_open`, the connection's reader answers a frame or goes on
to a section that sends to its client, over an open channel. -/
def AnswersFirst (cluster : Cluster) (action : Action) : Prop :=
  let node := cluster.node action.party.shardId
  node.phase action.party.id = .inserted ∧ node.closed action.party.id = false ∧
    match action.kind, node.reader action.party.id with
    | .frame frame _, _ => frame.answered = true
    | .advance, .busy _ model pc => pc.answers model = true
    | _, _ => False

instance (cluster : Cluster) (action : Action) : Decidable (cluster.AnswersFirst action) :=
  let node := cluster.node action.party.shardId
  decidable_of_iff (node.phase action.party.id = .inserted ∧ node.closed action.party.id = false ∧
    (match action.kind, node.reader action.party.id with
    | .frame frame _, _ => frame.answered
    | .advance, .busy _ model pc => pc.answers model
    | _, _ => false) = true) (by unfold AnswersFirst; split <;> simp_all [node])

theorem update_aside {party : Party} {kind : ActionKind} {world : World} {reader : Reader}
    {client : SocketClient}
    (sound : before.Sound fault known) (later : (before.update party world reader).Sound fault known)
    (stepped : before.step ⟨party, kind⟩ = some (before.update party world reader))
    (mannered : (before.node party.shardId).Mannered)
    (inserted : (before.node party.shardId).phase party.id = .inserted)
    (wire : world.wire = (before.world party.shardId).wire)
    (closed : world.closed = (before.world party.shardId).closed)
    (others : ∀ id, id ≠ party.id → world.sockets id = (before.world party.shardId).sockets id)
    (found : world.sockets party.id = some client) (vacant : client.game = none)
    (early : reader.Early client.nickname) :
    ((before.update party world reader).node party.shardId).Mannered := by
  have node : (before.update party world reader).node party.shardId =
      ((before.node party.shardId).setWorld world).setReader party.id reader := by
    simp [update, setNode]
  apply step_aside later stepped sound mannered (by simp [inserted, Phase.opened])
  case client => exact client
  case vacant => exact vacant
  all_goals rw [node]
  · exact inserted
  · exact wire
  · exact closed
  · exact others
  · exact found
  · simpa [Node.setReader] using early

theorem step_mannered (sound : before.Sound fault known) (later : after.Sound fault known)
    (stepped : before.step action = some after) (waits : ¬ before.AnswersFirst action)
    (mannered : (before.node action.party.shardId).Mannered) :
    (after.node action.party.shardId).Mannered := by
  obtain ⟨party, kind⟩ := action
  by_cases severs : kind = .sever
  · subst severs
    exact step_severs stepped mannered
  by_cases self : (before.node party.shardId).Known party.id
  · exact (step_speaks sound stepped severs mannered self).mannered sound stepped mannered self
  obtain ⟨unopened, hears⟩ := not_or.mp self
  have hears : (before.node party.shardId).closed party.id = false := by simpa using hears
  have cases_ : (before.node party.shardId).phase party.id = .unborn ∨
      (before.node party.shardId).phase party.id = .inserted := by
    cases phase : (before.node party.shardId).phase party.id <;>
      simp [phase, Phase.opened] at unopened ⊢
  rcases cases_ with unborn | inserted
  · have absent := ((sound.valid.orderly party).unborn unborn).1
    cases step_does stepped with
    | connects =>
      apply step_aside later stepped sound mannered (by simp [unborn, Phase.opened])
      case client => exact .new party.id party.id
      case vacant => rfl
      case others =>
        intro id other
        have apart : id ≠ party.id := other
        simp [setNode, Node.setPhase, Node.setReader, Node.setWorld, Cluster.world, Node.world, apart]
      all_goals
        simp [setNode, Node.setPhase, Node.setReader, Node.setWorld, Cluster.world, Node.world,
          Reader.Early, SocketClient.new]
    | accepts accepted => simp [acceptStep, unborn] at accepted
    | receives idle | answers idle | hangs idle => simp [absent] at idle
    | advances busy | lapses busy => simp [absent] at busy
    | severs => exact absurd rfl severs
  · obtain ⟨client, found, vacant, early⟩ := mannered.waiting party.id inserted hears
    cases step_does stepped with
    | connects unborn => simp [inserted] at unborn
    | accepts accepted => exact step_greets stepped sound mannered inserted hears
    | receives idle =>
      rw [idle] at early
      exact update_aside sound later stepped mannered inserted rfl rfl (fun _ _ => rfl) found vacant
        early
    | @answers frame oracle idle bare =>
      have other : frame = .other := by
        cases frame with
        | other => rfl
        | _ =>
          exact absurd ⟨inserted, hears, by simp [Frame.answered, bare]⟩ waits
      subst other
      rw [idle] at early
      exact update_aside sound later stepped mannered inserted rfl rfl (fun _ _ => rfl) found vacant
        early
    | @advances oracle model pc busy =>
      rw [busy] at early
      have silent : pc.answers model = false := by
        by_contra answers
        exact waits ⟨inserted, hears, by simpa [busy] using answers⟩
      have unheard := @Ctx.unheard_advance (before.ctx party oracle model) (before.world party.shardId)
        client pc found vacant early silent
      exact update_aside sound later stepped mannered inserted unheard.wire unheard.closed
        (fun id _ => by rw [unheard.sockets]) (by rw [unheard.sockets]; exact found) vacant
        unheard.next
    | @lapses oracle model pc await cut busy paused =>
      rw [busy] at early
      rcases @Ctx.unheard_lapse (before.ctx party oracle model) (before.world party.shardId) cut
        client pc found vacant early (List.mem_of_getElem? paused) with rfl | ⟨nickname, rfl⟩
      · exact update_aside sound later stepped mannered inserted rfl rfl (fun _ _ => rfl) found vacant
          trivial
      · have there : ((before.world party.shardId).put party.id
            { client with game := none, nickname := some nickname }).sockets party.id =
              some { client with game := none, nickname := some nickname } := by simp
        exact update_aside sound later stepped mannered inserted rfl rfl
          (fun id other => by simp [ctx, other]) there rfl trivial
    | hangs idle =>
      exact update_aside sound later stepped mannered inserted rfl rfl (fun _ _ => rfl) found vacant
        trivial
    | severs => exact absurd rfl severs

/-- What is enqueued for a connection is only ever added to. -/
theorem step_received (sound : before.Sound fault known) (stepped : before.step action = some after)
    (party : Party) : ∃ more, (after.node party.shardId).received party.id =
      (before.node party.shardId).received party.id ++ more := by
  by_cases here : party.shardId = action.party.shardId
  · by_cases severs : action.kind = .sever
    · obtain ⟨acting, kind⟩ := action
      subst severs
      cases stepped
      refine ⟨[], ?_⟩
      rw [here]
      simp [setNode, Node.received]
    · have entries := sound.valid.entries action.party.shardId
      obtain ⟨⟨-, ⟨sent, wire, -⟩, -⟩, -⟩ := @step_carries (fun _ => True) (fun _ => True) _ _ _ _
        sound.valid stepped severs entries.knows ⟨fun _ _ _ => trivial, fun _ _ _ _ => trivial⟩
        trivial (fun _ => trivial)
        fun oracle model pc busy => ((sound.valid.orderly action.party).relies oracle model pc
          busy).1.mentions
      have appended : (after.node action.party.shardId).wire =
        (before.node action.party.shardId).wire ++ sent := wire
      refine ⟨deliveredTo party.id sent, ?_⟩
      rw [here, Node.received, appended]
      exact List.filter_append ..
  · exact ⟨[], by simp [step_node stepped here]⟩

/-- Where a reader answers first, its message comes before Hello. -/
theorem AnswersFirst.spoils (sound : before.Sound fault known)
    (stepped : before.step action = some after)
    (mannered : (before.node action.party.shardId).Mannered) (answers : before.AnswersFirst action) :
    ∃ delivery, ((after.node action.party.shardId).received action.party.id).head? = some delivery ∧
      delivery.message ≠ .hello action.party.id := by
  obtain ⟨party, kind⟩ := action
  obtain ⟨inserted, hears, acts⟩ := answers
  obtain ⟨client, found, vacant, early⟩ := mannered.waiting party.id inserted hears
  have wired := (mannered.knows party.id client found).valid.wired
  have silent := mannered.silent party.id (by simp [inserted, Phase.opened])
  have first : ∀ {world : World} {reader : Reader} {message : Message} {rest : List Delivery},
      world.wire = (before.world party.shardId).wire ++ ⟨party.id, message⟩ :: rest →
      message ≠ .hello party.id →
      ∃ delivery, (((before.update party world reader).node party.shardId).received
        party.id).head? = some delivery ∧ delivery.message ≠ .hello party.id := by
    intro world reader message rest wire other
    refine ⟨⟨party.id, message⟩, ?_, other⟩
    have same : ((before.update party world reader).node party.shardId).wire =
        (before.node party.shardId).wire ++ ⟨party.id, message⟩ :: rest := by
      simp [update, setNode, Node.setReader, Node.setWorld, wire, Cluster.world, Node.world]
    rw [Node.received, deliveredTo] at silent ⊢
    simp [same, silent]
  cases step_does stepped with
  | receives idle parses =>
    rename_i model frame oracle
    have skipped : frame.answered = false := by
      unfold Frame.answered
      split <;> simp [parses]
    simp [skipped] at acts
  | @answers frame oracle idle bare =>
    have there : (before.world party.shardId).sockets party.id = some client := found
    have open_ : (before.world party.shardId).closed party.id = false := hears
    obtain ⟨message, wire, other⟩ : ∃ message,
        (bareFrame (before.world party.shardId) party.id frame).1.wire =
          (before.world party.shardId).wire ++ [⟨party.id, message⟩] ∧ message ≠ .hello party.id := by
      cases frame with
      | other => simp [Frame.answered] at acts
      | _ => simp [bareFrame, there, wired, open_, World.send]
    exact first wire other
  | @advances oracle model pc busy =>
    rw [busy] at early
    simp only [busy] at acts
    have relies := ((sound.valid.orderly party).relies oracle model pc busy).1
    obtain ⟨message, rest, wire, other⟩ := @Ctx.heard_advance (before.ctx party oracle model)
      (before.world party.shardId) client pc found vacant wired hears early relies acts
    exact first wire other
  | connects | accepts | lapses | hangs | severs => exact acts.elim

/-- Every connection's first message is its Hello. -/
def HelloFirst (cluster : Cluster) : Prop :=
  ∀ (party : Party) (delivery : Delivery),
    ((cluster.node party.shardId).received party.id).head? = some delivery →
    delivery.message = .hello party.id

def answersNoneFirst : Transition.Step Cluster Action :=
  fun before action _ => ¬ before.AnswersFirst action

theorem reached_mannered {cluster : Cluster}
    (reached : Reach Fresh (steps.when answersNoneFirst) cluster) (shardId : ShardId) :
    (cluster.node shardId).Mannered := by
  have failing : ∀ {cluster}, Reach Fresh (steps.when answersNoneFirst) cluster →
      cluster.Sound True ∅ := reached_failing fun _ _ _ step => step.1
  induction reached with
  | start fresh =>
    obtain ⟨tasks, same⟩ := fresh shardId
    rw [same]
    exact Node.fresh_mannered tasks
  | next earlier step ih =>
    rename_i before action after
    by_cases here : shardId = action.party.shardId
    · subst here
      exact step_mannered (failing earlier) (failing (.next earlier step)) step.1 step.2 ih
    · rwa [step_node step.1 here]

/-- In every run, whoever is interleaved with whom: Hello is the first message of every
connection if and only if no reader answers before `on_open`. -/
theorem hello_first_iff (cluster : Cluster) (reached : Reach Fresh steps cluster) :
    cluster.HelloFirst ↔ Reach Fresh (steps.when answersNoneFirst) cluster := by
  constructor
  · intro first
    induction reached with
    | start fresh => exact .start fresh
    | next earlier step ih =>
      rename_i before action after
      have sound := reached_steps earlier
      have before_first : before.HelloFirst := by
        intro party delivery head
        obtain ⟨more, same⟩ := step_received sound step party
        apply first party delivery
        rw [same, List.head?_append, head]
        rfl
      have spared := ih before_first
      refine .next spared ⟨step, fun answers => ?_⟩
      obtain ⟨delivery, head, other⟩ := answers.spoils sound step (reached_mannered spared _)
      exact other (first action.party delivery head)
  · exact fun spared party delivery => (reached_mannered spared party.shardId).first

/-- Who is greeted by the first message of a connection, and how many messages it got. -/
def greeting (party : Party) (cluster : Cluster) : Option (Uuid × Nat) :=
  match (cluster.node party.shardId).received party.id with
  | ⟨_, .hello id⟩ :: rest => some (id, rest.length)
  | _ => none

theorem hello_first_pair : ∃ cluster : Cluster, cluster.HelloFirst ∧
    cluster.greeting ⟨"a", 1⟩ = some (1, 4) ∧ cluster.greeting ⟨"a", 2⟩ = some (2, 3) := by
  obtain ⟨cluster, reached, seen⟩ := run_shows (launch_fresh emptyRedis [])
    (show (run (guarded (fun before action => !decide (before.AnswersFirst action)) step)
        (launch emptyRedis []) (pair "a" "17" 1 2)).bind (fun cluster =>
          some (cluster.greeting ⟨"a", 1⟩, cluster.greeting ⟨"a", 2⟩)) =
        some (some (1, 4), some (2, 3)) by decide +kernel)
  have spared : Reach Fresh (steps.when answersNoneFirst) cluster :=
    reached.mono fun _ _ _ _ step => ⟨step.1, by simpa [checks, answersNoneFirst] using step.2⟩
  obtain ⟨host, guest⟩ := Prod.mk.inj (Option.some.inj seen)
  exact ⟨cluster, (hello_first_iff cluster (spared.mono fun _ _ _ _ step => step.1)).mpr spared,
    host, guest⟩

/-- The bytes of a pong that the first client got before its greeting. -/
def overtaken (cluster : Cluster) : Option (List UInt8 × Uuid) :=
  match (cluster.node "a").received 1 with
  | [⟨_, .pong bytes⟩, ⟨_, .hello id⟩] => some (bytes, id)
  | _ => none

/-- The client pings as soon as it is connected, and the answer overtakes Hello. -/
theorem pong_overtakes_hello : ¬ ∀ cluster, Reach Fresh steps cluster → HelloFirst cluster := by
  intro always
  let client : Party := ⟨"a", 1⟩
  let oracle := Oracle.calm "17"
  obtain ⟨cluster, reached, seen⟩ := run_shows (launch_fresh emptyRedis [])
    (show (run (guarded (fun _ _ => true) step) (launch emptyRedis [])
        [⟨client, .connect⟩, ⟨client, .frame (.ping [7]) oracle⟩, ⟨client, .accept oracle⟩]).bind
          overtaken = some ([7], 1) by decide +kernel)
  have first := always cluster (reached.mono fun _ _ _ _ step => step.1) client
  unfold overtaken at seen
  split at seen
  · rename_i channel bytes _ id received
    exact absurd (first ⟨channel, .pong bytes⟩ (by rw [received]; rfl)) (by simp)
  · cases seen

end Cluster

end Grass
