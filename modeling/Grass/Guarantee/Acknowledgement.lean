import Grass.Guarantee.Broadcast
import Grass.Guarantee.Progress
import Grass.Refinement.Outcome
import Grass.Refinement.Told

namespace Grass

open Transition

theorem answersTo_delivered (op : RequestOpCode) (id : Uuid) (sent : List Delivery) :
    answersTo op id sent =
      (deliveredTo id sent).filter fun delivery => delivery.message.answers op := by
  simp [answersTo, deliveredTo, List.filter_filter, Bool.and_comm]

namespace Game

variable {game : Game} {roster : Roster} {id : Uuid}

/-- The event of a start reaches the host once, unless the host is in its own roster. -/
theorem Valid.start_answers (valid : game.Valid id) (apart : ¬ game.Lists id) (order : IterOrder)
    {closed : SocketSender → Bool} (hears : closed id = false)
    (choose : List GameTask → Nat → List GameTask) (availableTasks : List GameTask)
    (taskCount : Nat)
    (finished : (game.start order closed choose availableTasks taskCount).2.exit = .ok ()) :
    answersTo .start id (game.start order closed choose availableTasks taskCount).2.sent =
      [⟨id, .gameEvent (.start taskCount)⟩] := by
  obtain ⟨host, -, -, roster, clients, made⟩ := start_ok _ _ _ _ _ finished
  obtain ⟨own, other, listed, wired⟩ := valid.hosting host
  obtain rfl : roster = other := Option.some.inj (clients.symm.trans listed)
  have kept := (valid.start order closed choose availableTasks taskCount).2
  rw [made] at kept ⊢
  have hosts : (game.launched (choose availableTasks taskCount) roster).Hosts
      (roster.mapValues fun client =>
        { client with taskProgress := some (freshProgress (choose availableTasks taskCount)) }) :=
    ⟨host, rfl, wired.progress _, ⟨valid.host.isLocal, valid.host.channel⟩⟩
  have away : (game.launched (choose availableTasks taskCount) roster).partialHost.id ∉
      roster.mapValues fun client =>
        { client with taskProgress := some (freshProgress (choose availableTasks taskCount)) } := by
    intro member
    have listed := (kept.members _).mp ⟨_, rfl, member⟩
    exact apart (own ▸ listed)
  rw [Sending.ignore_sent, answersTo_delivered, hosts.broadcast away order closed, if_pos]
  · simp [Message.answers]
  · exact ⟨.inr own.symm, rfl, hears⟩

end Game

namespace Ctx

open Section

variable {ctx : Ctx} {world : World} {host : Bool}

section Walk

variable (valid : world.Valid) (hears : world.closed ctx.clientId = false)

include valid hears

theorem handleStart_outcome (apart : ∀ game, world.gameAt ctx.clientId = some game →
    ¬ game.Lists ctx.clientId) (d : Option Value) :
    (ctx.handleStart world d).Outcome .start host 5 ctx.clientId world := by
  unfold handleStart
  split
  · exact .panic
  · rename_i client found
    split
    · exact .refuse _ _
    · rename_i game playing
      have own := ((valid _ _ found).playing game playing).2
      have held : world.gameAt ctx.clientId = some game := by simp [World.gameAt, found, playing]
      split
      · unfold startHosted
        split
        · exact .panic
        · split
          · exact .fail _
          · rename_i request _
            refine .handled fun finished => ⟨.gameEvent (.start request.taskCount), rfl, ?_⟩
            refine (World.Answers.refl world).put.deliver
              (own.start_answers (apart game held) _ hears _ _ _ ?_)
            split at finished
            · assumption
            · cases finished
            · cases finished
      · split
        · exact .panic
        · exact .refuse _ _

variable (healthy : ctx.oracle.Healthy) (apart : ∀ game, world.gameAt ctx.clientId = some game →
  ¬ game.Lists ctx.clientId)

include healthy apart

/-- The first section of a request. -/
theorem receive_outcome {request : Request} (asked : ctx.model.request? = some request) :
    (ctx.receive world).Outcome request.op ((world.gameAt ctx.clientId).any Game.isHost) 5
      ctx.clientId world := by
  rw [receive_request asked]
  unfold handleRequest
  cases kind : request.op with
  | join => exact handleJoin_outcome _
  | leave => exact handleLeave_outcome valid hears healthy
  | start => exact handleStart_outcome valid hears apart _
  | task | compile | ping | identify | create | «exists» =>
    dsimp only
    first
      | unfold handleTask
      | unfold handleCompile
      | unfold handlePing
      | unfold handleIdentify
      | unfold handleCreate
      | unfold handleExists existsRead
    repeat' split
    all_goals first
      | exact .fail _
      | exact .panic
      | exact .refuse _ _
      | exact .goto rfl (by simp [Pc.sections]) (.refl world)
      | exact .goto rfl (by simp [Pc.sections]) (World.Answers.refl world).set
      | exact .reply (.refl world) (valid.wired (by assumption)) hears (by rfl) _
      | exact .reply (World.Answers.refl world).put (valid.wired (by assumption)) hears (by rfl) _

omit healthy apart in
/-- Every later section. -/
theorem runSection_outcome {pc : Pc} {op : RequestOpCode} (handles : pc.opCode = some op)
    (relies : pc.Valid world ctx.clientId)
    (vacant : Lobby.Seating (pc.stage ctx.shardId) → ∀ client,
      world.sockets ctx.clientId = some client → client.game = none) :
    (ctx.runSection world pc).Outcome op host pc.sections ctx.clientId world := by
  cases pc <;> simp only [Pc.opCode, reduceCtorEq, Option.some.injEq] at handles <;>
    subst handles <;> simp only [runSection]
  case joinHost gameId =>
    exact joinHost_outcome valid hears gameId (vacant (by simp [Lobby.Seating, Pc.stage]))
  case joinRegister gameId hostId nickname channel =>
    exact joinRegister_outcome valid gameId hostId nickname channel relies.2
  case joinEnter gameId hostId hostNickname hostChannel nickname admitted =>
    refine joinEnter_outcome valid hears gameId hostId hostNickname hostChannel nickname admitted
      fun welcome => vacant ?_
    simp [Lobby.Seating, Pc.stage, welcome]
  case compileValidate hostId request result =>
    exact compileValidate_outcome valid hostId request result
  case compileRun hostId request stdin =>
    unfold compileRun
    cases compileCode ctx.oracle.sandbox ctx.clientId request.code stdin with
    | ok result => exact .goto rfl (by simp [Pc.sections]) (.refl world)
    | err error => exact .refused (by simp)
    | panic => exact .refused (by simp)
  all_goals first
    | unfold joinSet
    | unfold joinPurge
    | unfold joinForeign
    | unfold joinRefuse
    | unfold compilePrepare
    | unfold compileFail
    | unfold compileReply
    | unfold createReply
    | unfold existsCheck
    | unfold existsPurge
    | unfold existsReply
  all_goals
    repeat' split
    all_goals first
      | exact .fail _
      | exact .panic
      | exact .refuse _ _
      | exact .goto rfl (by simp [Pc.sections]) (.refl world)
      | exact .goto rfl (by simp [Pc.sections]) (World.Answers.refl world).set
      | exact .goto rfl (by simp [Pc.sections]) (World.Answers.refl world).del
      | exact .reply (.refl world) (valid.wired (by assumption)) hears (by rfl) _

end Walk

end Ctx

/-- While a reader is alive, `accept_connection` answers no request. -/
theorem acceptStep_silent {shardId : ShardId} {id : Uuid} {oracle : Oracle} {world after : World}
    {phase next : Phase} {reader : Reader} (op : RequestOpCode) (healthy : oracle.Healthy)
    (alive : reader ≠ .ended) (opened : phase.closing = false)
    (stepped : acceptStep shardId id oracle world phase reader = some (after, next)) :
    world.Answers op id [] after := by
  have still := @World.Answers.refl op id world
  have crash : world.Answers op id [] (world.dropLocal id) := still.tell rfl
  unfold acceptStep at stepped
  cases phase <;> simp only at stepped
  case unborn | serving | gone | crashed => cases stepped
  case closed | unregistered => cases opened
  case inserted =>
    split at stepped
    · cases stepped
      exact crash
    · split at stepped <;> cases stepped
      · exact crash
      · exact still.tell rfl
  case greeted =>
    split at stepped
    · cases stepped
      exact crash
    · simp only [healthy .registerPool, healthy .registerSet, Bool.or_self, Bool.false_eq_true,
        ↓reduceIte, Option.some.injEq, Prod.mk.injEq] at stepped
      obtain ⟨rfl, -⟩ := stepped
      exact still.set

namespace Cluster

/-- How many messages the process had enqueued when the connection's last message was
taken up. -/
abbrev Marks := Party → Nat

def mark (cluster : Cluster) (action : Action) (marks : Marks) : Marks :=
  match action.kind, (cluster.node action.party.shardId).reader action.party.id with
  | .advance, .busy _ _ .receive =>
    Function.update marks action.party (cluster.node action.party.shardId).wire.length
  | _, _ => marks

/-- The steps, with a note of where each connection's last message was taken up. -/
def markedSteps : Transition.Step (Cluster × Marks) Action := Step.ofOption (recording step mark)

/-- Redis does not fail, no channel is closed, and no request times out. -/
def Undisturbed (action : Action) : Prop :=
  action.Healthy ∧ action.kind ≠ .sever ∧ ¬ action.lapses

instance (action : Action) : Decidable (action.kind = .sever) :=
  match action.kind with
  | .sever => isTrue rfl
  | .connect | .accept _ | .frame _ _ | .advance | .timeout _ | .hangup => isFalse (by simp)

instance (action : Action) : Decidable (Undisturbed action) := inferInstanceAs (Decidable (_ ∧ _))

def undisturbed : Transition.Step (Cluster × Marks) Action := fun _ action _ => Undisturbed action

/-- The connection's reader handles the request. -/
def Handles (cluster : Cluster) (party : Party) (request : Request) : Prop :=
  ∃ oracle model pc, (cluster.node party.shardId).reader party.id = .busy oracle model pc ∧
    model.request? = some request

/-- The client hosts a game. -/
def isHost (cluster : Cluster) (party : Party) : Bool :=
  ((cluster.world party.shardId).gameAt party.id).any Game.isHost

/-- What the client has been answered since its last message was taken up. -/
def answersSince (state : Cluster × Marks) (op : RequestOpCode) (party : Party) : List Delivery :=
  answersTo op party.id (((state.1.world party.shardId).wire).drop (state.2 party))

variable {before after cluster : Cluster} {action : Action} {party : Party} {known : Set Party}
  {fault : Prop}

/-- Another connection sends the client nothing but events. -/
theorem step_silent (sound : before.Sound fault known) (stepped : before.step action = some after)
    (kept : action.kind ≠ .sever) (other : party ≠ action.party) {op : RequestOpCode}
    (kind : op ≠ .start) :
    (before.world party.shardId).Answers op party.id [] (after.world party.shardId) := by
  by_cases here : party.shardId = action.party.shardId
  · have entries := sound.valid.entries action.party.shardId
    have relies := (sound.valid.orderly action.party).relies
    have permits : Permits (fun delivery => delivery.channel = action.party.id ∨
        delivery.message.answers op = false) (fun _ => True) action.party.id
        (before.world action.party.shardId).closed :=
      ⟨fun _ _ _ => .inl rfl, fun _ event _ _ => .inr (Message.event_silent kind event)⟩
    have walk := (step_carries sound.valid stepped kept entries.knows permits trivial
      (fun _ => .inl rfl) fun oracle model pc busy => (relies oracle model pc busy).1.mentions).1
    rw [here]
    obtain ⟨sent, wire, each⟩ := walk.wire
    refine ⟨walk.closed, sent, wire, answersTo_silent fun delivery member own => ?_⟩
    refine (each delivery member).resolve_left fun acting => other ?_
    obtain ⟨shardId, id⟩ := party
    obtain rfl : shardId = action.party.shardId := here
    exact congrArg (Party.mk _) (own.symm.trans acting)
  · have same : after.node party.shardId = before.node party.shardId := step_node stepped here
    exact (World.Answers.refl _).same (by simp [Cluster.world, same, Node.world])
      (by simp [Cluster.world, same, Node.world])

/-- What every undisturbed run keeps. -/
structure Attentive (cluster : Cluster) : Prop where
  sound : cluster.Sound False ∅
  hears : ∀ party : Party, (cluster.world party.shardId).closed party.id = false
  apart : cluster.lobby.Separate

/-- The next section of a request's handler. -/
theorem Attentive.outcome (attentive : cluster.Attentive) {oracle : Oracle} {model : DefaultModel}
    {pc : Pc} {request : Request}
    (busy : (cluster.node party.shardId).reader party.id = .busy oracle model pc)
    (asked : model.request? = some request)
    (handles : pc = .receive ∨ pc.opCode = some request.op) :
    ((cluster.ctx party oracle model).runSection (cluster.world party.shardId) pc).Outcome
      request.op (cluster.isHost party) pc.sections party.id (cluster.world party.shardId) := by
  have entries := attentive.sound.valid.entries party.shardId
  have ready := attentive.sound.valid.ready attentive.sound.coherent busy
  rcases handles with rfl | later
  · refine @Ctx.receive_outcome (cluster.ctx party oracle model) _ entries (attentive.hears party)
      (ready.healthy id) ?_ request asked
    intro game held lists
    cases host : game.isHost with
    | true =>
      exact attentive.apart party ⟨_, _, seat_of_host held host,
        (game.mem_parties party.shardId party.id).mpr lists⟩
    | false =>
      obtain ⟨roster, clients, -⟩ := lists
      simp [((entries.gameAt held).visiting host).1] at clients
  · exact @Ctx.runSection_outcome (cluster.ctx party oracle model) _ _ entries (attentive.hears party)
      pc request.op later ready.relies fun seating client found => ready.unseated seating found

section Marks

variable {state later : Cluster × Marks} {op : RequestOpCode} {answers : List Delivery}

theorem answered_more (same : later.2 party = state.2 party)
    (earlier : state.2 party ≤ (state.1.world party.shardId).wire.length)
    (next : (state.1.world party.shardId).Answers op party.id answers
      (later.1.world party.shardId)) :
    later.2 party ≤ (later.1.world party.shardId).wire.length ∧
      answersSince later op party = answersSince state op party ++ answers := by
  obtain ⟨sent, wire, listed⟩ := next.wire
  constructor
  · rw [wire, same, List.length_append]
    omega
  · rw [answersSince, wire, same, List.drop_append_of_le_length earlier, answersTo_append, listed,
      answersSince]

theorem answered_first (marked : later.2 party = (state.1.world party.shardId).wire.length)
    (next : (state.1.world party.shardId).Answers op party.id answers
      (later.1.world party.shardId)) :
    later.2 party ≤ (later.1.world party.shardId).wire.length ∧
      answersSince later op party = answers := by
  obtain ⟨sent, wire, listed⟩ := next.wire
  constructor
  · rw [wire, marked, List.length_append]
    omega
  · rw [answersSince, wire, marked, List.drop_left, listed]

end Marks

/-- Handlers past their first section handle a request, and have not answered it yet. -/
def Unanswered (state : Cluster × Marks) : Prop :=
  ∀ (party : Party) oracle model pc,
    (state.1.node party.shardId).reader party.id = .busy oracle model pc → pc ≠ .receive →
    ∃ request, model.request? = some request ∧ pc.opCode = some request.op ∧
      state.2 party ≤ (state.1.world party.shardId).wire.length ∧
      answersSince state request.op party = []

theorem mark_cases (cluster : Cluster) (action : Action) (marks : Marks) :
    cluster.mark action marks = marks ∨
      (∃ oracle model, (cluster.node action.party.shardId).reader action.party.id =
        .busy oracle model .receive) ∧
      ∃ count, cluster.mark action marks = Function.update marks action.party count := by
  unfold mark
  split
  · exact .inr ⟨⟨_, _, ‹_›⟩, _, rfl⟩
  · exact .inl rfl

theorem mark_other {marks : Marks} (other : party ≠ action.party) :
    cluster.mark action marks party = marks party := by
  rcases cluster.mark_cases action marks with same | ⟨-, count, same⟩
  · rw [same]
  · simp [same, other]

theorem mark_later {marks : Marks} {oracle : Oracle} {model : DefaultModel} {pc : Pc}
    (busy : (cluster.node action.party.shardId).reader action.party.id = .busy oracle model pc)
    (later : pc ≠ .receive) : cluster.mark action marks action.party = marks action.party := by
  rcases cluster.mark_cases action marks with same | ⟨⟨_, _, receiving⟩, -⟩
  · rw [same]
  · rw [busy] at receiving
    cases receiving
    exact absurd rfl later

theorem mark_receive {marks : Marks} {oracle : Oracle} {model : DefaultModel}
    (busy : (cluster.node party.shardId).reader party.id = .busy oracle model .receive) :
    cluster.mark ⟨party, .advance⟩ marks party = (cluster.world party.shardId).wire.length := by
  simp [mark, busy, Cluster.world, Node.world]

theorem Unanswered.advance {state later : Cluster × Marks} (unanswered : Unanswered state)
    {oracle : Oracle} {model : DefaultModel} {pc : Pc} {request : Request}
    (asked : model.request? = some request)
    (busy : (state.1.node party.shardId).reader party.id = .busy oracle model pc)
    (stepped : recording step mark state ⟨party, .advance⟩ = some later) {answers : List Delivery}
    (next : (state.1.world party.shardId).Answers request.op party.id answers
      (later.1.world party.shardId)) :
    later.2 party ≤ (later.1.world party.shardId).wire.length ∧
      answersSince later request.op party = answers := by
  obtain ⟨-, marked⟩ := recording_eq_some.mp stepped
  have noted : later.2 party = state.1.mark ⟨party, .advance⟩ state.2 party := by rw [marked]
  by_cases first : pc = .receive
  · subst first
    exact answered_first (noted.trans (mark_receive busy)) next
  · obtain ⟨other, same, -, earlier, none⟩ := unanswered party oracle model pc busy first
    obtain rfl : request = other := Option.some.inj (asked.symm.trans same)
    have kept := @mark_later state.1 ⟨party, .advance⟩ state.2 oracle model pc busy first
    simpa [none] using answered_more (noted.trans kept) earlier next

/-- How a handler gets past its first section: by its own sections, while
`accept_connection` may go on beside it. -/
theorem step_handler (sound : before.Sound False known) (stepped : before.step action = some after)
    (undisturbed : Undisturbed action) {oracle : Oracle} {model : DefaultModel} {pc : Pc}
    (busy : (after.node action.party.shardId).reader action.party.id = .busy oracle model pc)
    (later : pc ≠ .receive) :
    ((before.node action.party.shardId).reader action.party.id = .busy oracle model pc ∧
      ∀ op, (before.world action.party.shardId).Answers op action.party.id []
        (after.world action.party.shardId)) ∨
    (action.kind = .advance ∧ ∃ earlier,
      (before.node action.party.shardId).reader action.party.id = .busy oracle model earlier ∧
      ((before.ctx action.party oracle model).runSection (before.world action.party.shardId)
        earlier).next = .goto pc ∧
      after.world action.party.shardId =
        ((before.ctx action.party oracle model).runSection (before.world action.party.shardId)
          earlier).final) := by
  obtain ⟨healthy, kept, punctual⟩ := undisturbed
  obtain ⟨party, kind⟩ := action
  cases step_does stepped with
  | connects => simp [setNode, Node.setPhase, Node.setReader] at busy
  | accepts =>
    have running : (before.node party.shardId).reader party.id = .busy oracle model pc := by
      simpa [setNode, Node.setPhase, Node.setWorld] using busy
    have opened : ((before.node party.shardId).phase party.id).closing = false := by
      by_contra closing
      simpa [running] using (sound.valid.orderly party).closing (by simpa using closing)
    obtain ⟨world, next, accepted, -, same⟩ := step_accept stepped
    rw [same]
    exact .inl ⟨running, fun op => acceptStep_silent op healthy (by simp [running]) opened accepted⟩
  | receives =>
    simp only [update_reader, Reader.busy.injEq] at busy
    exact absurd busy.2.2.symm later
  | @answers frame =>
    rw [update_reader] at busy
    rcases Reader.after_idle (bareFrame (before.world party.shardId) party.id frame).2
      with same | same <;> simp [same] at busy
  | @advances _ asked _ running =>
    rw [update_reader] at busy
    obtain ⟨going, rfl⟩ := nextReader_busy busy
    obtain rfl : asked = model := by simpa [nextReader, going] using busy
    exact .inr ⟨rfl, _, running, going, update_world ..⟩
  | lapses => exact absurd trivial punctual
  | hangs => simp at busy
  | severs => exact absurd rfl kept

theorem Unanswered.step {before after : Cluster × Marks} (unanswered : Unanswered before)
    (attentive : before.1.Attentive) (stepped : recording step mark before action = some after)
    (undisturbed : Undisturbed action) : Unanswered after := by
  obtain ⟨taken, marked⟩ := recording_eq_some.mp stepped
  intro party oracle model pc busy later
  by_cases other : party ≠ action.party
  · rw [(step_other taken party other).1] at busy
    obtain ⟨request, asked, handles, earlier, none⟩ := unanswered party oracle model pc busy later
    have silent := step_silent attentive.sound taken undisturbed.2.1 other
      (Pc.opCode_ne_start handles)
    have same : after.2 party = before.2 party := by rw [marked, mark_other other]
    refine ⟨request, asked, handles, ?_⟩
    simpa [none] using answered_more same earlier silent
  obtain rfl : party = action.party := not_not.mp other
  rcases step_handler attentive.sound taken undisturbed busy later with
    ⟨running, silent⟩ | ⟨advances, pc', running, going, ends⟩
  · obtain ⟨request, asked, handles, earlier, none⟩ :=
      unanswered action.party oracle model pc running later
    have same : after.2 action.party = before.2 action.party := by
      rw [marked, mark_later running later]
    refine ⟨request, asked, handles, ?_⟩
    simpa [none] using answered_more same earlier (silent request.op)
  · obtain ⟨request, asked, handles⟩ : ∃ request, model.request? = some request ∧
        (pc' = .receive ∨ pc'.opCode = some request.op) := by
      by_cases first : pc' = .receive
      · subst first
        rcases (before.1.ctx action.party oracle model).receive_cases
            (before.1.world action.party.shardId) with ⟨error, fails⟩ | ⟨request, asked, -⟩
        · rw [Ctx.runSection, fails] at going
          cases going
        · exact ⟨request, asked, .inl rfl⟩
      · obtain ⟨request, asked, handles, -⟩ := unanswered action.party oracle model pc' running first
        exact ⟨request, asked, .inr handles⟩
    obtain ⟨same, -, silent⟩ := (attentive.outcome running asked handles).goes pc going
    rw [← ends] at silent
    obtain ⟨party, kind⟩ := action
    obtain rfl : kind = .advance := advances
    exact ⟨request, asked, same, unanswered.advance asked running stepped silent⟩

section Runs

variable {state : Cluster × Marks}
  (reached : Reach (fun state => state.1.Fresh) (markedSteps.when undisturbed) state)

include reached

theorem reached_unmarked :
    Reach Fresh (steps.when fun _ action _ => Undisturbed action) state.1 := by
  induction reached with
  | start initial => exact .start initial
  | next _ taken ih => exact .next ih ⟨(recording_eq_some.mp taken.1).1, taken.2⟩

theorem reached_attentive : state.1.Attentive := by
  have plain := reached_unmarked reached
  generalize state.1 = cluster at plain ⊢
  have sound : ∀ cluster, Reach Fresh (steps.when fun _ action _ => Undisturbed action) cluster →
      cluster.Sound False ∅ := fun _ reached =>
    reached_sound (fun _ => Fresh.apart) (fun _ _ _ step => ⟨step.1, fun _ => step.2.1⟩) reached
  have hears : ∀ shardId id, (cluster.world shardId).closed id = false := by
    apply plain.invariant_using sound
    · intro cluster fresh shardId id
      obtain ⟨tasks, started⟩ := fresh shardId
      simp [Cluster.world, started, Node.fresh, Node.world]
    · intro before action after known _ hears step shardId
      rw [step_closed known step.1 step.2.2.1]
      exact hears shardId
  exact ⟨sound _ plain, fun party => hears party.shardId party.id,
    reached_separate (plain.mono fun _ _ _ _ step => step.1)⟩

theorem reached_unanswered : Unanswered state := by
  apply reached.invariant_using fun _ => reached_attentive
  · intro state fresh party oracle model pc busy
    obtain ⟨tasks, started⟩ := fresh party.shardId
    simp [started, Node.fresh] at busy
  · exact fun _ _ _ attentive _ unanswered step => unanswered.step attentive step.1 step.2

omit reached in
theorem marked_advance {party : Party} {oracle : Oracle} {model : DefaultModel} {pc : Pc}
    (busy : (state.1.node party.shardId).reader party.id = .busy oracle model pc) :
    recording step mark state ⟨party, .advance⟩ = some (state.1.update party
      ((state.1.ctx party oracle model).runSection (state.1.world party.shardId) pc).final
      (nextReader oracle model
        ((state.1.ctx party oracle model).runSection (state.1.world party.shardId) pc).next),
      state.1.mark ⟨party, .advance⟩ state.2) :=
  recording_eq_some.mpr ⟨step_advance busy, rfl⟩

theorem reached_outcome {party : Party} {oracle : Oracle} {model : DefaultModel} {pc : Pc}
    {request : Request}
    (busy : (state.1.node party.shardId).reader party.id = .busy oracle model pc)
    (asked : model.request? = some request) :
    ((state.1.ctx party oracle model).runSection (state.1.world party.shardId) pc).Outcome
      request.op (state.1.isHost party) pc.sections party.id (state.1.world party.shardId) := by
  refine (reached_attentive reached).outcome busy asked ?_
  by_cases first : pc = .receive
  · exact .inl first
  · obtain ⟨other, same, handles, -⟩ := reached_unanswered reached party oracle model pc busy first
    obtain rfl : request = other := Option.some.inj (asked.symm.trans same)
    exact .inr handles

/-- A handler left alone gets to its last section. -/
theorem reached_returns {party : Party} {oracle : Oracle} {model : DefaultModel} {pc : Pc}
    {request : Request}
    (busy : (state.1.node party.shardId).reader party.id = .busy oracle model pc)
    (asked : model.request? = some request) :
    ∃ sections last part exit, run (recording step mark) state
        (List.replicate sections ⟨party, .advance⟩) = some last ∧
      last.1.currentSection party = some part ∧ part.next = .handled exit := by
  induction left : pc.sections using Nat.strong_induction_on generalizing state pc with
  | _ left ih =>
    have outcome := reached_outcome reached busy asked
    cases next : ((state.1.ctx party oracle model).runSection (state.1.world party.shardId)
        pc).next with
    | returned result => exact absurd next (outcome.handles result)
    | handled exit => exact ⟨0, state, _, exit, rfl, currentSection_busy busy, next⟩
    | goto pc' =>
      obtain ⟨-, fewer, -⟩ := outcome.goes pc' next
      have advanced := marked_advance busy
      rw [next] at advanced
      obtain ⟨sections, last, part, exit, ran, current, returns⟩ :=
        ih pc'.sections (left ▸ fewer)
          (.next reached ⟨advanced, trivial, by simp, by simp [Action.lapses]⟩)
          (update_reader ..) rfl
      refine ⟨sections + 1, last, part, exit, ?_, current, returns⟩
      rw [List.replicate_succ, run, advanced, Option.bind_some, ran]

end Runs

/-- On any number of processes, in every run in which Redis does not fail, no channel is
closed and no request times out: whatever the others do meanwhile, a handler left alone
gets to its last section; and unless it panics there, it either returns Ok, the
connection stays, and the client has been answered exactly once, by the acknowledgement
of its request; or it returns an error, and the connection ends. -/
theorem acknowledged_once (state : Cluster × Marks)
    (reached : Reach (fun state => state.1.Fresh) (markedSteps.when undisturbed) state)
    (party : Party) (request : Request) (handles : state.1.Handles party request) :
    (∃ sections last part exit, run (recording step mark) state
        (List.replicate sections ⟨party, .advance⟩) = some last ∧
      last.1.currentSection party = some part ∧ part.next = .handled exit) ∧
    ∀ part exit after, state.1.currentSection party = some part → part.next = .handled exit →
      exit ≠ .panic → recording step mark state ⟨party, .advance⟩ = some after →
      (exit = .ok () ∧ handledResult exit = .ok false ∧
        (after.1.node party.shardId).reader party.id = .idle ∧
        ∃ message : Message, message.acknowledges (state.1.isHost party) request.op = true ∧
          answersSince after request.op party = [⟨party.id, message⟩]) ∨
      ((∃ error, exit = .err error) ∧ handledResult exit = .ok true ∧
        (after.1.node party.shardId).reader party.id = .ended) := by
  obtain ⟨oracle, model, pc, busy, asked⟩ := handles
  refine ⟨reached_returns reached busy asked, fun part exit after current returns calm stepped => ?_⟩
  obtain rfl : _ = part := by simpa [currentSection_busy busy] using current
  have outcome := reached_outcome reached busy asked
  obtain rfl := Option.some.inj ((marked_advance busy).symm.trans stepped)
  rw [returns] at stepped ⊢
  cases exit with
  | panic => exact absurd rfl calm
  | err error => exact .inr ⟨⟨error, rfl⟩, rfl, by simp [nextReader, handledResult, Reader.after]⟩
  | ok =>
    obtain ⟨message, acknowledges, answers⟩ := outcome.ends returns
    refine .inl ⟨rfl, rfl, by simp [nextReader, handledResult, Reader.after], message,
      acknowledges, ?_⟩
    refine ((reached_unanswered reached).advance asked busy stepped ?_).2
    simpa using answers

/-- The requester's last section: the kind of its request, and whether it returns Ok to a host. -/
def lastSection (party : Party) (state : Cluster × Marks) : Option (RequestOpCode × Bool) :=
  match (state.1.node party.shardId).reader party.id, state.1.currentSection party with
  | .busy _ model _, some ⟨_, _, .handled (.ok ())⟩ =>
    model.request?.map fun request => (request.op, state.1.isHost party)
  | _, _ => none

/-- A host with one participant leaves. -/
theorem acknowledged_once_leave : ∃ (state after : Cluster × Marks) (success : Bool),
    Reach (fun state => state.1.Fresh) (markedSteps.when undisturbed) state ∧
    recording step mark state ⟨⟨"a", 1⟩, .advance⟩ = some after ∧
    answersSince after .leave ⟨"a", 1⟩ = [⟨1, .response (.shutdown success)⟩] := by
  let host : Party := ⟨"a", 1⟩
  have shows : (run (guarded (fun _ action => decide (Undisturbed action)) (recording step mark))
      (launch emptyRedis [], fun _ => 0)
      (pair "a" "17" 1 2 ++ host.asks (.calm "17") 0 "Leave" [])).bind (lastSection host) =
        some (.leave, true) := by decide +kernel
  obtain ⟨state, ran, seen⟩ := Option.bind_eq_some_iff.mp shows
  have reached : Reach (fun state : Cluster × Marks => state.1.Fresh)
      (markedSteps.when undisturbed) state := by
    have initial : Reach (fun state : Cluster × Marks => state.1.Fresh)
        (Step.ofOption (guarded (fun _ action => decide (Undisturbed action))
          (recording step mark))) (launch emptyRedis [], fun _ => 0) :=
      .start (launch_fresh emptyRedis [])
    refine (run_reach _ initial ran).mono fun _ _ _ _ step => ?_
    obtain ⟨calm, taken⟩ := guarded_eq_some.mp step
    exact ⟨taken, by simpa [undisturbed] using calm⟩
  unfold lastSection at seen
  split at seen
  · rename_i oracle model pc paused final busy current
    obtain ⟨request, asked, same⟩ := Option.map_eq_some_iff.mp seen
    obtain ⟨leave, hosting⟩ : request.op = .leave ∧ state.1.isHost host = true := by simpa using same
    obtain ⟨-, ends⟩ := acknowledged_once state reached host request ⟨oracle, model, pc, busy, asked⟩
    have advanced := @marked_advance state host oracle model pc busy
    rcases ends _ (.ok ()) _ current rfl (by simp) advanced with
      ⟨-, -, -, message, acknowledges, answers⟩ | ⟨⟨_, fails⟩, -⟩
    · rw [leave] at acknowledges answers
      rw [hosting] at acknowledges
      obtain ⟨success, rfl⟩ := Message.shutdown_of_leave acknowledges
      exact ⟨state, _, success, reached, advanced, answers⟩
    · cases fails
  · cases seen

end Cluster

end Grass
