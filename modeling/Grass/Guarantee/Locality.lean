import Grass.Guarantee.Collision
import Grass.Refinement.Entries
import Grass.Refinement.Locality

namespace Grass

open Transition

namespace Section

variable {world after : World}

/-- The section leaves every entry as it is, wherever it is left. -/
def Reads (world : World) (part : Section) : Prop :=
  ∀ after ∈ part.final :: part.paused, after.sockets = world.sockets

theorem reads_stop (same : after.sockets = world.sockets) (exit : Exit ClientError Unit) :
    Reads world (stop after exit) := by
  simpa [Reads, stop] using same

theorem reads_fail (same : after.sockets = world.sockets) (error : ClientError) :
    Reads world (fail after error) := reads_stop same _

@[simp] theorem reads_panic : Reads world (panic world) := reads_stop rfl _

theorem reads_goto (same : after.sockets = world.sockets) (pc : Pc) :
    Reads world (goto after pc) := by
  simpa [Reads, goto] using same

@[simp] theorem reads_refuse (client : SocketClient) (error : ClientError) :
    Reads world (refuse world client error) := by
  simp [Reads, refuse]

@[simp] theorem reads_reply (channel : SocketSender) (response : Response)
    (exit : Exit ClientError Unit) : Reads world (reply world channel response exit) := by
  simp [Reads, reply]

end Section

namespace Ctx

variable {ctx : Ctx} {world : World}

/-- Every guard is exclusive. -/
def Exclusive (script : List (List Guard)) : Prop :=
  ∀ phase ∈ script, ∀ guard ∈ phase, guard.mode = .exclusive

theorem dropGuards_exclusive {shardId : ShardId} {id : Uuid} (guard : Guard)
    (member : guard ∈ world.dropGuards shardId id) : guard.mode = .exclusive := by
  unfold World.dropGuards at member
  split at member
  · cases member
  · unfold Game.dropGuards at member
    split at member
    · obtain rfl := List.mem_singleton.mp member
      rfl
    · cases member

theorem dropping_exclusive : Exclusive (ctx.dropping world) := by
  intro phase member guard taken
  obtain rfl := List.mem_singleton.mp member
  rcases List.mem_cons.mp taken with rfl | dropped
  · rfl
  · exact dropGuards_exclusive guard dropped

theorem single_exclusive {party : Party} : Exclusive [[⟨party, .exclusive⟩]] := by
  simp [Exclusive]

theorem handleRequest_shares (request : Request) : Exclusive (ctx.requestGuards world request) ∨
    (ctx.handleRequest world request).Reads world := by
  obtain ⟨d, op⟩ := request
  cases op with
  | join =>
    right
    simp only [handleRequest, handleJoin, joinRead]
    repeat' split
    all_goals simp [Section.reads_fail, Section.reads_goto]
  | leave => exact .inl dropping_exclusive
  | start =>
    left
    simp only [requestGuards]
    split
    · exact single_exclusive
    · split
      · exact single_exclusive
      · exact dropping_exclusive
  | task =>
    right
    simp only [handleRequest, handleTask]
    repeat' split
    all_goals simp [Section.reads_fail]
  | compile =>
    right
    simp only [handleRequest, handleCompile]
    repeat' split
    all_goals simp [Section.reads_fail, Section.reads_goto]
  | ping =>
    right
    simp only [handleRequest, handlePing]
    split <;> simp
  | identify => exact .inl single_exclusive
  | create => exact .inl (by simp [requestGuards, Exclusive])
  | «exists» => exact .inl (by simp [requestGuards, Exclusive])

/-- A section that shares a guard changes no entry. -/
theorem runSection_shares (pc : Pc) :
    Exclusive (ctx.guards world pc) ∨ (ctx.runSection world pc).Reads world := by
  cases pc with
  | receive =>
    simp only [guards, runSection, receive]
    cases ctx.model.d with
    | none => exact .inl (by simp [Exclusive])
    | some data =>
      cases ctx.model.op with
      | request =>
        dsimp only
        cases Request.fromValue data with
        | none => exact .inl (by simp [Exclusive])
        | some request => exact handleRequest_shares request
      | _ => exact .inl (by simp [Exclusive])
  | joinHost => exact .inl dropping_exclusive
  | joinEnter _ _ _ _ _ admitted =>
    cases admitted
    · exact .inl single_exclusive
    · exact .inl dropping_exclusive
  | joinRegister | compilePrepare | compileValidate | timeoutLeave => exact .inl single_exclusive
  | existsCheck =>
    right
    simp only [runSection, existsCheck]
    split <;> simp [Section.reads_goto]
  | joinRefuse =>
    right
    simp only [runSection, joinRefuse]
    split <;> simp
  | compileFail =>
    right
    simp only [runSection, compileFail]
    split <;> simp
  | compileReply =>
    right
    simp only [runSection, compileReply]
    split <;> simp
  | createReply =>
    right
    simp only [runSection, createReply]
    split <;> simp
  | existsReply =>
    right
    simp only [runSection, existsReply]
    split <;> simp
  | timeoutClone =>
    right
    simp only [runSection, timeoutClone]
    split <;> simp [Section.Reads, Section.goto]
  | _ => exact .inl (by simp [Exclusive, guards])

end Ctx

namespace Cluster

variable {cluster before after : Cluster} {action : Action} {phase : List Guard} {guard : Guard}

theorem dropGuards_home {shardId : ShardId} {world : World} {id : Uuid}
    (member : guard ∈ world.dropGuards shardId id) : guard.party.shardId = shardId := by
  unfold World.dropGuards at member
  split at member
  · cases member
  · unfold Game.dropGuards at member
    split at member
    · obtain rfl := List.mem_singleton.mp member
      rfl
    · cases member

theorem dropping_home {ctx : Ctx} {world : World} (listed : phase ∈ ctx.dropping world)
    (member : guard ∈ phase) : guard.party.shardId = ctx.shardId := by
  obtain rfl := List.mem_singleton.mp listed
  rcases List.mem_cons.mp member with rfl | dropped
  · rfl
  · exact dropGuards_home dropped

theorem guards_home {ctx : Ctx} {world : World} {pc : Pc} (listed : phase ∈ ctx.guards world pc)
    (member : guard ∈ phase) : guard.party.shardId = ctx.shardId := by
  cases pc with
  | receive =>
    simp only [Ctx.guards] at listed
    split at listed
    · rename_i data _ _
      cases parsed : Request.fromValue data with
      | none => simp [parsed] at listed
      | some request =>
        obtain ⟨d, op⟩ := request
        simp only [parsed, Option.map_some, Option.getD_some] at listed
        cases op with
        | leave => exact dropping_home listed member
        | start =>
          simp only [Ctx.requestGuards] at listed
          split at listed
          · simp_all [Ctx.getMut]
          · split at listed
            · simp_all [Ctx.getMut]
            · exact dropping_home listed member
        | task =>
          simp only [Ctx.requestGuards] at listed
          split at listed
          · obtain rfl := List.mem_singleton.mp listed
            rcases List.mem_pair.mp member with rfl | rfl <;> rfl
          · simp_all [Ctx.get]
        | join =>
          simp only [Ctx.requestGuards] at listed
          split at listed <;> simp_all [Ctx.get]
        | _ => simp_all [Ctx.requestGuards, Ctx.get, Ctx.getMut]
    · cases listed
  | joinHost => exact dropping_home listed member
  | joinEnter _ _ _ _ _ admitted =>
    cases admitted
    · simp_all [Ctx.guards, Ctx.getMut]
    · exact dropping_home listed member
  | _ => simp_all [Ctx.guards, Ctx.get, Ctx.getMut]

theorem acceptGuards_home {shardId : ShardId} {id : Uuid} {oracle : Oracle} {world : World}
    {stage : Phase} {reader : Reader}
    (listed : phase ∈ acceptGuards shardId id oracle world stage reader) (member : guard ∈ phase) :
    guard.party.shardId = shardId := by
  cases stage with
  | greeted =>
    simp only [acceptGuards] at listed
    split at listed
    · simp only [List.mem_cons, List.not_mem_nil, or_false] at listed
      rcases listed with rfl | rfl | rfl
      · simp_all
      · simp_all
      · exact dropGuards_home member
    · simp_all
  | serving =>
    simp only [acceptGuards] at listed
    split at listed
    · obtain rfl := List.mem_singleton.mp listed
      rcases List.mem_cons.mp member with rfl | dropped
      · rfl
      · exact dropGuards_home dropped
    · cases listed
  | unregistered =>
    simp only [acceptGuards, List.mem_cons, List.not_mem_nil, or_false] at listed
    rcases listed with rfl | rfl
    · simp_all
    · exact dropGuards_home member
  | _ => simp_all [acceptGuards]

/-- A step takes guards in the map of its own process only. -/
theorem script_home (listed : phase ∈ cluster.script action) (member : guard ∈ phase) :
    guard.party.shardId = action.party.shardId := by
  obtain ⟨party, kind⟩ := action
  cases kind with
  | connect =>
    simp only [script] at listed
    split at listed <;> simp_all
  | accept oracle => exact acceptGuards_home listed member
  | frame frame oracle =>
    simp only [script] at listed
    split at listed <;> simp_all
  | advance | timeout =>
    simp only [script] at listed
    split at listed
    · exact guards_home listed member
    · cases listed
  | hangup | sever => cases listed

section Amid

variable {kept : Party → Prop} [DecidablePred kept] {others : Party → Option SocketClient}

/-- The cluster with other entries wherever they are not kept. -/
def amid (cluster : Cluster) (kept : Party → Prop) [DecidablePred kept]
    (others : Party → Option SocketClient) : Cluster where
  redis := cluster.redis
  node shardId := { cluster.node shardId with
    sockets := fun id =>
      if kept ⟨shardId, id⟩ then (cluster.node shardId).sockets id else others ⟨shardId, id⟩ }

theorem amid_world (shardId : ShardId) : (cluster.amid kept others).world shardId =
    (cluster.world shardId).amid (fun id => kept ⟨shardId, id⟩) fun id => others ⟨shardId, id⟩ := rfl

theorem amid_reader (shardId : ShardId) :
    ((cluster.amid kept others).node shardId).reader = (cluster.node shardId).reader := rfl

theorem amid_phase (shardId : ShardId) :
    ((cluster.amid kept others).node shardId).phase = (cluster.node shardId).phase := rfl

theorem amid_setNode {shardId : ShardId} {redis : Redis} {node other : Node}
    (framed : other = { node with
      sockets := fun id => if kept ⟨shardId, id⟩ then node.sockets id else others ⟨shardId, id⟩ }) :
    (cluster.amid kept others).setNode shardId redis other =
      (cluster.setNode shardId redis node).amid kept others := by
  subst framed
  simp only [setNode, amid, Cluster.mk.injEq, true_and]
  funext here
  by_cases same : here = shardId
  · subst same
    simp
  · simp [same]

theorem amid_update (party : Party) (world : World) (reader : Reader) :
    (cluster.amid kept others).update party (world.amid (fun id => kept ⟨party.shardId, id⟩)
      fun id => others ⟨party.shardId, id⟩) reader =
        (cluster.update party world reader).amid kept others :=
  amid_setNode rfl

/-- What a step does depends only on entries whose guards it holds. -/
theorem amid_step (held : ∀ phase ∈ cluster.script action, ∀ guard ∈ phase, kept guard.party) :
    (cluster.amid kept others).step action =
      (cluster.step action).map fun after => after.amid kept others := by
  have own : Ctx.Held (fun id => kept ⟨action.party.shardId, id⟩) (cluster.script action) := by
    intro phase listed guard member
    have home := script_home listed member
    have keeps := held phase listed guard member
    rwa [show guard.party = ⟨action.party.shardId, guard.party.id⟩ by rw [← home]] at keeps
  obtain ⟨party, kind⟩ := action
  have busyAmid : ∀ {oracle model pc},
      (cluster.node party.shardId).reader party.id = .busy oracle model pc →
      Ctx.Held (fun id => kept ⟨party.shardId, id⟩)
        ((cluster.ctx party oracle model).guards (cluster.world party.shardId) pc) →
      (cluster.amid kept others).currentSection party = some
        (((cluster.ctx party oracle model).runSection (cluster.world party.shardId) pc).amid
          (fun id => kept ⟨party.shardId, id⟩) fun id => others ⟨party.shardId, id⟩) := by
    intro oracle model pc busy guards
    rw [@currentSection_busy (cluster.amid kept others) _ _ _ _ busy, amid_world,
      ← Ctx.amid_runSection pc guards]
    rfl
  cases kind with
  | connect =>
    simp only [step, amid_phase, amid_world]
    by_cases unborn : (cluster.node party.shardId).phase party.id = .unborn
    · have keeps : kept ⟨party.shardId, party.id⟩ := by
        simp only [script, unborn, ↓reduceIte] at own
        exact Ctx.Held.own own
      simp only [unborn, ↓reduceIte, Option.map_some, Option.some.injEq]
      refine amid_setNode ?_
      rw [@World.amid_put (fun id => kept ⟨party.shardId, id⟩) _ _ _ _ keeps]
      rfl
    · simp [unborn]
  | accept oracle =>
    simp only [step, amid_phase, amid_reader, amid_world, amid_acceptStep own]
    cases acceptStep party.shardId party.id oracle (cluster.world party.shardId)
      ((cluster.node party.shardId).phase party.id)
      ((cluster.node party.shardId).reader party.id) with
    | none => rfl
    | some made =>
      simp only [Option.map_some, Option.some.injEq]
      exact amid_setNode rfl
  | frame frame oracle =>
    simp only [step, amid_reader, amid_world]
    cases idle : (cluster.node party.shardId).reader party.id with
    | idle =>
      cases parses : frame.model? with
      | some model =>
        simp only [Option.map_some, Option.some.injEq]
        exact amid_update ..
      | none =>
        have keeps : frame ≠ .other → kept ⟨party.shardId, party.id⟩ := by
          intro bare
          cases frame with
          | other => exact absurd rfl bare
          | text | ping | pong =>
            simp only [script, idle, parses] at own
            exact Ctx.Held.own own
        simp only [@amid_bareFrame (fun id => kept ⟨party.shardId, id⟩) _ _ _ _ _ keeps,
          Option.map_some, Option.some.injEq]
        exact amid_update ..
    | _ => rfl
  | advance =>
    simp only [step, amid_reader]
    cases busy : (cluster.node party.shardId).reader party.id with
    | busy oracle model pc =>
      simp only [script, busy] at own
      simp only [busyAmid busy own, currentSection_busy busy, Option.map_some, Option.some.injEq]
      exact amid_update ..
    | _ => rfl
  | timeout await =>
    simp only [step, amid_reader]
    cases busy : (cluster.node party.shardId).reader party.id with
    | busy oracle model pc =>
      simp only [script, busy] at own
      simp only [busyAmid busy own, currentSection_busy busy, Section.amid, List.getElem?_map]
      cases ((cluster.ctx party oracle model).runSection (cluster.world party.shardId)
        pc).paused[await]? with
      | none => rfl
      | some cut =>
        simp only [Option.map_some, Option.some.injEq]
        exact amid_update ..
    | _ => rfl
  | hangup =>
    simp only [step, amid_reader, amid_world]
    cases (cluster.node party.shardId).reader party.id with
    | idle =>
      simp only [Option.map_some, Option.some.injEq]
      exact amid_update ..
    | _ => rfl
  | sever =>
    simp only [step, Option.map_some, Option.some.injEq]
    exact amid_setNode rfl

end Amid

/-- The step takes a guard of the party's entry. -/
def Guarded (cluster : Cluster) (action : Action) (party : Party) : Prop :=
  ∃ phase ∈ cluster.script action, ∃ guard ∈ phase, guard.party = party

instance (cluster : Cluster) (action : Action) : DecidablePred (cluster.Guarded action) :=
  fun _ => inferInstanceAs (Decidable (∃ _ ∈ _, ∃ _ ∈ _, _))

/-- The step takes the exclusive guard of the party's entry. -/
def Owned (cluster : Cluster) (action : Action) (party : Party) : Prop :=
  ∃ phase ∈ cluster.script action, ⟨party, .exclusive⟩ ∈ phase

/-- A step of `accept_connection` shares no guard but that of the client's own entry, which it
also takes exclusively or leaves as it is. -/
theorem acceptStep_shares {shardId : ShardId} {id : Uuid} {oracle : Oracle} {world made : World}
    {stage next : Phase} {reader : Reader}
    (accepted : acceptStep shardId id oracle world stage reader = some (made, next)) :
    (∀ phase ∈ acceptGuards shardId id oracle world stage reader, ∀ guard ∈ phase,
      ∃ other ∈ acceptGuards shardId id oracle world stage reader,
        ⟨guard.party, .exclusive⟩ ∈ other) ∨ made.sockets = world.sockets := by
  have covered : Ctx.Exclusive (acceptGuards shardId id oracle world stage reader) →
      ∀ phase ∈ acceptGuards shardId id oracle world stage reader, ∀ guard ∈ phase,
        ∃ other ∈ acceptGuards shardId id oracle world stage reader,
          ⟨guard.party, .exclusive⟩ ∈ other := by
    intro all phase listed guard member
    refine ⟨phase, listed, ?_⟩
    rwa [← all phase listed guard member]
  have removal : Ctx.Exclusive [[⟨⟨shardId, id⟩, .exclusive⟩], world.dropGuards shardId id] := by
    intro phase listed guard member
    rcases List.mem_pair.mp listed with rfl | rfl
    · obtain rfl := List.mem_singleton.mp member
      rfl
    · exact Ctx.dropGuards_exclusive guard member
  cases stage with
  | inserted => exact .inl (covered Ctx.single_exclusive)
  | greeted =>
    simp only [acceptStep] at accepted
    simp only [acceptGuards]
    split at accepted
    · cases accepted
      exact .inr (World.announceDrop_sockets ..)
    · rename_i client found
      cases fails : oracle.fails .registerPool || oracle.fails .registerSet with
      | false =>
        simp only [fails, Bool.false_eq_true, ↓reduceIte, Option.some.injEq, Prod.mk.injEq]
          at accepted
        obtain ⟨rfl, -⟩ := accepted
        exact .inr rfl
      | true =>
        left
        simp only [found, Option.isSome_some, Bool.and_self, ↓reduceIte]
        intro phase listed guard member
        rcases List.mem_cons.mp listed with rfl | removed
        · obtain rfl := List.mem_singleton.mp member
          exact ⟨_, List.mem_cons_of_mem _ List.mem_cons_self, List.mem_singleton_self _⟩
        · refine ⟨phase, List.mem_cons_of_mem _ removed, ?_⟩
          rwa [← removal phase removed guard member]
  | serving =>
    cases reader with
    | ended =>
      refine .inl (covered fun phase listed guard member => ?_)
      obtain rfl := List.mem_singleton.mp listed
      rcases List.mem_cons.mp member with rfl | dropped
      · rfl
      · exact Ctx.dropGuards_exclusive guard dropped
    | _ => cases accepted
  | closed =>
    right
    simp only [acceptStep] at accepted
    split at accepted
    · cases accepted
      exact World.announceDrop_sockets ..
    · split at accepted <;> cases accepted <;> rfl
  | unregistered => exact .inl (covered removal)
  | _ => cases accepted

/-- An entry without a guard stays as it is. -/
theorem step_unguarded (stepped : before.step action = some after) {party : Party}
    (free : ¬ before.Guarded action party) :
    (after.node party.shardId).sockets party.id = (before.node party.shardId).sockets party.id := by
  have framed := @amid_step before action (before.Guarded action) _
    (fun party => (before.node party.shardId).sockets party.id)
    fun phase listed guard member => ⟨phase, listed, guard, member, rfl⟩
  have same : before.amid (before.Guarded action)
      (fun party => (before.node party.shardId).sockets party.id) = before := by
    simp [amid]
  rw [same, stepped, Option.map_some, Option.some.injEq] at framed
  rw [framed]
  exact if_neg free

/-- A step either takes the exclusive guard of every entry that it guards, or changes no
entry. -/
theorem step_shares (stepped : before.step action = some after) :
    (∀ party, before.Guarded action party → before.Owned action party) ∨
      ∀ party : Party, (after.node party.shardId).sockets party.id =
        (before.node party.shardId).sockets party.id := by
  have exclusive : Ctx.Exclusive (before.script action) →
      ∀ party, before.Guarded action party → before.Owned action party := by
    rintro all _ ⟨phase, listed, guard, member, rfl⟩
    refine ⟨phase, listed, ?_⟩
    rwa [← all phase listed guard member]
  have still : ∀ {redis node}, node.sockets = (before.node action.party.shardId).sockets →
      ∀ party : Party, ((before.setNode action.party.shardId redis node).node party.shardId).sockets
        party.id = (before.node party.shardId).sockets party.id := by
    intro redis node same party
    by_cases here : party.shardId = action.party.shardId
    · simp [setNode, here, same]
    · simp [setNode, here]
  obtain ⟨party, kind⟩ := action
  cases step_does stepped with
  | connects unborn =>
    refine .inl (exclusive ?_)
    simp [script, unborn, Ctx.Exclusive]
  | accepts accepted =>
    rcases acceptStep_shares accepted with covered | same
    · left
      rintro _ ⟨phase, listed, guard, member, rfl⟩
      exact covered phase listed guard member
    · exact .inr (still same)
  | receives idle parses => exact .inr (still rfl)
  | @answers frame _ idle bare =>
    refine .inr (still ?_)
    rcases bareFrame_cases (before.world party.shardId) party.id frame with
      same | ⟨client, message, -, -, same⟩
    · rw [same]
      rfl
    · rw [same]
      exact World.send_sockets ..
  | @advances oracle model pc busy =>
    rcases @Ctx.runSection_shares (before.ctx party oracle model) (before.world party.shardId) pc
      with all | reads
    · refine .inl (exclusive ?_)
      simp only [script, busy]
      exact all
    · exact .inr (still (reads _ List.mem_cons_self))
  | @lapses oracle model pc await cut busy paused =>
    rcases @Ctx.runSection_shares (before.ctx party oracle model) (before.world party.shardId) pc
      with all | reads
    · refine .inl (exclusive ?_)
      simp only [script, busy]
      exact all
    · exact .inr (still (reads _ (List.mem_cons_of_mem _ (List.mem_of_getElem? paused))))
  | hangs idle => exact .inr (still rfl)
  | severs => exact .inr (still rfl)

/-- An entry that a step changes is one whose exclusive guard it takes. -/
theorem step_owned {after : Cluster} (stepped : cluster.step action = some after) {party : Party}
    (changed : (after.node party.shardId).sockets party.id ≠
      (cluster.node party.shardId).sockets party.id) : cluster.Owned action party := by
  rcases step_shares stepped with owned | same
  · by_cases guarded : cluster.Guarded action party
    · exact owned party guarded
    · exact absurd (step_unguarded stepped guarded) changed
  · exact absurd (same party) changed

/-- In any state, a step does the same whatever the entries are that it takes no guard of,
and leaves those alone; an entry it changes is one whose exclusive guard it takes. -/
theorem guards_cover (cluster : Cluster) (action : Action) :
    (∀ others, (cluster.amid (cluster.Guarded action) others).step action =
      (cluster.step action).map fun after => after.amid (cluster.Guarded action) others) ∧
    ∀ after, cluster.step action = some after → ∀ party : Party,
      (after.node party.shardId).sockets party.id ≠
        (cluster.node party.shardId).sockets party.id → cluster.Owned action party := by
  constructor
  · intro others
    exact amid_step fun phase listed guard member => ⟨phase, listed, guard, member, rfl⟩
  · exact fun after stepped party changed => step_owned stepped changed

theorem requestGuards_single {ctx : Ctx} {world : World} (request : Request) :
    (ctx.requestGuards world request).length ≤ 1 := by
  obtain ⟨d, op⟩ := request
  cases op <;> simp only [Ctx.requestGuards] <;> repeat' split
  all_goals simp [Ctx.dropping]

theorem guards_single {ctx : Ctx} {world : World} (pc : Pc) : (ctx.guards world pc).length ≤ 1 := by
  cases pc with
  | receive =>
    simp only [Ctx.guards]
    split
    · rename_i data _ _
      cases Request.fromValue data with
      | none => simp
      | some request => exact requestGuards_single request
    · simp
  | joinHost => simp [Ctx.guards, Ctx.dropping]
  | joinEnter _ _ _ _ _ admitted => cases admitted <;> simp [Ctx.guards, Ctx.dropping]
  | _ => simp [Ctx.guards]

/-- `accept_connection` may remove its entry, of which it then gives the guard back. -/
def Removes (cluster : Cluster) (action : Action) : Prop :=
  (∃ oracle, action.kind = .accept oracle) ∧
    ((cluster.node action.party.shardId).phase action.party.id = .greeted ∨
      (cluster.node action.party.shardId).phase action.party.id = .unregistered)

/-- Any other step gives no guard back before it is over. -/
theorem script_last (listed : phase ∈ cluster.script action) (member : guard ∈ phase)
    (spared : guard.party = action.party → ¬ cluster.Removes action) :
    (cluster.script action).getLast? = some phase := by
  have single : ∀ {script : List (List Guard)}, script.length ≤ 1 → phase ∈ script →
      script.getLast? = some phase := by
    intro script short listed
    match script, short, listed with
    | [only], _, listed => simp [List.mem_singleton.mp listed]
  obtain ⟨party, kind⟩ := action
  cases kind with
  | accept oracle =>
    simp only [script] at listed ⊢
    cases stage : (cluster.node party.shardId).phase party.id with
    | greeted =>
      have other : guard.party ≠ party := fun own => spared own ⟨⟨oracle, rfl⟩, .inl stage⟩
      simp only [stage, acceptGuards] at listed ⊢
      split at listed
      · rename_i fails
        simp only [fails, ↓reduceIte, List.getLast?_cons_cons, List.getLast?_singleton]
        simp only [List.mem_cons, List.not_mem_nil, or_false] at listed
        rcases listed with rfl | rfl | rfl
        · exact absurd (by rw [List.mem_singleton.mp member]) other
        · exact absurd (by rw [List.mem_singleton.mp member]) other
        · rfl
      · exact absurd (by rw [List.mem_singleton.mp listed, List.mem_singleton] at member; rw [member])
          other
    | unregistered =>
      have other : guard.party ≠ party := fun own => spared own ⟨⟨oracle, rfl⟩, .inr stage⟩
      simp only [stage, acceptGuards, List.mem_cons, List.not_mem_nil, or_false] at listed ⊢
      rcases listed with rfl | rfl
      · exact absurd (by rw [List.mem_singleton.mp member]) other
      · rfl
    | serving =>
      simp only [stage, acceptGuards] at listed ⊢
      split at listed
      · simp [List.mem_singleton.mp listed]
      · cases listed
    | _ =>
      simp only [stage, acceptGuards] at listed ⊢
      exact single (by simp) listed
  | connect =>
    refine single ?_ listed
    simp only [script]
    split <;> simp
  | frame frame oracle =>
    refine single ?_ listed
    simp only [script]
    split <;> simp
  | advance | timeout =>
    refine single ?_ listed
    simp only [script]
    split
    · exact guards_single _
    · simp
  | hangup | sever => cases listed

/-- Where the client is greeted or already unregistered, its entry stays or is removed. -/
theorem acceptStep_removes {shardId : ShardId} {id : Uuid} {oracle : Oracle} {world made : World}
    {stage next : Phase} {reader : Reader} (early : stage = .greeted ∨ stage = .unregistered)
    (accepted : acceptStep shardId id oracle world stage reader = some (made, next)) :
    made.sockets id = world.sockets id ∨ made.sockets id = none := by
  have removed := @World.removed_missing world id oracle
  rcases early with rfl | rfl <;> simp only [acceptStep] at accepted
  · split at accepted
    · cases accepted
      exact .inl (congrFun (World.announceDrop_sockets ..) id)
    · rename_i client found
      specialize removed client
      split at accepted
      · split at accepted
        · rename_i done
          rw [done] at removed
          cases accepted
          exact .inr ((congrFun (World.announceDrop_sockets ..) id).trans removed)
        · rename_i done
          rw [done] at removed
          cases accepted
          exact .inr removed
      · cases accepted
        exact .inl rfl
  · split at accepted
    · cases accepted
      exact .inl (congrFun (World.announceDrop_sockets ..) id)
    · rename_i client found
      specialize removed client
      split at accepted
      · rename_i done
        rw [done] at removed
        cases accepted
        exact .inr ((congrFun (World.announceDrop_sockets ..) id).trans removed)
      · rename_i done
        rw [done] at removed
        cases accepted
        exact .inr ((congrFun (World.announceDrop_sockets ..) id).trans removed)

theorem step_removes {after : Cluster} (stepped : cluster.step action = some after)
    (removes : cluster.Removes action) :
    (after.node action.party.shardId).sockets action.party.id =
        (cluster.node action.party.shardId).sockets action.party.id ∨
      (after.node action.party.shardId).sockets action.party.id = none := by
  obtain ⟨party, kind⟩ := action
  obtain ⟨⟨oracle, rfl⟩, stage⟩ := removes
  cases step_does stepped with
  | @accepts _ made next accepted =>
    have entry := acceptStep_removes stage accepted
    simpa [setNode, Node.setPhase, Node.setWorld] using entry

/-- Whatever the agents of all processes do, in any order: an entry of which one of them
holds a guard stays as it is, except that its own `accept_connection` may remove it. -/
theorem held_undisturbed {Lock : Type} (lock : Party → Lock) (clients : Set Party)
    (before after : Locking.Table Cluster Agent Guard) (turn : Locking.Turn Action)
    (reached : Reach Unlocked (lockTurns lock clients) before)
    (goes : lockTurns lock clients before turn after) (agent : Agent)
    (other : agent ≠ turn.action.agent) (guard : Guard) (held : guard ∈ before.held agent) :
    (after.state.node guard.party.shardId).sockets guard.party.id =
        (before.state.node guard.party.shardId).sockets guard.party.id ∨
      (guard.party = turn.action.party ∧ (∃ oracle, turn.action.kind = .accept oracle) ∧
        (after.state.node guard.party.shardId).sockets guard.party.id = none) := by
  have empty : ∀ table : Locking.Table Cluster Agent Guard, Unlocked table →
      ∀ agent, table.held agent = [] := by
    rintro _ ⟨cluster, fresh, rfl⟩ agent
    rfl
  have exclusive := Locking.Discipline.reached_exclusive empty reached
  cases turn with
  | take action =>
    obtain ⟨⟨_, -, -, rfl⟩, -⟩ := goes
    exact .inl rfl
  | release action =>
    obtain ⟨⟨-, -, rfl⟩, -⟩ := goes
    exact .inl rfl
  | perform action =>
    obtain ⟨⟨finished, next, stepped, rfl⟩, -⟩ := goes
    by_contra disturbed
    obtain ⟨changed, kept⟩ := not_or.mp disturbed
    have spared : guard.party = action.party → ¬ before.state.Removes action := by
      intro own removes
      rcases step_removes stepped removes with same | gone
      · exact changed (by rw [own]; exact same)
      · exact kept ⟨own, removes.1, by rw [own]; exact gone⟩
    obtain ⟨phase, listed, member⟩ := step_owned stepped changed
    have last := script_last listed member spared
    have taken : phase = before.held action.agent := by
      rcases finished with finished | nothing
      · have ends : (before.state.script action).getLast? = some (before.held action.agent) := by
          have taken := congrArg List.getLast?
            (show (before.state.script action).drop _ = [before.held action.agent] from finished)
          rw [List.getLast?_drop] at taken
          split at taken
          · cases taken
          · simpa using taken
        exact Option.some.inj (last.symm.trans ends)
      · rw [show before.state.script action = [] from nothing] at listed
        cases listed
    exact exclusive agent action.agent other guard held ⟨guard.party, .exclusive⟩ (taken ▸ member)
      ⟨rfl, rfl, .inr rfl⟩

/-- While a Ping is being answered, the channel it is answered on is closed. -/
theorem held_undisturbed_ping : ∃ before after : Locking.Table Cluster Agent Guard,
    Reach Unlocked (lockTurns Party.id Set.univ) before ∧
    lockTurns Party.id Set.univ before (.perform ⟨⟨"a", 1⟩, .sever⟩) after ∧
    (⟨⟨"a", 1⟩, .shared⟩ : Guard) ∈ before.held ⟨⟨"a", 1⟩, .reader⟩ ∧
    (after.state.node "a").sockets 1 = (before.state.node "a").sockets 1 := by
  let party : Party := ⟨"a", 1⟩
  let ping : Action := ⟨party, .frame (.text (some (requestText "Ping" []))) (.calm "17")⟩
  obtain ⟨first, second, third, connects, asks, severs, free, shares⟩ :
      ∃ first second third : Cluster,
        (launch emptyRedis []).step ⟨party, .connect⟩ = some first ∧
        first.step ping = some second ∧ second.step ⟨party, .sever⟩ = some third ∧
        first.script ping = [] ∧ second.script ⟨party, .advance⟩ = [[⟨party, .shared⟩]] :=
    ⟨_, _, _, rfl, rfl, rfl, rfl, rfl⟩
  have opened : Reach Unlocked (lockTurns Party.id Set.univ) (Locking.Discipline.clear first) :=
    carried_out trivial connects (by decide) (.start ⟨_, launch_fresh emptyRedis [], rfl⟩)
  have asked : Reach Unlocked (lockTurns Party.id Set.univ) (Locking.Discipline.clear second) :=
    carried_out trivial asks (by simp [free]) opened
  let before : Locking.Table Cluster Agent Guard :=
    { state := second, passed := fun _ => 0
      held := Function.update (fun _ => []) ⟨party, .reader⟩ ([] ++ [⟨party, .shared⟩]) }
  have reached : Reach Unlocked (lockTurns Party.id Set.univ) before := by
    have wants : (discipline Party.id).Wants (Locking.Discipline.clear second)
        ⟨party, .advance⟩ ⟨party, .shared⟩ :=
      ⟨[⟨party, .shared⟩], congrArg (fun script => script[0]?) shares, List.prefix_refl _⟩
    have takes : lockTurns Party.id Set.univ (Locking.Discipline.clear second)
        (.take ⟨party, .advance⟩) before :=
      ⟨⟨_, wants, fun other taken held => (by cases held), rfl⟩, trivial⟩
    exact .next asked takes
  let after : Locking.Table Cluster Agent Guard :=
    { state := third, held := Function.update before.held ⟨party, .receiver⟩ []
      passed := Function.update before.passed ⟨party, .receiver⟩ 0 }
  have goes : lockTurns Party.id Set.univ before (.perform ⟨party, .sever⟩) after :=
    ⟨⟨.inr rfl, third, severs, rfl⟩, trivial⟩
  have held : (⟨party, .shared⟩ : Guard) ∈ before.held ⟨party, .reader⟩ := by
    simp [before]
  refine ⟨before, after, reached, goes, held, ?_⟩
  rcases held_undisturbed Party.id Set.univ before after _ reached goes ⟨party, .reader⟩ (by decide)
    ⟨party, .shared⟩ held with same | ⟨-, ⟨oracle, accepts⟩, -⟩
  · exact same
  · cases accepts

end Cluster

end Grass
