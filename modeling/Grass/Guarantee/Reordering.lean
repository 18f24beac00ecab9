import Grass.Guarantee.Iteration

namespace Grass

open Lobby Transition Shuffle

theorem World.Alike.dropLocal {world other : World} (alike : world.Alike other) (id : Uuid) :
    (world.dropLocal id).Alike (other.dropLocal id) :=
  alike.announceDrop _

theorem bareFrame_alike {world other : World} (alike : world.Alike other) (id : Uuid)
    (frame : Frame) : World.Ends (bareFrame world id frame) (bareFrame other id frame) := by
  unfold bareFrame
  rw [alike.sockets, alike.closed]
  split
  · exact alike.ends _
  · split
    · exact alike.ends _
    · split
      all_goals exact (alike.send ..).ends _

/-- The reader with another iteration order in hand. -/
def Reader.reorder (order : IterOrder) : Reader → Reader
  | .busy oracle model pc => .busy (oracle.reorder order) model pc
  | reader => reader

@[simp] theorem Reader.reorder_after (order : IterOrder) (result : Exit ClientError Bool) :
    (Reader.after result).reorder order = .after result := by
  cases result with
  | ok shouldClose => cases shouldClose <;> rfl
  | err | panic => rfl

theorem nextReader_reorder (order : IterOrder) (oracle : Oracle) (model : DefaultModel)
    (next : Next) : Cluster.nextReader (oracle.reorder order) model next =
      (Cluster.nextReader oracle model next).reorder order := by
  cases next with
  | goto => rfl
  | handled | returned => exact (Reader.reorder_after ..).symm

theorem acceptStep_alike {world other : World} (alike : world.Alike other) (seated : world.Seated)
    (shardId : ShardId) (id : Uuid) (oracle : Oracle) (order earlier : IterOrder) (phase : Phase)
    (reader : Reader) : Option.Rel World.Ends (acceptStep shardId id oracle world phase reader)
      (acceptStep shardId id (oracle.reorder order) other phase (reader.reorder earlier)) := by
  have crash : ∀ {left right : World}, left.Alike right → Option.Rel World.Ends
      (some (left.dropLocal id, Phase.crashed)) (some (right.dropLocal id, Phase.crashed)) :=
    fun alike => .some ((alike.dropLocal id).ends _)
  cases phase with
  | inserted =>
    simp only [acceptStep, alike.sockets, alike.closed]
    split
    · exact crash alike
    · split
      · exact crash alike
      · exact .some ((alike.send ..).ends _)
  | greeted =>
    simp only [acceptStep, alike.sockets, Oracle.reorder_fails]
    cases found : world.sockets id with
    | none => exact crash alike
    | some client =>
      by_cases fails : oracle.fails .registerPool || oracle.fails .registerSet
      · simp only [fails, ↓reduceIte]
        obtain ⟨left, right, exit, first, second, alike⟩ := (alike.remove id).dropClient oracle
          order (seated.remove id) fun _ playing => seated.entry found playing
        rw [first, second]
        cases exit with
        | panic => exact crash alike
        | ok | err => exact .some (alike.ends _)
      · simp only [fails]
        exact .some ((alike.set ..).ends _)
  | serving =>
    cases reader with
    | ended =>
      simp only [acceptStep, Reader.reorder, alike.sockets]
      cases found : world.sockets id with
      | none => exact crash alike
      | some client =>
        obtain ⟨left, right, exit, first, second, alike⟩ :=
          (alike.put id { client with performedSafeShutdown := true, game := none }).dropGame?
            oracle order (seated.take { client with performedSafeShutdown := true })
            fun _ playing => seated.entry found playing
        simp only [first, second]
        cases exit with
        | panic => exact crash alike
        | ok | err => exact .some (alike.ends _)
    | _ => exact .none
  | closed =>
    simp only [acceptStep, alike.sockets, Oracle.reorder_fails]
    cases world.sockets id with
    | none => exact crash alike
    | some client =>
      by_cases fails : oracle.fails .unregisterPool || oracle.fails .unregisterDel
      · simp only [fails, ↓reduceIte]
        exact .some (alike.ends _)
      · simp only [fails]
        exact .some ((alike.del _).ends _)
  | unregistered =>
    simp only [acceptStep, alike.sockets]
    cases found : world.sockets id with
    | none => exact .some ((alike.dropLocal id).ends _)
    | some client =>
      obtain ⟨left, right, exit, first, second, alike⟩ := (alike.remove id).dropClient oracle
        order (seated.remove id) fun _ playing => seated.entry found playing
      simp only [first, second]
      cases exit with
      | panic => exact crash alike
      | ok | err => exact .some ((alike.dropLocal id).ends _)
  | _ => exact .none

/-- The same entries, phases and channels, readers that differ at most in the iteration
order in hand, and alike on the wire. -/
structure Node.Alike (node other : Node) : Prop where
  sockets : other.sockets = node.sockets
  availableTasks : other.availableTasks = node.availableTasks
  closed : other.closed = node.closed
  phase : other.phase = node.phase
  reader : ∀ id, ∃ order, other.reader id = (node.reader id).reorder order
  wire : Grass.Alike node.wire other.wire

namespace Node

variable {node twin : Node}

theorem Alike.refl (node : Node) : node.Alike node where
  sockets := rfl
  availableTasks := rfl
  closed := rfl
  phase := rfl
  reader id := by
    cases busy : node.reader id with
    | busy oracle => exact ⟨oracle.order, rfl⟩
    | _ => exact ⟨.stored, rfl⟩
  wire := .refl _

theorem Alike.setWorld {world other : World} (alike : node.Alike twin) (seen : world.Alike other) :
    (node.setWorld world).Alike (twin.setWorld other) :=
  ⟨seen.sockets, alike.availableTasks, seen.closed, alike.phase, alike.reader, seen.wire⟩

theorem Alike.setReader (alike : node.Alike twin) (id : Uuid) (reader : Reader)
    (order : IterOrder) :
    (node.setReader id reader).Alike (twin.setReader id (reader.reorder order)) where
  sockets := alike.sockets
  availableTasks := alike.availableTasks
  closed := alike.closed
  phase := alike.phase
  reader party := by
    by_cases same : party = id
    · subst same
      exact ⟨order, by simp [Node.setReader]⟩
    · obtain ⟨earlier, kept⟩ := alike.reader party
      exact ⟨earlier, by simp [Node.setReader, same, kept]⟩
  wire := alike.wire

theorem Alike.setPhase (alike : node.Alike twin) (id : Uuid) (phase : Phase) :
    (node.setPhase id phase).Alike (twin.setPhase id phase) :=
  ⟨alike.sockets, alike.availableTasks, alike.closed, by simp [Node.setPhase, alike.phase],
    alike.reader, alike.wire⟩

end Node

/-- No timeout. -/
def ActionKind.prompt : ActionKind → Bool
  | .timeout _ => false
  | _ => true

/-- The same action, with another iteration order. -/
def ActionKind.reorder (order : IterOrder) : ActionKind → ActionKind
  | .accept oracle => .accept (oracle.reorder order)
  | .frame received oracle => .frame received (oracle.reorder order)
  | kind => kind

def Action.reorder (order : IterOrder) (action : Action) : Action :=
  { action with kind := action.kind.reorder order }

/-- The same action, which is no timeout, with another iteration order. -/
def Action.Reordered (action twin : Action) : Prop :=
  action.kind.prompt = true ∧ ∃ order, twin = action.reorder order

/-- The entries in the opposite order. -/
def IterOrder.backward : IterOrder where
  list roster := roster.toList.reverse
  perm _ := List.reverse_perm _

namespace Cluster

variable {cluster other : Cluster}

/-- The same records, and processes that are alike. -/
structure Alike (cluster other : Cluster) : Prop where
  redis : other.redis = cluster.redis
  node : ∀ shardId, (cluster.node shardId).Alike (other.node shardId)

theorem Alike.refl (cluster : Cluster) : cluster.Alike cluster := ⟨rfl, fun _ => .refl _⟩

theorem Alike.world (alike : cluster.Alike other) (shardId : ShardId) :
    (cluster.world shardId).Alike (other.world shardId) :=
  ⟨(alike.node shardId).sockets, alike.redis, (alike.node shardId).closed,
    (alike.node shardId).wire⟩

theorem Alike.setNode (alike : cluster.Alike other) (shardId : ShardId) (redis : Redis)
    {node twin : Node} (same : node.Alike twin) :
    (cluster.setNode shardId redis node).Alike (other.setNode shardId redis twin) := by
  refine ⟨rfl, fun party => ?_⟩
  by_cases here : party = shardId
  · subst here
    simpa [Cluster.setNode] using same
  · simpa [Cluster.setNode, here] using alike.node party

theorem Alike.update (alike : cluster.Alike other) (party : Party) {world twin : World}
    (same : world.Alike twin) (reader : Reader) (order : IterOrder) :
    (cluster.update party world reader).Alike
      (other.update party twin (reader.reorder order)) := by
  unfold Cluster.update
  rw [same.redis]
  exact alike.setNode _ _ (((alike.node _).setWorld same).setReader _ reader order)

theorem Alike.ctx (alike : cluster.Alike other) (party : Party) (oracle : Oracle)
    (model : DefaultModel) (order : IterOrder) : other.ctx party (oracle.reorder order) model =
      (cluster.ctx party oracle model).reorder order := by
  simp only [Cluster.ctx, (alike.node _).availableTasks, Ctx.reorder]

/-- In any reached cluster the games in the maps are seated. -/
theorem reached_seated (reached : Reach Fresh steps cluster) (shardId : ShardId) :
    (cluster.world shardId).Seated := by
  intro id game held host
  have sound := reached_steps reached
  have valid := (sound.valid.entries shardId).gameAt held
  obtain ⟨roster, hosts⟩ := valid.hosts host
  refine ⟨roster, hosts, fun member => ?_⟩
  rw [(valid.hosting host).1] at member
  exact reached_separate reached ⟨shardId, id⟩
    ⟨_, _, seat_of_host held host,
      (game.mem_parties shardId id).mpr ⟨roster, hosts.clients, member⟩⟩

/-- Clusters that are alike take the same steps, whatever the iteration orders. -/
theorem Alike.step (alike : cluster.Alike other) (reached : Reach Fresh steps cluster)
    {action : Action} (prompt : action.kind.prompt = true) (order : IterOrder) :
    Option.Rel Alike (cluster.step action) (other.step (action.reorder order)) := by
  obtain ⟨party, kind⟩ := action
  have there := alike.node party.shardId
  have seen := alike.world party.shardId
  obtain ⟨earlier, reads⟩ := there.reader party.id
  cases kind with
  | connect =>
    simp only [Cluster.step, Action.reorder, ActionKind.reorder, there.phase, alike.redis]
    split
    · exact .some (alike.setNode _ _ (((there.setWorld (seen.put ..)).setReader _ .idle
        order).setPhase ..))
    · exact .none
  | accept oracle =>
    have stepped := acceptStep_alike seen (reached_seated reached party.shardId) party.shardId
      party.id oracle order earlier ((cluster.node party.shardId).phase party.id)
      ((cluster.node party.shardId).reader party.id)
    simp only [Cluster.step, Action.reorder, ActionKind.reorder, there.phase, reads]
    generalize acceptStep party.shardId party.id oracle _ _ _ = first at stepped ⊢
    generalize acceptStep party.shardId party.id (oracle.reorder order) _ _ _ = second
      at stepped ⊢
    cases stepped with
    | some ends =>
      obtain ⟨left, right, next, rfl, rfl, same⟩ := ends
      simp only [same.redis]
      exact .some (alike.setNode _ _ ((there.setWorld same).setPhase ..))
    | none => exact .none
  | frame frame oracle =>
    simp only [Cluster.step, Action.reorder, ActionKind.reorder, reads]
    cases (cluster.node party.shardId).reader party.id with
    | idle =>
      simp only [Reader.reorder]
      cases frame.model? with
      | some model => exact .some (alike.update party seen (.busy oracle model .receive) order)
      | none =>
        obtain ⟨left, right, result, first, second, same⟩ := bareFrame_alike seen party.id frame
        simp only [first, second]
        have next := alike.update party same (.after result) order
        rw [Reader.reorder_after] at next
        exact .some next
    | _ => exact .none
  | advance =>
    cases busy : (cluster.node party.shardId).reader party.id with
    | busy oracle model pc =>
      rw [busy] at reads
      have sound := reached_steps reached
      have relies := ((sound.valid.orderly party).relies oracle model pc busy).1
      have same := @Ctx.runSection_alike (cluster.ctx party oracle model) _ _ seen earlier
        (reached_seated reached party.shardId) pc relies
      change Option.Rel Alike _ (other.step ⟨party, .advance⟩)
      rw [step_advance busy, step_advance reads, alike.ctx, ← same.next, nextReader_reorder]
      exact .some (alike.update party same.final _ earlier)
    | _ =>
      rw [busy] at reads
      simp only [Cluster.step, Action.reorder, ActionKind.reorder, busy, reads]
      exact .none
  | timeout => cases prompt
  | hangup =>
    simp only [Cluster.step, Action.reorder, ActionKind.reorder, reads]
    cases (cluster.node party.shardId).reader party.id with
    | idle => exact .some (alike.update party seen .ended order)
    | _ => exact .none
  | sever =>
    simp only [Cluster.step, Action.reorder, ActionKind.reorder, alike.redis]
    exact .some (alike.setNode _ _ ⟨there.sockets, there.availableTasks,
      by simp only [there.closed], there.phase, there.reader, there.wire⟩)

/-- From any reached cluster, where no request is timed out: a run in which hash maps are
iterated in other orders goes through if and only if the run does, and leaves the same records,
entries and handlers; every client is sent the same but for the order of neighbouring arrivals,
and takes the same clients to be in the game. -/
theorem order_unobservable (start : Cluster) (actions twins : List Action)
    (reached : Reach Fresh steps start) (same : List.Forall₂ Action.Reordered actions twins) :
    Option.Rel (fun final other => final.Alike other ∧ ∀ party : Party,
        believes (mail party.id (final.world party.shardId).wire) =
          believes (mail party.id (other.world party.shardId).wire))
      (run step start actions) (run step start twins) := by
  have related : Option.Rel Alike (run step start actions) (run step start twins) := by
    refine run_related (fun before other action twin earlier alike reordered => ?_) same reached
      (.refl start)
    obtain ⟨prompt, order, rfl⟩ := reordered
    exact alike.step earlier prompt order
  generalize run step start actions = first at related ⊢
  generalize run step start twins = second at related ⊢
  cases related with
  | some alike =>
    exact .some ⟨alike, fun party => (alike.world party.shardId).wire.believes party.id⟩
  | none => exact .none

/-- A third participant learns of the two before it in either order, and then knows both. -/
theorem order_unobservable_third : ∃ (actions twins : List Action) (final other : Cluster),
    List.Forall₂ Action.Reordered actions twins ∧
    run step (launch emptyRedis []) actions = some final ∧
    run step (launch emptyRedis []) twins = some other ∧
    events 4 (final.world "a").wire ≠ events 4 (other.world "a").wire ∧ final.Alike other ∧
    believes (mail 4 (final.world "a").wire) = believes (mail 4 (other.world "a").wire) := by
  let oracle := Oracle.calm "17"
  let second : Party := ⟨"a", 3⟩
  let third : Party := ⟨"a", 4⟩
  let actions := pair "a" "17" 1 2 ++ second.enters oracle ++ second.joins oracle "17" ++
    third.enters oracle ++ third.joins oracle "17"
  let twins := actions.map (Action.reorder .backward)
  have prompt : ∀ action ∈ actions, action.kind.prompt = true := by decide
  have same : List.Forall₂ Action.Reordered actions twins :=
    List.forall₂_map_right_iff.mpr (List.forall₂_same.mpr fun action member =>
      ⟨prompt action member, .backward, rfl⟩)
  have shown : (run step (launch emptyRedis []) actions).bind (fun final =>
      (run step (launch emptyRedis []) twins).map fun other =>
        decide (events 4 (final.world "a").wire ≠ events 4 (other.world "a").wire)) =
      some true := by decide +kernel
  obtain ⟨final, ran, seen⟩ := Option.bind_eq_some_iff.mp shown
  obtain ⟨other, matched, apart⟩ := Option.map_eq_some_iff.mp seen
  have related := order_unobservable (launch emptyRedis []) actions twins
    (.start (launch_fresh emptyRedis [])) same
  rw [ran, matched] at related
  cases related with
  | some ends =>
    exact ⟨actions, twins, final, other, same, ran, matched, of_decide_eq_true apart, ends.1,
      ends.2 third⟩

end Cluster

end Grass
