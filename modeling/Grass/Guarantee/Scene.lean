import Grass.Guarantee.Truth

/-! The order in which a client is told what happens in the game that it is in. -/

namespace Grass

open Lobby Transition

/-- What a client knows of its game: it waits for its start, is played with that many tasks,
or has ended. -/
inductive Scene where
  | lobby
  | playing (taskCount : Nat)
  | ended
deriving DecidableEq, Repr

namespace Scene

/-- Where an event leads that is in order. -/
def next : Scene → GameEvent → Option Scene
  | .lobby, .connectedClient _ _ _ => some .lobby
  | .lobby, .disconnectedClient _ _ => some .lobby
  | .lobby, .start taskCount => some (.playing taskCount)
  | .playing taskCount, .disconnectedClient _ _ => some (.playing taskCount)
  | .playing taskCount, .taskFinished _ taskIndex _ =>
    if taskIndex < taskCount then some (.playing taskCount) else none
  | .lobby, .shutdown => some .ended
  | .playing _, .shutdown => some .ended
  | _, _ => none

/-- Where a sequence of events leads that is in order. -/
def plays (scene : Scene) (events : List GameEvent) : Option Scene := events.foldlM next scene

variable {scene : Scene} {events : List GameEvent}

@[simp] theorem plays_nil : scene.plays [] = some scene := rfl

@[simp] theorem plays_singleton (event : GameEvent) : scene.plays [event] = scene.next event := by
  simp [plays]

theorem plays_append (later : List GameEvent) :
    scene.plays (events ++ later) = (scene.plays events).bind fun scene => scene.plays later :=
  List.foldlM_append

theorem plays_arrivals (arrivals : ∀ event ∈ events, ∃ gameId clientId nickname,
    event = .connectedClient gameId clientId nickname) : lobby.plays events = some .lobby := by
  induction events with
  | nil => rfl
  | cons event rest ih =>
    obtain ⟨⟨gameId, clientId, nickname, rfl⟩, others⟩ := List.forall_mem_cons.mp arrivals
    exact ih others

end Scene

theorem events_mail (id : Uuid) (sent : List Delivery) :
    events id sent = (mail id sent).filterMap Message.event? := by
  rw [mail, List.filterMap_map]
  rfl

namespace Game

/-- The scene of a host's game, told by whether the host tracks progress: it does after a start
that filled its tasks, be they none or all finished. -/
def scene (game : Game) : Scene :=
  match game.partialHost.taskProgress with
  | some _ => .playing game.tasks.length
  | none => .lobby

variable {game after : Game} {roster : Roster} {order : IterOrder} {closed : SocketSender → Bool}
  {id hostId : Uuid}

theorem Untracked.scene (untracked : game.Untracked) : game.scene = .lobby := by
  rw [Game.scene, untracked.host]

theorem Condition.waiting_of_open (condition : game.Condition) (openTo : game.isPublic = true) :
    game.Waiting := by
  cases condition with
  | waiting waiting => exact waiting
  | running running => cases running.isPublic.symm.trans openTo
  | stuck stuck => cases stuck.begun.isPublic.symm.trans openTo

theorem Running.scene {count : Nat} (running : game.Running count) : game.scene = .playing count := by
  obtain ⟨progress, tracked, -⟩ := running.host
  rw [Game.scene, tracked, ← running.filled]

/-- What someone hears while one game becomes another is in order: nothing, and then nothing
has changed for anyone within reach, or what leads from the one scene to the other. -/
inductive Unfolds (id : Uuid) (closed : SocketSender → Bool) (before after : Game) :
    List GameEvent → Prop where
  | silent (inside : after.Includes id → before.Includes id)
      (same : after.Includes id → closed id = false → after.scene = before.scene) :
      Unfolds id closed before after []
  | told {heard : List GameEvent} {later : Scene} (inside : before.Includes id)
      (hears : closed id = false) (due : before.scene.plays heard = some later)
      (leads : after.Includes id → after.scene = later) : Unfolds id closed before after heard

variable {heard : List GameEvent} {event : GameEvent}

theorem Unfolds.refl : game.Unfolds id closed game [] :=
  .silent (fun inside => inside) fun _ _ => rfl

theorem Unfolds.single {told : Prop} [Decidable told]
    (heard_ : heard = if told then [event] else [])
    (reaches : told → game.Includes id ∧ closed id = false)
    (inside : after.Includes id → game.Includes id)
    (due : game.scene.next event = some after.scene)
    (untold : ¬ told → after.Includes id → closed id = false → after.scene = game.scene) :
    game.Unfolds id closed after heard := by
  subst heard_
  by_cases hears : told
  · rw [if_pos hears]
    obtain ⟨within, open_⟩ := reaches hears
    exact .told within open_ (by rwa [Scene.plays_singleton]) fun _ => rfl
  · rw [if_neg hears]
    exact .silent inside (untold hears)

section Calls

variable (hosts : game.Hosts roster) (apart : game.partialHost.id ∉ roster)

include hosts apart

theorem Hosts.broadcast_events (skipClientIds : Option (List Uuid)) :
    events id (game.sendGlobal order closed (.gameEvent event) skipClientIds).sent =
      if game.Includes id ∧ skips skipClientIds id = false ∧ closed id = false then [event]
        else [] := by
  rw [events_mail, hosts.broadcast_mail apart, apply_ite (List.filterMap Message.event?)]
  simp only [hosts.includes]
  rfl

/-- A registration is in order for anybody who does not come with it. -/
theorem Hosts.register_unfolds (condition : game.Condition) {newcomer : PartialClient}
    (own : newcomer.Own) (distinct : id ≠ newcomer.id) :
    game.Unfolds id closed (game.register order closed newcomer).1
      (events id (game.register order closed newcomer).2.sent) := by
  cases openTo : game.isPublic with
  | false =>
    rw [register_shut openTo]
    exact .refl
  | true =>
    have waits := (condition.waiting_of_open openTo).untracked.scene
    have later := hosts.withRoster (hosts.roster.insert own)
    rw [hosts.register order closed own openTo]
    refine @Unfolds.single _ _ _ _ _ (.connectedClient game.gameId newcomer.id newcomer.nickname)
      (game.Includes id ∧ closed id = false) _ ?_ (fun told => told) ?_ ?_ fun _ _ _ => rfl
    · rw [events_mail, hosts.announce_mail apart own distinct]
      simp only [hosts.includes]
      rw [apply_ite (List.filterMap Message.event?)]
      rfl
    · rw [later.includes, hosts.includes, AList.mem_insert]
      rintro ((same | listed) | host)
      · exact absurd same distinct
      · exact .inl listed
      · exact .inr host
    · change game.scene.next _ = some game.scene
      rw [waits]
      rfl

theorem Hosts.unregister_unfolds (condition : game.Condition) (clientId : Uuid) :
    game.Unfolds id closed (game.unregister order closed clientId).1
      (events id (game.unregister order closed clientId).2.sent) := by
  by_cases struck : clientId ∈ roster
  · have later := hosts.withRoster (hosts.roster.erase clientId)
    have stays : ∀ {id}, Includes { game with connectedClients := some (roster.erase clientId) } id →
        game.Includes id := by
      intro id inside
      rw [later.includes] at inside
      exact hosts.includes.mpr (inside.imp_left fun listed => (AList.mem_erase.mp listed).2)
    rw [hosts.unregister order closed struck]
    dsimp only
    rw [Sending.ignore_sent]
    refine .single (later.broadcast_events (fun listed => apart (AList.mem_erase.mp listed).2) _)
      (fun told => ⟨stays told.1, told.2.2⟩) stays ?_ fun _ _ _ => rfl
    change game.scene.next _ = some game.scene
    cases condition with
    | waiting waiting => rw [waiting.untracked.scene]; rfl
    | running running => rw [running.scene]; rfl
    | stuck stuck => rw [stuck.untracked.scene]; rfl
  · rw [hosts.unregister_missing order closed struck]
    exact .refl

theorem Hosts.start_unfolds (condition : game.Condition)
    (choose : List GameTask → Nat → List GameTask) (availableTasks : List GameTask) (taskCount : Nat) :
    game.Unfolds id closed (game.start order closed choose availableTasks taskCount).1
      (events id (game.start order closed choose availableTasks taskCount).2.sent) := by
  have refused : game.Begun → game.Unfolds id closed
      (game.start order closed choose availableTasks taskCount).1
      (events id (game.start order closed choose availableTasks taskCount).2.sent) := by
    intro begun
    rw [begun.start]
    exact .refl
  cases condition with
  | running running => exact refused ⟨running.isHost, running.isStarted, running.isPublic⟩
  | stuck stuck => exact refused stuck.begun
  | waiting waiting =>
    rcases hosts.start_cases order closed choose availableTasks taskCount with
      ⟨error, after, same, later, kept⟩ | ⟨progress, after, same, later, kept⟩
    · -- too few tasks: the game is closed, and nobody is told
      rw [same]
      refine .silent (fun inside => ?_) fun _ _ => ?_
      · rwa [later.includes, kept, ← hosts.includes] at inside
      · rw [Game.scene, Game.scene, kept, waiting.untracked.host]
    · have finished : (game.start order closed choose availableTasks taskCount).2.exit = .ok () := by
        rw [same]
        exact Sending.ignore_exit (later.sendGlobal_calm order closed _ _)
      obtain ⟨-, -, filled, other, clients, made⟩ := start_ok _ _ _ _ _ finished
      rw [same] at made ⊢
      have launched : after = game.launched (choose availableTasks taskCount) other :=
        congrArg Prod.fst made
      have members : ∀ {id}, after.Includes id ↔ game.Includes id := by
        intro id
        rw [later.includes, hosts.includes, kept, Roster.mem_mapValues]
      rw [Sending.ignore_sent]
      refine .single (later.broadcast_events ?_ _) (fun told => ⟨members.mp told.1, told.2.2⟩)
        members.mp ?_ fun untold inside hears => absurd ⟨inside, rfl, hears⟩ untold
      · rwa [kept, Roster.mem_mapValues]
      · rw [waiting.untracked.scene, launched]
        simp [Scene.next, Game.scene, Game.launched, filled]

theorem Hosts.validateCodeTest_unfolds (sandbox : Sandbox) (clientId : Uuid) (taskIndex : Nat)
    (code : String) (result : SandboxResponse) :
    game.Unfolds id closed
      (game.validateCodeTest order closed sandbox clientId taskIndex code result).1
      (events id (game.validateCodeTest order closed sandbox clientId taskIndex code result).2.sent) := by
  have later :=
    (hosts.validateCodeTest_kept order closed sandbox clientId taskIndex code result).1
  rcases game.validateCodeTest_credits order closed sandbox clientId taskIndex code result with
    ⟨same, silent⟩ | ⟨task, who, credited, -, there, known, -, credit, made, sent⟩
  · rw [same, silent]
    exact .refl
  · rw [made] at later ⊢
    rw [sent]
    obtain rfl : Participant.host = who := by simpa [participant, hosts.isHost] using known
    simp only [creditTask, Option.pure_def, Option.bind_eq_bind, Option.bind_eq_some_iff,
      Option.some.injEq] at credit
    obtain ⟨progress, tracked, rfl⟩ := credit
    have plays : game.scene = .playing game.tasks.length := by rw [Game.scene, tracked]
    refine .single (later.broadcast_events apart _) (fun told => ⟨?_, told.2.2⟩) (fun inside => ?_)
      ?_ fun _ _ _ => plays.symm
    · rw [later.includes] at told
      exact hosts.includes.mpr told.1
    · rw [later.includes] at inside
      exact hosts.includes.mpr inside
    · obtain ⟨inRange, -⟩ := List.getElem?_eq_some_iff.mp there
      rw [plays, Scene.next, if_pos inRange]
      rfl

end Calls

theorem Valid.call_unfolds (valid : game.Valid hostId) (host : game.isHost = true)
    (separate : ¬ game.Lists hostId) (condition : game.Condition) (made : Call)
    (wired : ∀ newcomer, made.operation = .register newcomer → newcomer.Own ∧ id ≠ newcomer.id) :
    game.Unfolds id made.closed (game.call made) (events id (game.callSent made)) := by
  obtain ⟨own, -⟩ := valid.hosting host
  obtain ⟨roster, hosts⟩ := valid.hosts host
  have apart : game.partialHost.id ∉ roster := by rwa [own, ← hosts.lists]
  obtain ⟨order, closed, operation⟩ := made
  cases operation with
  | register newcomer =>
    obtain ⟨own, distinct⟩ := wired newcomer rfl
    exact hosts.register_unfolds apart condition own distinct
  | unregister clientId => exact hosts.unregister_unfolds apart condition clientId
  | start choose availableTasks taskCount =>
    exact hosts.start_unfolds apart condition choose availableTasks taskCount
  | prepareCodeTest taskIndex => exact .refl
  | validateCodeTest sandbox clientId taskIndex code result =>
    exact hosts.validateCodeTest_unfolds apart sandbox clientId taskIndex code result

theorem Hosts.register_newcomer (hosts : game.Hosts roster) (openTo : game.isPublic = true)
    {newcomer : PartialClient} (own : newcomer.Own) (condition : game.Condition) :
    Scene.lobby.plays (events newcomer.id (game.register order closed newcomer).2.sent) =
        some .lobby ∧ (game.register order closed newcomer).1.scene = .lobby := by
  refine ⟨Scene.plays_arrivals fun event heard => ?_, ?_⟩ <;>
    rw [hosts.register order closed own openTo] at *
  · rw [events_mail, List.mem_filterMap] at heard
    obtain ⟨message, told, said⟩ := heard
    obtain ⟨clientId, nickname, rfl⟩ := hosts.announce_arrivals own _ (mem_mail.mp told)
    exact ⟨_, _, _, (Option.some.inj said).symm⟩
  · exact (condition.waiting_of_open openTo).untracked.scene

end Game

namespace Cluster

variable {known : Set Party} {cluster before after : Cluster} {action : Action} {party : Party}

/-- The party is in a game of that scene, and can be reached. -/
def At (cluster : Cluster) (party : Party) (scene : Scene) : Prop :=
  ∃ hostId game, (cluster.world party.shardId).hostedAt hostId = some game ∧
    game.Includes party.id ∧ (cluster.world party.shardId).closed party.id = false ∧
    game.scene = scene

/-- What a party hears of a step is in order: nothing, and then nothing has changed for it,
or what leads from the one scene to the other, or from the lobby where it enters a game. -/
inductive Follows (before after : Cluster) (party : Party) (enters : Prop) : List GameEvent → Prop where
  | silent (same : ∀ scene, after.At party scene → before.At party scene) :
      Follows before after party enters []
  | told {heard : List GameEvent} {scene later : Scene} (was : before.At party scene)
      (due : scene.plays heard = some later) (leads : ∀ other, after.At party other → other = later) :
      Follows before after party enters heard
  | enters {heard : List GameEvent} {later : Scene} (entered : enters)
      (due : Scene.lobby.plays heard = some later)
      (leads : ∀ other, after.At party other → other = later) :
      Follows before after party enters heard

theorem At.still {scene : Scene} (at_ : after.At party scene)
    (hosted : (after.world party.shardId).hostedAt = (before.world party.shardId).hostedAt)
    (opens : (after.world party.shardId).closed party.id = false →
      (before.world party.shardId).closed party.id = false) : before.At party scene := by
  obtain ⟨hostId, game, held, inside, hears, same⟩ := at_
  exact ⟨hostId, game, hosted ▸ held, inside, opens hears, same⟩

theorem Sound.participates (sound : cluster.Sound False known) {shardId : ShardId}
    {hostId id : Uuid} {game : Game} (held : (cluster.world shardId).hostedAt hostId = some game) :
    game.Includes id ↔ ∃ nickname, (id, nickname) ∈ game.participants := by
  obtain ⟨playing, hosting⟩ := World.hostedAt_iff.mp held
  obtain ⟨roster, hosts⟩ := ((sound.valid.entries shardId).gameAt playing).hosts hosting
  rw [hosts.includes, hosts.participates]

section Held

variable {shardId : ShardId} {hostId id : Uuid} {game later : Game} {heard : List GameEvent}
  {enters : Prop} (sound : before.Sound False known)
  (held : (before.world shardId).hostedAt hostId = some game)

include sound held

/-- What is in order for one game is so for everyone in the process, as nobody is in two. -/
theorem Sound.unfolds_follow (hosted : (after.world shardId).hostedAt =
      Function.update (before.world shardId).hostedAt hostId (some later))
    (closed : (after.world shardId).closed = (before.world shardId).closed)
    (unfolds : game.Unfolds id (before.world shardId).closed later heard) :
    before.Follows after ⟨shardId, id⟩ enters heard := by
  cases unfolds with
  | silent inside same =>
    refine .silent ?_
    rintro scene ⟨otherId, other, holds, within, hears, rfl⟩
    rw [hosted] at holds
    rw [closed] at hears
    by_cases own : otherId = hostId
    · obtain rfl : later = other := by simpa [own] using holds
      exact ⟨hostId, game, held, inside within, hears, (same within hears).symm⟩
    · rw [Function.update_of_ne own] at holds
      exact ⟨otherId, other, holds, within, hears, rfl⟩
  | told inside hears due leads =>
    refine .told ⟨hostId, game, held, inside, hears, rfl⟩ due ?_
    rintro scene ⟨otherId, other, holds, within, -, rfl⟩
    rw [hosted] at holds
    by_cases own : otherId = hostId
    · obtain rfl : later = other := by simpa [own] using holds
      exact leads within
    · rw [Function.update_of_ne own] at holds
      exact absurd (sound.one_game held ((sound.participates held).mp inside) holds
        ((sound.participates holds).mp within)).symm own

/-- A farewell ends the game for those whom it reaches. -/
theorem Sound.farewell_follows (hosted : (after.world shardId).hostedAt =
      Function.update (before.world shardId).hostedAt hostId none)
    (closed : (after.world shardId).closed = (before.world shardId).closed) :
    before.Follows after ⟨shardId, id⟩ enters
      (if game.Lists id ∧ (before.world shardId).closed id = false then [.shutdown] else []) := by
  have elsewhere : ∀ scene, after.At ⟨shardId, id⟩ scene → ∃ otherId other, otherId ≠ hostId ∧
      (before.world shardId).hostedAt otherId = some other ∧ other.Includes id ∧
      (before.world shardId).closed id = false ∧ other.scene = scene := by
    rintro scene ⟨otherId, other, holds, within, hears, same⟩
    rw [hosted] at holds
    rw [closed] at hears
    by_cases own : otherId = hostId
    · simp [own] at holds
    · rw [Function.update_of_ne own] at holds
      exact ⟨otherId, other, own, holds, within, hears, same⟩
  by_cases told : game.Lists id ∧ (before.world shardId).closed id = false
  · rw [if_pos told]
    obtain ⟨listed, hears⟩ := told
    have ended : game.scene.plays [.shutdown] = some .ended := by
      cases same : game.partialHost.taskProgress <;> simp [Game.scene, same, Scene.next]
    refine .told ⟨hostId, game, held, .inl listed, hears, rfl⟩ ended fun scene at_ => ?_
    obtain ⟨otherId, other, apart, holds, within, -⟩ := elsewhere scene at_
    exact absurd (sound.one_game held ((sound.participates held).mp (.inl listed)) holds
      ((sound.participates holds).mp within)).symm apart
  · rw [if_neg told]
    refine .silent fun scene at_ => ?_
    obtain ⟨otherId, other, -, holds, within, hears, same⟩ := elsewhere scene at_
    exact ⟨otherId, other, holds, within, hears, same⟩

/-- A newcomer is told in order what there is in the lobby. -/
theorem Sound.joins_follow (condition : game.Condition) {made : Game.Call} {newcomer : PartialClient}
    (registers : made.operation = .register newcomer) (own : newcomer.Own)
    (outside : ∀ {hostId game}, (before.world shardId).hostedAt hostId = some game →
      ¬ game.Includes newcomer.id)
    (hosted : (after.world shardId).hostedAt =
      Function.update (before.world shardId).hostedAt hostId (some (game.call made)))
    (closed : (after.world shardId).closed = (before.world shardId).closed) (entered : enters) :
    before.Follows after ⟨shardId, newcomer.id⟩ enters
      (events newcomer.id (game.callSent made)) := by
  obtain ⟨playing, hosting⟩ := World.hostedAt_iff.mp held
  obtain ⟨roster, hosts⟩ := ((sound.valid.entries shardId).gameAt playing).hosts hosting
  obtain ⟨order, closed_, operation⟩ := made
  obtain rfl : operation = .register newcomer := registers
  cases openTo : game.isPublic with
  | false =>
    simp only [Game.call, Game.callSent, Game.register_shut openTo] at hosted ⊢
    refine .silent fun scene at_ => at_.still ?_ fun hears => closed ▸ hears
    rw [hosted, ← held, Function.update_eq_self]
  | true =>
    obtain ⟨due, waits⟩ :=
      @Game.Hosts.register_newcomer _ _ order closed_ hosts openTo _ own condition
    refine .enters entered due ?_
    rintro scene ⟨otherId, other, holds, inside, -, rfl⟩
    rw [hosted] at holds
    by_cases same : otherId = hostId
    · obtain rfl : game.call ⟨order, closed_, .register newcomer⟩ = other := by
        simpa [same] using holds
      exact waits
    · rw [Function.update_of_ne same] at holds
      exact absurd inside (outside holds)

end Held

/-- Who opens a game is alone in its lobby. -/
theorem opens_follow {shardId : ShardId} {id : Uuid} {gameId : String} {self : PartialClient}
    {enters : Prop}
    (outside : ∀ {hostId game}, (before.world shardId).hostedAt hostId = some game →
      ¬ game.Includes self.id)
    (hosted : (after.world shardId).hostedAt =
      Function.update (before.world shardId).hostedAt self.id (some (.new true gameId self self)))
    (closed : (after.world shardId).closed = (before.world shardId).closed)
    (fresh : self.taskProgress = none) (entered : id = self.id → enters) :
    before.Follows after ⟨shardId, id⟩ enters [] := by
  have elsewhere : ∀ scene, after.At ⟨shardId, id⟩ scene →
      before.At ⟨shardId, id⟩ scene ∨ (id = self.id ∧ scene = .lobby) := by
    rintro scene ⟨otherId, other, holds, within, hears, rfl⟩
    rw [hosted] at holds
    by_cases own : otherId = self.id
    · obtain rfl : Game.new true gameId self self = other := by simpa [own] using holds
      rcases within with ⟨roster, clients, listed⟩ | host
      · obtain rfl := Option.some.inj clients
        simp at listed
      · exact .inr ⟨host, (Game.Waiting.new gameId fresh).untracked.scene⟩
    · rw [Function.update_of_ne own] at holds
      exact .inl ⟨otherId, other, holds, within, closed ▸ hears, rfl⟩
  by_cases opener : id = self.id
  · refine .enters (entered opener) rfl fun scene at_ => ?_
    rcases elsewhere scene at_ with ⟨otherId, other, holds, within, -⟩ | ⟨-, same⟩
    · exact absurd (opener ▸ within) (outside holds)
    · exact same
  · exact .silent fun scene at_ => (elsewhere scene at_).resolve_right fun also => opener also.1

/-- Whatever a step tells anybody is in order. -/
theorem Sound.step_follows (sound : before.Sound False known)
    (conditions : ∀ shardId hostId game, (before.world shardId).hostedAt hostId = some game →
      game.Condition)
    (stepped : before.step action = some after) (punctual : ¬ action.lapses)
    (awake : before.lobby.stage action.party ≠ .lapsing) (party : Party) :
    ∃ sent, (after.world party.shardId).wire = (before.world party.shardId).wire ++ sent ∧
      before.Follows after party (party = action.party ∧ before.entering action = true)
        (events party.id sent) := by
  obtain ⟨shardId, id⟩ := party
  have still : (after.world shardId).hostedAt = (before.world shardId).hostedAt →
      before.Follows after ⟨shardId, id⟩ (⟨shardId, id⟩ = action.party ∧ before.entering action = true)
        [] := fun hosted => .silent fun _ at_ => at_.still hosted (step_hears sound stepped)
  by_cases apart : shardId ≠ action.party.shardId ∨ action.kind = .sever
  · exact ⟨[], by rw [wire_still stepped apart, List.append_nil], still (hosted_still stepped apart)⟩
  · obtain ⟨rfl, kept⟩ : shardId = action.party.shardId ∧ action.kind ≠ .sever := by
      simpa using apart
    have closed := step_closed sound stepped kept action.party.shardId
    have noted := sound.noted stepped punctual kept
    -- whoever enters is in no game yet
    have outside : before.Seats action → ∀ {hostId game},
        (before.world action.party.shardId).hostedAt hostId = some game →
        ¬ game.Includes action.party.id :=
      fun enters _ _ held inside => sound.entered held ((sound.participates held).mp inside) enters.1
    cases sound.step_plays stepped kept with
    | aside aside =>
      obtain ⟨sent, wire, answers⟩ := aside.told
      refine ⟨sent, wire, ?_⟩
      rw [events_answers answers]
      exact still aside.hosted
    | stray allowed => exact (allowed.elim punctual awake).elim
    | calls hostId game made held by_ heard result told =>
      obtain ⟨_, wire, first, last, rfl, replies, answers⟩ :=
        told fun allowed => allowed.elim punctual awake
      obtain ⟨playing, hosting⟩ := World.hostedAt_iff.mp held
      have valid := (sound.valid.entries _).gameAt playing
      refine ⟨_, wire, ?_⟩
      rw [events_amid replies answers]
      by_cases joins : ∃ newcomer, made.operation = .register newcomer ∧ newcomer.id = id
      · obtain ⟨newcomer, registers, rfl⟩ := joins
        rw [registers] at by_
        obtain ⟨enters, named, own, -⟩ := by_
        rw [← named] at outside
        exact sound.joins_follow held (conditions _ _ _ held) registers own (outside enters) result
          closed ⟨by rw [named], noted enters⟩
      · have wired : ∀ newcomer, made.operation = .register newcomer →
            newcomer.Own ∧ id ≠ newcomer.id := by
          intro newcomer registers
          rw [registers] at by_
          exact ⟨by_.2.2.1, fun same => joins ⟨newcomer, registers, same.symm⟩⟩
        have unfolds := valid.call_unfolds hosting (sound.separate held) (conditions _ _ _ held) made
          wired
        rw [heard] at unfolds
        exact sound.unfolds_follow held result closed unfolds
    | opens allowed gameId self named own fresh vacant result told =>
      obtain ⟨sent, wire, answers⟩ := told
      refine ⟨sent, wire, ?_⟩
      rw [events_answers answers]
      rw [← named] at outside result
      refine opens_follow (outside allowed) result closed fresh fun same => ?_
      exact ⟨by rw [same, named], noted allowed⟩
    | ends game roster order held clients result told =>
      obtain ⟨_, wire, first, last, rfl, replies, answers⟩ := told
      obtain ⟨playing, hosting⟩ := World.hostedAt_iff.mp held
      obtain ⟨other, hosts⟩ := ((sound.valid.entries _).gameAt playing).hosts hosting
      obtain rfl : roster = other := Option.some.inj (clients.symm.trans hosts.clients)
      refine ⟨_, wire, ?_⟩
      rw [events_amid replies answers, Game.events_farewells hosts.roster]
      simp only [← hosts.lists]
      exact sound.farewell_follows held result closed

/-- The events enqueued for a connection since it last entered a game. -/
def heard (state : Cluster × Since) (party : Party) : List GameEvent :=
  (inbox state party).filterMap Message.event?

/-- Everyone has been told everything in order, and who is in a game and can be reached knows
its scene. -/
def Attuned (state : Cluster × Since) : Prop :=
  ∀ party, ∃ scene, Scene.lobby.plays (heard state party) = some scene ∧
    ∀ other, state.1.At party other → other = scene

theorem Attuned.step {old new : Cluster × Since} (attuned : Attuned old) (informed : Informed old)
    (sound : old.1.Sound False known) (conditions : ∀ shardId hostId game,
      (old.1.world shardId).hostedAt hostId = some game → game.Condition)
    (stepped : old.1.step action = some new.1) (noted : new.2 = noteEntry old.1 action old.2)
    (punctual : ¬ action.lapses) (awake : old.1.lobby.stage action.party ≠ .lapsing) :
    Attuned new := by
  intro party
  obtain ⟨sent, wire, follows⟩ := sound.step_follows conditions stepped punctual awake party
  obtain ⟨scene, played, knows⟩ := attuned party
  have heard_ : heard new party =
      if party = action.party ∧ old.1.entering action = true then events party.id sent
        else heard old party ++ events party.id sent := by
    rw [heard, inbox_step (informed.bounded party) noted wire, apply_ite (List.filterMap _),
      List.filterMap_append, events_mail, heard]
  rw [heard_]
  generalize events party.id sent = said at follows
  by_cases enters : party = action.party ∧ old.1.entering action = true
  · -- who enters a game is in none
    have outside : ∀ scene, ¬ old.1.At party scene := by
      obtain ⟨rfl, enters⟩ := enters
      rintro scene ⟨hostId, game, held, inside, -⟩
      exact sound.entered held ((sound.participates held).mp inside) (entering_stage enters)
    rw [if_pos enters]
    cases follows with
    | silent same => exact ⟨.lobby, rfl, fun other at_ => absurd (same other at_) (outside other)⟩
    | told was => exact absurd was (outside _)
    | enters _ due leads => exact ⟨_, due, leads⟩
  · rw [if_neg enters]
    cases follows with
    | silent same =>
      rw [List.append_nil]
      exact ⟨scene, played, fun other at_ => knows other (same other at_)⟩
    | told was due leads =>
      obtain rfl := knows _ was
      exact ⟨_, by rw [Scene.plays_append, played]; exact due, leads⟩
    | enters entered => exact absurd entered enters

theorem noted_run {state : Cluster × Since} (reached : Reach Outset notedEntries state) :
    Reach Fresh steps state.1 :=
  reached.simulated (fun _ outset => outset.1) fun _ action _ _ step =>
    .inr ⟨action, (recording_eq_some.mp step.1).1⟩

/-- However connections interleave and whichever channels close, as long as Redis answers
and no request is timed out: what a client has been told since it last entered a game is
arrivals and departures, then at most one start with its number of tasks, after which nobody
arrives and only finished tasks of that number are told besides departures, then at most one
shutdown, and nothing after it; and everyone in a game who can be reached has been told of
its start exactly if the host tracks progress. -/
theorem events_conform (state : Cluster × Since) (reached : Reach Outset notedEntries state)
    (party : Party) : ∃ scene, Scene.lobby.plays (heard state party) = some scene ∧
      ∀ hostId game, (state.1.world party.shardId).hostedAt hostId = some game →
        game.Includes party.id → (state.1.world party.shardId).closed party.id = false →
        game.scene = scene := by
  have attuned : Attuned state := by
    induction reached with
    | @start state outset =>
      obtain ⟨fresh, zero⟩ := outset
      intro party
      obtain ⟨tasks, started⟩ := fresh party.shardId
      refine ⟨.lobby, ?_, ?_⟩
      · simp [heard, inbox, mail, world, started, Node.world, Node.fresh]
      · rintro other ⟨hostId, game, held, -⟩
        simp [@Fresh.hostedAt _ fresh ⟨party.shardId, hostId⟩] at held
    | next earlier taken ih =>
      obtain ⟨sound, awake, informed⟩ := reached_informed earlier
      obtain ⟨recorded, -, punctual⟩ := taken
      obtain ⟨stepped, noted⟩ := recording_eq_some.mp recorded
      exact ih.step informed sound
        (fun shardId hostId _ held => @reached_condition _ (noted_run earlier) ⟨shardId, hostId⟩ _ held)
        stepped noted punctual (awake _)
  obtain ⟨scene, played, knows⟩ := attuned party
  exact ⟨scene, played, fun hostId game held inside hears =>
    knows _ ⟨hostId, game, held, inside, hears, rfl⟩⟩

/-- The participant of a started game has handed in what passes all tests. -/
theorem events_conform_submission : ∃ (state : Cluster × Since) (game : Game),
    Reach Outset notedEntries state ∧ (state.1.world "a").hostedAt 1 = some game ∧
    (heard state ⟨"a", 1⟩).length = 3 ∧
    Scene.lobby.plays (heard state ⟨"a", 1⟩) = some (.playing 1) := by
  obtain ⟨state, reached, seen⟩ := noted_shows
    (show (run (guarded (fun _ action => decide (Punctual action)) (recording step noteEntry))
      (launch emptyRedis [sampleTask], fun _ => 0) handIn).bind (fun state : Cluster × Since =>
        ((state.1.world "a").hostedAt 1).map fun game => (decide (game.Includes 1),
          (state.1.world "a").closed 1, game.scene, (heard state ⟨"a", 1⟩).length)) =
      some (true, false, .playing 1, 3) by decide +kernel)
  obtain ⟨game, held, same⟩ := Option.map_eq_some_iff.mp seen
  simp only [Prod.mk.injEq, decide_eq_true_eq] at same
  obtain ⟨inside, hears, scene, count⟩ := same
  obtain ⟨later, played, knows⟩ := events_conform state reached ⟨"a", 1⟩
  refine ⟨state, game, reached, held, count, ?_⟩
  rw [played, ← knows 1 game held inside hears, scene]

end Cluster

end Grass
