import Grass.Lobby.Invariant
import Grass.Refinement.Abstraction

namespace Grass

open Lobby

def Oracle.Healthy (oracle : Oracle) : Prop := ∀ site, oracle.fails site = false

/-- The client, if it has an entry, is identified. -/
def World.Named (world : World) (id : Uuid) : Prop :=
  ∀ client, world.sockets id = some client → client.nickname.isSome

/-- What a handler of the client `id` may rely on between two sections. -/
def Pc.Valid (world : World) (id : Uuid) : Pc → Prop
  | .joinSet _ | .joinHost _ => world.Named id
  | .joinRegister _ _ _ channel => world.Named id ∧ channel = id
  | .joinEnter _ hostId _ hostChannel _ _ => world.Named id ∧ hostChannel = hostId
  | .timeoutReply clone => clone.Valid id
  | .timeoutShutdown game _ => game.Valid id ∧ game.isHost = true
  | .timeoutLeave game _ => game.Valid id ∧ game.isHost = false
  | _ => True

theorem World.LeadsAt.named {before after : World} {id : Uuid} (leads : before.LeadsAt id after)
    (named : before.Named id) : after.Named id := by
  intro client found
  obtain ⟨old, known, later⟩ := leads.succeeds client found
  exact later.nickname (named old known)

/-- Whatever others do meanwhile, a handler keeps what it relies on. -/
theorem World.LeadsAt.pc {before after : World} {id : Uuid} (leads : before.LeadsAt id after)
    {pc : Pc} (valid : pc.Valid before id) : pc.Valid after id := by
  cases pc with
  | joinSet | joinHost => exact leads.named valid
  | joinRegister | joinEnter => exact ⟨leads.named valid.1, valid.2⟩
  | _ => exact valid

def Next.stage (shardId : ShardId) : Next → Stage Party String
  | .goto pc => pc.stage shardId
  | .handled exit => (Reader.after (handledResult exit)).stage shardId
  | .returned result => (Reader.after result).stage shardId

def Next.Valid (world : World) (id : Uuid) : Next → Prop
  | .goto pc => pc.Valid world id
  | _ => True

theorem nextReader_stage (oracle : Oracle) (model : DefaultModel) (next : Next)
    (shardId : ShardId) : (Cluster.nextReader oracle model next).stage shardId =
      next.stage shardId := by
  cases next <;> rfl

theorem Reader.after_stage (result : Exit ClientError Bool) (shardId : ShardId) :
    (Reader.after result).stage shardId = .idle ∨ (Reader.after result).stage shardId = .retired := by
  cases result with
  | ok shouldClose => cases shouldClose <;> simp [Reader.after, stage]
  | err | panic => simp [Reader.after, stage]

theorem Next.handled_stage (exit : Exit ClientError Unit) (shardId : ShardId) :
    (Next.handled exit).stage shardId = .idle ∨ (Next.handled exit).stage shardId = .retired :=
  Reader.after_stage ..

theorem Next.returned_stage (result : Exit ClientError Bool) (shardId : ShardId) :
    (Next.returned result).stage shardId = .idle ∨
      (Next.returned result).stage shardId = .retired :=
  Reader.after_stage ..

/-- A world that shows the same lobby. -/
structure World.Still (shardId : ShardId) (before after : World) : Prop where
  leads : before.Leads after
  places : after.places shardId = before.places shardId
  records : after.redis.records = before.redis.records

section Still

variable {shardId : ShardId} {before middle after : World}

theorem World.Still.refl (valid : before.Valid) : before.Still shardId before :=
  ⟨.refl valid, rfl, rfl⟩

theorem World.Still.same (still : before.Still shardId middle)
    (sockets : after.sockets = middle.sockets) (redis : after.redis = middle.redis) :
    before.Still shardId after :=
  ⟨still.leads.same sockets, (World.places_congr shardId sockets).trans still.places,
    by rw [redis, still.records]⟩

theorem World.Still.send (still : before.Still shardId middle) (channel : SocketSender)
    (message : Message) : before.Still shardId (middle.send channel message) :=
  still.same (World.send_sockets middle) (World.send_redis middle)

theorem World.Still.deliver (still : before.Still shardId middle) (sent : List Delivery) :
    before.Still shardId (middle.deliver sent) :=
  still.same rfl rfl

theorem World.Still.put (still : before.Still shardId middle) {id : Uuid} {old new : SocketClient}
    (found : middle.sockets id = some old) (later : new.Succeeds old) (valid : new.Valid id)
    (same : new.game.map (Game.seat shardId) = old.game.map (Game.seat shardId)) :
    before.Still shardId (middle.put id new) :=
  ⟨still.leads.put found later valid,
    (World.places_same shardId found same).trans still.places, still.records⟩

end Still

namespace Section

/-- A section in which the lobby stays as it is and the request ends, or goes on
to a section that shows nothing either. -/
structure Quiet (ctx : Ctx) (before : World) (part : Section) : Prop where
  still : ∀ world ∈ part.final :: part.paused, before.Still ctx.shardId world
  ending : part.next.stage ctx.shardId = .idle ∨ part.next.stage ctx.shardId = .retired
  next : part.next.Valid part.final ctx.clientId

variable {ctx : Ctx} {before world : World}

theorem Quiet.handled {paused : List World} (still : before.Still ctx.shardId world)
    (waits : ∀ other ∈ paused, before.Still ctx.shardId other) (exit : Exit ClientError Unit) :
    Quiet ctx before ⟨paused, world, .handled exit⟩ where
  still other member := by
    rcases List.mem_cons.mp member with rfl | waiting
    · exact still
    · exact waits other waiting
  ending := Next.handled_stage ..
  next := trivial

theorem Quiet.stop (still : before.Still ctx.shardId world) (exit : Exit ClientError Unit) :
    Quiet ctx before (.stop world exit) :=
  .handled still (by simp) exit

theorem Quiet.fail (still : before.Still ctx.shardId world) (error : ClientError) :
    Quiet ctx before (.fail world error) :=
  .stop still _

theorem Quiet.panic (still : before.Still ctx.shardId world) :
    Quiet ctx before (.panic world) :=
  .stop still _

theorem Quiet.goto (still : before.Still ctx.shardId world) {pc : Pc}
    (idle : pc.stage ctx.shardId = .idle) (valid : pc.Valid world ctx.clientId) :
    Quiet ctx before (.goto world pc) where
  still other member := by
    obtain rfl : other = world := by simpa [Section.goto] using member
    exact still
  ending := .inl idle
  next := valid

theorem Quiet.refuse (still : before.Still ctx.shardId world) (client : SocketClient)
    (error : ClientError) : Quiet ctx before (.refuse world client error) :=
  .handled (still.send ..) (by simpa using still) _

theorem Quiet.reply (still : before.Still ctx.shardId world) (channel : SocketSender)
    (response : Response) (exit : Exit ClientError Unit) :
    Quiet ctx before (.reply world channel response exit) :=
  .handled (still.send ..) (by simpa using still) _

end Section

theorem World.Still.between {shardId : ShardId} {before world : World}
    (still : before.Still shardId world) (sent : List Delivery) :
    ∀ other ∈ Section.between world sent, before.Still shardId other := by
  intro other member
  obtain ⟨count, -, rfl⟩ := List.mem_map.mp member
  exact still.deliver _

/-- The connection whose message is handled. -/
def Ctx.party (ctx : Ctx) : Party := ⟨ctx.shardId, ctx.clientId⟩

/-- What holds when a handler is about to run a section. -/
structure Ctx.Ready (fault : Prop) (cluster : Cluster) (ctx : Ctx) (pc : Pc) : Prop where
  world : (cluster.world ctx.shardId).Valid
  relies : pc.Valid (cluster.world ctx.shardId) ctx.clientId
  stage : cluster.lobby.stage ctx.party = pc.stage ctx.shardId
  healthy : ¬ fault → ctx.oracle.Healthy
  vacant : Seating (cluster.lobby.stage ctx.party) → cluster.lobby.seat ctx.party = none
  present : ¬ fault → cluster.lobby.present ctx.party

/-- What a section of a handler does: one move, or, where it times out, another
one; and the next section may rely on what it needs. -/
structure Section.Sound (fault : Prop) (intent : Intent String) (cluster : Cluster) (ctx : Ctx)
    (part : Section) : Prop where
  leads : ∀ world ∈ part.final :: part.paused, (cluster.world ctx.shardId).Leads world
  move : Move (Cluster.rules fault) intent ctx.party cluster.lobby
    (cluster.moved ctx.party part.final (part.next.stage ctx.shardId))
  pause : ∀ world ∈ part.paused, ∀ intent : Intent String, intent.lapses →
    Move (Cluster.rules fault) intent ctx.party cluster.lobby
      (cluster.moved ctx.party world .lapsing)
  next : part.next.Valid part.final ctx.clientId

section Moved

variable {fault : Prop} {intent : Intent String} {cluster : Cluster} {ctx : Ctx} {pc : Pc}
  {world : World} {stage : Stage Party String} {part : Section}

theorem Cluster.moved_still {party : Party}
    (still : (cluster.world party.shardId).Still party.shardId world) :
    cluster.moved party world stage =
      { cluster.lobby with stage := Function.update cluster.lobby.stage party stage } :=
  Lobby.ext (moved_seat_kept still.places) still.records rfl (moved_present still.leads)

theorem Section.Quiet.sound (quiet : part.Quiet ctx (cluster.world ctx.shardId))
    (free : ¬ (cluster.lobby.stage ctx.party).Bound) : part.Sound fault intent cluster ctx where
  leads world member := (quiet.still world member).leads
  move := by
    refine .settle free (part.next.stage ctx.shardId) ?_
      (Cluster.moved_still (quiet.still _ (by simp)))
    rcases quiet.ending with idle | retired
    · exact .inl idle
    · exact .inr (.inr retired)
  pause world member intent lapses :=
    .settle free .lapsing (.inr (.inl ⟨lapses, rfl⟩))
      (Cluster.moved_still (quiet.still world (by simp [member])))
  next := quiet.next

end Moved

end Grass
