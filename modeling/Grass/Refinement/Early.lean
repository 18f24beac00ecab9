import Grass.Refinement.Sound

namespace Grass

/-- From a client without a nickname and a game, the request is answered in the section
that reads it. -/
def Request.answeredAtOnce (request : Request) : Bool :=
  match request.op with
  | .leave | .start | .task | .compile | .ping => true
  | .join => (request.d.bind JoinRequest.fromValue).isSome
  | .identify => (request.d.bind IdentifyRequest.fromValue).isSome
  | .create | .exists => false

/-- Where a handler of such a client sends to it. -/
def Pc.answers (model : DefaultModel) : Pc → Bool
  | .receive => model.request?.any Request.answeredAtOnce
  | .createReply _ | .existsReply _ _ | .timeoutReply _ => true
  | _ => false

def Frame.answered : Frame → Bool
  | .other => false
  | frame => frame.model?.isNone

/-- Where the handler of a client without a game is, before it is greeted: only one that
has timed out may have given its client a nickname. -/
def Pc.Early (nickname : Option String) : Pc → Prop
  | .receive | .createReply _ | .existsCheck _ _ | .existsPurge _ | .existsReply _ _ =>
    nickname = none
  | .timeoutClone => True
  | .timeoutReply clone => clone.game = none
  | _ => False

def Reader.Early (nickname : Option String) : Reader → Prop
  | .absent => False
  | .idle => nickname = none
  | .busy _ _ pc => pc.Early nickname
  | .ended => True

/-- The section leaves everything but the store as it is. -/
structure Section.Unheard (ctx : Ctx) (nickname : Option String) (world : World)
    (part : Section) : Prop where
  sockets : part.final.sockets = world.sockets
  wire : part.final.wire = world.wire
  closed : part.final.closed = world.closed
  next : (Cluster.nextReader ctx.oracle ctx.model part.next).Early nickname

namespace Ctx

variable {ctx : Ctx} {world cut : World} {client : SocketClient} {pc : Pc} {request : Request}

theorem unheard_fail (nickname : Option String) (error : ClientError) :
    Section.Unheard ctx nickname world (.fail world error) :=
  ⟨rfl, rfl, rfl, trivial⟩

theorem unheard_panic (nickname : Option String) :
    Section.Unheard ctx nickname world (.panic world) :=
  ⟨rfl, rfl, rfl, trivial⟩

section Early

variable (found : world.sockets ctx.clientId = some client) (vacant : client.game = none)

include found

theorem unheard_request (unnamed : client.nickname = none)
    (waits : request.answeredAtOnce = false) :
    (ctx.handleRequest world request).Unheard ctx client.nickname world := by
  unfold Request.answeredAtOnce at waits
  unfold handleRequest
  split at waits <;> rename_i op <;> simp only [op] <;> try contradiction
  · -- a Join
    unfold handleJoin
    cases given : request.d with
    | none => exact unheard_fail _ _
    | some data =>
      have unparsed : JoinRequest.fromValue data = none := by simpa [given] using waits
      simp only [unparsed]
      exact unheard_fail _ _
  · -- an Identify
    unfold handleIdentify
    simp only [found, unnamed]
    cases given : request.d with
    | none => exact unheard_panic _
    | some data =>
      have unparsed : IdentifyRequest.fromValue data = none := by simpa [given] using waits
      simp only [unparsed]
      exact unheard_fail _ _
  · -- a Create
    unfold handleCreate
    repeat' split
    all_goals first
      | exact unheard_panic _
      | exact unheard_fail _ _
      | exact ⟨rfl, rfl, rfl, unnamed⟩
  · -- an Exists
    unfold handleExists existsRead
    repeat' split
    all_goals first
      | exact unheard_panic _
      | exact unheard_fail _ _
      | exact ⟨rfl, rfl, rfl, unnamed⟩

include vacant

/-- A section that does not answer. -/
theorem unheard_advance (early : pc.Early client.nickname) (waits : pc.answers ctx.model = false) :
    (ctx.runSection world pc).Unheard ctx client.nickname world := by
  cases pc <;> simp only [Pc.Early, Pc.answers] at early waits <;> try contradiction
  case receive =>
    simp only [runSection]
    rcases ctx.receive_cases world with ⟨error, fails⟩ | ⟨request, asked, handles⟩
    · rw [fails]
      exact unheard_fail _ _
    · rw [handles]
      exact unheard_request found early (by simpa [asked] using waits)
  case existsCheck gameId hostId =>
    simp only [runSection, existsCheck]
    split
    · exact ⟨rfl, rfl, rfl, early⟩
    · exact ⟨rfl, rfl, rfl, early⟩
  case existsPurge gameId =>
    simp only [runSection, existsPurge]
    split
    · exact ⟨rfl, rfl, rfl, early⟩
    · exact ⟨rfl, rfl, rfl, early⟩
  case timeoutClone =>
    simp only [runSection, timeoutClone, found]
    exact ⟨rfl, rfl, rfl, vacant⟩

/-- One that does sends the client something else than its Hello, before all else. -/
theorem heard_request (wired : client.sendChannel = ctx.clientId)
    (hears : world.closed ctx.clientId = false) (unnamed : client.nickname = none)
    (answers : request.answeredAtOnce = true) : ∃ message,
      (ctx.handleRequest world request).final.wire = world.wire ++ [⟨ctx.clientId, message⟩] ∧
        message ≠ .hello ctx.clientId := by
  have refused : ∀ error, (Section.refuse world client error).final.wire =
      world.wire ++ [⟨ctx.clientId, .error error⟩] := by
    intro error
    simp [Section.refuse, World.send, wired, hears]
  unfold Request.answeredAtOnce at answers
  unfold handleRequest
  split at answers <;> rename_i op <;> simp only [op] <;> try contradiction
  · simp only [handleLeave, found, vacant]
    exact ⟨_, refused _, by simp⟩
  · simp only [handleStart, found, vacant]
    exact ⟨_, refused _, by simp⟩
  · simp only [handleTask, found, vacant]
    exact ⟨_, refused _, by simp⟩
  · simp only [handleCompile, found, vacant]
    exact ⟨_, refused _, by simp⟩
  · simp only [handlePing, found]
    exact ⟨.response .ping, by simp [Section.reply, World.send, wired, hears], by simp⟩
  · obtain ⟨parsed, decoded⟩ := Option.isSome_iff_exists.mp answers
    obtain ⟨data, given, decodes⟩ := Option.bind_eq_some_iff.mp decoded
    simp only [handleJoin, given, decodes, found, vacant, unnamed]
    exact ⟨_, refused _, by simp⟩
  · obtain ⟨parsed, decoded⟩ := Option.isSome_iff_exists.mp answers
    obtain ⟨data, given, decodes⟩ := Option.bind_eq_some_iff.mp decoded
    simp only [handleIdentify, given, decodes, found, unnamed]
    exact ⟨.response (.identify true), by simp [Section.reply, World.send, wired, hears], by simp⟩

theorem heard_advance (wired : client.sendChannel = ctx.clientId)
    (hears : world.closed ctx.clientId = false) (early : pc.Early client.nickname)
    (relies : pc.Valid world ctx.clientId) (answers : pc.answers ctx.model = true) :
    ∃ message rest, (ctx.runSection world pc).final.wire =
      world.wire ++ ⟨ctx.clientId, message⟩ :: rest ∧ message ≠ .hello ctx.clientId := by
  cases pc <;> simp only [Pc.Early, Pc.answers] at early answers <;> try contradiction
  case receive =>
    obtain ⟨request, asked, atOnce⟩ := (Option.any_eq_true _ _).mp answers
    rw [runSection, receive_request asked]
    obtain ⟨message, told, other⟩ := heard_request found vacant wired hears early atOnce
    exact ⟨message, [], told, other⟩
  case createReply gameId =>
    refine ⟨.response (.create gameId), [], ?_, by simp⟩
    simp [runSection, createReply, found, Section.reply, World.send, wired, hears]
  case existsReply gameId present =>
    refine ⟨.response (.exists present), [], ?_, by simp⟩
    simp [runSection, existsReply, found, Section.reply, World.send, wired, hears]
  case timeoutReply clone =>
    have own : clone.sendChannel = ctx.clientId := relies.wired
    cases flag : clone.performedSafeShutdown with
    | true =>
      refine ⟨.response (.timeout ctx.model), [], ?_, by simp⟩
      simp [runSection, timeoutReply, early, World.announceDrop, flag, World.send, own, hears]
    | false =>
      refine ⟨.response (.timeout ctx.model), [⟨ctx.clientId, .forcedDisconnection⟩], ?_, by simp⟩
      simp [runSection, timeoutReply, early, World.announceDrop, flag, World.send, own, hears]

/-- At its awaits a handler has at most given its client a nickname. -/
theorem paused_request (unnamed : client.nickname = none)
    (paused : cut ∈ (ctx.handleRequest world request).paused) :
    cut = world ∨ ∃ nickname,
      cut = world.put ctx.clientId { client with game := none, nickname := some nickname } := by
  unfold handleRequest at paused
  split at paused
  all_goals first
    | unfold handleJoin at paused
    | unfold handleLeave at paused
    | unfold handleStart at paused
    | unfold handleTask at paused
    | unfold handleCompile at paused
    | unfold handlePing at paused
    | unfold handleIdentify at paused
    | unfold handleCreate at paused
    | unfold handleExists existsRead at paused
  all_goals
    try simp only [found, vacant, unnamed] at paused
    repeat' split at paused
    all_goals simp only [Section.fail, Section.panic, Section.stop, Section.refuse, Section.reply,
      Section.goto, List.not_mem_nil, List.mem_singleton] at paused
    all_goals first
      | exact .inl paused
      | exact .inr ⟨_, paused⟩

theorem unheard_lapse (early : pc.Early client.nickname)
    (paused : cut ∈ (ctx.runSection world pc).paused) :
    cut = world ∨ ∃ nickname,
      cut = world.put ctx.clientId { client with game := none, nickname := some nickname } := by
  cases pc <;> simp only [Pc.Early] at early
  case receive =>
    rw [runSection] at paused
    rcases ctx.receive_cases world with ⟨error, fails⟩ | ⟨request, asked, handles⟩
    · rw [fails] at paused
      cases paused
    · rw [handles] at paused
      exact paused_request found vacant early paused
  case createReply gameId =>
    left
    simpa [runSection, createReply, found, Section.reply] using paused
  case existsReply gameId present =>
    left
    simpa [runSection, existsReply, found, Section.reply] using paused
  case existsCheck gameId hostId =>
    simp only [runSection, existsCheck] at paused
    split at paused <;> cases paused
  case existsPurge gameId => cases paused
  case timeoutClone =>
    simp only [runSection, timeoutClone, found] at paused
    cases paused
  case timeoutReply clone =>
    simp only [runSection, timeoutReply, early] at paused
    cases paused

end Early

end Ctx

end Grass
