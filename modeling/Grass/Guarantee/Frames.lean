import Grass.Guarantee.Panics

namespace Grass

open Transition

/-- The section panics before it has done anything. -/
def Section.Aborts (part : Section) (world : World) : Prop :=
  part.final = world ∧ part.next = .handled .panic

theorem Section.Calm.stays {part : Section} {world : World} (calm : part.Calm) :
    ¬ part.Aborts world := fun aborts => calm aborts.2

theorem Section.panic_aborts (world : World) : (Section.panic world).Aborts world := ⟨rfl, rfl⟩

/-- The branch of this operation unwraps the data of its request. Join looks whether
there is any first, and Leave and Ping need none. -/
def SocketClient.Unwraps (client : SocketClient) : RequestOpCode → Prop
  | .start => ∃ game, client.game = some game ∧ game.isHost = true
  | .task | .compile => client.game ≠ none
  | .identify => client.nickname = none
  | .create | .exists => True
  | .join | .leave | .ping => False

namespace Ctx

open Section

variable {ctx : Ctx} {world : World} {client : SocketClient} {game : Game} {d : Option Value}

/-- Where a game is taken out, something has been done. -/
theorem takeGame_acts (valid : world.Valid) (found : world.sockets ctx.clientId = some client)
    (playing : client.game = some game) :
    ¬ (Section.stop (ctx.takeGame world client game).1 (ctx.takeGame world client game).2).Aborts
      world := by
  rintro ⟨same, panicked⟩
  cases host : game.isHost with
  | false => simp [Section.stop, takeGame_guest valid found playing host] at panicked
  | true =>
    have gameValid := ((valid _ _ found).playing game playing).2
    obtain ⟨after, exit, dropped, sockets, -⟩ := World.dropGame_host ctx.oracle
      (world.put ctx.clientId { client with game := none }) gameValid host
    have still : after = world := by simpa [Section.stop, takeGame, dropped] using same
    have there := congrFun sockets ctx.clientId
    simp only [still, found, World.put_sockets, Function.update_self, Option.some.injEq] at there
    have empty := congrArg SocketClient.game there
    simp [playing] at empty

section Present

variable (found : world.sockets ctx.clientId = some client)

include found

theorem handlePing_calm : (ctx.handlePing world).Calm := by
  simp only [handlePing, found]
  exact .reply (by simp)

theorem handleIdentify_aborts :
    (ctx.handleIdentify world d).Aborts world ↔ d = none ∧ client.nickname = none := by
  simp only [handleIdentify, found]
  split
  · rename_i known
    simp only [known, reduceCtorEq, and_false, iff_false]
    exact (Calm.reply (by simp)).stays
  · rename_i unknown
    cases d with
    | none => simp [unknown, Section.panic_aborts]
    | some data =>
      simp only [reduceCtorEq, false_and, iff_false]
      apply Calm.stays
      split
      · exact .fail
      · exact .reply (by simp)

theorem handleTask_aborts :
    (ctx.handleTask world d).Aborts world ↔ d = none ∧ client.game ≠ none := by
  cases d with
  | some data => simpa using (handleTask_calm found (Option.some_ne_none data)).stays
  | none =>
    simp only [handleTask, found, true_and]
    cases playing : client.game with
    | none => simpa using Calm.refuse.stays
    | some game => simpa using Section.panic_aborts world

theorem handleCompile_aborts :
    (ctx.handleCompile world d).Aborts world ↔ d = none ∧ client.game ≠ none := by
  cases d with
  | some data => simpa using (handleCompile_calm found (Option.some_ne_none data)).stays
  | none =>
    simp only [handleCompile, found, true_and]
    cases playing : client.game with
    | none => simpa using Calm.refuse.stays
    | some game => simpa using Section.panic_aborts world

theorem handleStart_aborts (valid : world.Valid) : (ctx.handleStart world d).Aborts world ↔
    d = none ∧ ∃ game, client.game = some game ∧ game.isHost = true := by
  cases d with
  | some data => simpa using (handleStart_calm found valid (Option.some_ne_none data)).stays
  | none =>
    simp only [handleStart, found, true_and]
    cases playing : client.game with
    | none => simpa using Calm.refuse.stays
    | some game =>
      cases host : game.isHost with
      | true => simpa [startHosted, host] using Section.panic_aborts world
      | false =>
        have left := takeGame_guest valid found playing host
        simp only [Bool.false_eq_true, ↓reduceIte, Option.some.injEq, exists_eq_left', host,
          iff_false]
        apply Calm.stays
        split
        · rename_i panicked
          simp [panicked] at left
        · exact .refuse

theorem handleLeave_stays (valid : world.Valid) : ¬ (ctx.handleLeave world).Aborts world := by
  simp only [handleLeave, found]
  cases playing : client.game with
  | none => exact Calm.refuse.stays
  | some game => exact takeGame_acts valid found playing

end Present

theorem handleCreate_aborts : (ctx.handleCreate world d).Aborts world ↔ d = none := by
  unfold handleCreate
  cases d with
  | none => simpa using Section.panic_aborts world
  | some data =>
    simp only [reduceCtorEq, iff_false]
    apply Calm.stays
    split
    · exact .fail
    · split
      · exact .fail
      · exact .goto

theorem handleExists_aborts : (ctx.handleExists world d).Aborts world ↔ d = none := by
  unfold handleExists
  cases d with
  | none => simpa using Section.panic_aborts world
  | some data =>
    simp only [reduceCtorEq, iff_false]
    apply Calm.stays
    split
    · exact .fail
    · split
      · exact .fail
      · unfold existsRead
        split
        · exact .goto
        · split
          · exact .goto
          · exact .fail
        · exact .goto

/-- A request panics while it is decoded exactly where its branch unwraps data that is
not there. -/
theorem handleRequest_aborts (valid : world.Valid)
    (found : world.sockets ctx.clientId = some client) (request : Request) :
    (ctx.handleRequest world request).Aborts world ↔
      request.d = none ∧ client.Unwraps request.op := by
  unfold handleRequest
  cases request.op with
  | join => simpa [SocketClient.Unwraps] using (handleJoin_calm found request.d).stays
  | leave => simpa [SocketClient.Unwraps] using handleLeave_stays found valid
  | start => exact handleStart_aborts found valid
  | task => exact handleTask_aborts found
  | compile => exact handleCompile_aborts found
  | ping => simpa [SocketClient.Unwraps] using (handlePing_calm found).stays
  | identify => exact handleIdentify_aborts found
  | create => simpa [SocketClient.Unwraps] using handleCreate_aborts
  | «exists» => simpa [SocketClient.Unwraps] using handleExists_aborts

end Ctx

/-- The text is a request without data, in a branch that unwraps it. -/
def SocketClient.Lacks (client : SocketClient) (document : Option Value) : Prop :=
  ∃ model request, (Frame.text document).model? = some model ∧ model.request? = some request ∧
    request.d = none ∧ client.Unwraps request.op

namespace Cluster

/-- A text frame is parsed, dispatched and decoded without a panic, and a request that
needs data and has none fails. -/
structure ReadsText (cluster : Cluster) (party : Party) (client : SocketClient) (oracle : Oracle)
    (document : Option Value) : Prop where
  bare : (Frame.text document).model? = none →
    (bareFrame (cluster.world party.shardId) party.id (.text document)).2 ≠ .panic
  decoded : ∀ model, (Frame.text document).model? = some model →
    ¬ ((cluster.ctx party oracle model).receive (cluster.world party.shardId)).Aborts
      (cluster.world party.shardId)
  rejected : ∀ model request, (Frame.text document).model? = some model →
    model.request? = some request → request.d = none →
    request.op = .join ∨ client.Unwraps request.op →
    ∃ error, ((cluster.ctx party oracle model).receive (cluster.world party.shardId)).next =
      .handled (.err error)

/-- In every reached state, whatever Redis does, reading a text frame of a connected
client panics exactly where the text lacks data that its branch unwraps. -/
theorem reads_text_iff (cluster : Cluster) (reached : Reach Fresh steps cluster) (party : Party)
    (client : SocketClient)
    (connected : (cluster.world party.shardId).sockets party.id = some client) (oracle : Oracle)
    (document : Option Value) :
    cluster.ReadsText party client oracle document ↔ ¬ client.Lacks document := by
  have sound : cluster.Sound True ∅ := reached_steps reached
  have valid := sound.valid.entries party.shardId
  have aborts : ∀ model request, model.request? = some request →
      (((cluster.ctx party oracle model).receive (cluster.world party.shardId)).Aborts
        (cluster.world party.shardId) ↔ request.d = none ∧ client.Unwraps request.op) := by
    intro model request asked
    rw [Ctx.receive_request asked]
    exact Ctx.handleRequest_aborts valid connected request
  constructor
  · rintro reads ⟨model, request, framed, asked, missing, unwraps⟩
    exact reads.decoded model framed ((aborts model request asked).mpr ⟨missing, unwraps⟩)
  · intro carries
    refine ⟨fun framed => ?_, fun model framed => ?_, fun model request framed asked missing => ?_⟩
    · simp only [bareFrame, connected]
      split <;> simp
    · cases asked : model.request? with
      | some request =>
        rw [aborts model request asked]
        exact fun lacking => carries ⟨model, request, framed, asked, lacking⟩
      | none =>
        apply Section.Calm.stays
        unfold Ctx.receive
        split
        · exact .fail
        · rename_i data given
          split
          · rename_i op
            have given : model.d = some data := given
            have op : model.op = .request := op
            have undecoded : Request.fromValue data = none := by
              simpa [DefaultModel.request?, given, op] using asked
            simp only [undecoded]
            exact .fail
          · exact .fail
    · rintro (join | unwraps)
      · refine ⟨.noDataWithOpCode "No data was sent with join request", ?_⟩
        rw [Ctx.receive_request asked, Ctx.handleRequest]
        simp [join, Ctx.handleJoin, missing, Section.fail, Section.stop]
      · exact absurd ⟨model, request, framed, asked, missing, unwraps⟩ carries

/-- A connection that has just opened, and its client's entry. -/
def openedEntry (cluster : Cluster) : Option (Option String) :=
  match (cluster.node "a").reader 1 with
  | .idle => ((cluster.world "a").sockets 1).map SocketClient.nickname
  | _ => none

theorem openedEntry_found {cluster : Cluster} {nickname : Option String}
    (seen : cluster.openedEntry = some nickname) : (cluster.node "a").reader 1 = .idle ∧
      ∃ client, (cluster.world "a").sockets 1 = some client ∧ client.nickname = nickname := by
  unfold openedEntry at seen
  split at seen
  · rename_i idle
    exact ⟨idle, Option.map_eq_some_iff.mp seen⟩
  · cases seen

theorem opened_reached : ∃ cluster, Reach Fresh steps cluster ∧
    (cluster.node "a").reader 1 = .idle ∧
    ∃ client, (cluster.world "a").sockets 1 = some client := by
  let opening : Party := ⟨"a", 1⟩
  obtain ⟨cluster, reached, seen⟩ := run_shows (launch_fresh emptyRedis [])
    (show (run (guarded (fun _ _ => true) step) (launch emptyRedis [])
      (opening.opens (.calm "17"))).bind openedEntry = some none by decide +kernel)
  obtain ⟨idle, client, found, -⟩ := openedEntry_found seen
  exact ⟨cluster, reached.mono fun _ _ _ _ step => step.1, idle, client, found⟩

theorem reads_text_identify : ∃ cluster : Cluster, ∃ client,
    cluster.ReadsText ⟨"a", 1⟩ client (.calm "17")
      (some (requestText "Identify" [("nickname", .string "n")])) := by
  obtain ⟨cluster, reached, -, client, found⟩ := opened_reached
  refine ⟨cluster, client, (reads_text_iff cluster reached ⟨"a", 1⟩ client found _ _).mpr ?_⟩
  rintro ⟨model, request, framed, asked, missing, -⟩
  cases framed
  cases asked
  cases missing

/-- A Create whose inner data is absent panics where it is unwrapped. -/
theorem create_without_data : ¬ ∀ cluster, Reach Fresh steps cluster →
    ∀ (party : Party) client, (cluster.node party.shardId).reader party.id = .idle →
      (cluster.world party.shardId).sockets party.id = some client →
      ∀ oracle document, cluster.ReadsText party client oracle document := by
  intro always
  obtain ⟨cluster, reached, idle, client, found⟩ := opened_reached
  let document : Value := .object [("op", .string "Request"),
    ("d", .object [("op", .string "Create")])]
  have reads := always cluster reached ⟨"a", 1⟩ client idle found (.calm "17") (some document)
  let model : DefaultModel := ⟨.request, some (.object [("op", .string "Create")])⟩
  have asked : (cluster.ctx ⟨"a", 1⟩ (.calm "17") model).model.request? = some ⟨none, .create⟩ := rfl
  have stays := reads.decoded model rfl
  rw [Ctx.receive_request asked] at stays
  exact stays (Section.panic_aborts _)

end Cluster

end Grass
