import Grass.Refinement.Sound

namespace Grass.Ctx

open Section

variable {ctx : Ctx} {world : World}

/-- Replacing a client's game by one that shows the same seat. -/
theorem still_setGame (shardId : ShardId) {id : Uuid} {client : SocketClient} {game after : Game}
    (valid : world.Valid) (found : world.sockets id = some client)
    (playing : client.game = some game) (afterValid : after.Valid id)
    (same : after.SameRoster game) :
    world.Still shardId (world.put id { client with game := some after }) := by
  have clientValid := valid id client found
  refine (World.Still.refl valid).put found (.playing _) ?_ ?_
  · refine ⟨clientValid.named, clientValid.wired, fun held taken => ?_⟩
    cases taken
    exact ⟨(clientValid.playing game playing).1, afterValid⟩
  · simp [playing, same.seat]

theorem handlePing_quiet (valid : world.Valid) : (ctx.handlePing world).Quiet ctx world := by
  unfold handlePing
  split
  · exact .panic (.refl valid)
  · exact .reply (.refl valid) ..

theorem handleIdentify_quiet (valid : world.Valid) (d : Option Value) :
    (ctx.handleIdentify world d).Quiet ctx world := by
  unfold handleIdentify
  split
  · exact .panic (.refl valid)
  · rename_i client found
    split
    · exact .reply (.refl valid) ..
    · split
      · exact .panic (.refl valid)
      · split
        · exact .fail (.refl valid) _
        · rename_i request _
          have clientValid := valid _ _ found
          have named : SocketClient.Valid ctx.clientId
              { client with nickname := some request.nickname } :=
            ⟨clientValid.named, clientValid.wired, fun game playing =>
              ⟨rfl, (clientValid.playing game playing).2⟩⟩
          have later : SocketClient.Succeeds { client with nickname := some request.nickname }
              client := ⟨rfl, rfl, fun _ => rfl, rfl⟩
          exact .reply ((World.Still.refl valid).put found later named rfl) ..

theorem handleTask_quiet (valid : world.Valid) (d : Option Value) :
    (ctx.handleTask world d).Quiet ctx world := by
  have still : world.Still ctx.shardId world := .refl valid
  unfold handleTask
  split
  · exact .panic still
  · split
    · exact .refuse still ..
    · split
      · exact .panic still
      · split
        · exact .fail still _
        · split
          · exact .refuse still ..
          · split
            · exact .refuse still ..
            · split
              · exact .reply still ..
              · exact .refuse still ..
              · exact .refuse still ..

theorem startHosted_quiet (valid : world.Valid) {client : SocketClient} {game : Game}
    (found : world.sockets ctx.clientId = some client) (playing : client.game = some game)
    (d : Option Value) : (ctx.startHosted world d client game).Quiet ctx world := by
  unfold startHosted
  split
  · exact .panic (.refl valid)
  · split
    · exact .fail (.refl valid) _
    · rename_i request _
      obtain ⟨startedValid, same⟩ := ((valid _ _ found).playing game playing).2.start
        ctx.oracle.order world.closed ctx.oracle.choose ctx.availableTasks request.taskCount
      have still := still_setGame ctx.shardId valid found playing startedValid same
      exact .handled (still.deliver _) (still.between _) _

theorem handleCompile_quiet (valid : world.Valid) (d : Option Value) :
    (ctx.handleCompile world d).Quiet ctx world := by
  have still : world.Still ctx.shardId world := .refl valid
  unfold handleCompile
  split
  · exact .panic still
  · split
    · exact .refuse still ..
    · split
      · exact .panic still
      · split
        · exact .fail still _
        · exact .goto still rfl trivial

theorem compilePrepare_quiet (valid : world.Valid) (hostId : Uuid) (request : CompileRequest) :
    (compilePrepare world hostId request).Quiet ctx world := by
  have still : world.Still ctx.shardId world := .refl valid
  unfold compilePrepare
  split
  · exact .goto still rfl trivial
  · split
    · exact .goto still rfl trivial
    · exact .goto still rfl trivial
    · exact .panic still

theorem compileFail_quiet (valid : world.Valid) (error : ClientError) :
    (ctx.compileFail world error).Quiet ctx world := by
  unfold compileFail
  split
  · exact .panic (.refl valid)
  · exact .refuse (.refl valid) ..

theorem compileRun_quiet (valid : world.Valid) (hostId : Uuid) (request : CompileRequest)
    (stdin : List String) : (ctx.compileRun world hostId request stdin).Quiet ctx world where
  still other member := by
    obtain rfl : other = world := by simpa [compileRun] using member
    exact .refl valid
  ending := by
    simp only [compileRun]
    split
    · exact .inl rfl
    · exact Next.handled_stage ..
    · exact Next.handled_stage ..
  next := by
    simp only [compileRun]
    split <;> trivial

/-- The host and the started game a compile request finds. -/
theorem compileGame_found (graded : compileGame world hostId = .ok (host, game)) :
    world.sockets hostId = some host ∧ host.game = some game ∧ game.isStarted = true := by
  unfold compileGame at graded
  split at graded
  · cases graded
  · split at graded
    · cases graded
    · split at graded
      · cases graded
        exact ⟨by assumption, by assumption, by assumption⟩
      · cases graded

theorem compileValidate_quiet (valid : world.Valid) (hostId : Uuid) (request : CompileRequest)
    (result : SandboxResponse) :
    (ctx.compileValidate world hostId request result).Quiet ctx world := by
  unfold compileValidate
  split
  · exact .goto (.refl valid) rfl trivial
  · rename_i host game graded
    obtain ⟨found, playing, -⟩ := compileGame_found graded
    obtain ⟨afterValid, same⟩ := ((valid _ _ found).playing game playing).2.validateCodeTest
      ctx.oracle.order world.closed ctx.oracle.sandbox ctx.clientId request.taskIndex request.code
      result
    have still := still_setGame ctx.shardId valid found playing afterValid same
    constructor
    · intro other member
      rcases List.mem_cons.mp member with rfl | waiting
      · exact still.deliver _
      · dsimp only at waiting
        split at waiting
        · cases waiting
        · rcases List.mem_cons.mp waiting with rfl | later
          · exact .refl valid
          · exact still.between _ other later
    · dsimp only
      split
      · exact .inl rfl
      · exact .inl rfl
      · exact Next.handled_stage ..
    · dsimp only
      split <;> trivial

theorem compileReply_quiet (valid : world.Valid) (response : CompilationResponse) :
    (ctx.compileReply world response).Quiet ctx world := by
  unfold compileReply
  split
  · exact .panic (.refl valid)
  · exact .reply (.refl valid) ..

theorem createReply_quiet (valid : world.Valid) (gameId : String) :
    (ctx.createReply world gameId).Quiet ctx world := by
  unfold createReply
  split
  · exact .panic (.refl valid)
  · exact .reply (.refl valid) ..

theorem existsReply_quiet (valid : world.Valid) (found : Bool) :
    (ctx.existsReply world found).Quiet ctx world := by
  unfold existsReply
  split
  · exact .panic (.refl valid)
  · exact .reply (.refl valid) ..

theorem joinRefuse_quiet (valid : world.Valid) (gameId : String) :
    (ctx.joinRefuse world gameId).Quiet ctx world := by
  unfold joinRefuse
  split
  · exact .panic (.refl valid)
  · exact .reply (.refl valid) ..

end Grass.Ctx
