import Grass.Refinement.Validity

namespace Grass.Game

variable {game : Game} {id : Uuid}

theorem checkHost_host (host : game.isHost = true) : game.checkHost = .ok () := by
  simp [checkHost, host]

theorem checkHost_guest (guest : game.isHost = false) :
    game.checkHost = .err (.notGameHost "Client is not the game host") := by
  simp [checkHost, guest]

/-- A host game, its roster, and everyone in it wired to an own channel. -/
structure Hosts (game : Game) (roster : Roster) : Prop where
  isHost : game.isHost = true
  clients : game.connectedClients = some roster
  roster : roster.Valid
  host : game.partialHost.Own

theorem Valid.hosts (valid : game.Valid id) (host : game.isHost = true) :
    ∃ roster, game.Hosts roster := by
  obtain ⟨-, roster, clients, wired⟩ := valid.hosting host
  exact ⟨roster, host, clients, wired, valid.host⟩

/-- A host game in which everyone a broadcast goes to has the channel it unwraps. -/
structure Staffed (game : Game) (roster : Roster) : Prop where
  isHost : game.isHost = true
  clients : game.connectedClients = some roster
  wired : ∀ id client, roster.lookup id = some client → client.Wired
  host : game.partialHost.Wired

/-- A broadcast ends as its send to the host does, if that is not skipped, and has
reached the participants that are not skipped, the host last. -/
theorem Staffed.sendGlobal {roster : Roster} (staffed : game.Staffed roster) (order : IterOrder)
    (closed : SocketSender → Bool) (message : Message) (skipClientIds : Option (List Uuid)) :
    (game.sendGlobal order closed message skipClientIds).exit =
        (if skips skipClientIds game.partialHost.id then .ok ()
          else (game.partialHost.sendMessage closed message).exit) ∧
      (game.sendGlobal order closed message skipClientIds).sent =
        (((order.list roster).filter fun entry => !skips skipClientIds entry.1).flatMap
          fun entry => (entry.2.sendMessage closed message).sent) ++
        if skips skipClientIds game.partialHost.id then []
          else (game.partialHost.sendMessage closed message).sent := by
  have everyone := @sendAll_wired ClientError closed
    (((order.list roster).filter fun entry => !skips skipClientIds entry.1).map
      fun entry => (entry.2, message)) fun item member => by
      obtain ⟨entry, listed, rfl⟩ := List.mem_map.mp member
      exact staffed.wired _ _ (order.mem_iff.mp (List.mem_of_mem_filter listed))
  rw [Game.sendGlobal, Sending.bind_exit_ok _ (checkHost_host staffed.isHost),
    Sending.bind_sent_ok _ (checkHost_host staffed.isHost), staffed.clients]
  simp only
  rw [Sending.bind_exit_ok _ everyone.1, Sending.bind_sent_ok _ everyone.1, everyone.2]
  constructor
  · split <;> rfl
  · rw [List.flatMap_map, List.nil_append]
    split <;> rfl

theorem Staffed.sendGlobal_calm {roster : Roster} (staffed : game.Staffed roster)
    (order : IterOrder) (closed : SocketSender → Bool) (message : Message)
    (skipClientIds : Option (List Uuid)) :
    (game.sendGlobal order closed message skipClientIds).exit ≠ .panic := by
  rw [(staffed.sendGlobal order closed message skipClientIds).1]
  split
  · simp
  · exact PartialClient.sendMessage_calm staffed.host closed message

section Hosts

variable {roster : Roster} (hosts : game.Hosts roster) (order : IterOrder)
  (closed : SocketSender → Bool)

include hosts

theorem Hosts.withRoster {other : Roster} (wired : other.Valid) :
    Hosts { game with connectedClients := some other } other :=
  ⟨hosts.isHost, rfl, wired, hosts.host⟩

theorem Hosts.staffed : game.Staffed roster where
  isHost := hosts.isHost
  clients := hosts.clients
  wired id client listed := (hosts.roster id client listed).2.wired
  host := hosts.host.wired

theorem Hosts.sendGlobal_calm (message : Message) (skipClientIds : Option (List Uuid)) :
    (game.sendGlobal order closed message skipClientIds).exit ≠ .panic :=
  hosts.staffed.sendGlobal_calm order closed message skipClientIds

theorem Hosts.sendGlobal_sent (message : Message) :
    (game.sendGlobal order closed message none).sent =
      ((order.list roster).flatMap fun entry => (entry.2.sendMessage closed message).sent) ++
        (game.partialHost.sendMessage closed message).sent := by
  rw [(hosts.staffed.sendGlobal order closed message none).2]
  simp [skips]

omit hosts in
/-- A newcomer is told about everyone who is there. -/
theorem catchUp_told {newcomer : PartialClient} (own : newcomer.Own) :
    (sendAll closed (game.catchUp order roster newcomer) : Sending Unit Unit).exit = .ok () ∧
      (sendAll closed (game.catchUp order roster newcomer) : Sending Unit Unit).sent =
        (game.catchUp order roster newcomer).flatMap
          fun item => (item.1.sendMessage closed item.2).sent := by
  refine sendAll_wired closed _ fun item member => ?_
  obtain ⟨_, _, rfl⟩ := List.mem_map.mp member
  exact own.wired

theorem Hosts.announce_exit {newcomer : PartialClient} (own : newcomer.Own) :
    (game.announce order closed roster newcomer).exit = .ok () := by
  have caught := (@catchUp_told game roster order closed newcomer own).1
  rw [announce, Sending.bind_exit_ok _ caught, Sending.bind_exit_ok _
    (Sending.ignore_exit (PartialClient.sendMessage_calm own.wired closed _))]
  exact Sending.ignore_exit (hosts.sendGlobal_calm order closed _ none)

theorem Hosts.register {newcomer : PartialClient} (own : newcomer.Own)
    (openTo : game.isPublic = true) : game.register order closed newcomer =
      ({ game with connectedClients := some (roster.insert newcomer.id newcomer) },
        game.announce order closed roster newcomer) := by
  simp [Game.register, hosts.isHost, openTo, hosts.clients,
    hosts.announce_exit order closed own]

/-- A listed client is struck off, and the others are told. -/
theorem Hosts.unregister {clientId : Uuid} (member : clientId ∈ roster) :
    game.unregister order closed clientId =
      ({ game with connectedClients := some (roster.erase clientId) },
        (sendGlobal order closed { game with connectedClients := some (roster.erase clientId) }
          (.gameEvent (.disconnectedClient game.gameId clientId)) none).ignore) := by
  simp [Game.unregister, hosts.isHost, hosts.clients, member]

theorem Hosts.unregister_missing {clientId : Uuid} (missing : clientId ∉ roster) :
    game.unregister order closed clientId = (game, pure ()) := by
  simp [Game.unregister, hosts.isHost, hosts.clients, missing]

end Hosts

/-- A registration is refused without effect, or enters the newcomer. -/
theorem Valid.register_cases (valid : game.Valid id) (order : IterOrder)
    (closed : SocketSender → Bool) {newcomer : PartialClient} (own : newcomer.Own) :
    ((game.isHost && game.isPublic) = false ∧
        game.register order closed newcomer = (game, ⟨.err (), []⟩)) ∨
      (game.isHost = true ∧ game.isPublic = true ∧ ∃ roster,
        game.connectedClients = some roster ∧ roster.Valid ∧
        game.register order closed newcomer =
          ({ game with connectedClients := some (roster.insert newcomer.id newcomer) },
            game.announce order closed roster newcomer) ∧
        (game.announce order closed roster newcomer).exit = .ok ()) := by
  by_cases host : game.isHost = true
  · by_cases openTo : game.isPublic = true
    · obtain ⟨roster, hosts⟩ := valid.hosts host
      exact .inr ⟨host, openTo, roster, hosts.clients, hosts.roster,
        hosts.register order closed own openTo, hosts.announce_exit order closed own⟩
    · rw [Bool.not_eq_true] at openTo
      exact .inl ⟨by simp [openTo], by simp [register, openTo]⟩
  · rw [Bool.not_eq_true] at host
    exact .inl ⟨by simp [host], by simp [register, host]⟩

/-- Another roster in a host game. -/
theorem Valid.withRoster (valid : game.Valid id) (host : game.isHost = true) {roster : Roster}
    (wired : roster.Valid) :
    Game.Valid id { game with connectedClients := some roster } where
  owner := valid.owner
  self := valid.self
  host := valid.host
  hosting _ := ⟨(valid.hosting host).1, roster, rfl, wired⟩
  visiting guest := by simp [host] at guest

theorem Valid.register (valid : game.Valid id) (order : IterOrder) (closed : SocketSender → Bool)
    {newcomer : PartialClient} (own : newcomer.Own) :
    (game.register order closed newcomer).1.Valid id := by
  rcases valid.register_cases order closed own with ⟨-, same⟩ | ⟨host, -, roster, -, wired, same, -⟩
  · rw [same]
    exact valid
  · rw [same]
    exact valid.withRoster host (wired.insert own)

/-- An unregistration strikes the client off a roster that has it. -/
theorem Valid.unregister_cases (valid : game.Valid id) (order : IterOrder)
    (closed : SocketSender → Bool) (clientId : Uuid) :
    (game.unregister order closed clientId = (game, pure ()) ∧
        ∀ roster, game.connectedClients = some roster → clientId ∉ roster) ∨
      (game.isHost = true ∧ ∃ roster, game.connectedClients = some roster ∧ roster.Valid ∧
        clientId ∈ roster ∧ ∃ sending : Sending Unit Unit, sending.exit = .ok () ∧
          game.unregister order closed clientId =
            ({ game with connectedClients := some (roster.erase clientId) }, sending) ∧
          sending = (sendGlobal order closed
            { game with connectedClients := some (roster.erase clientId) }
            (.gameEvent (.disconnectedClient game.gameId clientId)) none).ignore) := by
  by_cases host : game.isHost = true
  · obtain ⟨roster, hosts⟩ := valid.hosts host
    by_cases member : clientId ∈ roster
    · have calm := (hosts.withRoster (hosts.roster.erase clientId)).sendGlobal_calm order closed
        (.gameEvent (.disconnectedClient game.gameId clientId)) none
      exact .inr ⟨host, roster, hosts.clients, hosts.roster, member, _,
        Sending.ignore_exit calm, hosts.unregister order closed member, rfl⟩
    · refine .inl ⟨hosts.unregister_missing order closed member, fun other same => ?_⟩
      obtain rfl : roster = other := by simpa [hosts.clients] using same
      exact member
  · rw [Bool.not_eq_true] at host
    refine .inl ⟨by simp [unregister, host], fun roster clients => ?_⟩
    simp [(valid.visiting host).1] at clients

theorem Valid.unregister (valid : game.Valid id) (order : IterOrder)
    (closed : SocketSender → Bool) (clientId : Uuid) :
    (game.unregister order closed clientId).1.Valid id := by
  rcases valid.unregister_cases order closed clientId with
    ⟨same, -⟩ | ⟨host, roster, -, wired, -, _, -, same, -⟩
  · rw [same]
    exact valid
  · rw [same]
    exact valid.withRoster host (wired.erase clientId)

theorem Valid.unregister_calm (valid : game.Valid id) (order : IterOrder)
    (closed : SocketSender → Bool) (clientId : Uuid) :
    (game.unregister order closed clientId).2.exit ≠ .panic := by
  rcases valid.unregister_cases order closed clientId with
    ⟨same, -⟩ | ⟨-, _, -, -, -, _, finished, same, -⟩
  · simp [same]
  · simp [same, finished]

/-- A start leaves the participants of a valid game in place. -/
structure SameRoster (after before : Game) : Prop where
  isHost : after.isHost = before.isHost
  gameId : after.gameId = before.gameId
  partialHost : after.partialHost.id = before.partialHost.id
  members : ∀ key, (∃ roster, after.connectedClients = some roster ∧ key ∈ roster) ↔
    ∃ roster, before.connectedClients = some roster ∧ key ∈ roster

theorem SameRoster.refl (game : Game) : game.SameRoster game :=
  ⟨rfl, rfl, rfl, fun _ => .rfl⟩

/-- The same game in the same hands: whether it runs and who made progress may differ. -/
theorem Valid.start (valid : game.Valid id) (order : IterOrder) (closed : SocketSender → Bool)
    (choose : List GameTask → Nat → List GameTask) (availableTasks : List GameTask)
    (taskCount : Nat) :
    (game.start order closed choose availableTasks taskCount).1.Valid id ∧
      (game.start order closed choose availableTasks taskCount).1.SameRoster game := by
  by_cases host : game.isHost = true
  · obtain ⟨own, roster, clients, wired⟩ := valid.hosting host
    have opened : Game.Valid id { game with
        isPublic := false, isStarted := true, tasks := choose availableTasks taskCount } :=
      ⟨valid.owner, valid.self, valid.host, valid.hosting, by simp [host]⟩
    rw [Game.start, checkHost_host host]
    by_cases started : game.isStarted = true
    · simp only [started, ↓reduceIte]
      exact ⟨valid, .refl game⟩
    · by_cases filled : (choose availableTasks taskCount).length = taskCount
      · simp only [started, filled, clients, Bool.false_eq_true, ↓reduceIte, ne_eq,
          not_true_eq_false]
        refine ⟨⟨valid.owner, valid.self, ⟨valid.host.isLocal, valid.host.channel⟩,
          fun _ => ⟨own, _, rfl, wired.progress _⟩, by simp [host]⟩, rfl, rfl, rfl, fun key => ?_⟩
        simp [clients]
      · simp only [started, filled, Bool.false_eq_true, ↓reduceIte, ne_eq, not_false_eq_true]
        exact ⟨opened, rfl, rfl, rfl, fun _ => .rfl⟩
  · rw [Bool.not_eq_true] at host
    rw [Game.start, checkHost_guest host]
    exact ⟨valid, .refl game⟩

/-- A submission past the public tests is for a task of the started game, by one of
its participants. -/
theorem publicStage_passed
    (staged : game.publicStage clientId taskIndex result = .passed task who reports) :
    game.getTaskIndexed taskIndex = .ok task ∧ game.participant clientId = .ok who := by
  unfold publicStage at staged
  split at staged
  · cases staged
  · rename_i found
    split at staged
    · cases staged
    · cases staged
    · rename_i known
      split at staged
      · cases staged
      · split at staged
        · cases staged
        · split at staged
          · split at staged <;> cases staged
          · cases staged
            exact ⟨found, known⟩

theorem getTaskIndexed_ok (found : game.getTaskIndexed index = .ok task) :
    game.isStarted = true ∧ game.tasks[index]? = some task := by
  unfold getTaskIndexed at found
  split at found
  · rename_i started
    split at found
    · rename_i there
      cases found
      exact ⟨started, there⟩
    · cases found
  · cases found

/-- Grading changes nothing but the flag of a submission that passed all tests. -/
theorem validateCodeTest_cases (order : IterOrder) (closed : SocketSender → Bool)
    (sandbox : Sandbox) (clientId : Uuid) (taskIndex : Nat) (code : String)
    (result : SandboxResponse) :
    (game.validateCodeTest order closed sandbox clientId taskIndex code result).1 = game ∨
      ∃ task who reports, game.publicStage clientId taskIndex result = .passed task who reports ∧
        game.creditTask who taskIndex =
          some (game.validateCodeTest order closed sandbox clientId taskIndex code result).1 := by
  unfold Game.validateCodeTest
  split
  · exact .inl rfl
  · rename_i task who reports staged
    unfold privateStage
    split
    · exact .inl rfl
    · exact .inl rfl
    · split
      · exact .inl rfl
      · split
        · exact .inl rfl
        · split
          · exact .inl rfl
          · split
            · exact .inl rfl
            · rename_i credited
              exact .inr ⟨task, who, reports, staged, credited⟩

/-- Only the host's own game gets a submission past the public tests. -/
theorem Valid.passed_host (valid : game.Valid id)
    (staged : game.publicStage clientId taskIndex result = .passed task who reports) :
    game.isHost = true ∧ who = .host := by
  obtain ⟨found, known⟩ := publicStage_passed staged
  cases host : game.isHost with
  | true =>
    obtain rfl : Participant.host = who := by simpa [participant, host] using known
    exact ⟨rfl, rfl⟩
  | false =>
    have started := (getTaskIndexed_ok found).1
    simp [(valid.visiting host).2] at started

theorem Valid.validateCodeTest (valid : game.Valid id) (order : IterOrder)
    (closed : SocketSender → Bool) (sandbox : Sandbox) (clientId : Uuid) (taskIndex : Nat)
    (code : String) (result : SandboxResponse) :
    (game.validateCodeTest order closed sandbox clientId taskIndex code result).1.Valid id ∧
      (game.validateCodeTest order closed sandbox clientId taskIndex code result).1.SameRoster
        game := by
  rcases validateCodeTest_cases order closed sandbox clientId taskIndex code result with
    same | ⟨task, who, reports, staged, credited⟩
  · rw [same]
    exact ⟨valid, .refl game⟩
  · obtain ⟨host, rfl⟩ := valid.passed_host staged
    simp only [creditTask, Option.pure_def, Option.bind_eq_bind, Option.bind_eq_some_iff,
      Option.some.injEq] at credited
    obtain ⟨progress, -, credited⟩ := credited
    rw [← credited]
    exact ⟨⟨valid.owner, valid.self, ⟨valid.host.isLocal, valid.host.channel⟩, valid.hosting,
      by simp [host]⟩, rfl, rfl, rfl, fun _ => .rfl⟩

end Grass.Game
