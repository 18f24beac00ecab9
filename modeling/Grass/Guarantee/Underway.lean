import Grass.Guarantee.Progress

/-! A game from its start on: everyone in it can be written to, and nobody but the
host has a task done. -/

namespace Grass

open Transition

namespace Sending

theorem bind_calm {first : Sending ε α} {next : α → Sending ε β}
    (calm : (first >>= next).exit ≠ .panic) : first.exit ≠ .panic := by
  intro panicked
  apply calm
  simp [bind, panicked]

theorem ignore_calm {sending : Sending ε α}
    (calm : (ignore sending : Sending ε' Unit).exit ≠ .panic) : sending.exit ≠ .panic := by
  intro panicked
  apply calm
  simp [ignore, panicked]

end Sending

variable {closed : SocketSender → Bool}

theorem PartialClient.wired_of_calm {client : PartialClient} {message : Message}
    (calm : (client.sendMessage closed message).exit ≠ .panic) : client.Wired := by
  intro isLocal missing
  apply calm
  simp [sendMessage, isLocal, missing]

theorem wired_of_sendAll {batch : List (PartialClient × Message)}
    (calm : (sendAll closed batch : Sending ε Unit).exit ≠ .panic) :
    ∀ item ∈ batch, item.1.Wired := by
  induction batch with
  | nil => simp
  | cons item rest ih =>
    obtain ⟨client, message⟩ := item
    have head := Sending.ignore_calm (Sending.bind_calm calm)
    have told : ((client.sendMessage closed message).ignore : Sending ε Unit).exit = .ok () :=
      Sending.ignore_exit head
    rw [sendAll, Sending.bind_exit_ok _ told] at calm
    exact List.forall_mem_cons.mpr ⟨PartialClient.wired_of_calm head, ih calm⟩

namespace Game

variable {game before middle after later : Game} {count : Nat} {order : IterOrder}

/-- A broadcast to all that does not panic had a channel for everyone. -/
theorem staffed_of_calm {roster : Roster} {message : Message} (host : game.isHost = true)
    (clients : game.connectedClients = some roster)
    (calm : (game.sendGlobal order closed message none).exit ≠ .panic) :
    game.Staffed roster := by
  have unskipped : (order.list roster).filter (fun entry => !skips none entry.1) =
      order.list roster := by
    simp [skips]
  rw [sendGlobal, Sending.bind_exit_ok _ (checkHost_host host), clients] at calm
  simp only [unskipped] at calm
  have everyone := wired_of_sendAll (Sending.bind_calm calm)
  have told : (sendAll closed ((order.list roster).map fun entry => (entry.2, message)) :
      Sending ClientError Unit).exit = .ok () :=
    (sendAll_wired closed _ everyone).1
  rw [Sending.bind_exit_ok _ told] at calm
  refine ⟨host, clients, fun id client listed => ?_, PartialClient.wired_of_calm calm⟩
  exact everyone (client, message) (List.mem_map.mpr ⟨(id, client), order.mem_iff.mpr listed, rfl⟩)

/-- A running game that everyone can be told about, with no flag set but the host's. -/
structure Underway (count : Nat) (game : Game) : Prop where
  running : game.Running count
  host : game.partialHost.Wired
  clients : ∀ id client, game.client? id = some client → client.Wired
  waiting : ∀ id client, game.client? id = some client → ∀ index, ¬ client.Finished index

theorem Underway.staffed (underway : game.Underway count) : ∃ roster, game.Staffed roster := by
  obtain ⟨roster, clients⟩ := underway.running.roster
  refine ⟨roster, underway.running.isHost, clients, fun id client listed => ?_, underway.host⟩
  exact underway.clients id client (by rw [client?_clients clients, listed])

/-- Nobody new, no participant's record changed, and the host's in its progress only. -/
structure Keeps (before after : Game) : Prop where
  host : after.partialHost.isLocal = before.partialHost.isLocal ∧
    after.partialHost.writeChannel = before.partialHost.writeChannel
  clients : ∀ id client, after.client? id = some client → before.client? id = some client

theorem Keeps.refl (game : Game) : game.Keeps game :=
  ⟨⟨rfl, rfl⟩, fun _ _ found => found⟩

theorem Underway.keeps (underway : before.Underway count) (running : after.Running count)
    (keeps : before.Keeps after) : after.Underway count where
  running := running
  host isLocal := by
    rw [keeps.host.2]
    exact underway.host (keeps.host.1 ▸ isLocal)
  clients id client found := underway.clients id client (keeps.clients id client found)
  waiting id client found := underway.waiting id client (keeps.clients id client found)

/-- A start that returns Ok has told everyone, and nobody has a task done. -/
theorem underway_of_start {choose : List GameTask → Nat → List GameTask}
    {availableTasks : List GameTask} {taskCount : Nat}
    (finished : (game.start order closed choose availableTasks taskCount).2.exit = .ok ()) :
    (game.start order closed choose availableTasks taskCount).1.Underway taskCount := by
  obtain ⟨host, -, filled, roster, clients, made⟩ := start_ok _ _ _ _ _ finished
  have running := running_of_start _ _ _ _ _ host finished
  have calm : (game.start order closed choose availableTasks taskCount).2.exit ≠ .panic := by
    simp [finished]
  rw [made] at running calm ⊢
  have staffed := staffed_of_calm running.isHost rfl (Sending.ignore_calm calm)
  refine ⟨running, staffed.host, fun id client found => ?_, fun id client found index => ?_⟩
  · exact staffed.wired id client (by rwa [client?_clients rfl] at found)
  · rintro ⟨progress, kept, done⟩
    rw [client?_clients rfl, Roster.lookup_mapValues] at found
    obtain ⟨old, -, rfl⟩ := Option.map_eq_some_iff.mp found
    obtain rfl : freshProgress _ = progress := Option.some.inj kept
    rw [lookup_freshProgress] at done
    split at done <;> simp at done

theorem Running.call_keeps (running : game.Running count) (made : Call) :
    game.Keeps (game.call made) := by
  obtain ⟨order, closed, operation⟩ := made
  cases operation with
  | register newcomer =>
    simp only [Game.call, running.register]
    exact .refl game
  | unregister clientId =>
    simp only [Game.call]
    rcases running.unregister_cases order closed clientId with same | ⟨roster, clients, struck⟩
    · rw [same]
      exact .refl game
    · rw [struck]
      exact ⟨⟨rfl, rfl⟩, client?_erase clients clientId⟩
  | start choose availableTasks taskCount =>
    simp only [Game.call, running.start]
    exact .refl game
  | prepareCodeTest taskIndex => exact .refl game
  | validateCodeTest sandbox clientId taskIndex code result =>
    simp only [Game.call]
    rcases game.validateCodeTest_cases order closed sandbox clientId taskIndex code result with
      same | ⟨task, who, reports, staged, credited⟩
    · rw [same]
      exact .refl game
    · obtain ⟨found, known⟩ := publicStage_passed staged
      obtain rfl : Participant.host = who := by simpa [participant, running.isHost] using known
      obtain ⟨progress, kept, -⟩ := running.host
      obtain same : { game with partialHost := { game.partialHost with
          taskProgress := some (progress.insert taskIndex true) } } = _ := by
        simpa [creditTask, kept] using credited
      rw [← same]
      exact ⟨⟨rfl, rfl⟩, fun _ _ found => found⟩

/-- Whatever is called on a game after its start, it stays under way. -/
theorem Underway.reached (underway : before.Underway count)
    (reached : Reach (fun game => game = before) calls after) : after.Underway count := by
  induction reached with
  | start initial =>
    subst initial
    exact underway
  | next _ made ih =>
    subst made
    exact ih.keeps (ih.running.call _).1 (ih.running.call_keeps _)

end Game

end Grass
