import Grass.Model.Sending

/-! The game record and its operations, apart from grading: registration,
unregistration, broadcast, start, and the parts of shutdown that send. -/

namespace Grass

/-- An iteration of a hash map visits every entry once, in any order. -/
structure IterOrder where
  list : Roster → List (Uuid × PartialClient)
  perm : ∀ roster, (list roster).Perm roster.toList

theorem IterOrder.mem_iff (order : IterOrder) {roster : Roster} {id : Uuid}
    {client : PartialClient} :
    (id, client) ∈ order.list roster ↔ roster.lookup id = some client :=
  (order.perm roster).mem_iff.trans Roster.mem_toList

/-- The order in which the entries are stored. -/
def IterOrder.stored : IterOrder where
  list := Roster.toList
  perm _ := .refl _

structure Game where
  partialClient : PartialClient
  isHost : Bool
  gameId : String
  partialHost : PartialClient
  connectedClients : Option Roster
  shutdown : Bool
  isStarted : Bool
  isPublic : Bool
  tasks : List GameTask

namespace Game

def new (isHost : Bool) (gameId : String) (partialClient partialHost : PartialClient) : Game where
  partialClient := partialClient
  isHost := isHost
  gameId := gameId
  partialHost := partialHost
  connectedClients := if isHost then some ∅ else none
  shutdown := false
  isStarted := false
  isPublic := true
  tasks := []

def checkHost (game : Game) : Exit ClientError Unit :=
  if game.isHost then .ok () else .err (.notGameHost "Client is not the game host")

def skips (skipClientIds : Option (List Uuid)) (id : Uuid) : Bool :=
  skipClientIds.any (·.contains id)

/-- Send to every participant that is not skipped, the host last; only the
host's own send can fail the whole. -/
def sendGlobal (order : IterOrder) (closed : SocketSender → Bool) (game : Game)
    (message : Message) (skipClientIds : Option (List Uuid)) : Sending ClientError Unit := do
  ⟨game.checkHost, []⟩
  match game.connectedClients with
  | none => ⟨.err (.internalServerError "not host"), []⟩
  | some roster =>
    sendAll closed (((order.list roster).filter fun entry => !skips skipClientIds entry.1).map
      fun entry => (entry.2, message))
    if skips skipClientIds game.partialHost.id then pure ()
    else game.partialHost.sendMessage closed message

/-- The events a new participant is sent about those already there. -/
def catchUp (order : IterOrder) (game : Game) (roster : Roster) (newcomer : PartialClient) :
    List (PartialClient × Message) :=
  (order.list roster).map fun entry =>
    (newcomer, .gameEvent (.connectedClient game.gameId entry.1 entry.2.nickname))

/-- What a registration sends, before the newcomer is inserted. -/
def announce (order : IterOrder) (closed : SocketSender → Bool) (game : Game) (roster : Roster)
    (newcomer : PartialClient) : Sending Unit Unit := do
  sendAll closed (game.catchUp order roster newcomer)
  (newcomer.sendMessage closed (.gameEvent (.connectedClient game.gameId game.partialHost.id
    game.partialHost.nickname))).ignore
  (game.sendGlobal order closed (.gameEvent (.connectedClient game.gameId newcomer.id
    newcomer.nickname)) none).ignore

def register (order : IterOrder) (closed : SocketSender → Bool) (game : Game)
    (newcomer : PartialClient) : Game × Sending Unit Unit :=
  if !game.isHost || !game.isPublic then (game, ⟨.err (), []⟩)
  else match game.connectedClients with
    | none => (game, ⟨.panic, []⟩)
    | some roster =>
      let sending := game.announce order closed roster newcomer
      match sending.exit with
      | .ok () =>
        ({ game with connectedClients := some (roster.insert newcomer.id newcomer) }, sending)
      | _ => (game, sending)

def unregister (order : IterOrder) (closed : SocketSender → Bool) (game : Game)
    (clientId : Uuid) : Game × Sending Unit Unit :=
  if game.isHost then
    match game.connectedClients with
    | none => (game, ⟨.panic, []⟩)
    | some roster =>
      if clientId ∈ roster then
        let game := { game with connectedClients := some (roster.erase clientId) }
        (game, (game.sendGlobal order closed
          (.gameEvent (.disconnectedClient game.gameId clientId)) none).ignore)
      else (game, pure ())
  else (game, pure ())

/-- The progress a start gives to everyone: no task done. -/
def freshProgress (tasks : List GameTask) : Progress :=
  (List.range tasks.length).foldl (fun progress index => progress.insert index false) ∅

/-- `choose` stands for the random choice of `task_count` of the tasks. -/
def start (order : IterOrder) (closed : SocketSender → Bool)
    (choose : List GameTask → Nat → List GameTask) (game : Game)
    (availableTasks : List GameTask) (taskCount : Nat) : Game × Sending ClientError Unit :=
  match game.checkHost with
  | .ok () =>
    if game.isStarted then (game, ⟨.err .gameAlreadyStarted, []⟩)
    else
      let game := { game with
        isPublic := false, isStarted := true, tasks := choose availableTasks taskCount }
      if game.tasks.length ≠ taskCount then
        -- the flags and the tasks stay as they are
        (game, ⟨.err (.internalServerError
          "Internal server error, requested task count could not be filled"), []⟩)
      else match game.connectedClients with
        | none => (game, ⟨.panic, []⟩)
        | some roster =>
          let progress := some (freshProgress game.tasks)
          let game := { game with
            connectedClients := some (roster.mapValues fun client =>
              { client with taskProgress := progress })
            partialHost := { game.partialHost with taskProgress := progress } }
          (game, (game.sendGlobal order closed (.gameEvent (.start taskCount)) none).ignore)
  | exit => (game, ⟨exit, []⟩)

/-- `Err(None)` before the start, `Err(Some(()))` out of range. -/
def getTaskIndexed (game : Game) (index : Nat) : Except (Option Unit) GameTask :=
  if game.isStarted then
    match game.tasks[index]? with
    | some task => .ok task
    | none => .error (some ())
  else .error none

def prepareCodeTest (game : Game) (taskIndex : Nat) : Exit ClientError (List String) :=
  match game.checkHost with
  | .ok () =>
    match game.getTaskIndexed taskIndex with
    | .ok task => .ok (task.publicTestCases.map TestCase.stdin)
    | .error _ => .err .outOfRangeTask
  | .err error => .err error
  | .panic => .panic

end Game

end Grass
