import Grass.Model.Json

namespace Grass

/-- Socket, task and host identifiers. -/
abbrev Uuid := Nat

abbrev ShardId := String

/-- The sending half of the channel made for the connection with that id. -/
abbrev SocketSender := Uuid

structure TestCase where
  stdin : String
  expected : String
  id : Nat
deriving DecidableEq, Repr

structure GameTask where
  taskId : Uuid
  question : String
  publicTestCases : List TestCase
  privateTestCases : List TestCase
deriving DecidableEq, Repr

/-- What a serialized task contains: the private test cases are skipped. -/
structure SerializedTask where
  taskId : Uuid
  question : String
  publicTestCases : List TestCase
deriving DecidableEq, Repr

def GameTask.serialize (task : GameTask) : SerializedTask where
  taskId := task.taskId
  question := task.question
  publicTestCases := task.publicTestCases

inductive ClientError where
  | invalidMessage (text : String)
  | clientDoesNotExist (text : String)
  | alreadyInGame (text : String)
  | notInGame (text : String)
  | internalServerError (text : String)
  | notGameHost (text : String)
  | noDataWithOpCode (text : String)
  | compilationError (text : String)
  | outOfRangeTask
  | noGameWasFound
  | gameNotStarted
  | gameAlreadyStarted
  | clientNotIdentified
  | invalidGameId
  | invalidOpCode
  | parsingError
  | sendError
deriving DecidableEq, Repr

structure PublicTestProgress where
  testIndex : Nat
  succeeded : Bool
  stdout : String
  expected : String
deriving DecidableEq, Repr

namespace PublicTestProgress

def new (testIndex : Nat) (stdout expected : String) : PublicTestProgress :=
  { testIndex, succeeded := true, stdout, expected }

def newFailed (testIndex : Nat) (stdout expected : String) : PublicTestProgress :=
  { testIndex, succeeded := false, stdout, expected }

def makeNotFailed (progress : PublicTestProgress) : PublicTestProgress :=
  { progress with succeeded := true }

end PublicTestProgress

structure CompilationResponse where
  taskIndex : Nat
  publicTestProgress : List PublicTestProgress
  isDone : Bool
  isDonePublicTests : Bool
  isDonePrivateTests : Bool
  stderr : String
deriving DecidableEq, Repr

inductive GameEvent where
  | shutdown
  | start (taskCount : Nat)
  | taskFinished (task : SerializedTask) (taskIndex : Nat) (clientId : Uuid)
  | connectedClient (gameId : String) (clientId : Uuid) (nickname : String)
  | disconnectedClient (gameId : String) (clientId : Uuid)
deriving DecidableEq, Repr

inductive Response where
  | join (gameId : String) (isHost success : Bool)
  | leave (success : Bool)
  | shutdown (success : Bool)
  | task (task : SerializedTask)
  | timeout (d : DefaultModel)
  | ping
  | compile (response : CompilationResponse)
  | identify (success : Bool)
  | create (gameId : String)
  | exists (found : Bool)

/-- A websocket message on its way to a client. -/
inductive Message where
  | hello (id : Uuid)
  | error (error : ClientError)
  | forcedDisconnection
  | gameEvent (event : GameEvent)
  | response (response : Response)
  | ping (bytes : List UInt8)
  | pong (bytes : List UInt8)

structure Delivery where
  channel : SocketSender
  message : Message

end Grass
