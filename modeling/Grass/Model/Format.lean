import Grass.Model.Request

namespace Grass

def OpCode.name : OpCode → String
  | .hello => "Hello"
  | .error => "Error"
  | .forcedDisconnection => "ForcedDisconnection"
  | .gameEvent => "GameEvent"
  | .request => "Request"
  | .response => "Response"

@[simp] theorem OpCode.ofName_name (op : OpCode) : ofName op.name = some op := by
  cases op <;> rfl

def RequestOpCode.name : RequestOpCode → String
  | .join => "Join"
  | .leave => "Leave"
  | .start => "Start"
  | .task => "Task"
  | .compile => "Compile"
  | .ping => "Ping"
  | .identify => "Identify"
  | .create => "Create"
  | .exists => "Exists"

@[simp] theorem RequestOpCode.ofName_name (op : RequestOpCode) : ofName op.name = some op := by
  cases op <;> rfl

namespace Value

def usize (value : Nat) : Value := .integer value

/-- An `Option`: no value is null. -/
def option (value : Option Value) : Value := value.getD .null

end Value

/-- `DefaultModel<T>`, its payload written already. -/
def DefaultModel.document (model : DefaultModel) : Value :=
  .object [("op", .string model.op.name), ("d", .option model.d)]

def Request.document (request : Request) : Value :=
  .object [("d", .option request.d), ("op", .string request.op.name)]

def JoinRequest.document (request : JoinRequest) : Value :=
  .object [("game_id", .string request.gameId)]

def StartRequest.document (request : StartRequest) : Value :=
  .object [("task_count", .usize request.taskCount)]

def TaskRequest.document (request : TaskRequest) : Value :=
  .object [("task_index", .usize request.taskIndex)]

def CompileRequest.document (request : CompileRequest) : Value :=
  .object [("code", .string request.code), ("task_index", .usize request.taskIndex)]

def IdentifyRequest.document (request : IdentifyRequest) : Value :=
  .object [("nickname", .string request.nickname)]

def CreateRequest.document (_ : CreateRequest) : Value := .object []

def ExistsRequest.document (request : ExistsRequest) : Value :=
  .object [("game_id", .string request.gameId)]

inductive ResponseOpCode where
  | join
  | leave
  | shutdown
  | task
  | timeout
  | ping
  | compile
  | identify
  | create
  | exists
deriving DecidableEq, Repr

def ResponseOpCode.name : ResponseOpCode → String
  | .join => "Join"
  | .leave => "Leave"
  | .shutdown => "Shutdown"
  | .task => "Task"
  | .timeout => "Timeout"
  | .ping => "Ping"
  | .compile => "Compile"
  | .identify => "Identify"
  | .create => "Create"
  | .exists => "Exists"

inductive GameEventOpCode where
  | shutdown
  | start
  | task
  | taskFinished
  | connectedClient
  | disconnectedClient
deriving DecidableEq, Repr

def GameEventOpCode.name : GameEventOpCode → String
  | .shutdown => "Shutdown"
  | .start => "Start"
  | .task => "Task"
  | .taskFinished => "TaskFinished"
  | .connectedClient => "ConnectedClient"
  | .disconnectedClient => "DisconnectedClient"

def TestCase.document (test : TestCase) : Value :=
  .object [("stdin", .string test.stdin), ("expected", .string test.expected), ("id", .usize test.id)]

/-- An enum variant with a text, or without. -/
def ClientError.document : ClientError → Value
  | .invalidMessage text => .object [("InvalidMessage", .string text)]
  | .clientDoesNotExist text => .object [("ClientDoesNotExist", .string text)]
  | .alreadyInGame text => .object [("AlreadyInGame", .string text)]
  | .notInGame text => .object [("NotInGame", .string text)]
  | .internalServerError text => .object [("InternalServerError", .string text)]
  | .notGameHost text => .object [("NotGameHost", .string text)]
  | .noDataWithOpCode text => .object [("NoDataWithOpCode", .string text)]
  | .compilationError text => .object [("CompilationError", .string text)]
  | .outOfRangeTask => .string "OutOfRangeTask"
  | .noGameWasFound => .string "NoGameWasFound"
  | .gameNotStarted => .string "GameNotStarted"
  | .gameAlreadyStarted => .string "GameAlreadyStarted"
  | .clientNotIdentified => .string "ClientNotIdentified"
  | .invalidGameId => .string "InvalidGameID"
  | .invalidOpCode => .string "InvalidOpCode"
  | .parsingError => .string "ParsingError"
  | .sendError => .string "SendError"

def PublicTestProgress.document (progress : PublicTestProgress) : Value :=
  .object [("test_index", .usize progress.testIndex), ("succeeded", .bool progress.succeeded),
    ("stdout", .string progress.stdout), ("expected", .string progress.expected)]

def CompilationResponse.document (response : CompilationResponse) : Value :=
  .object [("task_index", .usize response.taskIndex),
    ("public_test_progress", .array (response.publicTestProgress.map PublicTestProgress.document)),
    ("is_done", .bool response.isDone), ("is_done_public_tests", .bool response.isDonePublicTests),
    ("is_done_private_tests", .bool response.isDonePrivateTests),
    ("stderr", .string response.stderr)]

section Uuid

-- how an id is written
variable (uuid : Uuid → String)

def SerializedTask.document (task : SerializedTask) : Value :=
  .object [("task_id", .string (uuid task.taskId)), ("question", .string task.question),
    ("public_test_cases", .array (task.publicTestCases.map TestCase.document))]

def GameEvent.opCode : GameEvent → GameEventOpCode
  | .shutdown => .shutdown
  | .start _ => .start
  | .taskFinished _ _ _ => .taskFinished
  | .connectedClient _ _ _ => .connectedClient
  | .disconnectedClient _ _ => .disconnectedClient

def GameEvent.payload : GameEvent → Value
  | .shutdown => .object []
  | .start taskCount => .object [("task_count", .usize taskCount)]
  | .taskFinished task taskIndex clientId => .object [("task", task.document uuid),
      ("task_index", .usize taskIndex), ("client_id", .string (uuid clientId))]
  | .connectedClient gameId clientId nickname => .object [("game_id", .string gameId),
      ("client_id", .string (uuid clientId)), ("nickname", .string nickname)]
  | .disconnectedClient gameId clientId => .object [("game_id", .string gameId),
      ("client_id", .string (uuid clientId))]

def GameEvent.document (event : GameEvent) : Value :=
  .object [("event", event.payload uuid), ("op", .string event.opCode.name)]

def Response.opCode : Response → ResponseOpCode
  | .join _ _ _ => .join
  | .leave _ => .leave
  | .shutdown _ => .shutdown
  | .task _ => .task
  | .timeout _ => .timeout
  | .ping => .ping
  | .compile _ => .compile
  | .identify _ => .identify
  | .create _ => .create
  | .exists _ => .exists

def Response.payload : Response → Value
  | .join gameId isHost success => .object [("game_id", .string gameId), ("is_host", .bool isHost),
      ("success", .bool success)]
  | .leave success => .object [("success", .bool success)]
  | .shutdown success => .object [("success", .bool success)]
  | .task sent => .object [("task", sent.document uuid)]
  | .timeout d => .object [("d", d.document)]
  | .ping => .object []
  | .compile response => response.document
  | .identify success => .object [("success", .bool success)]
  | .create gameId => .object [("game_id", .string gameId)]
  | .exists found => .object [("exists", .bool found)]

/-- Every response is sent with its payload. -/
def Response.document (response : Response) : Value :=
  .object [("d", response.payload uuid), ("op", .string response.opCode.name)]

/-- The frame of a message: its document as text, or a frame without one. -/
inductive Outgoing where
  | text (document : Value)
  | ping (bytes : List UInt8)
  | pong (bytes : List UInt8)

def Message.frame : Message → Outgoing
  | .hello id => .text (DefaultModel.document ⟨.hello, some (.object [("id", .string (uuid id))])⟩)
  | .error cause => .text (DefaultModel.document ⟨.error, some cause.document⟩)
  | .forcedDisconnection => .text (DefaultModel.document ⟨.forcedDisconnection, some (.object [])⟩)
  | .gameEvent event => .text (DefaultModel.document ⟨.gameEvent, some (event.document uuid)⟩)
  | .response answer => .text (DefaultModel.document ⟨.response, some (answer.document uuid)⟩)
  | .ping bytes => .ping bytes
  | .pong bytes => .pong bytes

end Uuid

end Grass
