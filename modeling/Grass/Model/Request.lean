import Grass.Model.Message

namespace Grass

inductive RequestOpCode where
  | join
  | leave
  | start
  | task
  | compile
  | ping
  | identify
  | create
  | exists
deriving DecidableEq, Repr

def RequestOpCode.ofName : String → Option RequestOpCode
  | "Join" => some .join
  | "Leave" => some .leave
  | "Start" => some .start
  | "Task" => some .task
  | "Compile" => some .compile
  | "Ping" => some .ping
  | "Identify" => some .identify
  | "Create" => some .create
  | "Exists" => some .exists
  | _ => none

structure Request where
  d : Option Value
  op : RequestOpCode

def Request.fromValue : Value → Option Request
  | .object fields => do
    let op ← ((Value.field? fields "op").bind Value.asMapVariant).bind RequestOpCode.ofName
    return { d := (Value.field? fields "d").bind Value.asOption, op }
  | .array [d, op] => do
    let op ← op.asMapVariant.bind RequestOpCode.ofName
    return { d := d.asOption, op }
  | _ => none

structure JoinRequest where
  gameId : String

structure StartRequest where
  taskCount : Nat

structure TaskRequest where
  taskIndex : Nat

structure CompileRequest where
  code : String
  taskIndex : Nat

structure IdentifyRequest where
  nickname : String

structure CreateRequest where

structure ExistsRequest where
  gameId : String

/-- A request with one string field. -/
def oneString (name : String) (value : Value) : Option String :=
  match value.structFields [name] with
  | some [field] => field.asString
  | _ => none

/-- A request with one unsigned integer field. -/
def oneUsize (name : String) (value : Value) : Option Nat :=
  match value.structFields [name] with
  | some [field] => field.asUsize
  | _ => none

def JoinRequest.fromValue (value : Value) : Option JoinRequest :=
  (oneString "game_id" value).map JoinRequest.mk

def StartRequest.fromValue (value : Value) : Option StartRequest :=
  (oneUsize "task_count" value).map StartRequest.mk

def TaskRequest.fromValue (value : Value) : Option TaskRequest :=
  (oneUsize "task_index" value).map TaskRequest.mk

def IdentifyRequest.fromValue (value : Value) : Option IdentifyRequest :=
  (oneString "nickname" value).map IdentifyRequest.mk

def ExistsRequest.fromValue (value : Value) : Option ExistsRequest :=
  (oneString "game_id" value).map ExistsRequest.mk

def CompileRequest.fromValue (value : Value) : Option CompileRequest :=
  match value.structFields ["code", "task_index"] with
  | some [code, taskIndex] => do
    return { code := ← code.asString, taskIndex := ← taskIndex.asUsize }
  | _ => none

def CreateRequest.fromValue (value : Value) : Option CreateRequest :=
  (value.structFields []).map fun _ => {}

example : (oneString "game_id" (.object [("game_id", .string "17")])) = some "17" := by decide

end Grass
