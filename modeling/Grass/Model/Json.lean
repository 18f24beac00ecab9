import Mathlib.Algebra.Group.Int.Defs

/-! The JSON values the server's decoders read, and the decoding rules that the
derived `Deserialize` instances follow. -/

namespace Grass

/-- A parsed JSON document. Requests read no number but unsigned integers; the
others are kept by their text. -/
inductive Value where
  | null
  | bool (flag : Bool)
  | integer (value : Int)
  | float (text : String)
  | string (text : String)
  | array (items : List Value)
  | object (fields : List (String × Value))
deriving Inhabited

namespace Value

/-- A `serde_json` map keeps the last of several equal keys. -/
def field? (fields : List (String × Value)) (name : String) : Option Value :=
  (fields.reverse.find? (fun field => field.1 == name)).map Prod.snd

/-- The fields of a derived struct: by name from an object, in order from an
array of exactly that length. -/
def structFields (names : List String) : Value → Option (List Value)
  | .object fields => names.mapM (field? fields)
  | .array items => if items.length = names.length then some items else none
  | _ => none

def asString : Value → Option String
  | .string text => some text
  | _ => none

def asUsize : Value → Option Nat
  | .integer value => if 0 ≤ value ∧ value < 2 ^ 64 then some value.toNat else none
  | _ => none

/-- `Option<Value>`: an explicit null is no value. -/
def asOption : Value → Option Value
  | .null => none
  | value => some value

/-- A unit variant read from text: its name, or an object with that single key, given
once, and null. -/
def asVariant : Value → Option String
  | .string name => some name
  | .object [(name, .null)] => some name
  | _ => none

/-- A unit variant read from a `serde_json` value, whose map has kept one of several equal
keys, with the last of their contents. -/
def asMapVariant : Value → Option String
  | .string name => some name
  | .object fields =>
    match fields.getLast? with
    | some (name, .null) => if fields.all fun field => field.1 == name then some name else none
    | _ => none
  | _ => none

example : asVariant (.object [("Ping", .null), ("Ping", .null)]) = none := by decide
example : asMapVariant (.object [("Ping", .bool true), ("Ping", .null)]) = some "Ping" := by decide

end Value

/-- The outer operation codes (`models::OpCode`). -/
inductive OpCode where
  | hello
  | error
  | forcedDisconnection
  | gameEvent
  | request
  | response
deriving DecidableEq, Repr

def OpCode.ofName : String → Option OpCode
  | "Hello" => some .hello
  | "Error" => some .error
  | "ForcedDisconnection" => some .forcedDisconnection
  | "GameEvent" => some .gameEvent
  | "Request" => some .request
  | "Response" => some .response
  | _ => none

/-- `DefaultModel<Value>`, the layout of every message a client sends. -/
structure DefaultModel where
  op : OpCode
  d : Option Value

/-- Decoding from text: an unknown key is ignored, a repeated one is an error,
and an absent `d` is no value. -/
def DefaultModel.fromStr : Value → Option DefaultModel
  | .object fields =>
    if fields.countP (fun field => field.1 == "op") = 1 ∧
        fields.countP (fun field => field.1 == "d") ≤ 1 then do
      let op ← ((Value.field? fields "op").bind Value.asVariant).bind OpCode.ofName
      return { op, d := (Value.field? fields "d").bind Value.asOption }
    else none
  | .array [op, d] => do
    let op ← (Value.asVariant op).bind OpCode.ofName
    return { op, d := d.asOption }
  | _ => none

end Grass
