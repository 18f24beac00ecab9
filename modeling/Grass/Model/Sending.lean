import Mathlib.Data.List.AList
import Grass.Model.Message

/-! Results of source functions, sends on client channels, and the records of a
game's participants. -/

namespace Grass

/-- How a Rust call ends: a `Result`, or a panic. -/
inductive Exit (ε α : Type) where
  | ok (value : α)
  | err (error : ε)
  | panic
deriving DecidableEq, Repr

/-- A result together with the messages enqueued on the way to it. -/
structure Sending (ε α : Type) where
  exit : Exit ε α
  sent : List Delivery

namespace Sending

instance : Monad (Sending ε) where
  pure value := ⟨.ok value, []⟩
  bind first next :=
    match first.exit with
    | .ok value => ⟨(next value).exit, first.sent ++ (next value).sent⟩
    | .err error => ⟨.err error, first.sent⟩
    | .panic => ⟨.panic, first.sent⟩

/-- `let _ = …`, or a logged error: only a panic stops the caller. -/
def ignore (sending : Sending ε α) : Sending ε' Unit :=
  match sending.exit with
  | .panic => ⟨.panic, sending.sent⟩
  | _ => ⟨.ok (), sending.sent⟩

@[simp] theorem pure_exit (value : α) : (pure value : Sending ε α).exit = .ok value := rfl

@[simp] theorem pure_sent (value : α) : (pure value : Sending ε α).sent = [] := rfl

theorem bind_exit_ok {first : Sending ε α} (next : α → Sending ε β)
    (finished : first.exit = .ok value) : (first >>= next).exit = (next value).exit := by
  simp [bind, finished]

theorem bind_sent_ok {first : Sending ε α} (next : α → Sending ε β)
    (finished : first.exit = .ok value) :
    (first >>= next).sent = first.sent ++ (next value).sent := by
  simp [bind, finished]

@[simp] theorem ignore_sent (sending : Sending ε α) :
    (ignore sending : Sending ε' Unit).sent = sending.sent := by
  unfold ignore
  split <;> rfl

theorem ignore_exit {sending : Sending ε α} (calm : sending.exit ≠ .panic) :
    (ignore sending : Sending ε' Unit).exit = .ok () := by
  unfold ignore
  split
  · contradiction
  · rfl

theorem ignore_ne_err (sending : Sending ε α) (error : ε') :
    (ignore sending : Sending ε' Unit).exit ≠ .err error := by
  unfold ignore
  split <;> simp

theorem bind_ne_err {first : Sending ε α} {next : α → Sending ε β} {error : ε}
    (calm : first.exit ≠ .err error) (later : ∀ value, (next value).exit ≠ .err error) :
    (first >>= next).exit ≠ .err error := by
  simp only [bind]
  split
  · exact later _
  · simp_all
  · simp

end Sending

/-- `task_progress`: finished or not, by task index. -/
abbrev Progress := AList (fun _ : Nat => Bool)

structure PartialClient where
  id : Uuid
  nickname : String
  shardId : ShardId
  isLocal : Bool
  writeChannel : Option SocketSender
  taskProgress : Option Progress

namespace PartialClient

def new (id : Uuid) (nickname : String) (shardId : ShardId) (isLocal : Bool)
    (writeChannel : Option SocketSender) : PartialClient :=
  { id, nickname, shardId, isLocal, writeChannel, taskProgress := none }

/-- Only local clients are written to; sending fails on a closed channel, and
unwrapping an absent one panics. -/
def sendMessage (closed : SocketSender → Bool) (client : PartialClient) (message : Message) :
    Sending ClientError Unit :=
  if client.isLocal then
    match client.writeChannel with
    | none => ⟨.panic, []⟩
    | some channel =>
      if closed channel then ⟨.err .sendError, []⟩ else ⟨.ok (), [⟨channel, message⟩]⟩
  else pure ()

/-- A local client has the channel that `sendMessage` unwraps. -/
def Wired (client : PartialClient) : Prop :=
  client.isLocal = true → client.writeChannel ≠ none

theorem sendMessage_calm {client : PartialClient} (wired : client.Wired)
    (closed : SocketSender → Bool) (message : Message) :
    (client.sendMessage closed message).exit ≠ .panic := by
  unfold sendMessage
  split
  · rename_i isLocal
    split
    · rename_i missing
      exact absurd missing (wired isLocal)
    · split <;> simp
  · simp

end PartialClient

/-- Send to one recipient after another; a failure does not stop the others. -/
def sendAll (closed : SocketSender → Bool) : List (PartialClient × Message) → Sending ε Unit
  | [] => pure ()
  | (client, message) :: rest => do
    (client.sendMessage closed message).ignore
    sendAll closed rest

theorem sendAll_ne_err (closed : SocketSender → Bool) (batch : List (PartialClient × Message))
    (error : ε) : (sendAll closed batch : Sending ε Unit).exit ≠ .err error := by
  induction batch with
  | nil => simp [sendAll]
  | cons item rest ih =>
    exact Sending.bind_ne_err (Sending.ignore_ne_err _ error) fun _ => ih

/-- To wired recipients every message is tried, and all open channels get theirs. -/
theorem sendAll_wired (closed : SocketSender → Bool) (batch : List (PartialClient × Message))
    (wired : ∀ item ∈ batch, item.1.Wired) :
    (sendAll closed batch : Sending ε Unit).exit = .ok () ∧
      (sendAll closed batch : Sending ε Unit).sent =
        batch.flatMap fun item => (item.1.sendMessage closed item.2).sent := by
  induction batch with
  | nil => simp [sendAll]
  | cons item rest ih =>
    obtain ⟨client, message⟩ := item
    have calm := PartialClient.sendMessage_calm (wired (client, message) (by simp)) closed message
    have finished : ((client.sendMessage closed message).ignore : Sending ε Unit).exit = .ok () :=
      Sending.ignore_exit calm
    obtain ⟨restExit, restSent⟩ := ih (fun other member => wired other (by simp [member]))
    rw [sendAll]
    refine ⟨(Sending.bind_exit_ok _ finished).trans restExit, ?_⟩
    rw [Sending.bind_sent_ok _ finished, Sending.ignore_sent, restSent, List.flatMap_cons]

/-- `connected_clients`: the participants of a game other than its host. -/
abbrev Roster := AList (fun _ : Uuid => PartialClient)

namespace Roster

def toList (roster : Roster) : List (Uuid × PartialClient) :=
  roster.entries.map fun entry => (entry.1, entry.2)

/-- `values_mut`: change every participant in place. -/
def mapValues (change : PartialClient → PartialClient) (roster : Roster) : Roster where
  entries := roster.entries.map fun entry => ⟨entry.1, change entry.2⟩
  nodupKeys := by
    have keys : (roster.entries.map fun entry =>
        (⟨entry.1, change entry.2⟩ : Sigma fun _ : Uuid => PartialClient)).keys =
        roster.entries.keys := by
      simp [List.keys]
    rw [List.NodupKeys, keys]
    exact roster.nodupKeys

theorem mem_toList {roster : Roster} {id : Uuid} {client : PartialClient} :
    (id, client) ∈ roster.toList ↔ roster.lookup id = some client := by
  have found : ⟨id, client⟩ ∈ roster.entries ↔ roster.lookup id = some client :=
    (List.mem_dlookup_iff roster.nodupKeys).symm
  rw [← found]
  constructor
  · intro member
    obtain ⟨entry, present, same⟩ := List.mem_map.mp member
    cases same
    exact present
  · intro present
    exact List.mem_map.mpr ⟨⟨id, client⟩, present, rfl⟩

@[simp] theorem lookup_mapValues (change : PartialClient → PartialClient) (roster : Roster)
    (id : Uuid) : (roster.mapValues change).lookup id = (roster.lookup id).map change :=
  List.dlookup_map₂ (f := fun _ => change) id

@[simp] theorem mem_mapValues (change : PartialClient → PartialClient) (roster : Roster)
    (id : Uuid) : id ∈ roster.mapValues change ↔ id ∈ roster := by
  rw [← AList.lookup_isSome, ← AList.lookup_isSome, lookup_mapValues, Option.isSome_map]

end Roster

end Grass
