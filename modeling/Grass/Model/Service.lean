import Grass.Lib.Future

/-! The end of a server process: the race of its two tasks and its error channel
(`extended_select`, `Service::run`). -/

namespace Grass

open Future

universe u v w

variable {Event : Type u} {A B C : Type v} {α β γ : Type w}

/-- A race of three futures, gone once it is decided. -/
structure Select (A B C : Type v) where
  inner : Option (A × B × C)

def select (future1 : A) (future2 : B) (future3 : C) : Select A B C :=
  ⟨some (future1, future2, future3)⟩

/-- The futures are taken out, and put back where all of them are pending; taking them a
second time is a panic. -/
def Select.poll (pollA : Poller Event A α) (pollB : Poller Event B β) (pollC : Poller Event C γ) :
    Poller Event (Select A B C) (Option γ) := fun event self =>
  match self.inner with
  | none => none
  | some (a, b, c) =>
    match pollA event a with
    | none => none
    | some (.ready _, _) => some (.ready none, ⟨none⟩)
    | some (.pending, a) =>
      match pollB event b with
      | none => none
      | some (.ready _, _) => some (.ready none, ⟨none⟩)
      | some (.pending, b) =>
        match pollC event c with
        | none => none
        | some (.ready x, _) => some (.ready (some x), ⟨none⟩)
        | some (.pending, c) => some (.pending, ⟨some (a, b, c)⟩)

structure CriticalError where
  code : Int
deriving DecidableEq, Repr

/-- The error channel as its receiver finds it. -/
inductive Channel where
  | waiting
  | sent (error : CriticalError)
  | canceled
deriving DecidableEq, Repr

/-- What the process shows at a poll: which tasks have ended, in whichever way, and
the error channel. -/
structure Glimpse where
  websockets : Bool
  presence : Bool
  channel : Channel
deriving DecidableEq, Repr

/-- The handle of a spawned task; what the task ended with is not looked at. -/
def joinHandle (ended : Glimpse → Bool) : Poller Glimpse Unit Unit := fun glimpse _ =>
  some (if ended glimpse then .ready () else .pending, ())

/-- The receiving half of the channel: the error, or that the sender is gone. -/
def errorReceiver : Poller Glimpse Unit (Option CriticalError) := fun glimpse _ =>
  some (match glimpse.channel with
    | .waiting => .pending
    | .sent error => .ready (some error)
    | .canceled => .ready none, ())

/-- How `run` ends. -/
inductive Ending where
  | returned
  | canceled
  | exited (code : Int)
deriving DecidableEq, Repr

/-- The two halves of the error channel, as the service keeps them. -/
structure Service where
  sender : Option Unit
  receiver : Option Unit

namespace Service

def new : Service where
  sender := some ()
  receiver := some ()

/-- What `run` awaits, and the service it leaves; the unwrap of a receiver that has been
taken is a panic. -/
def run (service : Service) : Option (Select Unit Unit Unit × Service) :=
  service.receiver.map fun receiver => (select () () receiver, { service with receiver := none })

/-- What `run` does with the result of the race. -/
def conclude : Option (Option CriticalError) → Ending
  | some (some error) => .exited error.code
  | some none => .canceled
  | none => .returned

/-- What the rest of `run` comes to at these glimpses of its process. -/
def ends (running : Select Unit Unit Unit) (glimpses : List Glimpse) : Outcome Ending :=
  (outcome (Select.poll (joinHandle Glimpse.websockets) (joinHandle Glimpse.presence)
    errorReceiver) running glimpses).map conclude

end Service

end Grass
