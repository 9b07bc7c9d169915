import Ev2Reader.Apdu.Response
import Ev2Reader.Notice

/-!
# Transports

A transport carries messages to the tag, one at a time, and brings back its answer or fails.
Nothing is assumed of it: it may answer anything.
-/

namespace Ev2Reader

/-- A **transport** with states `τ` and failures `ε`. -/
class Transport (τ : Type) (ε : outParam Type) where
  /-- Sends a message and waits for the answer. -/
  transmit : τ → Bytes → Except ε Response × τ

/-- What can go wrong in a session. -/
inductive SessionFault (ε : Type) where
  /-- The transport failed. -/
  | transport (failure : ε)
  /-- Something went wrong between reader and tag. -/
  | internal (fault : Fault)
deriving DecidableEq

/-- The text of a fault, given the text of the transport's failures. -/
def SessionFault.text {ε : Type} (failureText : ε → String) : SessionFault ε → String
  | transport failure => "Transport error: " ++ failureText failure ++ "."
  | internal fault => "Internal error: " ++ fault.text

/-- What happens in a session: the reader notes something down, or a message goes out and is
answered. -/
inductive Event (ε : Type) where
  /-- The reader notes something down. -/
  | note (notice : Notice)
  /-- A message and its answer, or the failure in place of one. -/
  | exchange (message : Bytes) (answer : Except ε Response)

namespace Event

variable {ε : Type}

/-- The notice of an event, if it is one. -/
def notice? : Event ε → Option Notice
  | note notice => some notice
  | exchange _ _ => none

/-- The message of an event, if it is one. -/
def message? : Event ε → Option Bytes
  | note _ => none
  | exchange message _ => some message

/-- The notices among events. -/
def notices (events : List (Event ε)) : List Notice :=
  events.filterMap notice?

/-- The messages among events. -/
def messages (events : List (Event ε)) : List Bytes :=
  events.filterMap message?

/-- The notices of two lists one after the other. -/
@[simp] theorem notices_append (events events' : List (Event ε)) :
    notices (events ++ events') = notices events ++ notices events' :=
  List.filterMap_append

/-- The messages of two lists one after the other. -/
@[simp] theorem messages_append (events events' : List (Event ε)) :
    messages (events ++ events') = messages events ++ messages events' :=
  List.filterMap_append

/-- Notices are no messages. -/
@[simp] theorem messages_map_note (notices : List Notice) :
    messages (notices.map note : List (Event ε)) = [] := by
  induction notices with
  | nil => rfl
  | cons notice notices ih => exact ih

/-- The notices among notices are all of them. -/
@[simp] theorem notices_map_note (ns : List Notice) :
    notices (ns.map note : List (Event ε)) = ns := by
  induction ns with
  | nil => rfl
  | cons n ns ih => exact congrArg (n :: ·) ih

end Event

end Ev2Reader
