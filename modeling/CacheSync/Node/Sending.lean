import CacheSync.Channel.Hub
import CacheSync.Node.Core
import CacheSync.Node.Error

/-!
# Sendings

A sending takes one event from its configuration to the subscribers of the hub.  It may be held
at a gate, it may have to recover the channel in between, and it hands its message to one
subscriber after another.  What it does next is its stage.
-/

namespace CacheSync

namespace Job

def hash (job : Job) : UInt64 :=
  job.event.hash

end Job

/-- The members of the hub of a cluster. -/
inductive Member where
  | node (index : Nat)
  /-- Sees every message. -/
  | observer
  /-- Sends messages of its own and receives none. -/
  | outsider
  deriving DecidableEq

/-- Messages on their way to the subscribers that are left. -/
structure Spread where
  message : Message
  left : List Member
  /-- Whether the first of them was found without room. -/
  waited : Bool

/-- What a sending does next. -/
inductive SendStage where
  | encoding
  /-- Call the channel. -/
  | calling (message : Message)
  /-- Wait for the gate. -/
  | held (message : Message)
  | spreading (spread : Spread)
  /-- Go on with the recovery of the channel. -/
  | recovering (message : Message)

/-- An event that is being sent. -/
structure Sending where
  job : Job
  /-- The recovery this sending is in, once it has lost the channel. -/
  recovery : Option RecoveryCall
  stage : SendStage

namespace Sending

def ofJob (job : Job) : Sending :=
  ⟨job, none, .encoding⟩

def atStage (sending : Sending) (stage : SendStage) : Sending :=
  { sending with stage := stage }

def wakeTime? (sending : Sending) : Option Moment :=
  match sending.recovery with
  | none => none
  | some call =>
      match call.phase with
      | .waiting _ wake => wake
      | _ => none

def isRecovering (sending : Sending) : Bool :=
  match sending.recovery with
  | none => false
  | some call =>
      match call.phase with
      | .ended _ => false
      | _ => true

def sentMarks (job : Job) : List Mark :=
  [.produced, .sent job.config.name]

end Sending
end CacheSync
