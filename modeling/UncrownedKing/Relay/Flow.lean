import UncrownedKing.Lib.Wire

/-!
# Established flows

A flow of the relay has a slot in the session's table, the loop's alone, and
tasks that share its control and its command channel.
-/

namespace UncrownedKing.Relay

open Lib

/-- An `AtomicU64` hands them out; a session makes fewer than `2 ^ 64` opens. -/
abbrev FlowToken := Nat

abbrev Socket := Nat

inductive TargetCommand
  | data (payload : Bytes)
  | close
  deriving DecidableEq, Repr

inductive TrySendError
  | closed
  | full
  deriving DecidableEq, Repr

inductive EnqueueError
  | closed
  | resourceLimit
  deriving DecidableEq, Repr

/-- `sender` is the slot's end of the channel, `receiver` the writer's. -/
structure TargetLink where
  closed : Bool
  aborted : Bool
  sender : Bool
  receiver : Bool
  queue : List TargetCommand
  deriving DecidableEq, Repr

namespace TargetLink

def new : TargetLink := ⟨false, false, true, true, []⟩

def close (link : TargetLink) : TargetLink := { link with closed := true }

def abort (link : TargetLink) : TargetLink := { link with aborted := true, closed := true }

def trySend (capacity : Nat) (command : TargetCommand) (link : TargetLink) :
    Except TrySendError TargetLink :=
  if !link.receiver then .error .closed
  else if capacity ≤ link.queue.length then .error .full
  else .ok { link with queue := link.queue ++ [command] }

def closeQueue (capacity : Nat) (link : TargetLink) : TargetLink :=
  let link := link.close
  if link.sender then
    match link.trySend capacity .close with
    | .ok link => link
    | .error _ => { link with sender := false }
  else link

def enqueueOpen (capacity : Nat) (payload : Bytes) (reserved : Bool) (link : TargetLink) :
    Except EnqueueError Unit × TargetLink :=
  if !reserved then (.error .resourceLimit, link.closeQueue capacity)
  else if !link.sender then (.error .closed, link)
  else
    match link.trySend capacity (.data payload) with
    | .ok link => (.ok (), link)
    | .error .closed => (.error .closed, link)
    | .error .full => (.error .resourceLimit, link.closeQueue capacity)

def enqueueData (capacity : Nat) (payload : Bytes) (reserved : Bool) (link : TargetLink) :
    Except EnqueueError Unit × TargetLink :=
  if link.closed then (.error .closed, link) else link.enqueueOpen capacity payload reserved

def dropReceiver (link : TargetLink) : TargetLink := { link with receiver := false, queue := [] }

end TargetLink

def targetWriteQueueMinCapacity : Nat := 64
def targetWriteQueueMaxCapacity : Nat := 8192
def targetWriteQueueNominalFrameBytes : Nat := 1024

def targetWriteQueueCapacity (maxBufferedBytesPerFlow : Nat) : Nat :=
  max targetWriteQueueMinCapacity
    (min targetWriteQueueMaxCapacity
      (maxBufferedBytesPerFlow / targetWriteQueueNominalFrameBytes))

/-- `origin` is the token of the flow's open and `stream` its connection; the code keeps neither.
-/
structure TargetFlow where
  token : FlowToken
  targetToClientOpen : Bool
  clientToTargetOpen : Bool
  targetWriteOpen : Bool
  halfCloseTimer : Option Nat
  flowPermit : Option Nat
  origin : FlowToken
  stream : Socket
  deriving DecidableEq, Repr

namespace TargetFlow

variable (flow : TargetFlow)

def new (token : FlowToken) (flowPermit : Option Nat) (origin : FlowToken) (stream : Socket) :
    TargetFlow :=
  ⟨token, true, true, true, none, flowPermit, origin, stream⟩

def closeClientToTarget (capacity : Nat) (flow : TargetFlow) (link : TargetLink) :
    TargetFlow × TargetLink :=
  if flow.clientToTargetOpen then
    ({ flow with clientToTargetOpen := false }, link.closeQueue capacity)
  else (flow, link)

def abort (capacity : Nat) (flow : TargetFlow) (link : TargetLink) : TargetFlow × TargetLink :=
  ({ flow with
      halfCloseTimer := none
      targetToClientOpen := false
      clientToTargetOpen := false
      targetWriteOpen := false },
    link.abort.closeQueue capacity)

def markTargetToClientClosed : TargetFlow :=
  { flow with targetToClientOpen := false }

def markClientToTargetClosed (link : TargetLink) : TargetFlow × TargetLink :=
  ({ flow with clientToTargetOpen := false }, link.close)

def markTargetWriteClosed (link : TargetLink) : TargetFlow × TargetLink :=
  ({ flow with clientToTargetOpen := false, targetWriteOpen := false }, link.close)

def isRemovable : Bool :=
  !flow.targetToClientOpen && !flow.clientToTargetOpen && !flow.targetWriteOpen

def isFullyClosed : Bool := !flow.targetToClientOpen && !flow.clientToTargetOpen

/-- What dropping the slot leaves of the link. -/
def drop (link : TargetLink) : TargetLink :=
  if flow.isFullyClosed then { link with sender := false }
  else { link.abort with sender := false }

end TargetFlow

end UncrownedKing.Relay
