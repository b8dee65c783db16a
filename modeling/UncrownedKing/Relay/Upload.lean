import UncrownedKing.Relay.Flow

/-!
# The upload of a flow

The session loop hands payloads to the flow's writer task through the command
channel. Every access to what the two share is a step.
-/

namespace UncrownedKing.Relay

open Lib

inductive UploadEvent
  | accepted (payload : Bytes)
  | wrote (bytes : Bytes)
  | shutdown
  deriving DecidableEq, Repr

/-- `drained` has found no command left and has yet to look at the flow's flags, `closedSeen` has
looked at the first. -/
inductive WriterStage
  | head
  | selecting
  | draining
  | received (command : TargetCommand) (draining : Bool)
  | writing (rest : Bytes) (draining : Bool)
  | drained
  | closedSeen
  | shuttingDown
  | ended (failed : Bool)
  deriving DecidableEq, Repr

inductive WriterChoice
  | go
  | aborted
  | command
  | shutdown
  | took (n : Nat)
  | failed
  deriving DecidableEq, Repr

def WriterStage.next (draining : Bool) : WriterStage := if draining then .draining else .head

def endWriter (link : TargetLink) (failed : Bool) : WriterStage × TargetLink × List UploadEvent :=
  (.ended failed, link.dropReceiver, [])

/-- Branches are polled one after the other, so a later one may win although an earlier one is
ready. A choice that does not fit changes nothing. -/
def writerStep (shutdown : Bool) (link : TargetLink) (stage : WriterStage)
    (choice : WriterChoice) : WriterStage × TargetLink × List UploadEvent :=
  match stage, choice with
  | .head, .go => if link.aborted then endWriter link false else (.selecting, link, [])
  | .selecting, .aborted => if link.aborted then endWriter link false else (stage, link, [])
  | .selecting, .command =>
    match link.queue with
    | command :: queue => (.received command false, { link with queue := queue }, [])
    | [] => if link.sender then (stage, link, []) else (.drained, link, [])
  | .selecting, .shutdown => if shutdown then (.draining, link, []) else (stage, link, [])
  | .draining, .go =>
    match link.queue with
    | command :: queue => (.received command true, { link with queue := queue }, [])
    | [] => (.drained, link, [])
  | .received (.data payload) draining, .go =>
    if link.aborted then endWriter link false else (.writing payload draining, link, [])
  | .received .close _, .go => (.shuttingDown, link.close, [])
  | .writing [] draining, .go => (.next draining, link, [])
  | .writing rest draining, .took n =>
    (.writing (rest.drop n) draining, link, [.wrote (rest.take n)])
  | .writing _ _, .aborted => if link.aborted then endWriter link false else (stage, link, [])
  | .writing _ _, .failed => endWriter link true
  | .drained, .go => if link.closed then (.closedSeen, link, []) else endWriter link false
  | .closedSeen, .go => if link.aborted then endWriter link false else (.shuttingDown, link, [])
  | .shuttingDown, .go => (.ended false, link.dropReceiver, [.shutdown])
  | .shuttingDown, .failed => (.ended true, link.dropReceiver, [.shutdown])
  | _, _ => (stage, link, [])

/-- `enqueuing` has found the flow open and has yet to send. -/
structure Upload where
  flow : TargetFlow
  link : TargetLink
  shutdown : Bool
  enqueuing : Option Bytes
  writer : WriterStage
  deriving DecidableEq, Repr

def Upload.start (flow : TargetFlow) : Upload := ⟨flow, .new, false, none, .head⟩

inductive UploadAction
  | checkOpen (payload : Bytes)
  | send (reserved : Bool)
  | closeClientToTarget
  | markClientToTargetClosed
  | markTargetToClientClosed
  | markTargetWriteClosed
  | abort
  | dropFlow
  | abortControl
  | closeSession
  | writer (choice : WriterChoice)
  deriving DecidableEq, Repr

def Upload.unlessEnqueuing (upload : Upload) (flow : TargetFlow) (link : TargetLink) :
    Upload × List UploadEvent :=
  match upload.enqueuing with
  | some _ => (upload, [])
  | none => ({ upload with flow := flow, link := link }, [])

def Upload.step (capacity : Nat) (upload : Upload) : UploadAction → Upload × List UploadEvent
  | .checkOpen payload =>
    if upload.enqueuing.isSome || upload.link.closed then (upload, [])
    else ({ upload with enqueuing := some payload }, [])
  | .send reserved =>
    match upload.enqueuing with
    | none => (upload, [])
    | some payload =>
      match upload.link.enqueueOpen capacity payload reserved with
      | (.ok _, link) => ({ upload with link := link, enqueuing := none }, [.accepted payload])
      | (.error _, link) => ({ upload with link := link, enqueuing := none }, [])
  | .closeClientToTarget =>
    let (flow, link) := upload.flow.closeClientToTarget capacity upload.link
    upload.unlessEnqueuing flow link
  | .markClientToTargetClosed =>
    let (flow, link) := upload.flow.markClientToTargetClosed upload.link
    upload.unlessEnqueuing flow link
  | .markTargetToClientClosed =>
    upload.unlessEnqueuing upload.flow.markTargetToClientClosed upload.link
  | .markTargetWriteClosed =>
    let (flow, link) := upload.flow.markTargetWriteClosed upload.link
    upload.unlessEnqueuing flow link
  | .abort =>
    let (flow, link) := upload.flow.abort capacity upload.link
    upload.unlessEnqueuing flow link
  | .dropFlow => upload.unlessEnqueuing upload.flow (upload.flow.drop upload.link)
  | .abortControl => ({ upload with link := upload.link.abort }, [])
  | .closeSession => ({ upload with shutdown := true }, [])
  | .writer choice =>
    let (writer, link, log) := writerStep upload.shutdown upload.link upload.writer choice
    ({ upload with writer := writer, link := link }, log)

def UploadEvent.acceptedBytes : UploadEvent → Bytes
  | .accepted payload => payload
  | _ => []

def UploadEvent.writtenBytes : UploadEvent → Bytes
  | .wrote bytes => bytes
  | _ => []

def acceptedUpload (log : List UploadEvent) : Bytes := log.flatMap UploadEvent.acceptedBytes

def writtenUpload (log : List UploadEvent) : Bytes := log.flatMap UploadEvent.writtenBytes

end UncrownedKing.Relay
