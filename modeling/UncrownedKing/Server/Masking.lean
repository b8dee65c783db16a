import UncrownedKing.Server.Connection
import UncrownedKing.Server.Runtime

/-!
# The admission gate

Reads a prelude off a TCP stream before the TLS acceptor sees it. A rejected
connection is read on silently for a while.
-/

namespace UncrownedKing.Server

open Lib Net Mask

def drainMaxReads : Nat := 64

def drainEnd (stop : Instant) (reads : Nat) : List (Instant × Bool) → Instant
  | [] => stop
  | (at', more) :: rest =>
    if stop ≤ at' then stop
    else if !more || reads + 1 ≥ drainMaxReads then at'
    else drainEnd stop (reads + 1) rest

def silentDrain (world : World) (budget : Duration) : ConnectionM Unit := do
  let start ← Timed.clock
  match start.checkedAdd budget with
  | none => Timed.halt
  | some deadline =>
    let due := world.timers.seen deadline
    let stop := world.shutdown.elim due (min due)
    Timed.await (some (drainEnd stop 0 world.drained, ()))

inductive RejectKind
  | prelude
  | replay

def RejectKind.event : RejectKind → ConnectionEvent
  | .prelude => .maskPreludeReject
  | .replay => .maskReplayReject

def drainWithin (world : World) : Option Duration → ConnectionM Unit
  | some budget => silentDrain world budget
  | none => pure ()

def rejectMasked (world : World) (drainBudget : Option Duration) (kind : RejectKind)
    (reason : String) : ConnectionM (Except String CarrierStream) := do
  Timed.emit kind.event
  Timed.emit (.failedHandshake .auth)
  Timed.emit (.recordFailure world.peer.ip)
  drainWithin world drainBudget
  pure (.error reason)

def judgePrelude (hmac : Hmac) (world : World) (maskKeys : List MaskKeys)
    (admissionTimeout : Duration) :
    Option (Except IoError (Bytes × TcpStream)) → ConnectionM (Except String CarrierStream)
  | none | some (.error _) => rejectMasked world none .prelude "masking prelude read failed"
  | some (.ok (wire, tcp)) =>
    let prelude := wire.take preludeLen
    let nonce := wire.drop preludeLen
    match verifyPrelude hmac maskKeys prelude nonce with
    | none => rejectMasked world (some admissionTimeout) .prelude "masking prelude rejected"
    | some (keys, authenticated) =>
      let pending := (authenticated.identity, authenticated.counter)
      if world.registry.precheck authenticated.identity authenticated.counter then
        pure (.ok (.masked (.new pending) keys nonce tcp))
      else rejectMasked world (some admissionTimeout) .replay "masking prelude replayed"

/-- `MaskingState::admit`. -/
def admitTcp (hmac : Hmac) (world : World) (maskKeys : List MaskKeys)
    (admissionTimeout : Duration) : ConnectionM (Except String CarrierStream) := do
  Timed.emit .prelude
  let read ← Timed.timeout world.timers admissionTimeout
    (Timed.await (world.tcp.readExact (preludeLen + nonceLen)))
  judgePrelude hmac world maskKeys admissionTimeout read

end UncrownedKing.Server
