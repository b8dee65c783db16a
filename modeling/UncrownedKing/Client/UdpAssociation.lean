import UncrownedKing.Client.Socks5
import UncrownedKing.Client.UdpRelay

/-!
# The local side of a UDP association

The first datagram taken fixes the client's address. Every target has a worker,
and every flow a relay that sends to the address known when the worker was
spawned. What becomes of a datagram on its flow is in `UdpRelay`.
-/

namespace UncrownedKing.Net

def Ipv6Addr.toIpv4Mapped (ip : Ipv6Addr) : Option Ipv4Addr :=
  if ip.s0 = 0 ∧ ip.s1 = 0 ∧ ip.s2 = 0 ∧ ip.s3 = 0 ∧ ip.s4 = 0 ∧ ip.s5 = 0xffff then
    some (.new (ip.s6 >>> 8).toUInt8 ip.s6.toUInt8 (ip.s7 >>> 8).toUInt8 ip.s7.toUInt8)
  else none

def IpAddr.isUnspecified : IpAddr → Bool
  | .v4 ip => ip.isUnspecified
  | .v6 ip => ip.isUnspecified

end UncrownedKing.Net

namespace UncrownedKing.Client

open Lib Net Proto Socks5

def canonicalIp : IpAddr → IpAddr
  | .v6 addr => (addr.toIpv4Mapped.map .v4).getD (.v6 addr)
  | .v4 addr => .v4 addr

def ipMatches (left right : IpAddr) : Bool := canonicalIp left = canonicalIp right

def matchesRequestedPort (peer : SocketAddr) (requestedPort : UInt16) : Bool :=
  requestedPort = 0 || peer.port = requestedPort

/-- Whom the association takes datagrams from. -/
structure UdpClientEndpoint where
  requested : SocksEndpoint
  controlPeerIp : IpAddr
  learned : Option SocketAddr
  deriving DecidableEq, Repr

namespace UdpClientEndpoint

def new (requested : SocksEndpoint) (controlPeerIp : IpAddr) : UdpClientEndpoint :=
  ⟨requested, controlPeerIp, none⟩

def matchesSourceIp (endpoint : UdpClientEndpoint) (peer : SocketAddr)
    (requestedIp : Option IpAddr) : Bool :=
  match requestedIp with
  | some requestedIp =>
    if !requestedIp.isUnspecified then ipMatches peer.ip requestedIp
    else ipMatches peer.ip endpoint.controlPeerIp
  | none => ipMatches peer.ip endpoint.controlPeerIp

def matchesRequested (endpoint : UdpClientEndpoint) (peer : SocketAddr) : Bool :=
  match endpoint.requested with
  | .ipv4 addr port =>
    endpoint.matchesSourceIp peer (some (.v4 addr)) && matchesRequestedPort peer port
  | .ipv6 addr port =>
    endpoint.matchesSourceIp peer (some (.v6 addr)) && matchesRequestedPort peer port
  | .domain _ port => endpoint.matchesSourceIp peer none && matchesRequestedPort peer port

def accepts (endpoint : UdpClientEndpoint) (peer : SocketAddr) : Bool × UdpClientEndpoint :=
  if !endpoint.matchesRequested peer then (false, endpoint)
  else
    match endpoint.learned with
    | some learned => (learned = peer, endpoint)
    | none => (true, { endpoint with learned := some peer })

end UdpClientEndpoint

/-- It sends what is queued for one target. -/
structure TargetWorker where
  target : Target
  clientEndpoint : SocketAddr
  queue : List Bytes
  sending : Option Bytes := none
  ended : Bool := false
  deriving DecidableEq, Repr

/-- It returns the datagrams of a flow to the client. -/
structure InboundRelay where
  target : Target
  clientEndpoint : SocketAddr
  ended : Bool := false
  deriving DecidableEq, Repr

structure UdpAssociation where
  clientEndpoint : UdpClientEndpoint
  /-- The index of the worker at the other end of a target's queue. -/
  senders : List (Target × Nat) := []
  workers : List TargetWorker := []
  relays : List InboundRelay := []
  closed : Bool := false
  deriving DecidableEq, Repr

inductive TargetWorkerInput
  | receive
  | opened (maxPayloadLen : Nat)
  | done
  | stop
  deriving DecidableEq, Repr

inductive InboundRelayInput
  | frame (frame : Frame) (sent : Bool)
  | stop
  deriving DecidableEq, Repr

inductive AssociationInput
  | datagram (peer : SocketAddr) (packet : Bytes) (maxPayloadLen : Option Nat)
  | worker (w : Nat) (input : TargetWorkerInput)
  | relay (r : Nat) (input : InboundRelayInput)
  | close
  deriving DecidableEq, Repr

inductive AssociationEvent
  | accepted (peer : SocketAddr)
  | sentTo (client : SocketAddr) (packet : Bytes)
  deriving DecidableEq, Repr

namespace UdpAssociation

variable (a : UdpAssociation)

def new (clientEndpoint : SocksEndpoint) (controlPeerIp : IpAddr) : UdpAssociation :=
  { clientEndpoint := .new clientEndpoint controlPeerIp }

def liveSender (target : Target) : Option Nat :=
  (a.senders.lookup target).filter fun w => (a.workers[w]?).any (!·.ended)

def tryEnqueueDatagram (w : Nat) (payload : Bytes) : UdpAssociation :=
  { a with
    workers := a.workers.modify w fun worker =>
      if worker.queue.length < udpTargetQueueCapacity then
        { worker with queue := worker.queue ++ [payload] }
      else worker }

def spawnTargetWorker (target : Target) : Option UdpAssociation := do
  let clientEndpoint ← a.clientEndpoint.learned
  pure { a with workers := a.workers ++ [⟨target, clientEndpoint, [], none, false⟩] }

def enqueueDatagram (target : Target) (payload : Bytes) : UdpAssociation :=
  match a.liveSender target with
  | some w => a.tryEnqueueDatagram w payload
  | none =>
    let senders := a.senders.filter (·.1 ≠ target)
    match { a with senders := senders }.spawnTargetWorker target with
    | some spawned =>
      let w := a.workers.length
      { spawned.tryEnqueueDatagram w payload with senders := (target, w) :: senders }
    | none => { a with senders := senders }

def handleLocalUdpDatagram (peer : SocketAddr) (packet : Bytes)
    (maxPayloadLen : Option Nat) : UdpAssociation × List AssociationEvent :=
  let (accepted, clientEndpoint) := a.clientEndpoint.accepts peer
  let a := { a with clientEndpoint := clientEndpoint }
  if !accepted then (a, [])
  else
    match decodeUdpDatagram packet with
    | .error _ => (a, [.accepted peer])
    | .ok datagram =>
      if maxPayloadLen.any (datagram.payload.length > ·) then (a, [.accepted peer])
      else (a.enqueueDatagram datagram.target datagram.payload, [.accepted peer])

def workerStep (w : Nat) (worker : TargetWorker) : TargetWorkerInput → UdpAssociation
  | .receive =>
    match worker.sending, worker.queue with
    | none, payload :: queue =>
      { a with
        workers := a.workers.set w { worker with queue := queue, sending := some payload } }
    | _, _ => a
  | .opened maxPayloadLen =>
    match worker.sending with
    | none => a
    | some payload =>
      -- an oversized datagram closes the flow again
      if payload.length > maxPayloadLen then
        { a with workers := a.workers.set w { worker with sending := none } }
      else { a with relays := a.relays ++ [⟨worker.target, worker.clientEndpoint, false⟩] }
  | .done => { a with workers := a.workers.set w { worker with sending := none } }
  | .stop => { a with workers := a.workers.set w { worker with ended := true } }

def relayStep (r : Nat) (relay : InboundRelay) :
    InboundRelayInput → UdpAssociation × List AssociationEvent
  | .frame frame sent =>
    match frame.header.frameType, encodeUdpDatagram relay.target frame.payload with
    | .udpData, .ok packet =>
      ({ a with relays := a.relays.set r { relay with ended := !sent } },
        [.sentTo relay.clientEndpoint packet])
    | _, _ => ({ a with relays := a.relays.set r { relay with ended := true } }, [])
  | .stop => ({ a with relays := a.relays.set r { relay with ended := true } }, [])

def step : AssociationInput → UdpAssociation × List AssociationEvent
  | .datagram peer packet maxPayloadLen =>
    if a.closed then (a, []) else a.handleLocalUdpDatagram peer packet maxPayloadLen
  | .worker w input =>
    match a.workers[w]? with
    | some worker => if worker.ended then (a, []) else (a.workerStep w worker input, [])
    | none => (a, [])
  | .relay r input =>
    match a.relays[r]? with
    | some relay => if relay.ended then (a, []) else a.relayStep r relay input
    | none => (a, [])
  | .close => ({ a with senders := [], closed := true }, [])

end UdpAssociation

end UncrownedKing.Client
