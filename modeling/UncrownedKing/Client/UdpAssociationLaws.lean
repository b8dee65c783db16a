import UncrownedKing.Client.UdpAssociation

/-!
# An association serves one client

Once a datagram is taken the client's address is fixed, where the request allows
it to be.
-/

namespace UncrownedKing.Client

open Lib Net Proto Socks5

/-- The address that a request names, if it is a specific one. -/
def Socks5.SocksEndpoint.namedIp : SocksEndpoint → Option IpAddr
  | .ipv4 addr _ => if addr.isUnspecified then none else some (.v4 addr)
  | .ipv6 addr _ => if addr.isUnspecified then none else some (.v6 addr)
  | .domain _ _ => none

def Socks5.SocksEndpoint.port : SocksEndpoint → UInt16
  | .ipv4 _ port | .domain _ port | .ipv6 _ port => port

theorem matchesRequested_iff (endpoint : UdpClientEndpoint) (peer : SocketAddr) :
    endpoint.matchesRequested peer ↔
      canonicalIp peer.ip =
        canonicalIp (endpoint.requested.namedIp.getD endpoint.controlPeerIp) ∧
      (endpoint.requested.port ≠ 0 → peer.port = endpoint.requested.port) := by
  have hport : ∀ port, matchesRequestedPort peer port = true ↔ (port ≠ 0 → peer.port = port) := by
    intro port
    simp only [matchesRequestedPort, Bool.or_eq_true, decide_eq_true_eq]
    exact or_iff_not_imp_left
  have hmatches : ∀ ip, ipMatches peer.ip ip = true ↔ canonicalIp peer.ip = canonicalIp ip := by
    intro ip
    simp [ipMatches]
  unfold UdpClientEndpoint.matchesRequested
  cases hrequested : endpoint.requested with
  | ipv4 addr port =>
    cases hunspecified : addr.isUnspecified <;>
      simp [UdpClientEndpoint.matchesSourceIp, IpAddr.isUnspecified, SocksEndpoint.namedIp,
        SocksEndpoint.port, hunspecified, hport, hmatches]
  | ipv6 addr port =>
    cases hunspecified : addr.isUnspecified <;>
      simp [UdpClientEndpoint.matchesSourceIp, IpAddr.isUnspecified, SocksEndpoint.namedIp,
        SocksEndpoint.port, hunspecified, hport, hmatches]
  | domain name port =>
    simp [UdpClientEndpoint.matchesSourceIp, SocksEndpoint.namedIp, SocksEndpoint.port, hport,
      hmatches]

namespace UdpAssociation

structure Addressed (a : UdpAssociation) : Prop where
  workers : ∀ worker ∈ a.workers, a.clientEndpoint.learned = some worker.clientEndpoint
  relays : ∀ relay ∈ a.relays, a.clientEndpoint.learned = some relay.clientEndpoint

section

variable {a : UdpAssociation} (h : a.Addressed)
include h

theorem Addressed.setWorker
    (hworker : a.clientEndpoint.learned = some worker.clientEndpoint) (w : Nat) :
    Addressed { a with workers := a.workers.set w worker } := by
  refine ⟨fun other hmem => ?_, h.relays⟩
  obtain hold | rfl := List.mem_or_eq_of_mem_set hmem
  · exact h.workers other hold
  · exact hworker

theorem Addressed.setRelay
    (hrelay : a.clientEndpoint.learned = some relay.clientEndpoint) (r : Nat) :
    Addressed { a with relays := a.relays.set r relay } := by
  refine ⟨h.workers, fun other hmem => ?_⟩
  obtain hold | rfl := List.mem_or_eq_of_mem_set hmem
  · exact h.relays other hold
  · exact hrelay

theorem Addressed.tryEnqueueDatagram (w : Nat)
    (payload : Bytes) : (a.tryEnqueueDatagram w payload).Addressed := by
  refine ⟨fun worker hmem => ?_, h.relays⟩
  obtain ⟨i, hi⟩ := List.mem_iff_getElem?.mp hmem
  simp only [UdpAssociation.tryEnqueueDatagram, List.getElem?_modify, Option.map_eq_map,
    Option.map_eq_some_iff] at hi
  obtain ⟨before, hbefore, rfl⟩ := hi
  have hold := h.workers before (List.mem_of_getElem? hbefore)
  split
  · split <;> exact hold
  · exact hold

theorem Addressed.spawnTargetWorker (hspawn : a.spawnTargetWorker target = some spawned) :
    spawned.Addressed ∧ spawned.clientEndpoint = a.clientEndpoint := by
  obtain ⟨clientEndpoint, hlearned, hspawn⟩ := Option.bind_eq_some_iff.mp hspawn
  cases hspawn
  refine ⟨⟨fun worker hmem => ?_, h.relays⟩, rfl⟩
  obtain hold | hnew := List.mem_append.mp hmem
  · exact h.workers worker hold
  · obtain rfl := List.mem_singleton.mp hnew
    exact hlearned

theorem Addressed.enqueueDatagram (target : Target)
    (payload : Bytes) : (a.enqueueDatagram target payload).Addressed ∧
      (a.enqueueDatagram target payload).clientEndpoint = a.clientEndpoint := by
  unfold UdpAssociation.enqueueDatagram
  split
  · exact ⟨h.tryEnqueueDatagram _ payload, rfl⟩
  · dsimp only
    split
    · rename_i spawned hspawn
      have hwithout : Addressed { a with senders := a.senders.filter (·.1 ≠ target) } :=
        ⟨h.workers, h.relays⟩
      obtain ⟨hspawned, hclient⟩ := hwithout.spawnTargetWorker hspawn
      have henqueued := hspawned.tryEnqueueDatagram a.workers.length payload
      exact ⟨⟨henqueued.workers, henqueued.relays⟩, hclient⟩
    · exact ⟨⟨h.workers, h.relays⟩, rfl⟩

theorem Addressed.workerStep (hworker : a.workers[w]? = some worker) (input : TargetWorkerInput) :
    (a.workerStep w worker input).Addressed ∧
      (a.workerStep w worker input).clientEndpoint = a.clientEndpoint := by
  have hknown := h.workers worker (List.mem_of_getElem? hworker)
  cases input with
  | receive =>
    simp only [UdpAssociation.workerStep]
    split
    · exact ⟨h.setWorker (by exact hknown) w, rfl⟩
    · exact ⟨h, rfl⟩
  | opened maxPayloadLen =>
    simp only [UdpAssociation.workerStep]
    split
    · exact ⟨h, rfl⟩
    split
    · exact ⟨h.setWorker (by exact hknown) w, rfl⟩
    · refine ⟨⟨h.workers, fun relay hmem => ?_⟩, rfl⟩
      obtain hold | hnew := List.mem_append.mp hmem
      · exact h.relays relay hold
      · obtain rfl := List.mem_singleton.mp hnew
        exact hknown
  | done | stop => exact ⟨h.setWorker (by exact hknown) w, rfl⟩

end

section
variable {requested : SocksEndpoint} {controlPeerIp : IpAddr} {seen : List AssociationEvent}

structure Serves (requested : SocksEndpoint) (controlPeerIp : IpAddr)
    (seen : List AssociationEvent) (a : UdpAssociation) : Prop where
  request : a.clientEndpoint.requested = requested
  control : a.clientEndpoint.controlPeerIp = controlPeerIp
  accepted : ∀ peer, .accepted peer ∈ seen ↔ a.clientEndpoint.learned = some peer
  sentTo : ∀ client packet, .sentTo client packet ∈ seen → a.clientEndpoint.learned = some client
  allowed : ∀ peer, a.clientEndpoint.learned = some peer → a.clientEndpoint.matchesRequested peer
  addressed : a.Addressed

theorem serves_new (requested : SocksEndpoint) (controlPeerIp : IpAddr) :
    Serves requested controlPeerIp [] (new requested controlPeerIp) := by
  constructor <;> simp [new, UdpClientEndpoint.new]
  exact ⟨by simp, by simp⟩

theorem Serves.of_eq {a a' : UdpAssociation} (h : Serves requested controlPeerIp seen a)
    (hclient : a'.clientEndpoint = a.clientEndpoint) (haddressed : a'.Addressed) :
    Serves requested controlPeerIp seen a' :=
  ⟨hclient ▸ h.request, hclient ▸ h.control, hclient ▸ h.accepted, hclient ▸ h.sentTo,
    hclient ▸ h.allowed, haddressed⟩

theorem accepts_cases (endpoint : UdpClientEndpoint) (peer : SocketAddr) :
    endpoint.accepts peer = (false, endpoint) ∨
      endpoint.matchesRequested peer ∧ (endpoint.learned = none ∨ endpoint.learned = some peer) ∧
        endpoint.accepts peer = (true, { endpoint with learned := some peer }) := by
  unfold UdpClientEndpoint.accepts
  split
  · exact .inl rfl
  · rename_i hmatches
    have hmatches : endpoint.matchesRequested peer = true := by simpa using hmatches
    obtain ⟨requested, controlPeerIp, learned⟩ := endpoint
    cases learned with
    | none => exact .inr ⟨hmatches, .inl rfl, rfl⟩
    | some learned =>
      by_cases heq : learned = peer
      · subst heq
        exact .inr ⟨hmatches, .inr rfl, by simp⟩
      · exact .inl (by simp [heq])

section

variable {a : UdpAssociation} (h : Serves requested controlPeerIp seen a)
include h

theorem Serves.accept (hmatches : a.clientEndpoint.matchesRequested peer)
    (hlearned : a.clientEndpoint.learned = none ∨ a.clientEndpoint.learned = some peer) :
    Serves requested controlPeerIp (seen ++ [.accepted peer])
      { a with clientEndpoint := { a.clientEndpoint with learned := some peer } } := by
  have hkeep : ∀ client, a.clientEndpoint.learned = some client → peer = client := by
    intro client hclient
    obtain hnone | hsome := hlearned
    · cases hnone.symm.trans hclient
    · cases hsome.symm.trans hclient
      rfl
  refine ⟨h.request, h.control, fun other => ?_, fun client packet hmem => ?_,
    fun other hother => ?_, ?_, ?_⟩
  · simp only [List.mem_append, h.accepted, List.mem_singleton, AssociationEvent.accepted.injEq,
      Option.some.injEq]
    constructor
    · rintro (hold | rfl)
      · exact hkeep other hold
      · rfl
    · exact fun heq => .inr heq.symm
  · have hold : .sentTo client packet ∈ seen := by simpa using hmem
    exact congrArg some (hkeep client (h.sentTo client packet hold))
  · cases hother
    exact hmatches
  · exact fun worker hmem => congrArg some (hkeep _ (h.addressed.workers worker hmem))
  · exact fun relay hmem => congrArg some (hkeep _ (h.addressed.relays relay hmem))

theorem Serves.handleLocalUdpDatagram (peer : SocketAddr) (packet : Bytes)
    (maxPayloadLen : Option Nat) :
    Serves requested controlPeerIp
      (seen ++ (a.handleLocalUdpDatagram peer packet maxPayloadLen).2)
      (a.handleLocalUdpDatagram peer packet maxPayloadLen).1 := by
  unfold UdpAssociation.handleLocalUdpDatagram
  obtain hrefused | ⟨hmatches, hlearned, haccepted⟩ := accepts_cases a.clientEndpoint peer
  · simpa [hrefused] using h
  · have hserves := h.accept hmatches hlearned
    simp only [haccepted, Bool.not_true, Bool.false_eq_true, if_false]
    split
    · exact hserves
    split
    · exact hserves
    · obtain ⟨haddressed, hclient⟩ := hserves.addressed.enqueueDatagram _ _
      exact hserves.of_eq hclient haddressed

theorem Serves.relayStep (hrelay : a.relays[r]? = some relay) (input : InboundRelayInput) :
    Serves requested controlPeerIp (seen ++ (a.relayStep r relay input).2)
      (a.relayStep r relay input).1 := by
  have hknown := h.addressed.relays relay (List.mem_of_getElem? hrelay)
  have hended : ∀ ended, Serves requested controlPeerIp seen
      { a with relays := a.relays.set r { relay with ended := ended } } := fun ended =>
    h.of_eq rfl (h.addressed.setRelay (by exact hknown) r)
  cases input with
  | frame frame sent =>
    simp only [UdpAssociation.relayStep]
    split
    · rename_i packet _ _
      have hserves := hended (!sent)
      refine ⟨hserves.request, hserves.control, fun peer => ?_, fun client data hmem => ?_,
        hserves.allowed, hserves.addressed⟩
      · simpa using h.accepted peer
      · obtain hold | hnew := List.mem_append.mp hmem
        · exact h.sentTo client data hold
        · cases List.mem_singleton.mp hnew
          exact hknown
    · simpa using hended true
  | stop => simpa [UdpAssociation.relayStep] using hended true

theorem Serves.step (input : AssociationInput) :
    Serves requested controlPeerIp (seen ++ (a.step input).2) (a.step input).1 := by
  have hsame : Serves requested controlPeerIp (seen ++ []) a := by simpa using h
  cases input with
  | datagram peer packet maxPayloadLen =>
    simp only [UdpAssociation.step]
    split
    · exact hsame
    · exact h.handleLocalUdpDatagram peer packet maxPayloadLen
  | worker w input =>
    simp only [UdpAssociation.step]
    split
    · rename_i worker hworker
      split
      · exact hsame
      · obtain ⟨haddressed, hclient⟩ := h.addressed.workerStep hworker input
        exact hsame.of_eq hclient haddressed
    · exact hsame
  | relay r input =>
    simp only [UdpAssociation.step]
    split
    · rename_i relay hrelay
      split
      · exact hsame
      · exact h.relayStep hrelay input
    · exact hsame
  | close => exact hsame.of_eq rfl ⟨h.addressed.workers, h.addressed.relays⟩

end

end

/-- The datagrams taken come from one address that the request allows, and every reply goes there.
-/
theorem association_serves_one_client (requested : SocksEndpoint) (controlPeerIp : IpAddr)
    (inputs : List AssociationInput) :
    let log := (run step (new requested controlPeerIp) inputs).2
    (∀ peer peer', .accepted peer ∈ log → .accepted peer' ∈ log → peer = peer') ∧
    (∀ peer, .accepted peer ∈ log →
      (requested.namedIp = none →
        canonicalIp peer.ip = canonicalIp controlPeerIp ∧
        (canonicalIp controlPeerIp = controlPeerIp → canonicalIp peer.ip = controlPeerIp)) ∧
      (∀ ip, requested.namedIp = some ip → canonicalIp peer.ip = canonicalIp ip) ∧
      (requested.port ≠ 0 → peer.port = requested.port)) ∧
    ∀ client packet, .sentTo client packet ∈ log → .accepted client ∈ log := by
  intro log
  have hserves : Serves requested controlPeerIp log
      (run step (new requested controlPeerIp) inputs).1 :=
    run_invariant (Serves requested controlPeerIp) (fun _ _ input _ h => h.step input)
      (serves_new requested controlPeerIp) (along_true _ inputs)
  refine ⟨fun peer peer' hpeer hpeer' => ?_, fun peer hpeer => ?_, fun client packet hsent => ?_⟩
  · have hlearned := (hserves.accepted peer).mp hpeer
    exact Option.some.inj (hlearned.symm.trans ((hserves.accepted peer').mp hpeer'))
  · obtain ⟨hip, hport⟩ := (matchesRequested_iff _ peer).mp
      (hserves.allowed peer ((hserves.accepted peer).mp hpeer))
    rw [hserves.request, hserves.control] at hip
    rw [hserves.request] at hport
    refine ⟨fun hnone => ?_, fun ip hsome => ?_, hport⟩
    · rw [hnone] at hip
      exact ⟨hip, fun hcanonical => hip.trans hcanonical⟩
    · rw [hsome] at hip
      exact hip
  · exact (hserves.accepted client).mpr (hserves.sentTo client packet hsent)

end UdpAssociation

end UncrownedKing.Client
