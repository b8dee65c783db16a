import UncrownedKing.Client.Socks5
import UncrownedKing.Proto.OpenLaws

/-!
# Addresses on the local connection and in datagrams

An endpoint has one form on the wire, and both readers find it.
-/

namespace UncrownedKing.Client.Socks5

open Lib Net Proto
open DuplexM hiding readExact

theorem readHost_ipv4 (h : octets.length = 4) (port : UInt16) :
    AddrType.ipv4.readHost octets port = .ok (.ipv4 (.fromOctets octets) port) := by
  match octets, h with
  | [_, _, _, _], _ => rfl

theorem readHost_ipv6 (h : octets.length = 16) (port : UInt16) :
    AddrType.ipv6.readHost octets port = .ok (.ipv6 (.fromOctets octets) port) := by
  match octets, h with
  | [_, _, _, _, _, _, _, _, _, _, _, _, _, _, _, _], _ => rfl

def SocksEndpoint.addrType : SocksEndpoint → UInt8
  | .ipv4 _ _ => atypIpv4
  | .domain _ _ => atypDomain
  | .ipv6 _ _ => atypIpv6

def SocksEndpoint.body : SocksEndpoint → Bytes
  | .ipv4 addr port => toBe 4 addr.toBits.toNat ++ toBe 2 port.toNat
  | .domain name port => UInt8.ofNat name.utf8ByteSize :: name.toUTF8.toList ++ toBe 2 port.toNat
  | .ipv6 addr port => toBe 16 addr.toBits.toNat ++ toBe 2 port.toNat

def SocksEndpoint.Fits : SocksEndpoint → Prop
  | .domain name _ => name.utf8ByteSize ≤ 255
  | _ => True

theorem toBe_fromOctets_v4 (h : octets.length = 4) :
    toBe 4 (Ipv4Addr.fromOctets octets).toBits.toNat = octets :=
  (Prod.mk.inj (host_of_readHost (readHost_ipv4 h 0)).1).2

theorem toBe_fromOctets_v6 (h : octets.length = 16) :
    toBe 16 (Ipv6Addr.fromOctets octets).toBits.toNat = octets :=
  (Prod.mk.inj (host_of_readHost (readHost_ipv6 h 0)).1).2

theorem fromOctets_toBe_v4 (addr : Ipv4Addr) :
    Ipv4Addr.fromOctets (toBe 4 addr.toBits.toNat) = addr := by
  have hvalid : (Target.ipv4 addr 0).validate = .ok () := rfl
  have h := (readHost_ipv4 length_toBe 0).symm.trans (readHost_host hvalid)
  simpa using h

theorem fromOctets_toBe_v6 (addr : Ipv6Addr) :
    Ipv6Addr.fromOctets (toBe 16 addr.toBits.toNat) = addr := by
  have hvalid : (Target.ipv6 addr 0).validate = .ok () := rfl
  have h := (readHost_ipv6 length_toBe 0).symm.trans (readHost_host hvalid)
  simpa using h

theorem toBe_port (h : octets.length = 2) :
    toBe 2 (UInt16.ofNat (fromBe octets)).toNat = octets := by
  match octets, h with
  | [high, low], _ => exact toBe_flags high low

theorem port_toBe (port : UInt16) : UInt16.ofNat (fromBe (toBe 2 port.toNat)) = port := by
  rw [fromBe_toBe port.toNat_lt, UInt16.ofNat_toNat]

theorem length_utf8 (name : String) : name.toUTF8.toList.length = name.utf8ByteSize := by
  rw [toUTF8_toList]
  simp

theorem body_of_decodeEndpoint (h : decodeEndpoint src addrType = .ok (endpoint, n)) :
    addrType = endpoint.addrType ∧ endpoint.Fits ∧ src.take n = endpoint.body ∧ n ≤ src.length := by
  unfold decodeEndpoint at h
  split at h
  · rename_i htype
    split at h <;> cases h
    rename_i hlen
    refine ⟨htype, trivial, ?_, by omega⟩
    rw [SocksEndpoint.body, toBe_fromOctets_v4 (by simp; omega), toBe_port (by simp; omega),
      ← List.take_add]
  split at h
  · rename_i htype
    split at h
    · cases h
    · rename_i len rest
      dsimp only at h
      split at h
      · cases h
      · rename_i hlen
        split at h <;> cases h
        rename_i name hname
        have hutf8 : name.toUTF8.toList = rest.take len.toNat := by
          rw [toUTF8_toList, toUTF8_of_fromUTF8 hname]
          simp [Nat.add_comm 1]
        have hsize : name.utf8ByteSize = len.toNat := by
          have hlength := congrArg List.length hutf8
          simp only [length_utf8, List.length_take] at hlength
          simp only [List.length_cons] at hlen
          omega
        have hport : ((len :: rest).drop (1 + len.toNat)).take 2 =
            (rest.drop len.toNat).take 2 := by
          simp [Nat.add_comm 1]
        have htwo : ((rest.drop len.toNat).take 2).length = 2 := by
          simp only [List.length_cons] at hlen
          simp only [List.length_take, List.length_drop]
          omega
        refine ⟨htype, ?_, ?_, by omega⟩
        · have := len.toNat_lt
          simp only [SocksEndpoint.Fits]
          omega
        · rw [hport, SocksEndpoint.body, toBe_port htwo, hutf8, hsize, UInt8.ofNat_toNat,
            Nat.add_comm 1, Nat.add_right_comm, List.take_succ_cons, List.take_add,
            List.cons_append]
  split at h
  · rename_i htype
    split at h <;> cases h
    rename_i hlen
    refine ⟨htype, trivial, ?_, by omega⟩
    rw [SocksEndpoint.body, toBe_fromOctets_v6 (by simp; omega), toBe_port (by simp; omega),
      ← List.take_add]
  · cases h

theorem split_fields (hfield : field.length = n) (hport : port.length = 2) (rest : Bytes) :
    ¬(field ++ port ++ rest).length < n + 2 ∧ (field ++ port ++ rest).take n = field ∧
      ((field ++ port ++ rest).drop n).take 2 = port := by
  refine ⟨?_, ?_, ?_⟩
  · simp only [List.length_append]
    omega
  · rw [List.append_assoc, List.take_left' hfield]
  · rw [List.append_assoc, List.drop_left' hfield, List.take_left' hport]

theorem decodeEndpoint_body (hfits : endpoint.Fits) (rest : Bytes) :
    decodeEndpoint (endpoint.body ++ rest) endpoint.addrType =
      .ok (endpoint, endpoint.body.length) := by
  cases endpoint with
  | ipv4 addr port =>
    obtain ⟨hlen, htake, hport⟩ := split_fields (n := 4) (length_toBe (n := addr.toBits.toNat))
      (length_toBe (n := port.toNat)) rest
    rw [decodeEndpoint.eq_def, SocksEndpoint.addrType, SocksEndpoint.body, if_pos rfl, if_neg hlen,
      htake, hport, fromOctets_toBe_v4, port_toBe]
    rfl
  | domain name port =>
    have hsize : (UInt8.ofNat name.utf8ByteSize).toNat = name.utf8ByteSize :=
      UInt8.toNat_ofNat_of_lt' (Nat.lt_succ_of_le hfits)
    have hfield : (UInt8.ofNat name.utf8ByteSize :: name.toUTF8.toList).length =
        1 + name.utf8ByteSize := by
      rw [List.length_cons, length_utf8, Nat.add_comm]
    obtain ⟨hlen, htake, hport⟩ := split_fields hfield (length_toBe (n := port.toNat)) rest
    have hname : String.fromUTF8? ⟨name.toUTF8.toList.toArray⟩ = some name := by
      rw [toUTF8_toList]
      exact fromUTF8_toUTF8 name
    rw [decodeEndpoint.eq_def, SocksEndpoint.addrType, SocksEndpoint.body, if_neg (by decide),
      if_pos rfl]
    simp only [List.cons_append] at hlen htake hport ⊢
    simp only [hsize, if_neg hlen, htake, hport, List.drop_succ_cons, List.drop_zero, hname,
      port_toBe]
    simp only [List.length_cons, List.length_append, length_utf8, length_toBe, Nat.add_comm 1,
      Nat.add_right_comm _ 1]
  | ipv6 addr port =>
    obtain ⟨hlen, htake, hport⟩ := split_fields (n := 16) (length_toBe (n := addr.toBits.toNat))
      (length_toBe (n := port.toNat)) rest
    rw [decodeEndpoint.eq_def, SocksEndpoint.addrType, SocksEndpoint.body, if_neg (by decide),
      if_neg (by decide), if_pos rfl, if_neg hlen, htake, hport, fromOctets_toBe_v6, port_toBe]
    rfl

theorem validateTarget_eq_ok {target : Target} :
    validateTarget target = .ok () ↔ ∃ x, target.encode = .ok x := by
  unfold validateTarget
  split <;> simp_all

theorem validateDomain_of_proto (h : Proto.validateDomain name = .ok ()) :
    validateDomain name = .ok () := by
  unfold Proto.validateDomain at h
  dsimp only at h
  split at h
  · cases h
  split at h
  · cases h
  rename_i hlength hcontrol
  rw [Bool.or_eq_true, decide_eq_true_eq] at hlength
  rw [validateDomain, if_neg hlength, if_neg hcontrol]

theorem length_of_validateDomain (h : validateDomain name = .ok ()) : name.utf8ByteSize ≤ 255 := by
  unfold validateDomain at h
  split at h
  · cases h
  · rename_i hlength
    exact Nat.le_of_not_lt fun hlong => hlength (.inr hlong)

theorem fits_of_validate (h : validateUdpAssociateEndpoint endpoint = .ok ()) :
    endpoint.Fits := by
  cases endpoint with
  | domain name port => exact length_of_validateDomain h
  | _ => trivial

theorem encodeEndpoint_eq_ok :
    encodeEndpoint endpoint = .ok x ↔
      validateUdpAssociateEndpoint endpoint = .ok () ∧ x = endpoint.addrType :: endpoint.body := by
  cases endpoint with
  | domain name port =>
    constructor
    · intro h
      obtain ⟨⟨⟩, hvalid, h⟩ := bind_eq_ok.mp h
      have hfits := Nat.not_lt.mpr (length_of_validateDomain hvalid)
      rw [if_neg hfits] at h
      cases h
      exact ⟨hvalid, rfl⟩
    · rintro ⟨hvalid, rfl⟩
      have hfits := Nat.not_lt.mpr (length_of_validateDomain hvalid)
      exact bind_eq_ok.mpr ⟨(), hvalid, by rw [if_neg hfits]; rfl⟩
  | ipv4 addr port =>
    simp [encodeEndpoint, validateUdpAssociateEndpoint, SocksEndpoint.addrType,
      SocksEndpoint.body, pure, Except.pure, eq_comm]
  | ipv6 addr port =>
    simp [encodeEndpoint, validateUdpAssociateEndpoint, SocksEndpoint.addrType,
      SocksEndpoint.body, pure, Except.pure, eq_comm]

theorem validate_of_target {target : Target} (h : validateTarget target = .ok ()) :
    validateUdpAssociateEndpoint (endpointFromTarget target) = .ok () := by
  obtain ⟨x, hx⟩ := validateTarget_eq_ok.mp h
  obtain ⟨-, hvalid, -⟩ := Target.encode_eq_ok.mp hx
  cases target with
  | domain name port => exact validateDomain_of_proto hvalid
  | _ => rfl

theorem targetFromEndpoint_eq_ok :
    targetFromEndpoint endpoint = .ok target ↔
      endpoint = endpointFromTarget target ∧ validateTarget target = .ok () := by
  constructor
  · intro h
    obtain ⟨⟨⟩, hvalid, h⟩ := bind_eq_ok.mp h
    cases endpoint <;> cases h <;> exact ⟨rfl, hvalid⟩
  · rintro ⟨rfl, hvalid⟩
    cases target <;> exact bind_eq_ok.mpr ⟨(), hvalid, rfl⟩

theorem encodeUdpDatagram_eq_ok :
    encodeUdpDatagram target payload = .ok packet ↔ validateTarget target = .ok () ∧
      packet = 0 :: 0 :: 0 :: (endpointFromTarget target).addrType ::
        ((endpointFromTarget target).body ++ payload) := by
  constructor
  · intro h
    obtain ⟨⟨⟩, hvalid, h⟩ := bind_eq_ok.mp h
    obtain ⟨encoded, hencoded, h⟩ := bind_eq_ok.mp h
    obtain ⟨-, rfl⟩ := encodeEndpoint_eq_ok.mp hencoded
    cases h
    exact ⟨hvalid, rfl⟩
  · rintro ⟨hvalid, rfl⟩
    have hencoded := encodeEndpoint_eq_ok.mpr ⟨validate_of_target hvalid, rfl⟩
    exact bind_eq_ok.mpr ⟨(), hvalid, bind_eq_ok.mpr ⟨_, hencoded, rfl⟩⟩

theorem decodeUdpDatagram_eq_ok :
    decodeUdpDatagram packet = .ok ⟨target, payload⟩ ↔ validateTarget target = .ok () ∧
      packet = 0 :: 0 :: 0 :: (endpointFromTarget target).addrType ::
        ((endpointFromTarget target).body ++ payload) := by
  constructor
  · intro h
    unfold decodeUdpDatagram at h
    split at h
    · rename_i rsv0 rsv1 frag addrType src
      split at h
      · cases h
      split at h
      · cases h
      rename_i hreserved hfrag
      obtain ⟨⟨endpoint, offset⟩, hendpoint, h⟩ := bind_eq_ok.mp h
      obtain ⟨_, htarget, h⟩ := bind_eq_ok.mp h
      cases h
      obtain ⟨rfl, hvalid⟩ := targetFromEndpoint_eq_ok.mp htarget
      obtain ⟨rfl, -, hbody, -⟩ := body_of_decodeEndpoint hendpoint
      obtain ⟨rfl, rfl⟩ : rsv0 = 0 ∧ rsv1 = 0 := by simpa using hreserved
      obtain rfl : frag = 0 := by simpa using hfrag
      exact ⟨hvalid, by rw [← hbody, List.take_append_drop]⟩
    · cases h
  · rintro ⟨hvalid, rfl⟩
    have hfits := fits_of_validate (validate_of_target hvalid)
    have htarget := targetFromEndpoint_eq_ok.mpr ⟨rfl, hvalid⟩
    simp [decodeUdpDatagram, decodeEndpoint_body hfits, htarget, bind, Except.bind, pure,
      Except.pure]

section

variable {s : Duplex IoError}

theorem readRequestExact_ok (h : n ≤ s.rest.length) :
    ∃ s', (readRequestExact n).on s = (.ok (s.rest.take n), s') ∧ Consumed n s s' := by
  obtain ⟨s', hread, hconsumed⟩ := readExact_ok earlyEof h
  exact ⟨s', on_tryCatch_ok hread, hconsumed⟩

theorem readRequestExact_short (h : s.rest.length < n) :
    ∃ e s', (readRequestExact n).on s = (.error e, s') := by
  obtain ⟨mid, hread, -⟩ := readExact_short earlyEof h
  have hcatch : (readRequestExact n).on s = (truncatedRequest (s.ending.getD earlyEof)).on mid :=
    on_tryCatch_error hread
  rw [hcatch, truncatedRequest]
  split <;> exact ⟨_, _, rfl⟩

theorem readPort_ok (h : 2 ≤ s.rest.length) :
    ∃ s', readPort.on s = (.ok (UInt16.ofNat (fromBe (s.rest.take 2))), s') ∧ Consumed 2 s s' := by
  obtain ⟨s', hread, hconsumed⟩ := readRequestExact_ok h
  exact ⟨s', on_bind_ok hread, hconsumed⟩

theorem readPort_short (h : s.rest.length < 2) : ∃ e s', readPort.on s = (.error e, s') := by
  obtain ⟨e, s', hread⟩ := readRequestExact_short h
  exact ⟨e, s', on_bind_error hread⟩

theorem field_port_ok (h : n + 2 ≤ s.rest.length) (f : Bytes → UInt16 → SocksM α) :
    ∃ s', (readRequestExact n >>= fun field => readPort >>= f field).on s =
        (f (s.rest.take n) (UInt16.ofNat (fromBe ((s.rest.drop n).take 2)))).on s' ∧
      Consumed (n + 2) s s' := by
  obtain ⟨mid, hfield, hmid⟩ := readRequestExact_ok (n := n) (s := s) (by omega)
  have hlen : 2 ≤ mid.rest.length := by
    rw [hmid.rest, List.length_drop]
    omega
  obtain ⟨s', hport, hs'⟩ := readPort_ok hlen
  refine ⟨s', ?_, hmid.trans hs'⟩
  rw [on_bind_ok hfield, on_bind_ok hport, hmid.rest]

theorem field_port_short (h : s.rest.length < n + 2) (f : Bytes → UInt16 → SocksM α) :
    ∃ e s', (readRequestExact n >>= fun field => readPort >>= f field).on s = (.error e, s') := by
  by_cases hfield : n ≤ s.rest.length
  · obtain ⟨mid, hread, hmid⟩ := readRequestExact_ok hfield
    have hlen : mid.rest.length < 2 := by
      rw [hmid.rest, List.length_drop]
      omega
    obtain ⟨e, s', hport⟩ := readPort_short hlen
    exact ⟨e, s', by rw [on_bind_ok hread, on_bind_error hport]⟩
  · obtain ⟨e, s', hread⟩ := readRequestExact_short (Nat.lt_of_not_le hfield)
    exact ⟨e, s', on_bind_error hread⟩

end

def ReadersAgree (addrType : UInt8) (s : Duplex IoError) : Prop :=
  (∃ endpoint n s', decodeEndpoint s.rest addrType = .ok (endpoint, n) ∧
    (readEndpoint addrType).on s = (.ok endpoint, s') ∧ Consumed n s s') ∨
  ∃ e e' s', decodeEndpoint s.rest addrType = .error e ∧
    (readEndpoint addrType).on s = (.error e', s')

theorem readersAgree_ipv4 (s : Duplex IoError) : ReadersAgree atypIpv4 s := by
  have hread : readEndpoint atypIpv4 = readRequestExact 4 >>= fun octets => readPort >>= fun port =>
      pure (.ipv4 (.fromOctets octets) port) := if_pos rfl
  unfold ReadersAgree
  rw [decodeEndpoint.eq_def, if_pos rfl, hread]
  by_cases h : s.rest.length < 6
  · obtain ⟨e', s', hshort⟩ := field_port_short h fun octets port =>
      pure (SocksEndpoint.ipv4 (.fromOctets octets) port)
    exact .inr ⟨_, e', s', if_pos h, hshort⟩
  · obtain ⟨s', hok, hconsumed⟩ := field_port_ok (Nat.le_of_not_lt h) fun octets port =>
      pure (SocksEndpoint.ipv4 (.fromOctets octets) port)
    exact .inl ⟨_, _, s', if_neg h, hok, hconsumed⟩

theorem readersAgree_ipv6 (s : Duplex IoError) : ReadersAgree atypIpv6 s := by
  have hread : readEndpoint atypIpv6 = readRequestExact 16 >>= fun octets => readPort >>=
      fun port => pure (.ipv6 (.fromOctets octets) port) := by
    rw [readEndpoint, if_neg (by decide), if_neg (by decide), if_pos rfl]
  unfold ReadersAgree
  rw [decodeEndpoint.eq_def, if_neg (by decide), if_neg (by decide), if_pos rfl, hread]
  by_cases h : s.rest.length < 18
  · obtain ⟨e', s', hshort⟩ := field_port_short h fun octets port =>
      pure (SocksEndpoint.ipv6 (.fromOctets octets) port)
    exact .inr ⟨_, e', s', if_pos h, hshort⟩
  · obtain ⟨s', hok, hconsumed⟩ := field_port_ok (Nat.le_of_not_lt h) fun octets port =>
      pure (SocksEndpoint.ipv6 (.fromOctets octets) port)
    exact .inl ⟨_, _, s', if_neg h, hok, hconsumed⟩

def domainEndpoint (domain : Bytes) (port : UInt16) : SocksM SocksEndpoint :=
  match String.fromUTF8? ⟨domain.toArray⟩ with
  | none => refuse .generalFailure (protocolError "socks domain is not utf-8")
  | some domain => pure (.domain domain port)

theorem readersAgree_domain (s : Duplex IoError) : ReadersAgree atypDomain s := by
  have hread : readEndpoint atypDomain = readRequestExact 1 >>= fun len =>
      readRequestExact (len.headD 0).toNat >>= fun domain =>
        readPort >>= domainEndpoint domain := by
    rw [readEndpoint, if_neg (by decide), if_pos rfl]
    rfl
  unfold ReadersAgree
  rw [decodeEndpoint.eq_def, if_neg (by decide), if_pos rfl, hread]
  cases hrest : s.rest with
  | nil =>
    obtain ⟨e', s', hshort⟩ := readRequestExact_short (n := 1) (s := s) (by simp [hrest])
    exact .inr ⟨_, e', s', rfl, on_bind_error hshort⟩
  | cons len rest =>
    obtain ⟨mid, hlen, hmid⟩ := readRequestExact_ok (n := 1) (s := s) (by simp [hrest])
    have hmidRest : mid.rest = rest := by rw [hmid.rest, hrest, List.drop_succ_cons, List.drop_zero]
    rw [on_bind_ok hlen, hrest]
    simp only [List.take_succ_cons, List.headD_cons, List.length_cons]
    by_cases h : rest.length + 1 < 1 + len.toNat + 2
    · obtain ⟨e', s', hshort⟩ := field_port_short (s := mid) (n := len.toNat)
        (by rw [hmidRest]; omega) domainEndpoint
      exact .inr ⟨_, e', s', if_pos h, hshort⟩
    · obtain ⟨s', hok, hconsumed⟩ := field_port_ok (s := mid) (n := len.toNat)
        (by rw [hmidRest]; omega) domainEndpoint
      have hname : ((len :: rest).take (1 + len.toNat)).drop 1 = rest.take len.toNat := by
        rw [Nat.add_comm, List.take_succ_cons, List.drop_succ_cons, List.drop_zero]
      have hport : (len :: rest).drop (1 + len.toNat) = rest.drop len.toNat := by
        rw [Nat.add_comm, List.drop_succ_cons]
      rw [if_neg h, hok, hmidRest, hname, hport, domainEndpoint]
      cases String.fromUTF8? ⟨(rest.take len.toNat).toArray⟩ with
      | none => exact .inr ⟨_, _, _, rfl, rfl⟩
      | some domain => exact .inl ⟨_, _, s', rfl, rfl, hmid.trans hconsumed⟩

theorem readersAgree (addrType : UInt8) (s : Duplex IoError) : ReadersAgree addrType s := by
  by_cases h4 : addrType = atypIpv4
  · exact h4 ▸ readersAgree_ipv4 s
  by_cases hdomain : addrType = atypDomain
  · exact hdomain ▸ readersAgree_domain s
  by_cases h6 : addrType = atypIpv6
  · exact h6 ▸ readersAgree_ipv6 s
  · right
    rw [decodeEndpoint.eq_def, readEndpoint]
    simp only [if_neg h4, if_neg hdomain, if_neg h6]
    exact ⟨_, _, _, rfl, rfl⟩

/-- A datagram has one form, and both readers find its endpoint. -/
theorem socks_addresses_canonical :
    (∀ packet target payload,
      decodeUdpDatagram packet = .ok ⟨target, payload⟩ ↔
        encodeUdpDatagram target payload = .ok packet) ∧
    ∀ addrType (s : Duplex IoError),
      (∃ endpoint n s', decodeEndpoint s.rest addrType = .ok (endpoint, n) ∧
        (readEndpoint addrType).on s = (.ok endpoint, s') ∧
        n ≤ s.rest.length ∧ s'.rest = s.rest.drop n) ∨
      ∃ e e' s', decodeEndpoint s.rest addrType = .error e ∧
        (readEndpoint addrType).on s = (.error e', s') := by
  refine ⟨fun packet target payload => ?_, fun addrType s => ?_⟩
  · rw [decodeUdpDatagram_eq_ok, encodeUdpDatagram_eq_ok]
  · refine (readersAgree addrType s).imp_left ?_
    rintro ⟨endpoint, n, s', hdecode, hread, hconsumed⟩
    exact ⟨endpoint, n, s', hdecode, hread, (body_of_decodeEndpoint hdecode).2.2.2, hconsumed.rest⟩

end UncrownedKing.Client.Socks5
