import UncrownedKing.Proto.SizeLaws
import UncrownedKing.Proto.TargetLaws

/-!
# Open payloads

A target, a `TCP_OPEN` and a `UDP_OPEN` have one encoding each, and it fits
every frame size that can be negotiated.
-/

namespace UncrownedKing.Net

open Lib

theorem toBe_bits_append (x : BitVec m) (a b : Nat) (y : BitVec (8 * b)) :
    toBe (a + b) (x ++ y).toNat = toBe a x.toNat ++ toBe b y.toNat := by
  have hpow : 2 ^ (8 * b) = 256 ^ b := by rw [Nat.pow_mul]
  have hsum : (x ++ y).toNat = x.toNat * 256 ^ b + y.toNat := by
    rw [BitVec.toNat_append, ← Nat.shiftLeft_add_eq_or_of_lt y.isLt, Nat.shiftLeft_eq, hpow]
  rw [hsum]
  exact toBe_append (hpow ▸ y.isLt) a x.toNat

theorem toBe_octet (octet : UInt8) : toBe 1 octet.toNat = [octet] := by
  simp [toBe]

theorem Ipv4Addr.toBe_toBits (ip : Ipv4Addr) :
    toBe 4 ip.toBits.toNat = [ip.o0, ip.o1, ip.o2, ip.o3] := by
  rw [Ipv4Addr.toBits, toBe_bits_append _ 3 1 ip.o3.toBitVec,
    toBe_bits_append _ 2 1 ip.o2.toBitVec, toBe_bits_append _ 1 1 ip.o1.toBitVec]
  simp [toBe_octet]

theorem Ipv6Addr.toBe_toBits (ip : Ipv6Addr) :
    toBe 16 ip.toBits.toNat =
      toBe 2 ip.s0.toNat ++ toBe 2 ip.s1.toNat ++ toBe 2 ip.s2.toNat ++ toBe 2 ip.s3.toNat ++
        toBe 2 ip.s4.toNat ++ toBe 2 ip.s5.toNat ++ toBe 2 ip.s6.toNat ++ toBe 2 ip.s7.toNat := by
  rw [Ipv6Addr.toBits, toBe_bits_append _ 14 2 ip.s7.toBitVec,
    toBe_bits_append _ 12 2 ip.s6.toBitVec, toBe_bits_append _ 10 2 ip.s5.toBitVec,
    toBe_bits_append _ 8 2 ip.s4.toBitVec, toBe_bits_append _ 6 2 ip.s3.toBitVec,
    toBe_bits_append _ 4 2 ip.s2.toBitVec, toBe_bits_append _ 2 2 ip.s1.toBitVec]
  rfl

theorem groupOfOctets_eq (high low : UInt8) :
    groupOfOctets high low = UInt16.ofNat (fromBe [high, low]) := by
  have hhigh := high.toNat_lt
  have hlow := low.toNat_lt
  have hshift : high.toNat <<< 8 ||| low.toNat = high.toNat * 256 + low.toNat := by
    rw [← Nat.shiftLeft_add_eq_or_of_lt hlow, Nat.shiftLeft_eq]
  have hlt : high.toNat * 256 + low.toNat < 65536 := by omega
  apply UInt16.toNat_inj.mp
  have hmod : high.toNat <<< 8 % 65536 = high.toNat <<< 8 := by
    rw [Nat.shiftLeft_eq]
    omega
  simp [groupOfOctets, fromBe, hmod, hshift]
  omega

end UncrownedKing.Net

namespace UncrownedKing.Proto

open Lib Net

theorem fromUTF8_toUTF8 (name : String) : String.fromUTF8? name.toUTF8 = some name := by
  have hvalid : name.toUTF8.IsValidUTF8 := name.isValidUTF8
  unfold String.fromUTF8?
  rw [dif_pos hvalid]
  rfl

theorem toUTF8_of_fromUTF8 (h : String.fromUTF8? bytes = some name) : name.toUTF8 = bytes := by
  unfold String.fromUTF8? at h
  split at h <;> cases h
  rfl

theorem readHost_host {target : Target} (h : target.validate = .ok ()) :
    target.host.1.readHost target.host.2 target.port = .ok target := by
  cases target with
  | domain name port =>
    have hname : validateDomain name = .ok () := h
    simp only [Target.host, AddrType.readHost, toUTF8_toList]
    rw [show (⟨name.toUTF8.data.toList.toArray⟩ : ByteArray) = name.toUTF8 by simp,
      fromUTF8_toUTF8]
    dsimp only
    rw [hname]
    rfl
  | ipv4 ip port =>
    simp only [Target.host, Ipv4Addr.toBe_toBits]
    rfl
  | ipv6 ip port =>
    have hgroup : ∀ group : UInt16, ∃ high low, toBe 2 group.toNat = [high, low] ∧
        groupOfOctets high low = group := by
      intro group
      obtain ⟨high, low, hbytes, hback⟩ := flags_toBe group
      exact ⟨high, low, hbytes, (groupOfOctets_eq high low).trans hback⟩
    obtain ⟨ip0, ip1, ip2, ip3, ip4, ip5, ip6, ip7⟩ := ip
    simp only [Target.host, Ipv6Addr.toBe_toBits]
    obtain ⟨_, _, h0, rfl⟩ := hgroup ip0
    obtain ⟨_, _, h1, rfl⟩ := hgroup ip1
    obtain ⟨_, _, h2, rfl⟩ := hgroup ip2
    obtain ⟨_, _, h3, rfl⟩ := hgroup ip3
    obtain ⟨_, _, h4, rfl⟩ := hgroup ip4
    obtain ⟨_, _, h5, rfl⟩ := hgroup ip5
    obtain ⟨_, _, h6, rfl⟩ := hgroup ip6
    obtain ⟨_, _, h7, rfl⟩ := hgroup ip7
    rw [h0, h1, h2, h3, h4, h5, h6, h7]
    rfl

theorem host_of_readHost {addrType : AddrType} (h : addrType.readHost host port = .ok target) :
    target.host = (addrType, host) ∧ target.port = port ∧ target.validate = .ok () := by
  unfold AddrType.readHost at h
  split at h
  · split at h
    · cases h
    · rename_i name hname
      obtain ⟨⟨⟩, hvalid, h⟩ := bind_eq_ok.mp h
      cases h
      refine ⟨?_, rfl, hvalid⟩
      rw [Target.host, toUTF8_toList, toUTF8_of_fromUTF8 hname]
  · cases h
    exact ⟨by simp [Target.host, Ipv4Addr.toBe_toBits], rfl, rfl⟩
  · cases h
  · cases h
    refine ⟨?_, rfl, rfl⟩
    simp only [Target.host, Ipv6Addr.toBe_toBits, groupOfOctets_eq, toBe_flags]
    rfl
  · cases h

theorem AddrType.tryFrom_toByte (addrType : AddrType) :
    AddrType.tryFrom addrType.toByte = .ok addrType := by
  cases addrType <;> rfl

theorem AddrType.toByte_of_tryFrom (h : AddrType.tryFrom value = .ok addrType) :
    value = addrType.toByte := by
  unfold AddrType.tryFrom at h
  split at h <;> cases h <;> rfl

theorem checkHostLen_host {target : Target} (h : target.validate = .ok ()) :
    target.host.1.checkHostLen target.host.2.length = .ok () := by
  cases target with
  | domain name port =>
    have hhost : (Target.domain name port).host.2.length = name.utf8ByteSize := by
      rw [Target.host, toUTF8_toList]
      rfl
    obtain ⟨hpos, hlength⟩ := validateDomain_length h
    rw [hhost]
    simp only [Target.host, AddrType.checkHostLen]
    rw [if_neg (by omega)]
  | ipv4 ip port | ipv6 ip port => simp [Target.host, AddrType.checkHostLen]

theorem Target.decode_encode {target : Target} (h : target.encode = .ok x) (rest : Bytes) :
    Target.decode (x ++ rest) = .ok (target, rest) := by
  obtain ⟨hport, hvalid, hostLen, hhostLen, rfl⟩ := Target.encode_eq_ok.mp h
  have hlong : ¬(target.host.2 ++ (toBe 2 target.port.toNat ++ rest)).length <
      target.host.2.length + 2 := by
    simp only [List.length_append, length_toBe]
    omega
  obtain ⟨high, low, hbytes, hback⟩ := flags_toBe target.port
  simp only [List.cons_append, List.append_assoc, Target.decode, AddrType.tryFrom_toByte,
    Varint.decode_encode hhostLen, checkHostLen_host hvalid, bind, Except.bind, if_neg hlong]
  simp [hbytes, hback, hport, readHost_host hvalid, pure, Except.pure]

theorem Target.decode_canonical (h : Target.decode src = .ok (target, rest)) :
    ∃ x, Target.encode target = .ok x ∧ src = x ++ rest := by
  cases src with
  | nil => cases h
  | cons addrByte src =>
    obtain ⟨addrType, haddr, h⟩ := bind_eq_ok.mp h
    obtain ⟨⟨len, src⟩, hlen, h⟩ := bind_eq_ok.mp h
    obtain ⟨-, -, h⟩ := bind_eq_ok.mp h
    dsimp only at h
    split at h
    · cases h
    · rename_i hlong
      obtain ⟨⟨⟩, hport, h⟩ := bind_eq_ok.mp h
      obtain ⟨target, htarget, h⟩ := bind_eq_ok.mp h
      cases h
      obtain ⟨hhost, hportEq, hvalid⟩ := host_of_readHost htarget
      obtain ⟨lenBytes, hlenBytes, rfl⟩ := Varint.decode_canonical hlen
      have hhostLen : target.host.2.length = len := by
        rw [hhost, List.length_take]
        omega
      obtain ⟨high, low, hport2⟩ : ∃ high low, (src.drop len).take 2 = [high, low] := by
        match hdrop : src.drop len with
        | high :: low :: rest => exact ⟨high, low, by simp⟩
        | [_] | [] =>
          have hlength := congrArg List.length hdrop
          simp at hlength
          omega
      refine ⟨_, Target.encode_eq_ok.mpr
        ⟨hportEq ▸ hport, hvalid, lenBytes, hhostLen ▸ hlenBytes, rfl⟩, ?_⟩
      have hportBytes : toBe 2 target.port.toNat = (src.drop len).take 2 := by
        rw [hportEq, hport2, toBe_flags]
      have hsplit : src = src.take len ++ ((src.drop len).take 2 ++ src.drop (len + 2)) := by
        rw [← List.drop_drop, List.take_append_drop, List.take_append_drop]
      rw [hhost, hportBytes, AddrType.toByte_of_tryFrom haddr]
      simp only [List.cons_append, List.append_assoc]
      rw [← hsplit]

theorem TcpOpen.decode_encode {tcpOpen : TcpOpen} (h : tcpOpen.encode = .ok x) :
    TcpOpen.decode x = .ok tcpOpen := by
  obtain ⟨⟨⟩, hflags, h⟩ := bind_eq_ok.mp h
  obtain ⟨target, htarget, h⟩ := bind_eq_ok.mp h
  cases h
  obtain ⟨high, low, hbytes, hback⟩ := flags_toBe tcpOpen.openFlags
  refine bind_eq_ok.mpr ⟨_, Target.decode_encode htarget _, ?_⟩
  simp only [hbytes, List.length_cons, List.length_nil]
  exact bind_eq_ok.mpr ⟨(), by simpa [hback] using hflags, by simp [hback, pure, Except.pure]⟩

theorem TcpOpen.decode_canonical (h : TcpOpen.decode src = .ok tcpOpen) :
    TcpOpen.encode tcpOpen = .ok src := by
  obtain ⟨⟨target, rest⟩, htarget, hopen⟩ := bind_eq_ok.mp h
  obtain ⟨x, hx, rfl⟩ := Target.decode_canonical htarget
  dsimp only at hopen
  split at hopen
  · cases hopen
  obtain ⟨⟨⟩, hflags, hopen⟩ := bind_eq_ok.mp hopen
  split at hopen
  · cases hopen
  cases hopen
  rename_i hshort hlong
  match rest, hshort, hlong with
  | [high, low], _, _ =>
    refine bind_eq_ok.mpr ⟨(), hflags, bind_eq_ok.mpr ⟨x, hx, ?_⟩⟩
    simp only [List.take_succ_cons, List.take_zero, toBe_flags]
    rfl
  | [], hshort, _ | [_], hshort, _ => simp at hshort
  | _ :: _ :: _ :: _, _, hlong => simp at hlong

theorem UdpOpen.decode_encode (h : UdpOpen.encode target = .ok x) :
    UdpOpen.decode x = .ok target := by
  have hdecode := Target.decode_encode h []
  rw [List.append_nil] at hdecode
  exact bind_eq_ok.mpr ⟨_, hdecode, rfl⟩

theorem UdpOpen.decode_canonical (h : UdpOpen.decode src = .ok target) :
    UdpOpen.encode target = .ok src := by
  obtain ⟨⟨target, rest⟩, htarget, hopen⟩ := bind_eq_ok.mp h
  obtain ⟨x, hx, rfl⟩ := Target.decode_canonical htarget
  dsimp only at hopen
  split at hopen
  · cases hopen
    rename_i hrest
    obtain rfl := List.isEmpty_iff.mp hrest
    exact (List.append_nil x).symm ▸ hx
  · cases hopen

theorem UdpOpen.encode_length (h : UdpOpen.encode target = .ok x) :
    x.length ≤ minTcpRelayFrameSize :=
  (Target.encode_length h).trans (by decide)

theorem open_payloads_canonical :
    (∀ target x, Target.encode target = .ok x →
      ∀ rest, Target.decode (x ++ rest) = .ok (target, rest)) ∧
    (∀ src target rest, Target.decode src = .ok (target, rest) →
      ∃ x, Target.encode target = .ok x ∧ src = x ++ rest) ∧
    (∀ tcpOpen x, TcpOpen.encode tcpOpen = .ok x → TcpOpen.decode x = .ok tcpOpen) ∧
    (∀ src tcpOpen, TcpOpen.decode src = .ok tcpOpen → TcpOpen.encode tcpOpen = .ok src) ∧
    (∀ target x, UdpOpen.encode target = .ok x → UdpOpen.decode x = .ok target) ∧
    (∀ src target, UdpOpen.decode src = .ok target → UdpOpen.encode target = .ok src) ∧
    ∀ x, (∃ tcpOpen, TcpOpen.encode tcpOpen = .ok x) ∨ (∃ target, UdpOpen.encode target = .ok x) →
      x.length ≤ 262 ∧
        ∀ settings agreed, Settings.negotiated settings = .ok agreed →
          x.length ≤ agreed.maxFrameSize := by
  refine ⟨fun _ _ h rest => Target.decode_encode h rest, fun _ _ _ h => Target.decode_canonical h,
    fun _ _ h => TcpOpen.decode_encode h, fun _ _ h => TcpOpen.decode_canonical h,
    fun _ _ h => UdpOpen.decode_encode h, fun _ _ h => UdpOpen.decode_canonical h, fun x hx => ?_⟩
  have hlength : x.length ≤ minTcpRelayFrameSize := by
    rcases hx with ⟨tcpOpen, h⟩ | ⟨target, h⟩
    · exact TcpOpen.encode_length h
    · exact UdpOpen.encode_length h
  exact ⟨hlength, fun _ _ h => hlength.trans (Settings.negotiated_maxFrameSize h)⟩

end UncrownedKing.Proto
