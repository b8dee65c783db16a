import UncrownedKing.Auth.PayloadLaws
import UncrownedKing.Proto.FrameLaws
import UncrownedKing.Proto.RelayPayload
import UncrownedKing.Proto.SettingsLaws

/-!
# How long a payload can be

The smallest negotiable frame size is that of a `TCP_OPEN` for the longest name;
payloads without relayed data are shorter.
-/

namespace UncrownedKing.Proto

open Lib

theorem Varint.encodedLen_le (h : Varint.encodedLen value = .ok len) :
    len ≤ 8 ∧ (value ≤ 16383 → len ≤ 2) := by
  unfold Varint.encodedLen at h
  repeat' split at h
  all_goals cases h <;> omega

theorem Varint.encode_length_le (h : Varint.encode value = .ok x) : x.length ≤ 8 :=
  (Varint.encodedLen_le (Varint.encode_length h)).1

theorem toList_loop (bytes : ByteArray) (i : Nat) (read : List UInt8) :
    ByteArray.toList.loop bytes i read = read.reverse ++ bytes.data.toList.drop i := by
  have hsize : bytes.size = bytes.data.toList.length := rfl
  induction hleft : bytes.size - i generalizing i read with
  | zero =>
    rw [ByteArray.toList.loop, if_neg (by omega), List.drop_eq_nil_of_le (by omega),
      List.append_nil]
  | succ left ih =>
    have hlt : i < bytes.data.toList.length := by omega
    have hget : bytes.get! i = bytes.data.toList[i] := by
      simp [ByteArray.get!, hsize ▸ hlt]
    rw [ByteArray.toList.loop, if_pos (by omega), ih (i + 1) _ (by omega),
      List.drop_eq_getElem_cons hlt, hget]
    simp

theorem toUTF8_toList (name : String) : name.toUTF8.toList = name.toUTF8.data.toList := by
  simp [ByteArray.toList, toList_loop]

theorem validateDomain_length (h : validateDomain name = .ok ()) :
    0 < name.utf8ByteSize ∧ name.utf8ByteSize ≤ 255 := by
  unfold validateDomain at h
  dsimp only at h
  split at h
  · cases h
  · rename_i hlength
    simp only [Bool.or_eq_true, decide_eq_true_eq, not_or, not_lt] at hlength
    refine ⟨Nat.pos_of_ne_zero fun hzero => hlength.1 ?_, hlength.2⟩
    simp [String.isEmpty, hzero]

def Target.validate : Target → ProtocolResult Unit
  | .domain name _ => validateDomain name
  | .ipv4 _ _ | .ipv6 _ _ => .ok ()

theorem Target.encode_eq_ok {target : Target} :
    target.encode = .ok x ↔ validatePort target.port = .ok () ∧ target.validate = .ok () ∧
      ∃ hostLen, Varint.encode target.host.2.length = .ok hostLen ∧
        x = target.host.1.toByte :: hostLen ++ target.host.2 ++ toBe 2 target.port.toNat := by
  unfold Target.encode
  rw [bind_eq_ok]
  refine ⟨?_, ?_⟩
  · rintro ⟨⟨⟩, hport, h⟩
    cases target with
    | domain name port =>
      obtain ⟨⟨⟩, hname, h⟩ := bind_eq_ok.mp h
      obtain ⟨hostLen, hhostLen, h⟩ := bind_eq_ok.mp h
      cases h
      exact ⟨hport, hname, hostLen, hhostLen, rfl⟩
    | ipv4 ip port =>
      obtain ⟨hostLen, hhostLen, h⟩ := bind_eq_ok.mp h
      cases h
      exact ⟨hport, rfl, hostLen, hhostLen, rfl⟩
    | ipv6 ip port =>
      obtain ⟨hostLen, hhostLen, h⟩ := bind_eq_ok.mp h
      cases h
      exact ⟨hport, rfl, hostLen, hhostLen, rfl⟩
  · rintro ⟨hport, hvalid, hostLen, hhostLen, rfl⟩
    refine ⟨(), hport, ?_⟩
    cases target with
    | domain name port =>
      exact bind_eq_ok.mpr ⟨(), hvalid, bind_eq_ok.mpr ⟨hostLen, hhostLen, rfl⟩⟩
    | ipv4 ip port | ipv6 ip port => exact bind_eq_ok.mpr ⟨hostLen, hhostLen, rfl⟩

theorem Target.host_length {target : Target} (h : target.validate = .ok ()) :
    target.host.2.length ≤ 255 := by
  cases target with
  | domain name port =>
    rw [Target.host, toUTF8_toList]
    exact (validateDomain_length h).2
  | ipv4 ip port | ipv6 ip port => simp [Target.host]

theorem Target.encode_length (h : Target.encode target = .ok x) : x.length ≤ 260 := by
  obtain ⟨-, hvalid, hostLen, hhostLen, rfl⟩ := Target.encode_eq_ok.mp h
  have hhost := Target.host_length hvalid
  have hlen := (Varint.encodedLen_le (Varint.encode_length hhostLen)).2 (by omega)
  simp
  omega

theorem TcpOpen.encode_length (h : TcpOpen.encode tcpOpen = .ok x) :
    x.length ≤ minTcpRelayFrameSize := by
  obtain ⟨⟨⟩, -, h⟩ := bind_eq_ok.mp h
  obtain ⟨target, htarget, h⟩ := bind_eq_ok.mp h
  cases h
  have hlen := Target.encode_length htarget
  simp [minTcpRelayFrameSize]
  omega

theorem encodeClose_length (h : encodeClose invalid unknown closeCode = .ok x) : x.length = 2 := by
  unfold encodeClose at h
  split at h <;> cases h
  simp

theorem encodeEntries_length (h : encodeEntries entries = .ok x) :
    x.length ≤ 16 * entries.length := by
  induction entries generalizing x with
  | nil =>
    cases h
    simp
  | cons entry rest ih =>
    obtain ⟨key, hkey, h⟩ := bind_eq_ok.mp h
    obtain ⟨value, hvalue, h⟩ := bind_eq_ok.mp h
    obtain ⟨tail, htail, h⟩ := bind_eq_ok.mp h
    cases h
    have hkeyLen := Varint.encode_length_le hkey
    have hvalueLen := Varint.encode_length_le hvalue
    have htailLen := ih htail
    simp
    omega

theorem Settings.encode_length (h : Settings.encode settings = .ok x) :
    x.length ≤ minTcpRelayFrameSize := by
  obtain ⟨count, hcount, h⟩ := bind_eq_ok.mp h
  obtain ⟨entries, hentries, h⟩ := bind_eq_ok.mp h
  cases h
  have hcountLen := Varint.encode_length_le hcount
  have hentriesLen := encodeEntries_length hentries
  have hkeys := List.length_filterMap_le (fun key => (settings.get key).map (key, ·)) SettingKey.all
  have hall : SettingKey.all.length = 7 := rfl
  simp [minTcpRelayFrameSize]
  omega

theorem putVarbytes_length (h : Auth.putVarbytes bytes = .ok x) :
    x.length ≤ 8 + bytes.length := by
  obtain ⟨len, hlen, rfl⟩ := Auth.putVarbytes_eq_ok.mp h
  have hle := Varint.encode_length_le hlen
  simp
  omega

theorem AuthResponse.encode_length (h : Auth.AuthResponse.encode response = .ok x)
    (hcapabilities : response.clientCapabilities = []) : x.length ≤ minTcpRelayFrameSize := by
  obtain ⟨⟨-, hkeyIdMax⟩, -, len, capabilities, hlen, hcapabilitiesBytes, rfl⟩ :=
    Auth.AuthResponse.encode_eq_ok.mp h
  have hkeyIdLen := Varint.encode_length_le hlen
  have hcapabilitiesLen := putVarbytes_length hcapabilitiesBytes
  simp only [hcapabilities, List.length_nil, Auth.maxKeyIdLen] at hcapabilitiesLen hkeyIdMax
  simp [Auth.putU64, minTcpRelayFrameSize]
  omega

theorem Frame.new_payload (h : Frame.new frameType flags flowId bytes = .ok frame) :
    frame.payload = bytes := by
  obtain ⟨header, -, h⟩ := bind_eq_ok.mp h
  cases h
  rfl

theorem Frame.decode_length (h : Frame.decode limits src = .ok (frame, rest)) :
    frame.payload.length ≤ limits.maxFrameSize := by
  obtain ⟨⟨header, src⟩, hheader, h⟩ := bind_eq_ok.mp h
  dsimp only at h
  split at h
  · cases h
  · cases h
    have hlimit := (FrameHeader.decode_canonical hheader).1
    simp
    omega

theorem Settings.negotiated_maxFrameSize (h : Settings.negotiated settings = .ok agreed) :
    minTcpRelayFrameSize ≤ agreed.maxFrameSize :=
  (Settings.negotiated_bounds h).2.1

end UncrownedKing.Proto
