import UncrownedKing.Proto.Varint

/-!
# Relayed datagrams

A QUIC datagram is the flow id as a varint and the payload.
-/

namespace UncrownedKing.Proto

open Lib

namespace Datagram

def overhead (flowId : Nat) : ProtocolResult Nat := Varint.encodedLen flowId

def encode (flowId : Nat) (payload : Bytes) : ProtocolResult Bytes := do
  let header ← Varint.encode flowId
  pure (header ++ payload)

/-- The payload may be empty. -/
def decode (datagram : Bytes) : ProtocolResult (Nat × Bytes) := do
  let (flowId, payload) ← Varint.decode datagram
  pure (flowId, payload)

theorem encode_eq_ok (h : Varint.encode flowId = .ok header) (payload : Bytes) :
    encode flowId payload = .ok (header ++ payload) := by
  rw [encode, h]
  rfl

theorem decode_append (h : Varint.encode flowId = .ok header) (payload : Bytes) :
    decode (header ++ payload) = .ok (flowId, payload) := by
  rw [decode, Varint.decode_encode h]
  rfl

end Datagram

theorem Varint.eq_of_prefix (ha : Varint.encode a = .ok x) (hb : Varint.encode b = .ok y)
    (h : x <+: y) : a = b ∧ x = y := by
  obtain ⟨rest, rfl⟩ := h
  have hsame : x ++ rest = x ++ rest ++ [] := (List.append_nil _).symm
  obtain ⟨rfl, rfl⟩ := Varint.encode_delimited ha hb hsame
  exact ⟨rfl, (List.append_nil _).symm⟩

/-- No varint is the beginning of another, and a datagram is told apart into flow id and payload.
-/
theorem varints_canonical :
    (∀ value ≤ Varint.maxVarint, ∃ x, Varint.encode value = .ok x ∧
      Varint.encodedLen value = .ok x.length ∧
      ∀ suffix, Varint.decode (x ++ suffix) = .ok (value, suffix)) ∧
    (∀ src value rest, Varint.decode src = .ok (value, rest) →
      ∃ x, Varint.encode value = .ok x ∧ src = x ++ rest) ∧
    (∀ a b x y, Varint.encode a = .ok x → Varint.encode b = .ok y → x <+: y → a = b ∧ x = y) ∧
    (∀ src, Varint.decode src = .error .truncated ↔
      src = [] ∨ ∃ first tail, src = first :: tail ∧ src.length < 1 <<< (first >>> 6).toNat) ∧
    ∀ flowId ≤ Varint.maxVarint, ∀ payload, ∃ datagram overhead,
      Datagram.encode flowId payload = .ok datagram ∧
      Datagram.decode datagram = .ok (flowId, payload) ∧
      Datagram.overhead flowId = .ok overhead ∧
      datagram.length = overhead + payload.length := by
  refine ⟨fun value hvalue => ?_, fun src value rest h => Varint.decode_canonical h,
    fun a b x y ha hb h => Varint.eq_of_prefix ha hb h, fun src => ?_,
    fun flowId hflowId payload => ?_⟩
  · obtain ⟨x, hx⟩ := Varint.encode_ok_iff.mpr hvalue
    exact ⟨x, hx, Varint.encode_length hx, Varint.decode_encode hx⟩
  · cases src with
    | nil => exact iff_of_true rfl (.inl rfl)
    | cons first tail =>
      rw [Varint.decode_truncated_iff]
      simp
  · obtain ⟨header, hheader⟩ := Varint.encode_ok_iff.mpr hflowId
    exact ⟨_, _, Datagram.encode_eq_ok hheader payload, Datagram.decode_append hheader payload,
      Varint.encode_length hheader, List.length_append⟩

end UncrownedKing.Proto
