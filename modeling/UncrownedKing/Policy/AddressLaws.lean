import UncrownedKing.Lib.PrefixMask
import UncrownedKing.Policy.EvaluateLaws
import UncrownedKing.Proto.OpenLaws

/-!
# Address classes and networks

An IPv4 address and the IPv6 addresses that embed it fall in the same classes.
-/

namespace UncrownedKing.Policy

open Lib Net Proto

/-- A 6to4 address leaves five segments free. -/
inductive Embedding
  | mapped
  | nat64
  | compatible
  | sixToFour (s3 s4 s5 s6 s7 : UInt16)

def Embedding.embed (embedding : Embedding) (ip : Ipv4Addr) : Ipv6Addr :=
  let high := groupOfOctets ip.o0 ip.o1
  let low := groupOfOctets ip.o2 ip.o3
  match embedding with
  | .mapped => .new 0 0 0 0 0 0xffff high low
  | .nat64 => .new 0x0064 0xff9b 0 0 0 0 high low
  | .compatible => .new 0 0 0 0 0 0 high low
  | .sixToFour s3 s4 s5 s6 s7 => .new 0x2002 high low s3 s4 s5 s6 s7

theorem toNat_groupOfOctets (high low : UInt8) :
    (groupOfOctets high low).toNat = high.toNat * 256 + low.toNat := by
  have hhigh := high.toNat_lt
  have hlow := low.toNat_lt
  rw [groupOfOctets_eq, UInt16.toNat_ofNat']
  simp only [fromBe, List.length_cons, List.length_nil]
  omega

theorem ipv4FromSegments_groups (ip : Ipv4Addr) :
    ipv4FromSegments (groupOfOctets ip.o0 ip.o1) (groupOfOctets ip.o2 ip.o3) = ip := by
  have hhigh (high low : UInt8) : (groupOfOctets high low >>> 8).toUInt8 = high := by
    have hlow := low.toNat_lt
    apply UInt8.toNat_inj.mp
    rw [UInt16.toNat_toUInt8, UInt16.toNat_shiftRight, toNat_groupOfOctets]
    have hshift : (high.toNat * 256 + low.toNat) >>> 8 = high.toNat := by
      rw [Nat.shiftRight_eq_div_pow]
      omega
    simp [hshift]
  have hlow (high low : UInt8) : (groupOfOctets high low).toUInt8 = low := by
    have hlt := low.toNat_lt
    apply UInt8.toNat_inj.mp
    rw [UInt16.toNat_toUInt8, toNat_groupOfOctets]
    omega
  simp only [ipv4FromSegments, hhigh, hlow]

def nativePrivate (ip : Ipv6Addr) : Bool :=
  ip.isUniqueLocal || ip.isLoopback || ip.isUnspecified || ip.isMulticast ||
    isIpv6UnicastLinkLocal ip || isIpv6SiteLocal ip || isIpv6Documentation ip || isIpv6Orchid ip

theorem isPrivate_v6 (ip : Ipv6Addr) :
    isPrivate (.v6 ip) = ((embeddedIpv4 ip).any isRestrictedIpv4 || nativePrivate ip) := by
  simp [isPrivate, nativePrivate, Bool.or_assoc]

theorem nativePrivate_embedding {ip : Ipv6Addr}
    (hfirst : ip.s0 = 0 ∨ ip.s0 = 0x0064 ∨ ip.s0 = 0x2002)
    (hunspecified : ip ≠ .new 0 0 0 0 0 0 0 0) (hloopback : ip ≠ .new 0 0 0 0 0 0 0 1) :
    nativePrivate ip = false := by
  simp only [nativePrivate, Ipv6Addr.isLoopback, Ipv6Addr.isUnspecified,
    beq_false_of_ne hunspecified, beq_false_of_ne hloopback, Ipv6Addr.isUniqueLocal,
    Ipv6Addr.isMulticast, isIpv6UnicastLinkLocal, isIpv6SiteLocal, isIpv6Documentation,
    isIpv6Orchid]
  rcases hfirst with h | h | h <;> rw [h] <;> rfl

theorem classified_alike {ip : Ipv6Addr} (h : embeddedIpv4 ip = some embedded)
    (hnative : nativePrivate ip = false) (hmeta : ip ≠ metadataServiceIpv6) :
    isPrivate (.v6 ip) = isPrivate (.v4 embedded) ∧
      isMetadataServiceIp (.v6 ip) = isMetadataServiceIp (.v4 embedded) := by
  constructor
  · rw [isPrivate_v6, h, hnative]
    simp [isPrivate]
  · simp [isMetadataServiceIp, h, hmeta]

theorem groupOfOctets_eq_zero : groupOfOctets high low = 0 ↔ high = 0 ∧ low = 0 := by
  rw [← UInt16.toNat_inj, ← UInt8.toNat_inj, ← UInt8.toNat_inj, toNat_groupOfOctets]
  simp only [UInt16.reduceToNat, UInt8.reduceToNat]
  omega

theorem groupOfOctets_le_one : groupOfOctets high low ≤ 1 ↔ high = 0 ∧ (low = 0 ∨ low = 1) := by
  rw [UInt16.le_iff_toNat_le, ← UInt8.toNat_inj, ← UInt8.toNat_inj, ← UInt8.toNat_inj,
    toNat_groupOfOctets]
  simp only [UInt16.reduceToNat, UInt8.reduceToNat]
  omega

/-- Every embedding is classified as the address it embeds. -/
theorem embedding_classified_alike (embedding : Embedding) (ip : Ipv4Addr) :
    isPrivate (.v6 (embedding.embed ip)) = isPrivate (.v4 ip) ∧
      isMetadataServiceIp (.v6 (embedding.embed ip)) = isMetadataServiceIp (.v4 ip) := by
  have hback := ipv4FromSegments_groups ip
  cases embedding with
  | mapped =>
    refine classified_alike ?_ (nativePrivate_embedding (.inl rfl) ?_ ?_) ?_
    · simp [Embedding.embed, embeddedIpv4, ipv4Mapped, hback]
    all_goals simp [Embedding.embed, metadataServiceIpv6]
  | nat64 =>
    refine classified_alike ?_ (nativePrivate_embedding (.inr (.inl rfl)) ?_ ?_) ?_
    · simp [Embedding.embed, embeddedIpv4, ipv4Mapped, hback]
    all_goals simp [Embedding.embed, metadataServiceIpv6]
  | sixToFour s3 s4 s5 s6 s7 =>
    refine classified_alike ?_ (nativePrivate_embedding (.inr (.inr rfl)) ?_ ?_) ?_
    · simp [Embedding.embed, embeddedIpv4, ipv4Mapped, hback]
    all_goals simp [Embedding.embed, metadataServiceIpv6]
  | compatible =>
    by_cases hlow : groupOfOctets ip.o0 ip.o1 = 0 ∧ groupOfOctets ip.o2 ip.o3 ≤ 1
    · -- `::` and `::1` are not read as embeddings, but are private as 0.0.0.0 and 0.0.0.1 are
      obtain ⟨o0, o1, o2, o3⟩ := ip
      rw [groupOfOctets_eq_zero, groupOfOctets_le_one] at hlow
      obtain ⟨⟨rfl, rfl⟩, rfl, rfl | rfl⟩ := hlow <;> decide
    · refine classified_alike ?_ (nativePrivate_embedding (.inl rfl) ?_ ?_) ?_
      · simp [Embedding.embed, embeddedIpv4, ipv4Mapped, hback, hlow]
      · intro heq
        simp only [Embedding.embed, Ipv6Addr.new.injEq, true_and] at heq
        exact hlow ⟨heq.1, by rw [heq.2]; decide⟩
      · intro heq
        simp only [Embedding.embed, Ipv6Addr.new.injEq, true_and] at heq
        exact hlow ⟨heq.1, by rw [heq.2]; decide⟩
      · simp [Embedding.embed, metadataServiceIpv6]

/-- An IPv4-mapped address is taken as IPv4. -/
def canonical : IpAddr → IpAddr
  | .v4 ip => .v4 ip
  | .v6 ip => (ipv4Mapped ip).elim (.v6 ip) .v4

/-- The address and the network agree on the bits of the prefix. -/
def Cidr.Covers : Cidr → IpAddr → Prop
  | .v4 network pfx, .v4 ip => AgreeOn pfx.toNat network.toBits ip.toBits
  | .v6 network pfx, .v6 ip => AgreeOn pfx.toNat network.toBits ip.toBits
  | .v4 _ _, .v6 _ | .v6 _ _, .v4 _ => False

/-- A mapped address matched in its IPv6 form. -/
def Cidr.CoversMapped : Cidr → IpAddr → Prop
  | .v6 network pfx, .v6 ip =>
    ipv4Mapped ip ≠ none ∧ AgreeOn pfx.toNat network.toBits ip.toBits
  | .v4 _ _, _ | .v6 _ _, .v4 _ => False

theorem mask_eq (width pfx : UInt8) :
    (if pfx = 0 then 0
      else if pfx ≤ width then BitVec.allOnes width.toNat <<< (width.toNat - pfx.toNat)
      else BitVec.allOnes width.toNat) = prefixMask width.toNat pfx.toNat := by
  split
  · rename_i hzero
    rw [hzero]
    exact (prefixMask_zero width.toNat).symm
  · split
    · rfl
    · rename_i hlong
      have hbeyond : width.toNat < pfx.toNat := UInt8.lt_iff_toNat_lt.mp (UInt8.not_le.mp hlong)
      exact (prefixMask_of_le (Nat.le_of_lt hbeyond)).symm

theorem ipv4Mask_eq (pfx : UInt8) : ipv4Mask pfx = prefixMask 32 pfx.toNat := mask_eq 32 pfx

theorem ipv6Mask_eq (pfx : UInt8) : ipv6Mask pfx = prefixMask 128 pfx.toNat := mask_eq 128 pfx

theorem containsV4_iff : Cidr.containsV4 network pfx ip = true ↔
    AgreeOn pfx.toNat network.toBits ip.toBits := by
  rw [Cidr.containsV4, beq_iff_eq, ipv4Mask_eq, and_prefixMask_eq_iff]

theorem contains_v6_iff {network ip : Ipv6Addr} : Cidr.contains (.v6 network pfx) (.v6 ip) = true ↔
    AgreeOn pfx.toNat network.toBits ip.toBits := by
  rw [Cidr.contains, beq_iff_eq, ipv6Mask_eq, and_prefixMask_eq_iff]

theorem ipv4Mapped_of_canonical (h : canonical ip = .v6 plain) : ipv4Mapped plain = none := by
  cases ip with
  | v4 ip => cases h
  | v6 ip =>
    unfold canonical at h
    cases hmapped : ipv4Mapped ip with
    | some mapped => simp [hmapped] at h
    | none =>
      simp only [hmapped, Option.elim_none, IpAddr.v6.injEq] at h
      rwa [← h]

theorem contains_canonical (cidr : Cidr) (ip : IpAddr) :
    cidr.contains (canonical ip) = true ↔ cidr.Covers (canonical ip) := by
  cases hcanonical : canonical ip with
  | v4 ip =>
    cases cidr with
    | v4 network pfx => exact containsV4_iff
    | v6 network pfx => simp [Cidr.contains, Cidr.Covers]
  | v6 ip =>
    cases cidr with
    | v4 network pfx =>
      simp [Cidr.contains, Cidr.Covers, ipv4Mapped_of_canonical hcanonical]
    | v6 network pfx => exact contains_v6_iff

theorem contains_mapped_iff {ip : Ipv6Addr} (hmapped : ipv4Mapped ip ≠ none) :
    Cidr.contains (.v6 network pfx) (.v6 ip) = true ↔
      Cidr.CoversMapped (.v6 network pfx) (.v6 ip) := by
  rw [contains_v6_iff]
  exact ⟨fun h => ⟨hmapped, h⟩, fun h => h.2⟩

theorem contains_eq_canonical_iff (cidr : Cidr) (ip : IpAddr) :
    cidr.contains ip = cidr.contains (canonical ip) ↔ ¬ cidr.CoversMapped ip := by
  cases ip with
  | v4 ip => cases cidr <;> simp [canonical, Cidr.CoversMapped]
  | v6 ip =>
    cases hmapped : ipv4Mapped ip with
    | none => cases cidr <;> simp [canonical, hmapped, Cidr.CoversMapped]
    | some mapped =>
      cases cidr with
      | v4 network pfx => simp [canonical, hmapped, Cidr.contains, Cidr.CoversMapped]
      | v6 network pfx =>
        have hnone : Cidr.contains (.v6 network pfx) (canonical (.v6 ip)) = false := by
          simp [canonical, hmapped, Cidr.contains]
        rw [hnone, ← contains_mapped_iff (by simp [hmapped]), Bool.not_eq_true]

/-- Matching is that of the canonical form, unless an IPv6 network has the bits of an IPv4-mapped
address. -/
theorem cidr_canonical_iff (cidr : Cidr) (ip : IpAddr) :
    (cidr.contains ip = cidr.contains (canonical ip) ∧
        (cidr.contains (canonical ip) = true ↔ cidr.Covers (canonical ip)) ∧
        ∀ network pfx mapped, cidr = .v6 network pfx → ip = .v6 mapped →
          ipv4Mapped mapped ≠ none → cidr.contains ip = false) ↔
      ¬ cidr.CoversMapped ip := by
  rw [← contains_eq_canonical_iff]
  refine ⟨fun h => h.1, fun h => ⟨h, contains_canonical cidr ip, ?_⟩⟩
  rintro network pfx mapped rfl rfl hmapped
  rw [← Bool.not_eq_true, contains_mapped_iff hmapped, ← contains_eq_canonical_iff]
  exact h

/-- `::/0` matches `::ffff:192.0.2.1`, but not 192.0.2.1. -/
theorem any_ipv6_matches_mapped :
    Cidr.fromStr "::/0".toList = some (.v6 (.new 0 0 0 0 0 0 0 0) 0) ∧
      canonical (.v6 (.new 0 0 0 0 0 0xffff 0xc000 0x0201)) = .v4 (.new 192 0 2 1) ∧
      Cidr.contains (.v6 (.new 0 0 0 0 0 0 0 0) 0) (.v6 (.new 0 0 0 0 0 0xffff 0xc000 0x0201)) =
        true ∧
      Cidr.contains (.v6 (.new 0 0 0 0 0 0 0 0) 0) (.v4 (.new 192 0 2 1)) = false := by
  decide

end UncrownedKing.Policy
