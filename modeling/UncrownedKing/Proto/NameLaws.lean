import UncrownedKing.Lib.Split
import UncrownedKing.Proto.SizeLaws
import UncrownedKing.Proto.TargetLaws

/-!
# Names a target may hold

The checks on a name together ask for a length, an alphabet, labels of the right
form and a name that is no address.
-/

namespace UncrownedKing.Proto

open Lib Net

def nameChar (c : Char) : Bool := c.isAlphanum || c == '.' || c == '-'

structure LegalName (chars : List Char) : Prop where
  length : chars.length ≤ 255
  notLiteral : IpAddr.fromStr chars = none
  notShaped : isResolverIpShaped chars = false
  alphabet : ∀ c ∈ chars, nameChar c
  labels : ∀ label ∈ chars.splitOn '.', validateLabel label = .ok ()

theorem nameChar_range (h : nameChar c) : 0x2d ≤ c.toNat ∧ c.toNat ≤ 0x7a := by
  delta nameChar Char.isAlphanum Char.isAlpha Char.isUpper Char.isLower Char.isDigit at h
  simp only [Bool.or_eq_true, decide_eq_true_eq, Bool.and_eq_true, beq_iff_eq,
    UInt32.le_iff_toNat_le, ge_iff_le] at h
  rcases h with ((⟨h, h'⟩ | ⟨h, h'⟩) | ⟨h, h'⟩) | rfl | rfl
  all_goals simp at *
  all_goals omega

theorem utf8EncodeChar_nameChar (h : nameChar c) :
    String.utf8EncodeChar c = [c.val.toUInt8] := by
  obtain ⟨-, hhigh⟩ := nameChar_range h
  apply String.utf8EncodeChar_eq_singleton
  simp [Char.utf8Size, UInt32.le_iff_toNat_le]
  omega

theorem not_isAsciiControl_nameChar (h : nameChar c) : isAsciiControl c.val.toUInt8 = false := by
  obtain ⟨hlow, hhigh⟩ := nameChar_range h
  simp only [isAsciiControl, Bool.or_eq_false_iff, decide_eq_false_iff_not, beq_eq_false_iff_ne,
    UInt8.lt_iff_toNat_lt, ne_eq, ← UInt8.toNat_inj, UInt32.toNat_toUInt8]
  simp
  omega

theorem utf8_toList (name : String) :
    name.toUTF8.toList = name.toList.flatMap String.utf8EncodeChar := by
  obtain ⟨chars, rfl⟩ : ∃ chars, name = .ofList chars := ⟨_, String.ofList_toList.symm⟩
  rw [toUTF8_toList]
  simp [String.toUTF8, List.utf8Encode]

theorem length_le_utf8ByteSize (name : String) : name.toList.length ≤ name.utf8ByteSize := by
  have hsize : name.utf8ByteSize = (name.toList.flatMap String.utf8EncodeChar).length := by
    rw [← utf8_toList, toUTF8_toList]
    rfl
  rw [hsize, List.length_flatMap]
  generalize name.toList = chars
  induction chars with
  | nil => simp
  | cons c rest ih =>
    have hpos := c.utf8Size_pos
    simp at ih ⊢
    omega

theorem utf8_nameChars {name : String} (h : ∀ c ∈ name.toList, nameChar c) :
    name.toUTF8.toList = name.toList.map fun c => c.val.toUInt8 := by
  rw [utf8_toList]
  generalize name.toList = chars at h ⊢
  induction chars with
  | nil => rfl
  | cons c rest ih =>
    obtain ⟨hc, hrest⟩ := List.forall_mem_cons.mp h
    simp [utf8EncodeChar_nameChar hc, ih hrest]

theorem validateLabels_ok {labels : List (List Char)} :
    labels.forM validateLabel = .ok () ↔ ∀ label ∈ labels, validateLabel label = .ok () := by
  induction labels with
  | nil => simp [pure, Except.pure]
  | cons label rest ih =>
    rw [List.forall_mem_cons, ← ih]
    constructor
    · intro h
      obtain ⟨⟨⟩, hlabel, hrest⟩ := bind_eq_ok.mp h
      exact ⟨hlabel, hrest⟩
    · rintro ⟨hlabel, hrest⟩
      exact bind_eq_ok.mpr ⟨(), hlabel, hrest⟩

theorem validateLabel_nil : validateLabel [] ≠ .ok () := by
  simp [validateLabel]

theorem dots_of_labels (h : ∀ label ∈ chars.splitOn '.', validateLabel label = .ok ()) :
    chars ≠ [] ∧ chars.head? ≠ some '.' ∧ chars.getLast? ≠ some '.' ∧
      ¬ "..".toList <:+: chars := by
  have hempty : [] ∉ chars.splitOn '.' := fun hmem => validateLabel_nil (h [] hmem)
  refine ⟨?_, ?_, ?_, ?_⟩
  · rintro rfl
    simp at hempty
  · intro hhead
    obtain ⟨rest, rfl⟩ := List.head?_eq_some_iff.mp hhead
    rw [show '.' :: rest = [] ++ '.' :: rest from rfl, splitOn_append_cons] at hempty
    simp at hempty
  · intro hlast
    obtain ⟨front, rfl⟩ := List.getLast?_eq_some_iff.mp hlast
    rw [splitOn_append_cons] at hempty
    simp at hempty
  · rintro ⟨front, back, rfl⟩
    have hchars : front ++ "..".toList ++ back = front ++ '.' :: ([] ++ '.' :: back) := by simp
    rw [hchars, splitOn_append_cons, splitOn_append_cons] at hempty
    simp at hempty

theorem not_dots_iff {chars : List Char} :
    chars.tails.any ("..".toList.isPrefixOf ·) = false ↔ ¬ "..".toList <:+: chars := by
  rw [← Bool.not_eq_true, List.any_eq_true, List.infix_iff_prefix_suffix]
  simp [and_comm]

theorem validateDomain_iff {name : String} :
    validateDomain name = .ok () ↔ LegalName name.toList := by
  constructor
  · intro h
    have hlength := (validateDomain_length h).2
    have hsize := length_le_utf8ByteSize name
    unfold validateDomain at h
    dsimp only at h
    split at h
    · cases h
    split at h
    · cases h
    split at h
    · cases h
    rename_i hliteral
    split at h
    · cases h
    rename_i hshape
    split at h
    · cases h
    split at h
    · cases h
    rename_i hchars
    have halphabet : name.toList.all (fun c => c.isAlphanum || c == '.' || c == '-') := by
      simpa only [Bool.not_eq_true', Bool.not_eq_false] using hchars
    exact {
      length := by omega
      notLiteral := by simpa using hliteral
      notShaped := by simpa using hshape
      alphabet := List.all_eq_true.mp halphabet
      labels := validateLabels_ok.mp h }
  · intro h
    obtain ⟨hne, hhead, hlast, hdots⟩ := dots_of_labels h.labels
    have hbytes := utf8_nameChars h.alphabet
    have hsize : name.utf8ByteSize = name.toList.length := by
      have hlen := congrArg List.length hbytes
      rw [toUTF8_toList, List.length_map] at hlen
      exact hlen
    have hcontrol : name.toUTF8.toList.any isAsciiControl = false := by
      rw [hbytes, List.any_map, List.any_eq_false]
      exact fun c hc => Bool.eq_false_iff.mp (not_isAsciiControl_nameChar (h.alphabet c hc))
    have halphabet : name.toList.all (fun c => c.isAlphanum || c == '.' || c == '-') :=
      List.all_eq_true.mpr h.alphabet
    have hempty : name.isEmpty = false := by
      simpa [String.isEmpty, hsize] using hne
    have hlength := h.length
    have hshort : ¬ name.utf8ByteSize > 255 := by omega
    simp only [validateDomain, hempty, hcontrol, h.notLiteral, h.notShaped, halphabet,
      not_dots_iff.mpr hdots, beq_eq_false_iff_ne.mpr hhead, beq_eq_false_iff_ne.mpr hlast]
    simpa [hshort] using validateLabels_ok.mpr h.labels

def subdomain (chars : List Char) : List Char := 'x' :: '.' :: chars

theorem splitOn_subdomain (chars : List Char) :
    (subdomain chars).splitOn '.' = ['x'] :: chars.splitOn '.' := by
  rw [show subdomain chars = ['x'] ++ '.' :: chars from rfl, splitOn_append_cons]
  rfl

theorem fromStr_subdomain (chars : List Char) : IpAddr.fromStr (subdomain chars) = none := rfl

theorem LegalName.subdomain (h : LegalName chars) (hlength : chars.length ≤ 253) :
    LegalName (subdomain chars) where
  length := by
    simp only [Proto.subdomain, List.length_cons]
    omega
  notLiteral := fromStr_subdomain chars
  notShaped := by
    rw [isResolverIpShaped_eq, splitOn_subdomain, List.all_cons]
    rfl
  alphabet := by
    intro c hc
    rcases List.mem_cons.mp hc with rfl | hc
    · rfl
    rcases List.mem_cons.mp hc with rfl | hc
    · rfl
    exact h.alphabet c hc
  labels := by
    rw [splitOn_subdomain, List.forall_mem_cons]
    exact ⟨rfl, h.labels⟩

end UncrownedKing.Proto
