import UncrownedKing.Proto.Target

/-!
# Names the resolver would take for addresses

A name with only parts that `inet_aton` reads as numbers is refused by the check
on its shape.
-/

namespace UncrownedKing.Proto

open Lib Net

def atonDigits (radix : Nat) (digits : List Char) : Option Nat :=
  digits.foldlM (fun n c => (toDigit radix c).map (n * radix + ·)) 0

def atonPart : List Char → Option Nat
  | [] => none
  | '0' :: 'x' :: digits => atonDigits 16 digits
  | '0' :: 'X' :: digits => atonDigits 16 digits
  | '0' :: digits => atonDigits 8 digits
  | digits => atonDigits 10 digits

/-- Every part but the last is one byte; the last fills what is left. -/
def inetAton (name : List Char) : Option Nat := do
  let parts ← (name.splitOn '.').mapM atonPart
  let last ← parts.getLast?
  if parts.length ≤ 4 ∧ (∀ part ∈ parts.dropLast, part < 256) ∧ last < 256 ^ (5 - parts.length) then
    some (parts.dropLast.foldl (fun n part => n * 256 + part) 0 * 256 ^ (5 - parts.length) + last)
  else none

theorem all_of_atonDigits {p : Char → Bool} (hp : ∀ c, (toDigit radix c).isSome → p c)
    (h : (atonDigits radix digits).isSome) : digits.all p := by
  unfold atonDigits at h
  generalize 0 = n at h
  induction digits generalizing n with
  | nil => rfl
  | cons c rest ih =>
    rw [List.foldlM_cons] at h
    cases hdigit : toDigit radix c with
    | none => simp [hdigit] at h
    | some digit =>
      have hrest := ih _ (by simpa [hdigit] using h)
      rw [List.all_cons, hrest, hp c (by simp [hdigit])]
      rfl

theorem isDigit_of_toDigit (hradix : radix ≤ 10) (h : (toDigit radix c).isSome) : c.isDigit := by
  obtain ⟨digit, hdigit⟩ := Option.isSome_iff_exists.mp h
  unfold toDigit at hdigit
  rw [Option.filter_eq_some_iff] at hdigit
  obtain ⟨hvalue, hlt⟩ := hdigit
  split at hvalue
  · rename_i hrange
    simp only [Char.isDigit, Bool.and_eq_true, decide_eq_true_eq]
    exact hrange
  · split at hvalue
    · cases hvalue
      simp at hlt
      omega
    · split at hvalue
      · cases hvalue
        simp at hlt
        omega
      · cases hvalue

def atonShaped (label : List Char) : Bool :=
  let allDigits := !label.isEmpty && label.all (·.isDigit)
  let rest := ("0x".toList.isPrefixOf? label).or ("0X".toList.isPrefixOf? label)
  allDigits || rest.any (·.all isAsciiHexDigit)

theorem isResolverIpShaped_eq (domain : List Char) :
    isResolverIpShaped domain = (domain.splitOn '.').all atonShaped := rfl

theorem atonShaped_of_digits (hradix : radix ≤ 10) (hne : label ≠ [])
    (h : (atonDigits radix label).isSome) : atonShaped label := by
  have hall := all_of_atonDigits (fun _ => isDigit_of_toDigit hradix) h
  simp only [atonShaped, hall, List.isEmpty_eq_false_iff.mpr hne]
  rfl

theorem atonShaped_of_hex (hrest : ("0x".toList.isPrefixOf? label).or
    ("0X".toList.isPrefixOf? label) = some digits) (h : (atonDigits 16 digits).isSome) :
    atonShaped label := by
  have hall : digits.all isAsciiHexDigit := all_of_atonDigits (fun _ hc => hc) h
  simp only [atonShaped, hrest, Option.any_some, hall, Bool.or_true]

theorem atonShaped_of_part (h : (atonPart label).isSome) : atonShaped label := by
  unfold atonPart at h
  split at h
  · cases h
  · exact atonShaped_of_hex rfl h
  · exact atonShaped_of_hex rfl h
  · rename_i digits _ _
    -- the leading zero is a digit as well
    have hoctal : (atonDigits 8 ('0' :: digits)).isSome := h
    exact atonShaped_of_digits (by decide) (List.cons_ne_nil _ _) hoctal
  · rename_i hne _ _ _
    exact atonShaped_of_digits (by decide) hne h

theorem isSome_of_mapM {f : α → Option β} {l : List α} (h : (l.mapM f).isSome) :
    ∀ x ∈ l, (f x).isSome := by
  induction l with
  | nil => simp
  | cons x rest ih =>
    rw [List.mapM_cons] at h
    cases hx : f x with
    | none => simp [hx] at h
    | some y =>
      have hrest : (rest.mapM f).isSome := by
        cases hr : rest.mapM f <;> simp [hx, hr] at h ⊢
      exact List.forall_mem_cons.mpr ⟨by simp [hx], ih hrest⟩

theorem isResolverIpShaped_of_inetAton (h : (inetAton name).isSome) : isResolverIpShaped name := by
  have hparts : ((name.splitOn '.').mapM atonPart).isSome := by
    unfold inetAton at h
    cases hparts : (name.splitOn '.').mapM atonPart with
    | none => simp [hparts] at h
    | some parts => rfl
  rw [isResolverIpShaped_eq, List.all_eq_true]
  exact fun label hlabel => atonShaped_of_part (isSome_of_mapM hparts label hlabel)

theorem not_address_of_validateDomain (h : validateDomain domain = .ok ()) :
    IpAddr.fromStr domain.toList = none ∧ inetAton domain.toList = none := by
  unfold validateDomain at h
  dsimp only at h
  split at h
  · cases h
  split at h
  · cases h
  split at h
  · cases h
  rename_i hstrict
  split at h
  · cases h
  rename_i hshape
  refine ⟨by simpa using hstrict, ?_⟩
  rw [← Option.not_isSome_iff_eq_none]
  exact fun haddr => hshape (isResolverIpShaped_of_inetAton haddr)

theorem validateDomain_of_readHost {addrType : AddrType}
    (h : addrType.readHost host port = .ok (.domain name port')) : validateDomain name = .ok () := by
  unfold AddrType.readHost at h
  split at h
  · split at h
    · cases h
    · obtain ⟨⟨⟩, hvalid, htarget⟩ := bind_eq_ok.mp h
      cases htarget
      exact hvalid
  all_goals cases h

theorem validateDomain_of_decode (h : Target.decode src = .ok (.domain name port, rest)) :
    validateDomain name = .ok () := by
  cases src with
  | nil => cases h
  | cons addrType src =>
    obtain ⟨addrType, -, h⟩ := bind_eq_ok.mp h
    obtain ⟨⟨hostLen, src⟩, -, h⟩ := bind_eq_ok.mp h
    obtain ⟨-, -, h⟩ := bind_eq_ok.mp h
    split at h
    · cases h
    · obtain ⟨-, -, h⟩ := bind_eq_ok.mp h
      obtain ⟨target, hhost, htarget⟩ := bind_eq_ok.mp h
      cases htarget
      exact validateDomain_of_readHost hhost

/-- No accepted name is one that a resolver answers without asking. -/
theorem domain_is_no_address :
    (∀ domain, validateDomain domain = .ok () →
      IpAddr.fromStr domain.toList = none ∧ inetAton domain.toList = none) ∧
    ∀ src name port rest, Target.decode src = .ok (.domain name port, rest) →
      IpAddr.fromStr name.toList = none ∧ inetAton name.toList = none :=
  ⟨fun _ h => not_address_of_validateDomain h,
    fun _ _ _ _ h => not_address_of_validateDomain (validateDomain_of_decode h)⟩

example : inetAton "0x7f.1".toList = some 0x7f000001 := by decide

end UncrownedKing.Proto
