import Mathlib
import UncrownedKing.Policy.Load
import UncrownedKing.Proto.NameLaws

/-!
# Domain predicates

For the names a target may hold, predicates compare whole labels.
-/

namespace UncrownedKing.Policy

open Lib Proto

def dropDots (text : List Char) : List Char := text.rdropWhile (· == '.')

def labels (text : List Char) : List (List Char) :=
  (text.splitOn '.').map (List.map Char.toLower)

theorem toLower_eq_dot {c : Char} : c.toLower = '.' ↔ c = '.' := by
  constructor
  · intro h
    have halpha : c.isAlpha = false := by
      rw [← Char.isAlpha_toLower_eq_isAlpha, h]
      rfl
    have hupper : ¬ c.isUpper := by
      simp only [Char.isAlpha, Bool.or_eq_false_iff] at halpha
      simp [halpha.1]
    rwa [Char.toLower_eq_of_not_isUpper hupper] at h
  · rintro rfl
    rfl

theorem labels_eq (text : List Char) : labels text = (text.map Char.toLower).splitOn '.' :=
  (splitOn_map Char.toLower (fun _ => toLower_eq_dot) text).symm

theorem normalizeDomain_eq (text : String) :
    normalizeDomain text = (dropDots text.toList).map Char.toLower := rfl

theorem dropDots_eq_self (h : text.getLast? ≠ some '.') : dropDots text = text := by
  refine List.rdropWhile_eq_self_iff.mpr fun hne hlast => h ?_
  rw [List.getLast?_eq_getLast_of_ne_nil hne, beq_iff_eq.mp hlast]

theorem getLast?_dropDots (text : List Char) : (dropDots text).getLast? ≠ some '.' := by
  intro hlast
  have hne : dropDots text ≠ [] := by
    intro hnil
    simp [hnil] at hlast
  rw [List.getLast?_eq_some_getLast hne, Option.some.injEq] at hlast
  exact List.rdropWhile_last_not _ _ hne (beq_iff_eq.mpr hlast)

theorem head?_dropDots (h : dropDots text ≠ []) : (dropDots text).head? = text.head? := by
  obtain ⟨dots, hdots⟩ := List.rdropWhile_prefix (· == '.') text
  obtain ⟨c, rest, hrest⟩ := List.exists_cons_of_ne_nil h
  have hrest' : List.rdropWhile (· == '.') text = c :: rest := hrest
  rw [hrest, ← hdots, hrest']
  rfl

theorem cons_stripLeadingDot (h : text.head? = some '.') : '.' :: stripLeadingDot text = text := by
  obtain ⟨rest, rfl⟩ := List.head?_eq_some_iff.mp h
  rfl

theorem stripLeadingDot_eq_self (h : text.head? ≠ some '.') : stripLeadingDot text = text := by
  unfold stripLeadingDot
  split
  · exact absurd rfl h
  · rfl

theorem stripLeadingDot_map (text : List Char) :
    stripLeadingDot (text.map Char.toLower) = (stripLeadingDot text).map Char.toLower := by
  by_cases hdot : text.head? = some '.'
  · obtain ⟨rest, rfl⟩ := List.head?_eq_some_iff.mp hdot
    rfl
  · have hlower : (text.map Char.toLower).head? ≠ some '.' := by
      simpa [List.head?_map, toLower_eq_dot] using hdot
    rw [stripLeadingDot_eq_self hdot, stripLeadingDot_eq_self hlower]

theorem domainMatchesExact_iff {domain want : String} :
    domainMatchesExact domain want ↔
      normalizeDomain want ≠ [] ∧ normalizeDomain domain = normalizeDomain want := by
  simp [domainMatchesExact]

theorem utf8Len_append (front back : List Char) :
    utf8Len (front ++ back) = utf8Len front + utf8Len back := by
  simp [utf8Len]

theorem isSuffixOf_after_dot {name pattern : List Char} :
    (pattern.isSuffixOf name &&
        (name.take (name.length - pattern.length)).getLast? == some '.') = true ↔
      ∃ front, name = front ++ '.' :: pattern := by
  rw [Bool.and_eq_true, List.isSuffixOf_iff_suffix, beq_iff_eq]
  constructor
  · rintro ⟨⟨front, rfl⟩, hlast⟩
    simp at hlast
    obtain ⟨front, rfl⟩ := List.getLast?_eq_some_iff.mp hlast
    exact ⟨front, by simp⟩
  · rintro ⟨front, rfl⟩
    refine ⟨⟨front ++ ['.'], by simp⟩, ?_⟩
    have hlen : (front ++ '.' :: pattern).length - pattern.length = (front ++ ['.']).length := by
      simp
      omega
    rw [hlen, show front ++ '.' :: pattern = front ++ ['.'] ++ pattern by simp, List.take_left]
    simp

theorem domainMatchesSuffix_iff {domain suffix : String} :
    domainMatchesSuffix domain suffix ↔
      stripLeadingDot (normalizeDomain suffix) ≠ [] ∧
        ((∃ front, normalizeDomain domain =
            front ++ '.' :: stripLeadingDot (normalizeDomain suffix)) ∨
          (normalizeDomain suffix).head? ≠ some '.' ∧
            normalizeDomain domain = stripLeadingDot (normalizeDomain suffix)) := by
  unfold domainMatchesSuffix
  generalize normalizeDomain domain = name
  generalize normalizeDomain suffix = pattern
  dsimp only
  split
  · simp [stripLeadingDot]
  · rename_i stripped
    have hlonger : ∀ front, utf8Len stripped < utf8Len (front ++ '.' :: stripped) := by
      intro front
      rw [utf8Len_append, show '.' :: stripped = ['.'] ++ stripped from rfl, utf8Len_append,
        show utf8Len ['.'] = 1 from rfl]
      omega
    simp only [stripLeadingDot, Bool.and_eq_true, Bool.not_eq_true', decide_eq_true_eq,
      List.isEmpty_eq_false_iff, List.isSuffixOf_iff_suffix, List.head?_cons, ne_eq,
      not_true_eq_false, false_and, or_false]
    constructor
    · rintro ⟨⟨hne, -⟩, front, rfl⟩
      exact ⟨hne, front, rfl⟩
    · rintro ⟨hne, front, rfl⟩
      exact ⟨⟨hne, hlonger front⟩, front, rfl⟩
  · rename_i hne hdot
    have hhead : pattern.head? ≠ some '.' := by
      intro hhead
      obtain ⟨rest, rfl⟩ := List.head?_eq_some_iff.mp hhead
      exact hdot rest rfl
    have hne : pattern ≠ [] := hne
    rw [Bool.or_eq_true, isSuffixOf_after_dot, stripLeadingDot_eq_self hhead, beq_iff_eq]
    simp [hhead, hne, or_comm]

theorem normalizeDomain_legal {domain : String} (h : LegalName domain.toList) :
    normalizeDomain domain = domain.toList.map Char.toLower := by
  obtain ⟨-, -, hlast, -⟩ := dots_of_labels h.labels
  rw [normalizeDomain_eq, dropDots_eq_self hlast]

theorem head?_normalizeDomain {text : String} (h : normalizeDomain text ≠ []) :
    (normalizeDomain text).head? = some '.' ↔ text.toList.head? = some '.' := by
  rw [normalizeDomain_eq] at h ⊢
  rw [← head?_dropDots (mt List.map_eq_nil_iff.mpr h), List.head?_map]
  simp [toLower_eq_dot]

theorem getLast?_normalizeDomain (text : String) :
    (normalizeDomain text).getLast? ≠ some '.' := by
  have hlast := getLast?_dropDots text.toList
  rw [normalizeDomain_eq, List.getLast?_map]
  simpa [toLower_eq_dot] using hlast

theorem labels_stripped (pattern : String) :
    labels (stripLeadingDot (dropDots pattern.toList)) =
      (stripLeadingDot (normalizeDomain pattern)).splitOn '.' := by
  rw [labels_eq, ← stripLeadingDot_map, normalizeDomain_eq]

theorem exact_iff_labels {domain pattern : String} (h : LegalName domain.toList) :
    domainMatchesExact domain pattern ↔
      labels domain.toList = labels (dropDots pattern.toList) := by
  obtain ⟨hne, -⟩ := dots_of_labels h.labels
  rw [domainMatchesExact_iff, normalizeDomain_legal h, normalizeDomain_eq, labels_eq, labels_eq]
  constructor
  · rintro ⟨-, heq⟩
    rw [heq]
  · intro heq
    have hsame := splitOn_injective heq
    exact ⟨by simpa [← hsame] using hne, hsame⟩

theorem suffix_iff_labels {domain pattern : String} (h : LegalName domain.toList) :
    domainMatchesSuffix domain pattern ↔
      labels (stripLeadingDot (dropDots pattern.toList)) <:+ labels domain.toList ∧
        (pattern.toList.head? = some '.' →
          labels (stripLeadingDot (dropDots pattern.toList)) ≠ labels domain.toList) := by
  obtain ⟨hname, -⟩ := dots_of_labels h.labels
  have hlast := getLast?_normalizeDomain domain
  have hnormal := normalizeDomain_legal h
  rw [domainMatchesSuffix_iff, labels_stripped, labels_eq domain.toList, ← hnormal]
  constructor
  · rintro ⟨hne, ⟨front, hfront⟩ | ⟨hhead, heq⟩⟩
    · refine ⟨splitOn_suffix_iff.mpr (.inr ⟨front, hfront⟩), fun _ heq => ?_⟩
      have hlen := congrArg List.length (hfront.symm.trans (splitOn_injective heq).symm)
      simp at hlen
      omega
    · refine ⟨splitOn_suffix_iff.mpr (.inl heq), fun hdot => absurd ?_ hhead⟩
      refine (head?_normalizeDomain fun hnil => hne ?_).mpr hdot
      rw [hnil]
      rfl
  · rintro ⟨hsuffix, hproper⟩
    rcases splitOn_suffix_iff.mp hsuffix with heq | ⟨front, hfront⟩
    · have hne : stripLeadingDot (normalizeDomain pattern) ≠ [] := by
        simpa [← heq, hnormal] using hname
      refine ⟨hne, .inr ⟨fun hhead => hproper ?_ (by rw [heq]), heq⟩⟩
      refine (head?_normalizeDomain fun hnil => hne ?_).mp hhead
      rw [hnil]
      rfl
    · refine ⟨fun hnil => hlast ?_, .inl ⟨front, hfront⟩⟩
      rw [hfront, hnil]
      simp

theorem glued_not_matching {domain pattern : String} {front : List Char} {c : Char} (hc : c ≠ '.')
    (hglued : normalizeDomain domain =
      front ++ c :: stripLeadingDot (normalizeDomain pattern)) :
    domainMatchesExact domain pattern = false ∧ domainMatchesSuffix domain pattern = false := by
  have hdot : ∀ other, normalizeDomain domain ≠
      other ++ '.' :: stripLeadingDot (normalizeDomain pattern) := by
    intro other hother
    have hsame := List.append_inj_right' (hglued.symm.trans hother) rfl
    exact hc (List.cons.inj hsame).1
  have hlonger : normalizeDomain domain ≠ stripLeadingDot (normalizeDomain pattern) := by
    intro hsame
    have hlen := congrArg List.length (hglued.symm.trans hsame)
    simp at hlen
    omega
  constructor
  · rw [← Bool.not_eq_true, domainMatchesExact_iff]
    rintro ⟨-, hsame⟩
    by_cases hhead : (normalizeDomain pattern).head? = some '.'
    · exact hdot [] (hsame.trans (cons_stripLeadingDot hhead).symm)
    · exact hlonger (hsame.trans (stripLeadingDot_eq_self hhead).symm)
  · rw [← Bool.not_eq_true, domainMatchesSuffix_iff]
    rintro ⟨-, ⟨other, hother⟩ | ⟨-, hsame⟩⟩
    · exact hdot other hother
    · exact hlonger hsame

/-- A name is matched by all of its labels or by the last ones. -/
theorem domain_matches_by_labels (domain pattern : String)
    (hdomain : validateDomain domain = .ok ()) :
    (domainMatchesExact domain pattern ↔
      labels domain.toList = labels (dropDots pattern.toList)) ∧
    (domainMatchesSuffix domain pattern ↔
      labels (stripLeadingDot (dropDots pattern.toList)) <:+ labels domain.toList ∧
        (pattern.toList.head? = some '.' →
          labels (stripLeadingDot (dropDots pattern.toList)) ≠ labels domain.toList)) ∧
    ∀ front c, c ≠ '.' →
      normalizeDomain domain = front ++ c :: stripLeadingDot (normalizeDomain pattern) →
        domainMatchesExact domain pattern = false ∧ domainMatchesSuffix domain pattern = false := by
  have hlegal := validateDomain_iff.mp hdomain
  exact ⟨exact_iff_labels hlegal, suffix_iff_labels hlegal,
    fun _ _ hc hglued => glued_not_matching hc hglued⟩

theorem evilexample_not_matching :
    validateDomain "evilexample.com" = .ok () ∧
      domainMatchesExact "evilexample.com" "example.com" = false ∧
      domainMatchesSuffix "evilexample.com" "example.com" = false := by
  have hdomain : validateDomain "evilexample.com" = .ok () := by decide +kernel
  exact ⟨hdomain, (domain_matches_by_labels "evilexample.com" "example.com" hdomain).2.2
    "evi".toList 'l' (by decide) (by decide +kernel)⟩

/-- A target that may be sent and that the predicate matches. -/
def SomeTarget (predicate : String → Bool) : Prop :=
  ∃ name port bytes, Target.encode (.domain name port) = .ok bytes ∧ predicate name

theorem SomeTarget.of_legal {predicate : String → Bool} (h : LegalName chars)
    (hmatches : predicate (.ofList chars)) : SomeTarget predicate := by
  have hvalid : Target.validate (.domain (.ofList chars) 1) = .ok () :=
    validateDomain_iff.mpr (by simpa using h)
  have hlength := Target.host_length hvalid
  obtain ⟨hostLen, hhostLen⟩ :=
    Varint.encode_ok_iff.mpr (hlength.trans (show 255 ≤ Varint.maxVarint by decide))
  exact ⟨.ofList chars, 1, _, Target.encode_eq_ok.mpr ⟨rfl, hvalid, hostLen, hhostLen, rfl⟩,
    hmatches⟩

theorem legal_of_encode (h : Target.encode (.domain name port) = .ok bytes) :
    LegalName name.toList :=
  validateDomain_iff.mp (Target.encode_eq_ok.mp h).2.1

theorem toBool_iff {result : ProtocolResult Unit} : result.toBool = true ↔ result = .ok () := by
  cases result <;> simp [Except.toBool]

theorem normalizeDomain_ofList (h : LegalName chars) (hlower : chars.map Char.toLower = chars) :
    normalizeDomain (.ofList chars) = chars := by
  rw [normalizeDomain_legal (by simpa using h), String.toList_ofList, hlower]

theorem map_toLower_normalizeDomain (text : String) :
    (normalizeDomain text).map Char.toLower = normalizeDomain text := by
  simp [normalizeDomain_eq]

theorem map_toLower_stripped (text : String) :
    (stripLeadingDot (normalizeDomain text)).map Char.toLower =
      stripLeadingDot (normalizeDomain text) := by
  rw [← stripLeadingDot_map, map_toLower_normalizeDomain]

theorem legal_of_validateDomainMatch (h : validateDomainMatch text = .ok text) :
    LegalName (normalizeDomain text) := by
  unfold validateDomainMatch at h
  dsimp only at h
  split at h
  · cases h
  · rename_i haccepted
    simp only [not_or, Bool.not_eq_false] at haccepted
    simpa using validateDomain_iff.mp (toBool_iff.mp haccepted.2)

theorem validateDomainSuffixMatch_iff {text : String} :
    validateDomainSuffixMatch text = .ok text ↔
      LegalName (stripLeadingDot (normalizeDomain text)) := by
  have hlast : (stripLeadingDot (normalizeDomain text)).getLast? ≠ some '.' := by
    refine fun hdot => getLast?_normalizeDomain text ?_
    by_cases hhead : (normalizeDomain text).head? = some '.'
    · rw [← cons_stripLeadingDot hhead, List.getLast?_cons, hdot]
      rfl
    · rwa [stripLeadingDot_eq_self hhead] at hdot
  have hpattern : (validateDomainPattern (.ofList (normalizeDomain text))).toBool = true ↔
      LegalName (stripLeadingDot (normalizeDomain text)) := by
    rw [toBool_iff, validateDomainPattern, validateDomain_iff]
    simp [stripTrailingDot, hlast]
  unfold validateDomainSuffixMatch
  dsimp only
  split
  · rename_i hrefused
    simp [← hpattern, hrefused]
  · rename_i haccepted
    simp [← hpattern, Bool.eq_true_of_not_eq_false haccepted]

theorem exact_some_target (h : validateDomainMatch text = .ok text) :
    SomeTarget (domainMatchesExact · text) := by
  have hlegal := legal_of_validateDomainMatch h
  refine .of_legal hlegal (domainMatchesExact_iff.mpr ⟨(dots_of_labels hlegal.labels).1, ?_⟩)
  exact normalizeDomain_ofList hlegal (map_toLower_normalizeDomain text)

theorem suffix_some_target_iff (h : validateDomainSuffixMatch text = .ok text) :
    SomeTarget (domainMatchesSuffix · text) ↔
      (text.toList.head? = some '.' → (dropDots text.toList).length ≤ 254) := by
  have hlegal := validateDomainSuffixMatch_iff.mp h
  have hlower := map_toLower_stripped text
  obtain ⟨hne, -⟩ := dots_of_labels hlegal.labels
  have hnormal : normalizeDomain text ≠ [] := fun hnil => hne (by rw [hnil]; rfl)
  have hlength : (normalizeDomain text).length = (dropDots text.toList).length := by
    simp [normalizeDomain_eq]
  rw [← head?_normalizeDomain hnormal, ← hlength]
  constructor
  · rintro ⟨name, port, bytes, hencode, hmatches⟩ hhead
    have hname := legal_of_encode hencode
    rcases (domainMatchesSuffix_iff.mp hmatches).2 with ⟨front, hfront⟩ | ⟨hhead', -⟩
    · rw [normalizeDomain_legal hname] at hfront
      have hshort := hname.length
      have hlen := congrArg List.length hfront
      have hfrontNe : front ≠ [] := by
        rintro rfl
        obtain ⟨-, hdot, -⟩ := dots_of_labels hname.labels
        have hfirst := congrArg List.head? hfront
        rw [List.head?_map] at hfirst
        simp [toLower_eq_dot] at hfirst
        exact hdot hfirst
      have hpos := List.length_pos_iff.mpr hfrontNe
      rw [← cons_stripLeadingDot hhead]
      simp at hlen ⊢
      omega
    · exact absurd hhead hhead'
  · intro hroom
    by_cases hhead : (normalizeDomain text).head? = some '.'
    · have hshort := hroom hhead
      rw [← cons_stripLeadingDot hhead, List.length_cons] at hshort
      have hsub := hlegal.subdomain (Nat.le_of_succ_le_succ hshort)
      refine .of_legal hsub (domainMatchesSuffix_iff.mpr ⟨hne, .inl ⟨['x'], ?_⟩⟩)
      refine normalizeDomain_ofList hsub ?_
      simp [subdomain, hlower]
    · refine .of_legal hlegal (domainMatchesSuffix_iff.mpr ⟨hne, .inr ⟨hhead, ?_⟩⟩)
      exact normalizeDomain_ofList hlegal hlower

/-- Every accepted predicate is matched by some target, but for a leading dot before a
name of 254 or 255 characters. -/
theorem domain_rules_live_iff (text : String) :
    (validateDomainMatch text = .ok text → SomeTarget (domainMatchesExact · text)) ∧
    (validateDomainSuffixMatch text = .ok text →
      (SomeTarget (domainMatchesSuffix · text) ↔
        (text.toList.head? = some '.' → (dropDots text.toList).length ≤ 254))) :=
  ⟨exact_some_target, suffix_some_target_iff⟩

def longName : List Char :=
  ['.'].intercalate
    [.replicate 63 'x', .replicate 63 'x', .replicate 63 'x', .replicate 62 'x']

theorem longName_legal : LegalName longName where
  length := by decide +kernel
  notLiteral := by decide +kernel
  notShaped := by decide +kernel
  alphabet := List.all_eq_true.mp (show longName.all nameChar = true by decide +kernel)
  labels := by decide +kernel

theorem long_suffix_accepted :
    validateDomainSuffixMatch (.ofList ('.' :: longName)) = .ok (.ofList ('.' :: longName)) ∧
      ¬ SomeTarget (domainMatchesSuffix · (.ofList ('.' :: longName))) := by
  have hnormal : normalizeDomain (.ofList ('.' :: longName)) = '.' :: longName := by
    rw [normalizeDomain_eq, String.toList_ofList]
    decide +kernel
  have hlegal : LegalName (stripLeadingDot (normalizeDomain (.ofList ('.' :: longName)))) := by
    rw [hnormal]
    exact longName_legal
  have haccepted := validateDomainSuffixMatch_iff.mpr hlegal
  refine ⟨haccepted, fun htarget => ?_⟩
  have hlength := (suffix_some_target_iff haccepted).mp htarget (by simp)
  rw [String.toList_ofList] at hlength
  revert hlength
  decide +kernel

end UncrownedKing.Policy
