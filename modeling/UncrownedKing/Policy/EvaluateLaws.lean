import UncrownedKing.Policy.Rules

/-!
# What a decision promises

What `evaluate` allows, and when `evaluatePreResolve` may deny before DNS has
answered.
-/

namespace UncrownedKing.Policy

open Net Proto

/-- The IPv6 forms carry the IPv4 address in the segments `high` and `low`. -/
inductive MetadataForm : IpAddr → Prop
  | plain (ip : Ipv4Addr) : ip ∈ metadataServiceIpv4 → MetadataForm (.v4 ip)
  | mapped (high low : UInt16) : ipv4FromSegments high low ∈ metadataServiceIpv4 →
      MetadataForm (.v6 (.new 0 0 0 0 0 0xffff high low))
  | nat64 (high low : UInt16) : ipv4FromSegments high low ∈ metadataServiceIpv4 →
      MetadataForm (.v6 (.new 0x0064 0xff9b 0 0 0 0 high low))
  | compatible (high low : UInt16) : ipv4FromSegments high low ∈ metadataServiceIpv4 →
      MetadataForm (.v6 (.new 0 0 0 0 0 0 high low))
  | sixToFour (high low s3 s4 s5 s6 s7 : UInt16) :
      ipv4FromSegments high low ∈ metadataServiceIpv4 →
      MetadataForm (.v6 (.new 0x2002 high low s3 s4 s5 s6 s7))
  | ec2 : MetadataForm (.v6 (.new 0xfd00 0x0ec2 0 0 0 0 0 0x0254))

/-- 0.0.0.0 and 0.0.0.1, which `embeddedIpv4` leaves out, are no metadata service. -/
theorem metadata_not_low (h : ipv4FromSegments high low ∈ metadataServiceIpv4) :
    ¬ (high = 0 ∧ low ≤ 1) := by
  rintro ⟨rfl, hlow⟩
  have : low = 0 ∨ low = 1 := by
    have hn : low.toNat ≤ 1 := UInt16.le_iff_toNat_le.mp hlow
    rcases Nat.le_one_iff_eq_zero_or_eq_one.mp hn with h0 | h1
    · exact .inl (UInt16.toNat_inj.mp h0)
    · exact .inr (UInt16.toNat_inj.mp h1)
  rcases this with rfl | rfl <;> revert h <;> decide

theorem MetadataForm.detected (h : MetadataForm ip) : isMetadataServiceIp ip = true := by
  cases h with
  | plain ip h => simpa [isMetadataServiceIp] using h
  | mapped high low h | nat64 high low h => simp [isMetadataServiceIp, embeddedIpv4, ipv4Mapped, h]
  | compatible high low h =>
    simp [isMetadataServiceIp, embeddedIpv4, ipv4Mapped, h, metadata_not_low h]
  | sixToFour high low _ _ _ _ _ h => simp [isMetadataServiceIp, embeddedIpv4, ipv4Mapped, h]
  | ec2 => decide

def PolicySet.firstMatch (policy : PolicySet) (context : PolicyContext) : Option PolicyRule :=
  policy.rules.find? (·.matches context)

variable {policy : PolicySet} {context : PolicyContext} {rule : PolicyRule}
  {rules : List PolicyRule}

theorem evaluateRules_allow (h : evaluateRules context rules = .allow) :
    ∃ rule, rules.find? (·.matches context) = some rule ∧ rule.action = .allow ∧
      (rule.wantPrivate = some true ∨
        targetOrResolutionIsPrivate context.target context.resolvedIps = false) := by
  induction rules with
  | nil => cases h
  | cons rule rest ih =>
    simp only [evaluateRules] at h
    split at h
    · rename_i hm
      split at h
      · cases h
      · rename_i hp
        refine ⟨rule, by simp [hm], h, ?_⟩
        simp only [h, decide_true, Bool.true_and, Bool.and_eq_true, bne_iff_ne, ne_eq,
          not_and, Bool.not_eq_true] at hp
        by_cases hw : rule.wantPrivate = some true
        · exact .inl hw
        · exact .inr (hp hw)
    · rename_i hm
      obtain ⟨found, hf, hrest⟩ := ih h
      exact ⟨found, by simpa [hm] using hf, hrest⟩

theorem evaluateRules_deny_of_find (h : rules.find? (·.matches context) = some rule)
    (hd : rule.action = .deny) : evaluateRules context rules = .deny := by
  cases he : evaluateRules context rules with
  | deny => rfl
  | allow =>
    obtain ⟨found, hf, ha, -⟩ := evaluateRules_allow he
    rw [h] at hf
    cases hf
    rw [hd] at ha
    cases ha

theorem evaluate_deny_of_rules (h : evaluateRules context policy.rules = .deny) :
    policy.evaluate context = .deny := by
  unfold PolicySet.evaluate
  split
  · rfl
  · exact h

theorem PolicyRule.fixed_of_matches (h : rule.matches context = true) :
    rule.matchesFixedPredicates context = true := by
  by_contra hf
  simp [PolicyRule.matches, hf] at h

theorem PolicyRule.ips_ne_nil (h : rule.matches context = true)
    (hw : rule.wantPrivate = some want) :
    targetIps context.target context.resolvedIps ≠ [] := by
  intro hnil
  unfold PolicyRule.matches at h
  split at h
  · cases h
  · split at h
    · cases h
    · simp [hw, privateMatches, hnil] at h

theorem targetOrResolutionIsPrivate_false
    (h : targetOrResolutionIsPrivate target resolvedIps = false) :
    targetIps target resolvedIps ≠ [] ∧
      ∀ ip ∈ targetIps target resolvedIps, isPrivate ip = false := by
  cases target with
  | domain name port =>
    cases resolvedIps with
    | nil => cases h
    | cons ip rest => simpa [targetOrResolutionIsPrivate, targetIps] using h
  | ipv4 ip port => simpa [targetOrResolutionIsPrivate, targetIps, isPrivate] using h
  | ipv6 ip port => simpa [targetOrResolutionIsPrivate, targetIps] using h

/-- Some address is known, none is a metadata service, and a private one was opted in. -/
structure Admitted (policy : PolicySet) (context : PolicyContext) : Prop where
  nonempty : targetIps context.target context.resolvedIps ≠ []
  noMetadata : ∀ ip ∈ targetIps context.target context.resolvedIps, ¬ MetadataForm ip
  privateOptIn : ∀ ip ∈ targetIps context.target context.resolvedIps, isPrivate ip = true →
    ∃ rule, policy.firstMatch context = some rule ∧ rule.action = .allow ∧
      rule.wantPrivate = some true

theorem evaluate_admitted (h : policy.evaluate context = .allow) : Admitted policy context := by
  unfold PolicySet.evaluate at h
  split at h
  · cases h
  · rename_i hmeta
    have hclean : ∀ ip ∈ targetIps context.target context.resolvedIps, ¬ MetadataForm ip := by
      intro ip hip hform
      exact hmeta (List.any_eq_true.mpr ⟨ip, hip, hform.detected⟩)
    obtain ⟨rule, hfind, hallow, hw | hpriv⟩ := evaluateRules_allow h
    · have hm := List.find?_some hfind
      exact ⟨PolicyRule.ips_ne_nil hm hw, hclean,
        fun _ _ _ => ⟨rule, hfind, hallow, hw⟩⟩
    · obtain ⟨hne, hpub⟩ := targetOrResolutionIsPrivate_false hpriv
      refine ⟨hne, hclean, fun ip hip hp => ?_⟩
      rw [hpub ip hip] at hp
      cases hp

theorem matchesFixedPredicates_resolved (rule : PolicyRule) (context : PolicyContext)
    (ips : List IpAddr) :
    rule.matchesFixedPredicates { context with resolvedIps := ips } =
      rule.matchesFixedPredicates context := rfl

def PolicyRule.plainDeny (rule : PolicyRule) : Prop :=
  rule.action = .deny ∧ rule.cidr = none ∧ rule.wantPrivate = none

instance (rule : PolicyRule) : Decidable rule.plainDeny :=
  inferInstanceAs (Decidable (_ ∧ _ ∧ _))

def PolicySet.firstFixed (policy : PolicySet) (context : PolicyContext) : Option PolicyRule :=
  policy.rules.find? (·.matchesFixedPredicates context)

theorem resolutionDependent_domain (name : String) (port : UInt16) :
    rule.resolutionDependent (.domain name port) = false ↔ rule.plainDeny := by
  unfold PolicyRule.resolutionDependent PolicyRule.plainDeny
  cases rule.cidr <;> cases rule.action <;> cases rule.wantPrivate <;> simp

theorem preResolveRules_denied (ht : context.target = .domain name port) :
    preResolveRules context rules = .deniedWithoutResolution ↔
      ∀ rule, rules.find? (·.matchesFixedPredicates context) = some rule → rule.plainDeny := by
  induction rules with
  | nil => simp [preResolveRules]
  | cons rule rest ih =>
    simp only [preResolveRules]
    by_cases hf : rule.matchesFixedPredicates context = true
    · cases hdep : rule.resolutionDependent context.target with
      | true =>
        have hn : ¬ rule.plainDeny := by
          rw [← resolutionDependent_domain name port, ← ht, hdep]
          simp
        simp [hf, hn]
      | false =>
        have hp : rule.plainDeny := by
          rw [← resolutionDependent_domain name port, ← ht, hdep]
        simp [hf, hp, hp.1]
    · simp [hf, ih]

def PolicySet.allowReachable (policy : PolicySet) (context : PolicyContext) : Prop :=
  ∃ rule ∈ policy.rules, rule.action = .allow ∧ rule.matchesFixedPredicates context = true

/-- The fixed parts of the rules already decide for a refusal. -/
def PolicySet.settledDeny (policy : PolicySet) (context : PolicyContext) : Prop :=
  ¬ policy.allowReachable context ∨
    ∀ rule, policy.firstFixed context = some rule → rule.plainDeny

theorem evaluatePreResolve_domain (ht : context.target = .domain name port) :
    policy.evaluatePreResolve context = .deniedWithoutResolution ↔
      policy.settledDeny context := by
  have hany : policy.allowReachable context ↔ (policy.rules.any fun rule =>
      rule.action = .allow && rule.matchesFixedPredicates context) = true := by
    simp [PolicySet.allowReachable]
  unfold PolicySet.evaluatePreResolve PolicySet.settledDeny
  simp only [ht]
  by_cases hr : policy.allowReachable context
  · simp only [hany.mp hr, Bool.not_true, Bool.false_eq_true, ↓reduceIte, hr, not_true,
      false_or]
    exact preResolveRules_denied ht
  · have hn := mt hany.mpr hr
    simp [hn, hr]

theorem evaluate_deny_of_unreachable (h : ¬ policy.allowReachable context) (ips : List IpAddr) :
    policy.evaluate { context with resolvedIps := ips } = .deny := by
  apply evaluate_deny_of_rules
  cases he : evaluateRules { context with resolvedIps := ips } policy.rules with
  | deny => rfl
  | allow =>
    obtain ⟨rule, hfind, hallow, -⟩ := evaluateRules_allow he
    have hm := List.find?_some hfind
    have hf := PolicyRule.fixed_of_matches hm
    rw [matchesFixedPredicates_resolved] at hf
    exact absurd ⟨rule, List.mem_of_find?_eq_some hfind, hallow, hf⟩ h

theorem PolicyRule.plainDeny.matches (h : rule.plainDeny)
    (hf : rule.matchesFixedPredicates context = true) (ips : List IpAddr) :
    rule.matches { context with resolvedIps := ips } = true := by
  simp [PolicyRule.matches, matchesFixedPredicates_resolved, hf, h.2.1, h.2.2]

theorem find_matches_of_fixed (h : rules.find? (·.matchesFixedPredicates context) = some rule)
    (hp : rule.plainDeny) (ips : List IpAddr) :
    rules.find? (·.matches { context with resolvedIps := ips }) = some rule := by
  induction rules with
  | nil => cases h
  | cons head rest ih =>
    rw [List.find?_cons] at h ⊢
    cases hf : head.matchesFixedPredicates context with
    | true =>
      simp only [hf, Option.some.injEq] at h
      subst h
      simp [hp.matches hf ips]
    | false =>
      have hm : head.matches { context with resolvedIps := ips } = false := by
        simp [PolicyRule.matches, matchesFixedPredicates_resolved, hf]
      simp only [hf, hm] at h ⊢
      exact ih h

theorem evaluate_deny_of_first (h : ∀ rule, policy.firstFixed context = some rule → rule.plainDeny)
    (ips : List IpAddr) : policy.evaluate { context with resolvedIps := ips } = .deny := by
  cases hf : policy.firstFixed context with
  | some rule =>
    apply evaluate_deny_of_rules
    exact evaluateRules_deny_of_find (find_matches_of_fixed hf (h rule hf) ips) (h rule hf).1
  | none =>
    apply evaluate_deny_of_unreachable
    rintro ⟨rule, hmem, -, hm⟩
    simpa [hm] using List.find?_eq_none.mp hf rule hmem

theorem targetIps_literal (h : Target.Literal target) (ips ips' : List IpAddr) :
    targetIps target ips = targetIps target ips' := by
  cases target with
  | domain name port => cases h
  | ipv4 ip port | ipv6 ip port => rfl

theorem targetOrResolutionIsPrivate_literal (h : Target.Literal target) (ips ips' : List IpAddr) :
    targetOrResolutionIsPrivate target ips = targetOrResolutionIsPrivate target ips' := by
  cases target with
  | domain name port => cases h
  | ipv4 ip port | ipv6 ip port => rfl

section

variable (h : context.target.Literal)
include h

theorem matches_literal (rule : PolicyRule) (ips : List IpAddr) :
    rule.matches { context with resolvedIps := ips } = rule.matches context := by
  have hips := targetIps_literal h ips context.resolvedIps
  have hcidr (cidr : Cidr) : cidrMatches rule.action cidr context.target ips =
      cidrMatches rule.action cidr context.target context.resolvedIps := by
    unfold cidrMatches
    rw [hips]
  have hpriv (want : Bool) : privateMatches { context with resolvedIps := ips } want =
      privateMatches context want := by
    unfold privateMatches
    rw [hips]
  unfold PolicyRule.matches
  simp only [hcidr, hpriv]
  rfl

theorem evaluateRules_literal (ips : List IpAddr) :
    evaluateRules { context with resolvedIps := ips } rules = evaluateRules context rules := by
  induction rules with
  | nil => rfl
  | cons rule rest ih =>
    unfold evaluateRules
    rw [matches_literal h, targetOrResolutionIsPrivate_literal h ips context.resolvedIps, ih]

theorem evaluate_literal (ips : List IpAddr) :
    policy.evaluate { context with resolvedIps := ips } = policy.evaluate context := by
  unfold PolicySet.evaluate targetOrResolutionContainsMetadataServiceIp
  rw [targetIps_literal h ips context.resolvedIps, evaluateRules_literal h]

theorem evaluatePreResolve_literal :
    policy.evaluatePreResolve context = .deniedWithoutResolution ↔
      policy.evaluate context = .deny := by
  unfold PolicySet.evaluatePreResolve
  cases ht : context.target with
  | domain name port =>
    rw [ht] at h
    cases h
  | ipv4 ip port | ipv6 ip port => cases policy.evaluate context <;> simp

end

/-- Denial before resolution is denial after it, whatever DNS answers. -/
theorem preResolve_denial_final (policy : PolicySet) (context : PolicyContext) :
    (∀ name port, context.target = .domain name port →
      policy.evaluatePreResolve context = .deniedWithoutResolution →
      ∀ ips, policy.evaluate { context with resolvedIps := ips } = .deny) ∧
    (context.target.Literal → ∀ ips ips',
      (policy.evaluatePreResolve { context with resolvedIps := ips } = .deniedWithoutResolution ↔
        policy.evaluate { context with resolvedIps := ips' } = .deny)) := by
  refine ⟨fun name port ht hd ips => ?_, fun hl ips ips' => ?_⟩
  · rcases (evaluatePreResolve_domain ht).mp hd with hu | hf
    · exact evaluate_deny_of_unreachable hu ips
    · exact evaluate_deny_of_first hf ips
  · have hl' : ({ context with resolvedIps := ips } : PolicyContext).target.Literal := hl
    rw [evaluatePreResolve_literal hl', evaluate_literal hl ips, evaluate_literal hl ips']

theorem preResolve_denial_final_deny_first :
    (∀ ips, (PolicySet.mk [.new .deny, .new .allow]).evaluate
      ⟨[1], none, .domain "relay.example" 443, ips⟩ = .deny) ∧
    ∀ ips, (PolicySet.mk [.new .allow]).evaluatePreResolve
      ⟨[1], none, .ipv4 (.new 10 0 0 1) 443, ips⟩ = .deniedWithoutResolution :=
  ⟨(preResolve_denial_final ⟨[.new .deny, .new .allow]⟩
      ⟨[1], none, .domain "relay.example" 443, []⟩).1 "relay.example" 443 rfl (by decide),
    fun ips => ((preResolve_denial_final ⟨[.new .allow]⟩
      ⟨[1], none, .ipv4 (.new 10 0 0 1) 443, []⟩).2 trivial ips []).mpr (by decide)⟩

theorem PolicyRule.blanket_matches (h : rule.isBlanketPrivateDeny = true)
    (hprivate : (targetIps context.target context.resolvedIps).any isPrivate = true) :
    rule.matches context = true ∧ rule.action = .deny := by
  simp only [isBlanketPrivateDeny, Bool.and_eq_true, decide_eq_true_eq,
    Option.isNone_iff_eq_none] at h
  obtain ⟨⟨⟨⟨⟨⟨⟨hdeny, hwant⟩, hkey⟩, hgroup⟩, hdomain⟩, hsuffix⟩, hports⟩, hcidr⟩ := h
  have hne : (targetIps context.target context.resolvedIps).isEmpty = false := by
    cases hips : targetIps context.target context.resolvedIps with
    | nil => simp [hips] at hprivate
    | cons ip rest => rfl
  simp [PolicyRule.matches, matchesFixedPredicates, privateMatches, hdeny, hwant, hkey, hgroup,
    hdomain, hsuffix, hports, hcidr, hne, hprivate]

theorem find_not_private_allow (h : unrestrictedPrivateAllow false rules = false)
    (hprivate : (targetIps context.target context.resolvedIps).any isPrivate = true)
    (hfind : rules.find? (·.matches context) = some rule) :
    ¬ (rule.action = .allow ∧ rule.wantPrivate = some true) := by
  induction rules with
  | nil => cases hfind
  | cons head rest ih =>
    rw [unrestrictedPrivateAllow] at h
    split at h
    · rename_i hblanket
      obtain ⟨hmatches, hdeny⟩ := PolicyRule.blanket_matches hblanket hprivate
      simp only [List.find?_cons, hmatches, Option.some.injEq] at hfind
      simp [← hfind, hdeny]
    · split at h
      · cases h
      · rename_i hquiet
        rw [List.find?_cons] at hfind
        split at hfind
        · cases hfind
          simpa using hquiet
        · exact ih h hfind

/-- A policy without the warning denies every private address. -/
theorem private_allow_warning_sound (policy : PolicySet)
    (hquiet : policy.hasUnrestrictedPrivateAllow = false) (context : PolicyContext)
    (hprivate : ∃ ip ∈ targetIps context.target context.resolvedIps, isPrivate ip = true) :
    policy.evaluate context = .deny := by
  apply evaluate_deny_of_rules
  cases he : evaluateRules context policy.rules with
  | deny => rfl
  | allow =>
    obtain ⟨rule, hfind, hallow, hwant | hpublic⟩ := evaluateRules_allow he
    · exact absurd ⟨hallow, hwant⟩
        (find_not_private_allow hquiet (List.any_eq_true.mpr hprivate) hfind)
    · obtain ⟨ip, hip, hpriv⟩ := hprivate
      rw [(targetOrResolutionIsPrivate_false hpublic).2 ip hip] at hpriv
      cases hpriv

theorem private_answer_denied :
    PolicySet.evaluate
      ⟨[{ PolicyRule.new .deny with wantPrivate := some true },
        { PolicyRule.new .allow with wantPrivate := some true }]⟩
      ⟨[1], none, .domain "relay.example" 443, [.v4 (.new 192 0 43 8), .v4 (.new 10 0 0 1)]⟩ =
        .deny :=
  private_allow_warning_sound _ (by decide) _ ⟨.v4 (.new 10 0 0 1), by simp [targetIps], by decide⟩

end UncrownedKing.Policy
