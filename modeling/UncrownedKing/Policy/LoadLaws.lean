import UncrownedKing.Policy.EvaluateLaws
import UncrownedKing.Policy.Load

/-!
# What a policy file permits

Every loaded rule goes back to an entry of the file, and an `allow` that does
not mention private addresses is loaded as one that excludes them.
-/

namespace UncrownedKing.Policy

open Lib Net Proto

theorem parseAction_allow (h : parseAction text = .ok .allow) :
    eqIgnoreAsciiCase text "allow" = true := by
  unfold parseAction at h
  split at h
  · assumption
  · split at h <;> cases h

theorem PolicyRule.tryFrom_allow {raw : RawPolicyRule} {rule : PolicyRule}
    (h : PolicyRule.tryFrom raw = .ok rule) (hallow : rule.action = .allow) :
    eqIgnoreAsciiCase raw.action "allow" = true ∧
      rule.wantPrivate = some (raw.wantPrivate.getD false) := by
  obtain ⟨action, haction, h⟩ := bind_eq_ok.mp h
  obtain ⟨ports, -, h⟩ := bind_eq_ok.mp h
  obtain ⟨keyId, -, h⟩ := bind_eq_ok.mp h
  obtain ⟨policyGroup, -, h⟩ := bind_eq_ok.mp h
  obtain ⟨domain, -, h⟩ := bind_eq_ok.mp h
  obtain ⟨domainSuffix, -, h⟩ := bind_eq_ok.mp h
  obtain ⟨cidr, -, h⟩ := bind_eq_ok.mp h
  cases h
  obtain rfl : action = .allow := hallow
  refine ⟨parseAction_allow haction, ?_⟩
  cases raw.wantPrivate <;> rfl

theorem PolicySet.tryFrom_mem {raw : RawPolicySet} {policy : PolicySet} {rule : PolicyRule}
    (h : PolicySet.tryFrom raw = .ok policy) (hmem : rule ∈ policy.rules) :
    ∃ entry ∈ raw.rules, PolicyRule.tryFrom entry = .ok rule := by
  have hmapped : ∀ (entries : List RawPolicyRule) rules,
      entries.mapM PolicyRule.tryFrom = .ok rules → rule ∈ rules →
        ∃ entry ∈ entries, PolicyRule.tryFrom entry = .ok rule := by
    intro entries
    induction entries with
    | nil =>
      rintro rules ⟨⟩ hmem
      cases hmem
    | cons entry rest ih =>
      intro rules hrules hmem
      rw [List.mapM_cons] at hrules
      obtain ⟨first, hfirst, hrules⟩ := bind_eq_ok.mp hrules
      obtain ⟨others, hothers, hrules⟩ := bind_eq_ok.mp hrules
      cases hrules
      obtain rfl | hold := List.mem_cons.mp hmem
      · exact ⟨entry, List.mem_cons_self, hfirst⟩
      · obtain ⟨found, hfound, hloaded⟩ := ih others hothers hold
        exact ⟨found, List.mem_cons_of_mem _ hfound, hloaded⟩
  unfold PolicySet.tryFrom at h
  cases hrules : raw.rules.mapM PolicyRule.tryFrom with
  | error error => simp [hrules] at h
  | ok rules =>
    obtain rfl : PolicySet.mk rules = policy := by simpa [hrules] using h
    exact hmapped raw.rules rules hrules hmem

/-- Whatever a policy file allows, an entry of it allows, the first one that matches; and private
addresses only if that entry says so. -/
theorem loaded_policy_permits (raw : RawPolicySet) (policy : PolicySet) (context : PolicyContext)
    (hload : PolicySet.tryFrom raw = .ok policy) (hallow : policy.evaluate context = .allow) :
    ∃ entry ∈ raw.rules, ∃ rule, PolicyRule.tryFrom entry = .ok rule ∧
      policy.firstMatch context = some rule ∧ eqIgnoreAsciiCase entry.action "allow" = true ∧
      (entry.wantPrivate = some true ∨
        ∀ ip ∈ targetIps context.target context.resolvedIps, isPrivate ip = false) ∧
      targetIps context.target context.resolvedIps ≠ [] ∧
      ∀ ip ∈ targetIps context.target context.resolvedIps, ¬ MetadataForm ip := by
  have hadmitted := evaluate_admitted hallow
  have hrules : evaluateRules context policy.rules = .allow := by
    unfold PolicySet.evaluate at hallow
    split at hallow
    · cases hallow
    · exact hallow
  obtain ⟨rule, hfirst, haction, hprivate⟩ := evaluateRules_allow hrules
  obtain ⟨entry, hentry, hloaded⟩ := PolicySet.tryFrom_mem hload (List.mem_of_find?_eq_some hfirst)
  obtain ⟨hallows, hwants⟩ := PolicyRule.tryFrom_allow hloaded haction
  refine ⟨entry, hentry, rule, hloaded, hfirst, hallows, ?_, hadmitted.nonempty,
    hadmitted.noMetadata⟩
  obtain htrue | hpublic := hprivate
  · left
    rw [hwants] at htrue
    cases hraw : entry.wantPrivate <;> simp_all
  · exact .inr (targetOrResolutionIsPrivate_false hpublic).2

def mailDenied : RawPolicySet :=
  ⟨[{ action := "deny", portStart := some 25, portEnd := some 25 },
    { action := "Allow", portStart := some 443, portEnd := some 443 }, { action := "deny" }]⟩

/-- The second of three entries is the one that permits. -/
theorem second_entry_permits :
    ∃ policy rule, PolicySet.tryFrom mailDenied = .ok policy ∧
      policy.firstMatch ⟨[], none, .ipv4 ⟨9, 9, 9, 9⟩ 443, []⟩ = some rule := by
  obtain ⟨-, -, rule, -, hfirst, -⟩ :=
    loaded_policy_permits mailDenied _ ⟨[], none, .ipv4 ⟨9, 9, 9, 9⟩ 443, []⟩ rfl
      (by decide +kernel)
  exact ⟨_, rule, rfl, hfirst⟩

end UncrownedKing.Policy
