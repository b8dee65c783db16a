import UncrownedKing.Policy.EvaluateLaws
import UncrownedKing.Server.Dialer

/-!
# What the dialer reaches

Every address a connector is handed is one that policy judged and allowed.
-/

namespace UncrownedKing.Server

open Lib Net Proto Policy Auth

variable {connector : TargetConnector} {target : Target} {identity : AuthenticatedIdentity}
  {policySet : PolicySet} {env : DialEnv T} {s s' : DialState}

def DialState.Within (addrs : List SocketAddr) (connector : TargetConnector) (s : DialState) :
    Prop :=
  ∀ event ∈ s.log, ∃ addr ∈ addrs, event = connector addr

theorem spawnTargetConnects_within (h : s.Within addrs connector) (available : Nat) :
    (spawnTargetConnects addrs connector available s).Within addrs connector := by
  induction available generalizing s with
  | zero => exact h
  | succ available ih =>
    unfold spawnTargetConnects
    split
    · exact h
    · rename_i addr haddr
      split
      · apply ih
        intro event hevent
        rcases List.mem_append.mp hevent with hold | hnew
        · exact h event hold
        · exact ⟨addr, List.mem_of_getElem? haddr, List.mem_singleton.mp hnew⟩
      · exact h

theorem dialTurn_log (addrs : List SocketAddr) (connector : TargetConnector)
    (deadline : Option Instant) (turn : Turn T) (s : DialState) :
    (dialTurn addrs connector deadline turn s).1.log = s.log ∨
      (dialTurn addrs connector deadline turn s).1.log =
        (spawnTargetConnects addrs connector turn.available s).log := by
  unfold dialTurn
  split
  · exact .inl rfl
  · refine .inr ?_
    dsimp only
    split
    · split <;> rfl
    · cases turn.joined with
      | expired => dsimp only; split <;> rfl
      | finished id result => cases result <;> dsimp only <;> split <;> rfl
      | failed id message => dsimp only; split <;> rfl

theorem dialTurn_within (h : s.Within addrs connector) (deadline : Option Instant)
    (turn : Turn T) : (dialTurn addrs connector deadline turn s).1.Within addrs connector := by
  unfold DialState.Within
  rcases dialTurn_log addrs connector deadline turn s with hlog | hlog
  · rw [hlog]
    exact h
  · rw [hlog]
    exact spawnTargetConnects_within h turn.available

theorem connectFirstSuccessful_within (h : s.Within addrs connector)
    (deadline : Option Instant) (turns : List (Turn T)) :
    (connectFirstSuccessful addrs connector deadline turns s).1.Within addrs connector := by
  induction turns generalizing s with
  | nil => exact h
  | cons turn turns ih =>
    have hturn := dialTurn_within h deadline turn
    unfold connectFirstSuccessful
    split
    · rename_i heq; rw [heq] at hturn; exact hturn
    · rename_i heq; rw [heq] at hturn; exact hturn
    · rename_i heq; rw [heq] at hturn; exact ih hturn

theorem withTargetConnectDeadline_ok
    (h : withTargetConnectDeadline deadline future = some (.ok value)) :
    future = some (.ok value) := by
  unfold withTargetConnectDeadline at h
  split at h
  · exact h
  · split at h <;> cases h

theorem targetIps_resolvedIps (h : resolveTarget lookup target = some (.ok addrs)) :
    targetIps target (resolvedIps target addrs) = addrs.map SocketAddr.ip := by
  cases target with
  | domain name port => rfl
  | ipv4 ip port | ipv6 ip port => cases h; rfl

theorem resolveEvents_connectAddr (h : event ∈ resolveEvents target) :
    event.connectAddr = none := by
  cases target with
  | domain name port =>
    rw [List.mem_singleton.mp h]
    rfl
  | ipv4 ip port | ipv6 ip port => cases h

/-- The request was allowed with exactly the addresses `addrs`. -/
structure Judged (lookup : Option (Except IoError (List SocketAddr))) (target : Target)
    (identity : AuthenticatedIdentity) (policySet : PolicySet) (addrs : List SocketAddr) :
    Prop where
  resolved : resolveTarget lookup target = some (.ok addrs)
  sameIps : targetIps target (resolvedIps target addrs) = addrs.map SocketAddr.ip
  allowed : policySet.evaluate (policyContext identity target (resolvedIps target addrs)) = .allow

theorem connectAllowed_judged {event : DialEvent}
    (h : event ∈ (connectAllowed connector target identity policySet deadline env).log)
    (haddr : event.connectAddr = some addr) :
    ∃ addrs, Judged env.lookup target identity policySet addrs ∧
      ∃ dialled ∈ addrs, event = connector dialled := by
  have hresolve : event ∉ resolveEvents target := by
    intro hmem
    rw [resolveEvents_connectAddr hmem] at haddr
    cases haddr
  unfold connectAllowed at h
  split at h
  · cases h
  · split at h
    · exact absurd h hresolve
    · exact absurd h hresolve
    · rename_i addrs hok
      have hres := withTargetConnectDeadline_ok hok
      split at h
      · exact absurd h hresolve
      · rename_i hallow
        refine ⟨addrs, ⟨hres, targetIps_resolvedIps hres, not_not.mp hallow⟩, ?_⟩
        have hstart : DialState.new.Within addrs connector := fun _ hevent => nomatch hevent
        rcases List.mem_append.mp h with hmem | hmem
        · exact absurd hmem hresolve
        · exact connectFirstSuccessful_within hstart deadline env.turns event hmem

theorem targetConnector_addr (addr : SocketAddr) :
    (targetConnector addr).connectAddr = some addr := rfl

theorem udpTargetConnector_addr (addr : SocketAddr) :
    (udpTargetConnector addr).connectAddr = some addr := by
  cases addr <;> rfl

theorem connectAllowed_addr (hconn : ∀ addr, (connector addr).connectAddr = some addr)
    {event : DialEvent}
    (h : event ∈ (connectAllowed connector target identity policySet deadline env).log)
    (haddr : event.connectAddr = some addr) :
    ∃ addrs, Judged env.lookup target identity policySet addrs ∧ addr ∈ addrs := by
  obtain ⟨addrs, hjudged, dialled, hmem, rfl⟩ := connectAllowed_judged h haddr
  rw [hconn dialled] at haddr
  cases haddr
  exact ⟨addrs, hjudged, hmem⟩

/-- Connectors get only addresses policy allowed: no metadata service, and a private one only by a
rule that asks for it. -/
theorem dials_are_judged (target : Target) (identity : AuthenticatedIdentity)
    (policySet : PolicySet) (timeout : Option Duration) (now : Instant) (env : DialEnv T) :
    (∀ run ∈ [connectAllowedTarget target identity policySet timeout now env,
        connectAllowedUdpTarget target identity policySet timeout now env],
      ∀ event ∈ run.log, ∀ addr, event.connectAddr = some addr →
        ∃ addrs, Judged env.lookup target identity policySet addrs ∧ addr ∈ addrs) ∧
    (∀ context, policySet.evaluate context = .allow → Admitted policySet context) := by
  refine ⟨fun run hrun event hevent addr haddr => ?_, fun context => evaluate_admitted⟩
  simp only [List.mem_cons, List.not_mem_nil, or_false] at hrun
  rcases hrun with rfl | rfl
  · exact connectAllowed_addr targetConnector_addr hevent haddr
  · exact connectAllowed_addr udpTargetConnector_addr hevent haddr

theorem dials_are_judged_public :
    ∃ addrs, Judged (some (.ok [.v4 (.new 93 184 216 34) 443])) (.domain "relay.example" 443)
      ⟨[1], none⟩ ⟨[.new .allow]⟩ addrs ∧ SocketAddr.v4 (.new 93 184 216 34) 443 ∈ addrs :=
  (dials_are_judged (.domain "relay.example" 443) ⟨[1], none⟩ ⟨[.new .allow]⟩ none 0
    ⟨some (.ok [.v4 (.new 93 184 216 34) 443]), [⟨0, 1, .finished 0 (.ok ())⟩]⟩).1
    _ List.mem_cons_self (.tcpConnect (.v4 (.new 93 184 216 34) 443))
    (.tail _ (.head _)) _ rfl

theorem connectAllowed_denied
    (h : preResolvePolicyCheck target identity policySet = .error .policyDenied)
    (connector : TargetConnector) (deadline : Option Instant) (env : DialEnv T) :
    connectAllowed connector target identity policySet deadline env =
      ⟨[], some (.error .policyDenied)⟩ := by
  simp only [connectAllowed, h]

theorem connectAllowed_resolves (h : preResolvePolicyCheck target identity policySet = .ok ())
    (connector : TargetConnector) (deadline : Option Instant) (env : DialEnv T) :
    resolveEvents target ⊆
      (connectAllowed connector target identity policySet deadline env).log := by
  intro event hevent
  simp only [connectAllowed, h]
  split
  · exact hevent
  · exact hevent
  · split
    · exact hevent
    · exact List.mem_append_left _ hevent

theorem preResolvePolicyCheck_denied
    (h : policySet.evaluatePreResolve (policyContext identity target []) =
      .deniedWithoutResolution) :
    preResolvePolicyCheck target identity policySet = .error .policyDenied := by
  simp only [preResolvePolicyCheck, h]

theorem preResolvePolicyCheck_passed
    (h : policySet.evaluatePreResolve (policyContext identity target []) ≠
      .deniedWithoutResolution) :
    preResolvePolicyCheck target identity policySet = .ok () := by
  cases hd : policySet.evaluatePreResolve (policyContext identity target []) with
  | deniedWithoutResolution => exact absurd hd h
  | needsResolution => simp only [preResolvePolicyCheck, hd]

/-- A domain is turned away without a lookup exactly when policy settles it as denied. -/
theorem lookup_avoided_iff_settled (policySet : PolicySet) (identity : AuthenticatedIdentity)
    (name : String) (port : UInt16) (ips : List IpAddr) (timeout : Option Duration)
    (now : Instant) (env : DialEnv T) :
    let target := Target.domain name port
    let context := policyContext identity target ips
    (policySet.evaluatePreResolve context = .deniedWithoutResolution ↔
      policySet.settledDeny context) ∧
    (policySet.settledDeny context →
      preResolvePolicyCheck target identity policySet = .error .policyDenied) ∧
    ∀ run ∈ [connectAllowedTarget target identity policySet timeout now env,
        connectAllowedUdpTarget target identity policySet timeout now env],
      (policySet.settledDeny context → run = ⟨[], some (.error .policyDenied)⟩) ∧
      (¬ policySet.settledDeny context → .lookup name port ∈ run.log) := by
  intro target context
  -- the verdict does not look at the addresses, so the check's context will do
  have hsame : policySet.settledDeny (policyContext identity target []) ↔
      policySet.settledDeny context := Iff.rfl
  have hiff : policySet.evaluatePreResolve (policyContext identity target []) =
      .deniedWithoutResolution ↔ policySet.settledDeny (policyContext identity target []) :=
    evaluatePreResolve_domain rfl
  have hcheck (hd : policySet.settledDeny context) :
      preResolvePolicyCheck target identity policySet = .error .policyDenied :=
    preResolvePolicyCheck_denied (hiff.mpr (hsame.mpr hd))
  have hpass (hd : ¬ policySet.settledDeny context) :
      preResolvePolicyCheck target identity policySet = .ok () :=
    preResolvePolicyCheck_passed (mt hiff.mp (mt hsame.mp hd))
  refine ⟨evaluatePreResolve_domain rfl, hcheck, fun run hrun => ⟨fun hd => ?_, fun hd => ?_⟩⟩
  · simp only [List.mem_cons, List.not_mem_nil, or_false] at hrun
    rcases hrun with rfl | rfl <;> exact connectAllowed_denied (hcheck hd) _ _ env
  · simp only [List.mem_cons, List.not_mem_nil, or_false] at hrun
    rcases hrun with rfl | rfl <;>
      exact connectAllowed_resolves (hpass hd) _ _ env (List.mem_singleton_self _)

theorem lookup_avoided_deny_first :
    connectAllowedTarget (.domain "relay.example" 443) ⟨[1], none⟩
      ⟨[.new .deny, .new .allow]⟩ none 0 (⟨none, []⟩ : DialEnv Unit) =
        ⟨[], some (.error .policyDenied)⟩ := by
  refine ((lookup_avoided_iff_settled ⟨[.new .deny, .new .allow]⟩ ⟨[1], none⟩ "relay.example" 443
    [] none 0 ⟨none, []⟩).2.2 _ List.mem_cons_self).1 (.inr ?_)
  rintro rule ⟨⟩
  decide

def addressDeny (rule : PolicyRule) : Bool :=
  rule.action = .deny && (rule.cidr.isSome || rule.wantPrivate.isSome)

/-- No answer can be allowed, yet the name is looked up: the first rule that could match needs the
addresses. -/
theorem denied_name_looked_up :
    let policySet : PolicySet :=
      ⟨[{ PolicyRule.new .deny with wantPrivate := some true }, .new .deny, .new .allow]⟩
    let identity : AuthenticatedIdentity := ⟨[1], none⟩
    let target : Target := .domain "relay.example" 443
    let context := policyContext identity target []
    (policySet.rules.filter (·.matchesFixedPredicates context)).find? (!addressDeny ·) =
        some (.new .deny) ∧
      (PolicyRule.new .deny).plainDeny ∧
      (∀ ips, policySet.evaluate (policyContext identity target ips) = .deny) ∧
      policySet.evaluatePreResolve context = .needsResolution ∧
      preResolvePolicyCheck target identity policySet = .ok () ∧
      (connectAllowedTarget target identity policySet none 0 (⟨none, []⟩ : DialEnv Unit)).log =
        [.lookup "relay.example" 443] := by
  refine ⟨by decide, by decide, fun ips => ?_, by decide, by decide, rfl⟩
  apply evaluate_deny_of_rules
  unfold evaluateRules
  split <;> rfl

end UncrownedKing.Server
