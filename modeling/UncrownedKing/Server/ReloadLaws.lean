import UncrownedKing.Auth.VerifyLaws
import UncrownedKing.Server.Reload

/-!
# Replay protection across reloads

Every generation's skew fits twice into the one window the cache was built with,
because a reload that changes the window is refused.
-/

namespace UncrownedKing.Server

open Lib Auth

variable {maxEntries : Nat}

variable {config current candidate : ServerConfig}

theorem rejectZeroLimit_ok : rejectZeroLimit name value = .ok () ↔ value ≠ 0 := by
  unfold rejectZeroLimit
  split <;> simp_all

theorem toNat_pos {value : UInt64} (h : value ≠ 0) : 0 < value.toNat := by
  rw [Nat.pos_iff_ne_zero]
  intro h0
  exact h (UInt64.toNat_inj.mp h0)

structure ServerConfig.CoversSkew (config : ServerConfig) : Prop where
  skew_pos : 0 < config.effectiveAuthSkewSeconds.toNat
  window : 2 * config.effectiveAuthSkewSeconds.toNat ≤ config.replayCacheWindowSeconds.toNat
  entries_pos : 0 < config.replayCacheMaxEntries.toNat

theorem coversSkew_of_valid (h : config.validateLimits = .ok ()) : config.CoversSkew := by
  have hchecks := (checkAll_ok _).mp h
  have hskew : rejectZeroLimit "auth_skew_seconds" config.effectiveAuthSkewSeconds = .ok () :=
    hchecks _ (by simp only [List.mem_cons, true_or, or_true])
  have hmax : rejectZeroLimit "replay_cache_max_entries" config.replayCacheMaxEntries = .ok () :=
    hchecks _ (by simp only [List.mem_cons, true_or, or_true])
  have hlarge : rejectLargeLimit "auth_skew_seconds" config.effectiveAuthSkewSeconds
      ServerConfig.maxAuthSkewSeconds = .ok () :=
    hchecks _ (by simp only [List.mem_cons, true_or, or_true])
  have hcovers : config.validateReplayCacheCoversAuthSkew = .ok () :=
    hchecks _ (by simp only [List.mem_cons, true_or, or_true])
  refine ⟨toNat_pos (rejectZeroLimit_ok.mp hskew), ?_, toNat_pos (rejectZeroLimit_ok.mp hmax)⟩
  have hsmall : config.effectiveAuthSkewSeconds.toNat ≤ 300 := by
    unfold rejectLargeLimit at hlarge
    split at hlarge
    · cases hlarge
    · rename_i hle
      rw [gt_iff_lt, UInt64.not_lt, UInt64.le_iff_toNat_le] at hle
      exact hle
  unfold ServerConfig.validateReplayCacheCoversAuthSkew at hcovers
  dsimp only at hcovers
  split at hcovers
  · cases hcovers
  · rename_i hle
    rw [UInt64.not_lt, UInt64.le_iff_toNat_le] at hle
    refine Nat.le_trans (Nat.le_of_eq ?_) hle
    have htwo : (2 : UInt64).toNat = 2 := rfl
    have hfits : config.effectiveAuthSkewSeconds.toNat * (2 : UInt64).toNat < 2 ^ 64 := by
      rw [htwo]
      omega
    rw [saturatingMul, if_pos hfits, UInt64.toNat_mul, Nat.mod_eq_of_lt hfits, htwo, Nat.mul_comm]

theorem mapError_ok {x : Except ε α} {f : ε → ε'} : x.mapError f = .ok a ↔ x = .ok a := by
  cases x <;> simp [Except.mapError]

theorem eq_of_zip_snd {first second : List (α × β)}
    (hnames : first.map Prod.fst = second.map Prod.fst)
    (h : ∀ p ∈ first.zip second, p.1.2 = p.2.2) : first = second := by
  induction first generalizing second with
  | nil => exact (List.map_eq_nil_iff.mp hnames.symm).symm
  | cons a first ih =>
    obtain ⟨b, second, rfl, hname, hnames⟩ := List.map_eq_cons_iff.mp hnames.symm
    have hhead := h (a, b) List.mem_cons_self
    rw [ih hnames.symm fun p hp => h p (List.mem_cons_of_mem _ hp), Prod.ext hname.symm hhead]

theorem limits_of_compatible (h : ensureReloadCompatible current candidate = .ok ()) :
    reloadStaticLimits candidate = reloadStaticLimits current := by
  unfold ensureReloadCompatible at h
  split at h
  · cases h
  · split at h
    · cases h
    · split at h
      · cases h
      · rename_i hnone
        rw [changedStaticLimit, Option.map_eq_none_iff, List.find?_eq_none] at hnone
        symm
        refine eq_of_zip_snd rfl fun p hp => ?_
        simpa using hnone p hp

theorem window_of_compatible (h : ensureReloadCompatible current candidate = .ok ()) :
    candidate.replayCacheWindowSeconds = current.replayCacheWindowSeconds := by
  have hlimit := congrArg (List.lookup "replay_cache_window_seconds") (limits_of_compatible h)
  simpa [reloadStaticLimits, List.lookup_cons] using hlimit

theorem applySecurityReload_ok {hmac : Mask.Hmac} {host : Host} {security : SecurityState}
    (h : applySecurityReload hmac host current security candidate = .ok (next, n)) :
    ensureReloadCompatible current candidate = .ok () ∧ candidate.validateLimits = .ok () ∧
      next.current.authSkew = fromSecs candidate.effectiveAuthSkewSeconds.toNat := by
  simp only [applySecurityReload, bind_eq_ok, mapError_ok] at h
  obtain ⟨⟨⟩, hcompat, ⟨⟩, -, ⟨⟩, hlimits, ⟨⟩, -, ⟨⟩, -, credentials, -, policySet, -, h⟩ := h
  cases h
  exact ⟨hcompat, hlimits, rfl⟩

theorem prepareServerRuntime_ok {hmac : Mask.Hmac} {host : Host} {runtime : ServerRuntime}
    (h : prepareServerRuntime hmac host config = .ok runtime) :
    ∃ (hlimits : config.validateLimits = .ok ()) (credentials : List Credential),
      config.runtimeCredentials = .ok credentials ∧
      runtime.config = { config with credentials := [] } ∧
      runtime.masking = buildMaskingState hmac config hlimits ∧
      runtime.security.current.maskKeys =
        deriveMaskKeys hmac { config with credentials := [] } credentials ∧
      runtime.security.current.authSkew = fromSecs config.effectiveAuthSkewSeconds.toNat ∧
      runtime.replayCache = .withMaxEntries (fromSecs config.replayCacheWindowSeconds.toNat)
        config.replayCacheMaxEntries.toNat := by
  simp only [prepareServerRuntime, bind_eq_ok, mapError_ok] at h
  obtain ⟨⟨⟩, -, h⟩ := h
  split at h
  · cases h
  · rename_i hlimits
    simp only [bind_eq_ok, mapError_ok] at h
    obtain ⟨⟨⟩, -, ⟨⟩, -, credentials, hcredentials, policySet, -, h⟩ := h
    cases h
    exact ⟨hlimits, credentials, hcredentials, rfl, rfl, rfl, rfl, rfl⟩

theorem within_of_seconds {epoch t t' skew : Nat}
    (h : unixSeconds epoch t ≤ unixSeconds epoch t' + skew) :
    t - t' < fromSecs (skew + 1) := by
  unfold unixSeconds asSecs at h
  unfold fromSecs
  have hpos : 0 < nanosPerSec := by decide
  have ht := Nat.lt_mul_div_succ (t + epoch) hpos
  have ht' := Nat.mul_div_le (t' + epoch) nanosPerSec
  have hstep : nanosPerSec * ((t + epoch) / nanosPerSec + 1) ≤
      nanosPerSec * ((t' + epoch) / nanosPerSec) + (skew + 1) * nanosPerSec := by
    calc nanosPerSec * ((t + epoch) / nanosPerSec + 1)
        ≤ nanosPerSec * ((t' + epoch) / nanosPerSec + skew + 1) :=
          Nat.mul_le_mul_left _ (Nat.succ_le_succ h)
      _ = nanosPerSec * ((t' + epoch) / nanosPerSec) + (skew + 1) * nanosPerSec := by ring
  have hsecond : 0 < (skew + 1) * nanosPerSec := Nat.mul_pos (Nat.succ_pos skew) hpos
  omega

theorem absDiff_le {a b : UInt64} (h : absDiff a b ≤ n) : a.toNat ≤ b.toNat + n := by
  unfold absDiff at h
  split at h
  · rename_i hlt
    rw [UInt64.lt_iff_toNat_lt] at hlt
    omega
  · omega

variable {crypto : Crypto} {server : AuthServer}

structure AuthServer.Sound (server : AuthServer) (maxEntries : Nat) : Prop where
  valid : server.cache.Valid server.now
  window : server.cache.window = fromSecs server.config.replayCacheWindowSeconds.toNat
  capacity : server.cache.maxEntries = maxEntries
  clock : unixSeconds server.epoch server.now < 2 ^ 64
  covered : ∀ generation ∈ server.published, ∃ skew, generation.authSkew = fromSecs skew ∧
    0 < skew ∧ fromSecs (2 * skew) ≤ server.cache.window

theorem fromSecs_le (h : a ≤ b) : fromSecs a ≤ fromSecs b := Nat.mul_le_mul_right _ h

theorem AuthServer.Sound.start {hmac : Mask.Hmac} {host : Host} {runtime : ServerRuntime}
    {now : Instant} {epoch : Duration} (h : prepareServerRuntime hmac host config = .ok runtime)
    (hclock : unixSeconds epoch now < 2 ^ 64) :
    (AuthServer.start runtime now epoch).Sound config.replayCacheMaxEntries.toNat := by
  obtain ⟨hlimits, _, -, hconfig, -, -, hskew, hcache⟩ := prepareServerRuntime_ok h
  have hcovers := coversSkew_of_valid hlimits
  have hreach : ReplayCache.Reachable (fromSecs config.replayCacheWindowSeconds.toNat)
      config.replayCacheMaxEntries.toNat now runtime.replayCache := hcache ▸ .new now
  obtain ⟨hvalid, hwindow, hmax⟩ := hreach.valid
  refine ⟨hvalid, ?_, ?_, hclock, ?_⟩
  · rw [AuthServer.start, hwindow, hconfig]
    rfl
  · rw [AuthServer.start, hmax]
    exact Nat.max_eq_left hcovers.entries_pos
  · intro generation hmem
    rw [AuthServer.start, List.mem_singleton] at hmem
    subst hmem
    refine ⟨_, hskew, hcovers.skew_pos, ?_⟩
    rw [AuthServer.start, hwindow]
    exact fromSecs_le hcovers.window

theorem verifyAuthResponseIdentity_cache {credentials : List Credential} {exporter : Exporter}
    {challenge : AuthChallenge} {response : AuthResponse} {now : UInt64} {skew : Duration}
    {instant : Instant} {cache : ReplayCache} :
    let run := verifyAuthResponseIdentity crypto credentials exporter challenge response now skew
      instant cache
    let check := cache.checkAndInsertAt instant challenge.serverNonce response.clientNonce
    (∃ err, verifyAuthResponseStateless crypto credentials exporter challenge response now skew =
      .error err ∧ run = (cache, .error err)) ∨
    (∃ credential, verifyAuthResponseStateless crypto credentials exporter challenge response now
      skew = .ok credential ∧ run.1 = check.1 ∧
      ((check.2 = .ok () ∧ run.2 = .ok credential.identity) ∨
        (check.2 = .error .replay ∧ run.2 = .error .replay))) := by
  intro run check
  unfold run verifyAuthResponseIdentity verifyAuthResponseCredential
  cases verifyAuthResponseStateless crypto credentials exporter challenge response now skew with
  | error err => exact .inl ⟨err, rfl, rfl⟩
  | ok credential =>
    refine .inr ⟨credential, rfl, ?_⟩
    have herr (e : AuthError) (h : check.2 = .error e) : e = .replay := (checkAndInsertAt_error h).1
    rcases hc : cache.checkAndInsertAt instant challenge.serverNonce response.clientNonce
      with ⟨cache', err | ⟨⟨⟩⟩⟩
    · have hreplay : err = .replay := herr err (by rw [show check = _ from hc])
      subst hreplay
      simp [check, hc]
    · simp [check, hc]

theorem AuthServer.step_cases (server : AuthServer) (action : AuthAction) :
    server.step crypto action = (server, []) ∨
    (∃ t, server.now ≤ t ∧ unixSeconds server.epoch t < 2 ^ 64 ∧
      server.step crypto action = ({ server with now := t }, [])) ∨
    (∃ host candidate security n,
      applySecurityReload crypto.hmac host server.config server.security candidate =
        .ok (security, n) ∧
      server.step crypto action = ({ server with
        security := security
        published := server.published ++ [security.current] }, [])) ∨
    (∃ v, v.generation ∈ server.published ∧ v.instant = server.now ∧ v.unixNow = server.unixNow ∧
      server.step crypto action =
        ({ server with
          cache := (verifyAuthResponseIdentity crypto v.generation.credentials v.exporter
            v.challenge v.response v.unixNow v.generation.authSkew v.instant server.cache).1 },
        [.verified v (verifyAuthResponseIdentity crypto v.generation.credentials v.exporter
          v.challenge v.response v.unixNow v.generation.authSkew v.instant server.cache).2])) := by
  cases action with
  | wait t =>
    rw [AuthServer.step]
    split
    · rename_i h
      exact .inr (.inl ⟨t, h.1, h.2, rfl⟩)
    · exact .inl rfl
  | reload host candidate =>
    rw [AuthServer.step]
    split
    · exact .inl rfl
    · rename_i security n h
      exact .inr (.inr (.inl ⟨host, candidate, security, n, h, rfl⟩))
  | verify n exporter challenge response =>
    rw [AuthServer.step]
    split
    · exact .inl rfl
    · rename_i generation h
      refine .inr (.inr (.inr ⟨⟨generation, exporter, challenge, response, server.now,
        server.unixNow⟩, List.mem_of_getElem? h, rfl, rfl, rfl⟩))

theorem AuthServer.Sound.cache (h : server.Sound maxEntries)
    {cache : ReplayCache} (hvalid : cache.Valid server.now)
    (hwindow : cache.window = server.cache.window)
    (hmax : cache.maxEntries = server.cache.maxEntries) :
    ({ server with cache := cache } : AuthServer).Sound maxEntries := by
  refine ⟨hvalid, hwindow.trans h.window, hmax.trans h.capacity, h.clock, ?_⟩
  intro generation hmem
  obtain ⟨skew, hskew, hpos, hfits⟩ := h.covered generation hmem
  exact ⟨skew, hskew, hpos, hwindow ▸ hfits⟩

theorem checkAndInsertAt_limits (cache : ReplayCache) (t : Instant)
    (serverNonce clientNonce : Nonce) :
    (cache.checkAndInsertAt t serverNonce clientNonce).1.window = cache.window ∧
      (cache.checkAndInsertAt t serverNonce clientNonce).1.maxEntries = cache.maxEntries := by
  unfold ReplayCache.checkAndInsertAt
  dsimp only
  split <;> exact ⟨rfl, rfl⟩

theorem AuthServer.Sound.step (h : server.Sound maxEntries) (crypto : Crypto)
    (action : AuthAction) : (server.step crypto action).1.Sound maxEntries := by
  rcases server.step_cases action with
    hs | ⟨t, hle, hclock, hs⟩ | ⟨host, candidate, security, n, hreload, hs⟩ | ⟨v, hgen, hnow, -, hs⟩
  · rw [hs]
    exact h
  · rw [hs]
    exact ⟨h.valid.later hle, h.window, h.capacity, hclock, h.covered⟩
  · rw [hs]
    refine ⟨h.valid, h.window, h.capacity, h.clock, fun generation hmem => ?_⟩
    rcases List.mem_append.mp hmem with hold | hnew
    · exact h.covered generation hold
    · obtain ⟨hcompat, hlimits, hskew⟩ := applySecurityReload_ok hreload
      have hcovers := coversSkew_of_valid hlimits
      rw [List.mem_singleton.mp hnew]
      refine ⟨_, hskew, hcovers.skew_pos, ?_⟩
      rw [h.window, ← window_of_compatible hcompat]
      exact fromSecs_le hcovers.window
  · rw [hs]
    rcases verifyAuthResponseIdentity_cache with ⟨err, -, hrun⟩ | ⟨credential, -, hcache, -⟩
    · rw [hrun]
      exact h.cache h.valid rfl rfl
    · rw [hcache, hnow]
      have hlimits := checkAndInsertAt_limits server.cache server.now v.challenge.serverNonce
        v.response.clientNonce
      exact h.cache (h.valid.checkAndInsertAt _ _) hlimits.1 hlimits.2

def AcceptedIn (log : List AuthEvent) (key : ReplayKey) : Prop :=
  ∃ v identity, .verified v (.ok identity) ∈ log ∧ v.key = key

theorem AcceptedIn.append (h : AcceptedIn log key) : AcceptedIn (log ++ more) key := by
  obtain ⟨v, identity, hmem, hkey⟩ := h
  exact ⟨v, identity, List.mem_append_left _ hmem, hkey⟩

/-- At least as many other pairs as the cache holds were accepted. -/
def Displaced (maxEntries : Nat) (key : ReplayKey) (log : List AuthEvent) : Prop :=
  ∃ others : List ReplayKey, others.Nodup ∧ key ∉ others ∧ maxEntries ≤ others.length ∧
    ∀ k ∈ others, AcceptedIn log k

structure AuthServer.Tracks (maxEntries : Nat) (seen : List AuthEvent) (server : AuthServer) :
    Prop where
  sound : server.Sound maxEntries
  stamp : ∀ v result, .verified v result ∈ seen →
    v.unixNow = UInt64.ofNat (unixSeconds server.epoch v.instant) ∧
      unixSeconds server.epoch v.instant < 2 ^ 64
  remembers : ∀ before v identity after, seen = before ++ .verified v (.ok identity) :: after →
    server.cache.Remembers server.now v.instant v.key (AcceptedIn after)

theorem AuthServer.Tracks.quiet {after : AuthServer}
    (h : server.Tracks maxEntries seen) (hsound : after.Sound maxEntries)
    (hepoch : after.epoch = server.epoch) (hcache : after.cache = server.cache)
    (hnow : server.now ≤ after.now) : after.Tracks maxEntries (seen ++ []) := by
  rw [List.append_nil]
  refine ⟨hsound, hepoch ▸ h.stamp, fun before v identity rest hseen => ?_⟩
  rw [hcache]
  exact (h.remembers before v identity rest hseen).mono hnow fun _ => id

theorem split_snoc {e x : AuthEvent} (h : seen ++ [e] = before ++ x :: after) :
    (∃ middle, seen = before ++ x :: middle ∧ after = middle ++ [e]) ∨
      (seen = before ∧ x = e ∧ after = []) := by
  rcases List.eq_nil_or_concat after with rfl | ⟨middle, last, rfl⟩
  · obtain ⟨h1, h2⟩ := List.append_inj' h rfl
    cases h2
    exact .inr ⟨h1, rfl, rfl⟩
  · rw [List.concat_eq_append] at h ⊢
    rw [← List.cons_append, ← List.append_assoc] at h
    obtain ⟨h1, h2⟩ := List.append_inj' h rfl
    cases h2
    exact .inl ⟨middle, h1, rfl⟩

theorem AuthServer.Tracks.verified (h : server.Tracks maxEntries seen)
    {v v' : Verification} (hnow : v.instant = server.now)
    (hseen : seen ++ [.verified v (verifyAuthResponseIdentity crypto v.generation.credentials
        v.exporter v.challenge v.response v.unixNow v.generation.authSkew v.instant
        server.cache).2] = before ++ .verified v' (.ok identity) :: rest) :
    (verifyAuthResponseIdentity crypto v.generation.credentials v.exporter v.challenge v.response
      v.unixNow v.generation.authSkew v.instant server.cache).1.Remembers server.now v'.instant
        v'.key (AcceptedIn rest) := by
  have hkept (middle : List AuthEvent) (e : AuthEvent)
      (hold : seen = before ++ .verified v' (.ok identity) :: middle) :
      server.cache.Remembers server.now v'.instant v'.key (AcceptedIn (middle ++ [e])) :=
    (h.remembers before v' identity middle hold).mono (Nat.le_refl _) fun _ hacc => hacc.append
  rcases verifyAuthResponseIdentity_cache with
    ⟨err, -, hrun⟩ | ⟨credential, -, hcache, ⟨hok, hres⟩ | ⟨hbad, hres⟩⟩
  · -- nothing was checked, and nothing new was accepted
    rw [hrun] at hseen ⊢
    rcases split_snoc hseen with ⟨middle, hold, rfl⟩ | ⟨-, heq, -⟩
    · exact hkept middle _ hold
    · cases heq
  · rw [hres] at hseen
    rw [hcache, hnow]
    rw [hnow] at hok
    rcases split_snoc hseen with ⟨middle, hold, rfl⟩ | ⟨-, heq, rfl⟩
    · exact (hkept middle _ hold).checkAndInsertAt h.sound.valid _ _
        fun _ => ⟨_, _, List.mem_append_right _ List.mem_cons_self, rfl⟩
    · cases heq
      rw [hnow]
      exact ReplayCache.remembers_accepted hok
  · rw [hres] at hseen
    rw [hcache, hnow]
    rw [hnow] at hbad
    rcases split_snoc hseen with ⟨middle, hold, rfl⟩ | ⟨-, heq, -⟩
    · refine (hkept middle _ hold).checkAndInsertAt h.sound.valid _ _ fun hok => ?_
      cases hbad.symm.trans hok
    · cases heq

theorem AuthServer.Tracks.step (h : server.Tracks maxEntries seen) (action : AuthAction) :
    (server.step crypto action).1.Tracks maxEntries (seen ++ (server.step crypto action).2) := by
  have hsound := h.sound.step crypto action
  rcases server.step_cases action with
    hs | ⟨t, hle, -, hs⟩ | ⟨host, candidate, security, n, -, hs⟩ | ⟨v, hgen, hnow, hunix, hs⟩
  · rw [hs] at hsound ⊢
    exact h.quiet hsound rfl rfl (Nat.le_refl _)
  · rw [hs] at hsound ⊢
    exact h.quiet hsound rfl rfl hle
  · rw [hs] at hsound ⊢
    exact h.quiet hsound rfl rfl (Nat.le_refl _)
  · rw [hs] at hsound ⊢
    refine ⟨hsound, fun v' result hmem => ?_, fun before v' identity rest hseen => ?_⟩
    · rcases List.mem_append.mp hmem with hold | hnew
      · exact h.stamp v' result hold
      · cases List.mem_singleton.mp hnew
        rw [hunix, hnow]
        exact ⟨rfl, h.sound.clock⟩
    · exact h.verified hnow hseen

/-- The generation has a usable credential for the key id, and the tag verifies under it. -/
def Verification.Authentic (crypto : Crypto) (v : Verification) : Prop :=
  ∃ credential, findCredential v.generation.credentials v.response.keyId = some credential ∧
    credential.validateAuthMaterial = .ok () ∧
    computeAuthTag crypto.hmac credential.secret v.exporter v.challenge v.response.keyId
      v.response.clientNonce v.response.clientTime v.response.clientCapabilities =
        .ok v.response.tag

/-- The kind of the refusal is fixed only while the generation can still verify the tag. -/
def Verification.Refused (crypto : Crypto) (v : Verification)
    (result : AuthResult AuthenticatedIdentity) : Prop :=
  ∃ err, result = .error err ∧ (v.Authentic crypto →
    err = .clockSkew ∨ err = .credentialNotActive ∨ err = .replay)

theorem Verification.Authentic.error {v : Verification} (h : v.Authentic crypto)
    (herr : verifyAuthResponseStateless crypto v.generation.credentials v.exporter v.challenge
      v.response now skew = .error err) : err = .clockSkew ∨ err = .credentialNotActive := by
  obtain ⟨credential, hfind, hmaterial, htag⟩ := h
  obtain ⟨mac, hmac, htag⟩ := computeAuthTag_ok.mp htag
  simp only [verifyAuthResponseStateless, hfind, usable_secret hmaterial, hmac, hmaterial, okOr,
    Option.elim_some, htag, if_true, bind, Except.bind] at herr
  split at herr
  · cases herr
    exact .inr rfl
  · split at herr
    · cases herr
      exact .inl rfl
    · cases herr

theorem AuthServer.Sound.window_of_fresh (h : server.Sound maxEntries)
    {v : Verification} (hgen : v.generation ∈ server.published)
    (hstateless : verifyAuthResponseStateless crypto v.generation.credentials v.exporter
      v.challenge v.response server.unixNow v.generation.authSkew = .ok credential)
    (hsince : unixSeconds server.epoch since < 2 ^ 64)
    (hserver : v.challenge.serverTime ≤ UInt64.ofNat (unixSeconds server.epoch since)) :
    server.now - since ≤ server.cache.window := by
  obtain ⟨skew, hskew, hpos, hfits⟩ := h.covered v.generation hgen
  have hfresh := absDiff_le (verifyAuthResponseStateless_iff.mp hstateless).serverFresh
  rw [hskew, asSecs_fromSecs, AuthServer.unixNow, UInt64.toNat_ofNat_of_lt' h.clock] at hfresh
  rw [UInt64.le_iff_toNat_le, UInt64.toNat_ofNat_of_lt' hsince] at hserver
  have hwithin : server.now - since < fromSecs (skew + 1) :=
    within_of_seconds (hfresh.trans (Nat.add_le_add_right hserver skew))
  have hdouble : fromSecs (skew + 1) ≤ fromSecs (2 * skew) := fromSecs_le (by omega)
  exact (hwithin.le.trans hdouble).trans hfits

/-- A later verification is refused, or the pair was displaced. -/
def RefusesAgain (crypto : Crypto) (maxEntries : Nat) (seen : List AuthEvent) (e : AuthEvent) :
    Prop :=
  ∀ before first identity between v result,
    seen = before ++ .verified first (.ok identity) :: between → e = .verified v result →
    v.challenge = first.challenge → v.response = first.response →
    v.challenge.serverTime ≤ first.unixNow →
    v.Refused crypto result ∨ Displaced maxEntries v.key between

theorem AuthServer.Tracks.step_refuses (h : server.Tracks maxEntries seen) (action : AuthAction) :
    Each (fun before => RefusesAgain crypto maxEntries (seen ++ before))
      (server.step crypto action).2 := by
  rcases server.step_cases action with
    hs | ⟨t, -, -, hs⟩ | ⟨host, candidate, security, n, -, hs⟩ | ⟨v, hgen, hnow, hunix, hs⟩
  · rw [hs]
    exact each_nil
  · rw [hs]
    exact each_nil
  · rw [hs]
    exact each_nil
  · rw [hs]
    refine each_cons ?_ each_nil
    rintro before first identity between v' result hseen he hchallenge hresponse hserver
    rw [List.append_nil] at hseen
    cases he
    obtain ⟨hstamp, hrange⟩ := h.stamp first (.ok identity) (by rw [hseen]; simp)
    have hkey : first.key = v.key := by
      rw [Verification.key, Verification.key, hchallenge, hresponse]
    rcases verifyAuthResponseIdentity_cache with
      ⟨err, hstateless, hrun⟩ | ⟨credential, hstateless, -, hresult⟩
    · refine .inl ⟨err, by rw [hrun], fun hauth => ?_⟩
      exact (hauth.error hstateless).imp_right .inl
    · -- fresh, so inside the window: only others can have pushed it out
      rw [hunix] at hstateless
      have hwindow := h.sound.window_of_fresh hgen hstateless hrange (hstamp ▸ hserver)
      cases h.remembers before first identity between hseen with
      | held older younger horder _ =>
        refine .inl ⟨.replay, ?_, fun _ => .inr (.inr rfl)⟩
        rcases hresult with ⟨hok, -⟩ | ⟨-, hbad⟩
        · rw [hnow, h.sound.valid.check_iff] at hok
          refine (hok ⟨first.instant, h.sound.valid.mem_order.mp ?_, hwindow⟩).elim
          rw [horder, hkey]
          exact List.mem_append_right _ List.mem_cons_self
        · exact hbad
      | elapsed hlate => exact absurd hwindow (Nat.not_le.mpr hlate)
      | displaced others hnodup hnot hcount hothers =>
        refine .inr ⟨others, hnodup, hkey ▸ hnot, ?_, hothers⟩
        rw [← h.sound.capacity]
        exact hcount

/-- However configurations are reloaded, an accepted pair is refused every later time, unless as
many others as the cache holds were accepted since. -/
theorem replay_refused_across_reloads (crypto : Crypto) (host : Host) (config : ServerConfig)
    (runtime : ServerRuntime)
    (hstart : prepareServerRuntime crypto.hmac host config = .ok runtime)
    (now : Instant) (epoch : Duration) (hclock : unixSeconds epoch now < 2 ^ 64)
    (actions : List AuthAction) :
    (∀ before first identity between v result after,
      (run (AuthServer.step crypto) (.start runtime now epoch) actions).2 =
        before ++ .verified first (.ok identity) :: between ++ .verified v result :: after →
      v.challenge = first.challenge → v.response = first.response →
      v.challenge.serverTime ≤ first.unixNow →
      v.Refused crypto result ∨
        Displaced config.replayCacheMaxEntries.toNat v.key between) ∧
    (∀ window maxEntries t cache, ReplayCache.Reachable window maxEntries t cache →
      InStep cache.entries (cache.order.map Prod.snd) ∧
      (cache.order.map Prod.fst).Pairwise (· ≤ ·) ∧
      cache.entries.size ≤ cache.maxEntries ∧
      ∀ serverNonce clientNonce,
        (cache.checkAndInsertAt t serverNonce clientNonce).2 = .error .replay →
        ∀ p ∈ cache.order, t - p.1 ≤ cache.window →
          p ∈ (cache.checkAndInsertAt t serverNonce clientNonce).1.order) := by
  refine ⟨fun before first identity between v result after hlog => ?_,
    fun window maxEntries t cache hreach => ?_⟩
  · have hinit : (AuthServer.start runtime now epoch).Tracks
        config.replayCacheMaxEntries.toNat [] := by
      refine ⟨.start hstart hclock, nofun, fun before v identity after hnil => ?_⟩
      simp at hnil
    have heach : Each (RefusesAgain crypto config.replayCacheMaxEntries.toNat)
        (run (AuthServer.step crypto) (.start runtime now epoch) actions).2 :=
      run_each (AuthServer.Tracks config.replayCacheMaxEntries.toNat)
        (fun _ _ action _ h => h.step action) (fun _ _ action _ h => h.step_refuses action)
        hinit (along_true _ actions)
    exact heach _ _ after hlog before first identity between v result rfl rfl
  · obtain ⟨hvalid, -, -⟩ := hreach.valid
    refine ⟨hvalid.inStep, hvalid.sorted, ?_, fun serverNonce clientNonce herr p hp hw => ?_⟩
    · rw [hvalid.inStep.size_eq, List.length_map]
      exact hvalid.bounded
    · rw [(checkAndInsertAt_error herr).2]
      exact (hvalid.mem_prune_order t).mpr ⟨hp, hw⟩

theorem sampleKeyId_length : (utf8 "a").length < 2 ^ 64 := by decide +kernel

/-- One credential, and the defaults. -/
def sampleConfig : ServerConfig where
  listen := "127.0.0.1:443"
  certPath := "cert.pem"
  keyPath := "key.pem"
  credentials := [
    { keyId := "a"
      secret := "0123456789abcdef0123456789abcdef"
      keyId_length := sampleKeyId_length }]

def sampleCrypto : Crypto := ⟨fun _ _ => .replicate 32 0, .ofFn fun i => UInt8.ofNat i⟩

def sampleHost : Host := ⟨fun _ => .ok (), fun _ => .ok (), fun _ => .ok (), fun _ => .ok ⟨[]⟩⟩

theorem replay_refused_second_time :
    let zeros : Nonce := .replicate 32 0
    let verify : AuthAction :=
      .verify 0 zeros ⟨zeros, 100, [], []⟩ ⟨[97], zeros, 100, [], zeros⟩
    ∃ runtime, prepareServerRuntime sampleCrypto.hmac sampleHost sampleConfig = .ok runtime ∧
      ∃ first identity v result,
        (run (AuthServer.step sampleCrypto) (.start runtime 0 (fromSecs 100)) [verify, verify]).2 =
          [.verified first (.ok identity), .verified v result] ∧
        (v.Refused sampleCrypto result ∨
          Displaced sampleConfig.replayCacheMaxEntries.toNat v.key []) := by
  intro zeros verify
  have hrun : (match prepareServerRuntime sampleCrypto.hmac sampleHost sampleConfig with
      | .error _ => none
      | .ok runtime => some ((run (AuthServer.step sampleCrypto) (.start runtime 0 (fromSecs 100))
          [verify, verify]).2.map fun (.verified v result) =>
            (v.challenge, v.response, v.unixNow, result))) =
      some [(⟨zeros, 100, [], []⟩, ⟨[97], zeros, 100, [], zeros⟩, 100, .ok ⟨[97], none⟩),
        (⟨zeros, 100, [], []⟩, ⟨[97], zeros, 100, [], zeros⟩, 100, .error .replay)] := by
    decide +kernel
  cases hstart : prepareServerRuntime sampleCrypto.hmac sampleHost sampleConfig with
  | error err =>
    rw [hstart] at hrun
    cases hrun
  | ok runtime =>
    rw [hstart] at hrun
    obtain ⟨⟨first, r⟩, rest, hlog, hfirst, hrest⟩ :=
      List.map_eq_cons_iff.mp (Option.some.inj hrun)
    obtain ⟨⟨v, result⟩, after, rfl, hv, hnil⟩ := List.map_eq_cons_iff.mp hrest
    obtain rfl := List.map_eq_nil_iff.mp hnil
    simp only [Prod.mk.injEq] at hfirst hv
    obtain ⟨hc, hr, ht, rfl⟩ := hfirst
    refine ⟨runtime, rfl, first, _, v, result, hlog, ?_⟩
    refine (replay_refused_across_reloads sampleCrypto sampleHost sampleConfig runtime hstart 0
      (fromSecs 100) (by decide) [verify, verify]).1 [] first _ [] v result [] hlog
      (hv.1.trans hc.symm) (hv.2.1.trans hr.symm) ?_
    rw [hv.1, ht]
    decide

/-- Once a reload has replaced the credential, the refusal is for the key id. -/
theorem reload_changes_refusal :
    let zeros : Nonce := .replicate 32 0
    let renamed : ServerConfig := { sampleConfig with
      credentials := [
        { keyId := "b", secret := "0123456789abcdef0123456789abcdef",
          keyId_length := by decide +kernel }] }
    let verify (generation : Nat) : AuthAction :=
      .verify generation zeros ⟨zeros, 100, [], []⟩ ⟨[97], zeros, 100, [], zeros⟩
    (match prepareServerRuntime sampleCrypto.hmac sampleHost sampleConfig with
      | .error _ => none
      | .ok runtime => some ((run (AuthServer.step sampleCrypto) (.start runtime 0 (fromSecs 100))
          [verify 0, .reload sampleHost renamed, verify 1]).2.map
            fun (.verified _ result) => result)) =
      some [.ok ⟨[97], none⟩, .error .unknownKey] := by
  decide +kernel

end UncrownedKing.Server
