import UncrownedKing.Auth.Verify

/-!
# Which responses are accepted

The padded comparison finds the first credential with the key id, and the dummy
secret never lets a response in.
-/

namespace UncrownedKing.Auth

open Lib

theorem foldl_differences (l : Bytes) (first d : UInt8) :
    l.foldl (fun differences byte => differences ||| (byte ^^^ first)) d = 0 ↔
      d = 0 ∧ ∀ b ∈ l, b = first := by
  induction l generalizing d with
  | nil => simp
  | cons b rest ih =>
    rw [List.foldl_cons, ih, UInt8.or_eq_zero_iff, UInt8.xor_eq_zero_iff, List.forall_mem_cons,
      and_assoc]

theorem isSingleRepeatedByte_false (h : 0 < secret.length) :
    isSingleRepeatedByte secret = false ↔ ∃ a ∈ secret, ∃ b ∈ secret, a ≠ b := by
  cases secret with
  | nil => cases h
  | cons first rest =>
    rw [← Bool.not_eq_true, isSingleRepeatedByte, beq_iff_eq, foldl_differences]
    constructor
    · intro hn
      by_contra hall
      refine hn ⟨rfl, fun b hb => ?_⟩
      by_contra hne
      exact hall ⟨b, hb, first, List.mem_cons_self, hne⟩
    · rintro ⟨a, ha, b, hb, hne⟩ ⟨-, hall⟩
      exact hne ((hall a ha).trans (hall b hb).symm)

theorem validateSharedSecret_ok :
    validateSharedSecret secret = .ok () ↔
      minSecretLen ≤ secret.length ∧ ∃ a ∈ secret, ∃ b ∈ secret, a ≠ b := by
  unfold validateSharedSecret
  split
  · rename_i h
    exact ⟨nofun, fun h' => absurd h'.1 (Nat.not_le.mpr h)⟩
  · rename_i h
    have hlen := Nat.not_lt.mp h
    have hpos : 0 < secret.length := Nat.lt_of_lt_of_le (by decide) hlen
    rw [← isSingleRepeatedByte_false hpos]
    cases isSingleRepeatedByte secret with
    | true => simp
    | false => simp [hlen]

theorem padKeyIdForCt_inj (hk : keyId.length ≤ maxKeyIdLen) (hk' : keyId'.length < 2 ^ 64)
    (h : padKeyIdForCt keyId = padKeyIdForCt keyId') : keyId = keyId' := by
  unfold padKeyIdForCt at h
  obtain ⟨hbuf, hlen⟩ := List.append_inj' h (by simp)
  have hsmall : keyId.length < 256 ^ 8 := Nat.lt_of_le_of_lt hk (by decide)
  have heq : keyId.length = keyId'.length := by
    have := congrArg fromBe (List.reverse_inj.mp hlen)
    rwa [fromBe_toBe hsmall, fromBe_toBe (by simpa using hk')] at this
  rw [heq] at hk hbuf
  simp only [Nat.min_eq_left hk, List.append_cancel_right_eq] at hbuf
  rwa [List.take_length, ← heq, List.take_length] at hbuf

theorem foldl_first (p : Credential → Prop) [DecidablePred p] (l : List Credential)
    (matched : Option Credential) :
    l.foldl (fun matched c => if p c ∧ matched.isNone then some c else matched) matched =
      matched.or (l.find? (p ·)) := by
  induction l generalizing matched with
  | nil => simp
  | cons c rest ih =>
    rw [List.foldl_cons, ih, List.find?_cons]
    cases matched with
    | some found => simp
    | none => by_cases hp : p c <;> simp [hp]

theorem findCredential_eq_find (credentials : List Credential) (h : keyId.length ≤ maxKeyIdLen) :
    findCredential credentials keyId = credentials.find? (·.keyId = keyId) := by
  unfold findCredential
  rw [foldl_first, Option.none_or]
  congr 1
  funext credential
  have : padKeyIdForCt keyId = padKeyIdForCt credential.keyId ↔ credential.keyId = keyId :=
    ⟨fun h' => (padKeyIdForCt_inj h credential.keyId_length h').symm, fun h' => by rw [h']⟩
  simp only [this]

theorem Credential.isActiveAt_iff {credential : Credential} :
    credential.isActiveAt now = true ↔ now ≠ unreadableClock ∧ credential.status = .active ∧
      (∀ notBefore, credential.notBefore = some notBefore → notBefore ≤ now) ∧
      (∀ notAfter, credential.notAfter = some notAfter → now ≤ notAfter) := by
  unfold Credential.isActiveAt
  split
  · simp_all
  · split
    · simp_all
    · cases credential.notBefore <;> cases credential.notAfter <;> simp_all

theorem timestampWithinSkew_iff :
    timestampWithinSkew timestamp now skew = true ↔ timestamp ≠ unreadableClock ∧
      now ≠ unreadableClock ∧ absDiff now timestamp ≤ asSecs skew := by
  unfold timestampWithinSkew
  split
  · rename_i h
    rcases h with h | h <;> simp [h]
  · rename_i h
    rw [not_or] at h
    simp [h.1, h.2]

/-- What makes a response acceptable, the replay cache apart. -/
structure Accepts (crypto : Crypto) (credentials : List Credential) (exporter : Exporter)
    (challenge : AuthChallenge) (response : AuthResponse) (now : UInt64) (allowedSkew : Duration)
    (credential : Credential) : Prop where
  first : credentials.find? (·.keyId = response.keyId) = some credential
  keyId : 1 ≤ credential.keyId.length ∧ credential.keyId.length ≤ 64
  secret : 32 ≤ credential.secret.length ∧ ∃ a ∈ credential.secret, ∃ b ∈ credential.secret, a ≠ b
  tag : ∃ payload part, encodedChallengePayload challenge = .ok payload ∧
    encodedResponsePrefix response.keyId response.clientNonce response.clientTime
      response.clientCapabilities = .ok part ∧
    crypto.hmac credential.secret (authLabel ++ exporter.toList ++ payload ++ part) = response.tag
  status : credential.status = .active
  notBefore : ∀ notBefore, credential.notBefore = some notBefore → notBefore ≤ now
  notAfter : ∀ notAfter, credential.notAfter = some notAfter → now ≤ notAfter
  clock : now ≠ unreadableClock ∧ challenge.serverTime ≠ unreadableClock ∧
    response.clientTime ≠ unreadableClock
  serverFresh : absDiff now challenge.serverTime ≤ asSecs allowedSkew
  clientFresh : absDiff now response.clientTime ≤ asSecs allowedSkew

variable {crypto : Crypto} {credentials : List Credential} {exporter : Exporter}
  {challenge : AuthChallenge} {response : AuthResponse} {now : UInt64} {allowedSkew : Duration}
  {credential : Credential}

theorem authMac_ok :
    authMac secret exporter challenge keyId nonce time caps = .ok mac ↔
      validateSharedSecret secret = .ok () ∧ validateKeyId keyId = .ok () ∧
        ∃ payload part, encodedChallengePayload challenge = .ok payload ∧
          encodedResponsePrefix keyId nonce time caps = .ok part ∧
          mac = ⟨secret, authLabel ++ exporter.toList ++ payload ++ part⟩ := by
  simp only [authMac, bind_eq_ok]
  constructor
  · rintro ⟨⟨⟩, hsecret, payload, hpayload, part, hpart, ⟨⟩, hkey, ⟨⟩⟩
    exact ⟨hsecret, hkey, payload, part, hpayload, hpart, rfl⟩
  · rintro ⟨hsecret, hkey, payload, part, hpayload, hpart, rfl⟩
    exact ⟨(), hsecret, payload, hpayload, part, hpart, (), hkey, rfl⟩

theorem computeAuthTag_ok {hmac : Bytes → Bytes → Tag} :
    computeAuthTag hmac secret exporter challenge keyId nonce time caps = .ok tag ↔
      ∃ mac, authMac secret exporter challenge keyId nonce time caps = .ok mac ∧
        mac.finalize hmac = tag := by
  unfold computeAuthTag
  cases authMac secret exporter challenge keyId nonce time caps with
  | error e | ok mac => simp

theorem usable_secret (h : credential.validateAuthMaterial = .ok ()) (dummy : Bytes) :
    ((some credential).filter (·.validateAuthMaterial.isOk)).elim dummy Credential.secret =
      credential.secret := by
  simp [Option.filter, h, Except.isOk, Except.toBool]

theorem okOr_ok {x : Option α} : okOr x err = .ok a ↔ x = some a := by
  cases x <;> simp [okOr]

theorem validateAuthMaterial_ok :
    credential.validateAuthMaterial = .ok () ↔
      validateKeyId credential.keyId = .ok () ∧ validateSharedSecret credential.secret = .ok () := by
  simp only [Credential.validateAuthMaterial, bind_eq_ok]
  exact ⟨fun ⟨_, h⟩ => h, fun h => ⟨(), h⟩⟩

section

variable (h : Accepts crypto credentials exporter challenge response now allowedSkew credential)
include h

theorem Accepts.material : credential.validateAuthMaterial = .ok () :=
  validateAuthMaterial_ok.mpr ⟨validateKeyId_ok.mpr h.keyId, validateSharedSecret_ok.mpr h.secret⟩

theorem Accepts.keyId_eq : credential.keyId = response.keyId := by
  simpa using List.find?_some h.first

theorem Accepts.found : findCredential credentials response.keyId = some credential := by
  rw [findCredential_eq_find credentials (h.keyId_eq ▸ h.keyId.2), h.first]

theorem Accepts.mac :
    ∃ mac, authMac credential.secret exporter challenge response.keyId response.clientNonce
        response.clientTime response.clientCapabilities = .ok mac ∧
      mac.finalize crypto.hmac = response.tag := by
  obtain ⟨payload, part, hpayload, hpart, htag⟩ := h.tag
  refine ⟨_, authMac_ok.mpr ⟨validateSharedSecret_ok.mpr h.secret, ?_, payload, part, hpayload,
    hpart, rfl⟩, htag⟩
  exact validateKeyId_ok.mpr (h.keyId_eq ▸ h.keyId)

theorem Accepts.verified :
    verifyAuthResponseStateless crypto credentials exporter challenge response now allowedSkew =
      .ok credential := by
  obtain ⟨mac, hmac, htag⟩ := h.mac
  have hactive : credential.isActiveAt now = true :=
    Credential.isActiveAt_iff.mpr ⟨h.clock.1, h.status, h.notBefore, h.notAfter⟩
  have hserver := timestampWithinSkew_iff.mpr ⟨h.clock.2.1, h.clock.1, h.serverFresh⟩
  have hclient := timestampWithinSkew_iff.mpr ⟨h.clock.2.2, h.clock.1, h.clientFresh⟩
  simp only [verifyAuthResponseStateless, bind_eq_ok]
  rw [h.found, usable_secret h.material]
  refine ⟨mac, hmac, credential, okOr_ok.mpr rfl, (), h.material, (), if_pos htag, ?_⟩
  simp only [hactive, hserver, hclient, Bool.not_true, Bool.or_false, Bool.false_eq_true,
    ↓reduceIte]
  rfl

end

theorem accepts_of_verified
    (h : verifyAuthResponseStateless crypto credentials exporter challenge response now
      allowedSkew = .ok credential) :
    Accepts crypto credentials exporter challenge response now allowedSkew credential := by
  simp only [verifyAuthResponseStateless, bind_eq_ok] at h
  obtain ⟨mac, hmac, found, hfound, ⟨⟩, hmaterial, ⟨⟩, htag, h⟩ := h
  rw [okOr_ok] at hfound
  rw [hfound, usable_secret hmaterial] at hmac
  obtain ⟨-, hkeyId, payload, part, hpayload, hpart, rfl⟩ := authMac_ok.mp hmac
  rw [findCredential_eq_find credentials (validateKeyId_ok.mp hkeyId).2] at hfound
  split at htag
  · rename_i hequal
    split at h
    · cases h
    · rename_i hactive
      split at h
      · cases h
      · rename_i hfresh
        cases h
        simp only [Bool.or_eq_true, Bool.not_eq_true', not_or, Bool.not_eq_false] at hactive hfresh
        obtain ⟨hkey, hsecret⟩ := validateAuthMaterial_ok.mp hmaterial
        obtain ⟨hclock, hstatus, hbefore, hafter⟩ := Credential.isActiveAt_iff.mp hactive
        obtain ⟨hserver, -, hsfresh⟩ := timestampWithinSkew_iff.mp hfresh.1
        obtain ⟨hclient, -, hcfresh⟩ := timestampWithinSkew_iff.mp hfresh.2
        exact ⟨hfound, validateKeyId_ok.mp hkey, validateSharedSecret_ok.mp hsecret,
          ⟨payload, part, hpayload, hpart, hequal⟩, hstatus, hbefore, hafter,
          ⟨hclock, hserver, hclient⟩, hsfresh, hcfresh⟩
  · cases htag

theorem verifyAuthResponseStateless_iff :
    verifyAuthResponseStateless crypto credentials exporter challenge response now allowedSkew =
        .ok credential ↔
      Accepts crypto credentials exporter challenge response now allowedSkew credential :=
  ⟨accepts_of_verified, Accepts.verified⟩

variable {cache : ReplayCache} {instant : Instant}

theorem identity_ok {r : AuthResult Credential} {identity : AuthenticatedIdentity} :
    Credential.identity <$> r = .ok identity ↔
      ∃ credential, r = .ok credential ∧ identity = credential.identity := by
  cases r with
  | error e => simp
  | ok credential => simp [eq_comm]

theorem verifyAuthResponseIdentity_ok {identity : AuthenticatedIdentity} :
    (verifyAuthResponseIdentity crypto credentials exporter challenge response now allowedSkew
        instant cache).2 = .ok identity ↔
      verifyAuthResponseIdentityStateless crypto credentials exporter challenge response now
          allowedSkew = .ok identity ∧
        (cache.checkAndInsertAt instant challenge.serverNonce response.clientNonce).2 =
          .ok () := by
  unfold verifyAuthResponseIdentity verifyAuthResponseCredential
    verifyAuthResponseIdentityStateless
  cases verifyAuthResponseStateless crypto credentials exporter challenge response now
      allowedSkew with
  | error e => simp
  | ok credential =>
    rcases cache.checkAndInsertAt instant challenge.serverNonce response.clientNonce
      with ⟨cache', _ | _⟩ <;> simp

theorem verifyAuthResponseIdentity_error
    (h : (verifyAuthResponseIdentity crypto credentials exporter challenge response now
      allowedSkew instant cache).2 = .error err) :
    (verifyAuthResponseIdentity crypto credentials exporter challenge response now allowedSkew
        instant cache).1 = cache ∨
      (cache.checkAndInsertAt instant challenge.serverNonce response.clientNonce).2 =
        .error err := by
  unfold verifyAuthResponseIdentity verifyAuthResponseCredential at h ⊢
  cases hs : verifyAuthResponseStateless crypto credentials exporter challenge response now
      allowedSkew with
  | error e => exact .inl rfl
  | ok credential =>
    rw [hs] at h
    right
    revert h
    rcases cache.checkAndInsertAt instant challenge.serverNonce response.clientNonce
      with ⟨cache', _ | _⟩ <;> simp

/-- A response is accepted exactly when the first credential with its key id is usable, active and
produced its tag, both times are fresh, and its nonce pair is new. -/
theorem response_accepted_iff (crypto : Crypto) (credentials : List Credential)
    (exporter : Exporter) (challenge : AuthChallenge) (response : AuthResponse) (now : UInt64)
    (allowedSkew : Duration) {window : Duration} {maxEntries : Nat}
    (hreach : ReplayCache.Reachable window maxEntries instant cache) :
    let run := verifyAuthResponseIdentity crypto credentials exporter challenge response now
      allowedSkew instant cache
    let stateless := verifyAuthResponseIdentityStateless crypto credentials exporter challenge
      response now allowedSkew
    let check := cache.checkAndInsertAt instant challenge.serverNonce response.clientNonce
    let accepted (identity : AuthenticatedIdentity) := ∃ credential,
      Accepts crypto credentials exporter challenge response now allowedSkew credential ∧
        ¬ cache.Holds instant ⟨challenge.serverNonce, response.clientNonce⟩ ∧
        identity = credential.identity
    (∀ identity, run.2 = .ok identity ↔ accepted identity) ∧
    (∀ identity, (stateless = .ok identity ∧ check.2 = .ok ()) ↔ accepted identity) ∧
    ((findCredential credentials response.keyId).filter (·.validateAuthMaterial.isOk) = none →
      ∃ err, stateless = .error err ∧ run = (cache, .error err)) ∧
    (∀ err, run.2 = .error err → run.1 = cache ∨ check = (cache.prune instant, .error err)) := by
  intro run stateless check accepted
  have hcarrier (identity) : (stateless = .ok identity ∧ check.2 = .ok ()) ↔
      accepted identity := by
    rw [hreach.valid.1.check_iff]
    simp only [stateless, verifyAuthResponseIdentityStateless, identity_ok,
      verifyAuthResponseStateless_iff]
    constructor
    · rintro ⟨⟨credential, haccepts, hid⟩, hheld⟩
      exact ⟨credential, haccepts, hheld, hid⟩
    · rintro ⟨credential, haccepts, hheld, hid⟩
      exact ⟨⟨credential, haccepts, hid⟩, hheld⟩
  refine ⟨fun identity => ?_, hcarrier, fun hdummy => ?_, fun err herr => ?_⟩
  · rw [← hcarrier]
    exact verifyAuthResponseIdentity_ok
  · cases hs : verifyAuthResponseStateless crypto credentials exporter challenge response now
        allowedSkew with
    | error err =>
      refine ⟨err, ?_, ?_⟩
      · simp only [stateless, verifyAuthResponseIdentityStateless, hs]
        rfl
      · simp only [run, verifyAuthResponseIdentity, verifyAuthResponseCredential, hs]
        rfl
    | ok credential =>
      -- an accepted response has a usable credential, so the dummy was not used
      have haccepts := accepts_of_verified hs
      rw [haccepts.found] at hdummy
      simp [Option.filter, haccepts.material, Except.isOk, Except.toBool] at hdummy
  · refine (verifyAuthResponseIdentity_error herr).imp_right fun hcheck => ?_
    have hpruned := (checkAndInsertAt_error hcheck).2
    exact Prod.ext hpruned hcheck

/-- The tag depends on the secret and on every byte under it. -/
theorem response_accepted_fresh :
    let zeros : Vector UInt8 32 := .replicate 32 0
    let hmac : Bytes → Bytes → Tag := fun key input =>
      .ofFn fun i => key.getD i 0 + input.foldl (fun sum byte => 31 * sum + byte) 7
    let crypto : Crypto := ⟨hmac, zeros⟩
    let credential : Credential :=
      ⟨[1], (List.range 32).map UInt8.ofNat, .active, none, none, none, by decide⟩
    let challenge : AuthChallenge := ⟨zeros, 100, [], []⟩
    ∃ response, AuthResponse.forChallenge hmac [1] credential.secret zeros challenge zeros 100 [] =
        .ok response ∧
      ∃ accepted, Accepts crypto [credential] zeros challenge response 100 (fromSecs 30)
        accepted := by
  intro zeros hmac crypto credential challenge
  let sum : UInt8 := (authLabel ++ zeros.toList ++ challenge.encode.toOption.getD [] ++
    (encodedResponsePrefix [1] zeros 100 []).toOption.getD []).foldl
      (fun sum byte => 31 * sum + byte) 7
  let response : AuthResponse := ⟨[1], zeros, 100, [], .ofFn fun i => UInt8.ofNat i + sum⟩
  obtain ⟨accepted, haccepts, -⟩ := ((response_accepted_iff crypto [credential] zeros challenge
    response 100 (fromSecs 30) (.new 0 : ReplayCache.Reachable (fromSecs 300) 16 0 _)).1
    credential.identity).mp (by decide +kernel)
  exact ⟨response, by decide +kernel, accepted, haccepts⟩

end UncrownedKing.Auth
