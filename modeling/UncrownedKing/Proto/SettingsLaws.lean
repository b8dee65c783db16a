import UncrownedKing.Proto.Settings

/-!
# The settings codec

The payloads that are read as settings, as a grammar, and the bounds of what can
be negotiated.
-/

namespace UncrownedKing.Proto

open Lib

variable {settings : Settings}

/-- Which width is in the top two bits, and no shorter form has room. -/
def Varint.Minimal (value : Nat) (x : Bytes) : Prop :=
  ∃ tag < 4, x.length = 2 ^ tag ∧ fromBe x = tag * 2 ^ (8 * 2 ^ tag - 2) + value ∧
    value < 2 ^ (8 * 2 ^ tag - 2) ∧ ∀ shorter < tag, 2 ^ (8 * 2 ^ shorter - 2) ≤ value

inductive Entries : List (Nat × Nat) → Bytes → Prop
  | nil : Entries [] []
  | cons (hkey : Varint.Minimal key k) (hvalue : Varint.Minimal value v)
      (hrest : Entries pairs rest) : Entries ((key, value) :: pairs) (k ++ v ++ rest)

def Fresh (settings : Settings) (pairs : List (Nat × Nat)) : Prop :=
  ∀ key : SettingKey,
    (settings.get key).isSome.toNat + (pairs.map Prod.fst).count key.toNat ≤ 1

/-- `src` is the encoding of `pairs`, where no known key occurs twice. -/
structure Written (pairs : List (Nat × Nat)) (src : Bytes) : Prop where
  bytes : ∃ count entries, Varint.Minimal pairs.length count ∧ Entries pairs entries ∧
    src = count ++ entries
  once : ∀ key : SettingKey, (pairs.map Prod.fst).count key.toNat ≤ 1

theorem Varint.encodedLen_le_of_lt (htag : tag < 4) (h : value < 2 ^ (8 * 2 ^ tag - 2)) :
    ∃ len ≤ 2 ^ tag, Varint.encodedLen value = .ok len := by
  have hmax : Varint.maxVarint = 4611686018427387903 := by decide
  unfold Varint.encodedLen
  match tag, htag with
  | 0, _ => exact ⟨1, by decide, if_pos (by simp at h; omega)⟩
  | 1, _ =>
    simp at h
    split_ifs
    all_goals first | omega | exact ⟨_, by decide, rfl⟩
  | 2, _ =>
    simp at h
    split_ifs
    all_goals first | omega | exact ⟨_, by decide, rfl⟩
  | 3, _ =>
    simp at h
    split_ifs
    all_goals first | omega | exact ⟨_, by decide, rfl⟩

theorem Varint.width_iff :
    Varint.Width value tag ↔ tag < 4 ∧ value < 2 ^ (8 * 2 ^ tag - 2) ∧
      ∀ shorter < tag, 2 ^ (8 * 2 ^ shorter - 2) ≤ value := by
  constructor
  · intro h
    refine ⟨h.tag_lt, h.lt, fun shorter hshorter => Nat.not_lt.mp fun hroom => ?_⟩
    obtain ⟨len, hle, hlen⟩ := encodedLen_le_of_lt (hshorter.trans h.tag_lt) hroom
    obtain rfl := Except.ok.inj (h.len.symm.trans hlen)
    exact Nat.not_lt.mpr hle (Nat.pow_lt_pow_right (by decide) hshorter)
  · rintro ⟨htag, hlt, hshorter⟩
    obtain ⟨len, hle, hlen⟩ := encodedLen_le_of_lt htag hlt
    obtain ⟨least, rfl, hw⟩ := encodedLen_width hlen
    rcases (Nat.pow_le_pow_iff_right (by decide)).mp hle |>.lt_or_eq with hless | rfl
    · exact absurd hw.lt (Nat.not_lt.mpr (hshorter least hless))
    · exact hw

theorem Varint.minimal_iff : Varint.Minimal value x ↔ Varint.encode value = .ok x := by
  constructor
  · rintro ⟨tag, htag, hlength, hvalue, hlt, hshorter⟩
    have hw := Varint.width_iff.mpr ⟨htag, hlt, hshorter⟩
    rw [hw.encode, ← hvalue, ← hlength, toBe_fromBe]
  · intro h
    obtain ⟨tag, hw⟩ := Varint.encode_width h
    obtain ⟨htag, hlt, hshorter⟩ := Varint.width_iff.mp hw
    rw [hw.encode] at h
    cases h
    exact ⟨tag, htag, length_toBe, fromBe_toBe (Varint.tagged_lt hw), hlt, hshorter⟩

theorem Varint.decode_eq_ok :
    Varint.decode src = .ok (value, rest) ↔ ∃ x, Varint.Minimal value x ∧ src = x ++ rest := by
  simp only [Varint.minimal_iff]
  constructor
  · exact Varint.decode_canonical
  · rintro ⟨x, hx, rfl⟩
    exact Varint.decode_encode hx rest

theorem SettingKey.tryFrom_toNat (key : SettingKey) : SettingKey.tryFrom key.toNat = .ok key := by
  cases key <;> rfl

theorem SettingKey.tryFrom_eq_ok {value : Nat} {key : SettingKey} :
    SettingKey.tryFrom value = .ok key ↔ value = key.toNat := by
  constructor
  · intro h
    unfold SettingKey.tryFrom at h
    split at h <;> cases h <;> rfl
  · rintro rfl
    exact key.tryFrom_toNat

theorem SettingKey.toNat_injective : Function.Injective SettingKey.toNat := by
  intro key other h
  have hother := other.tryFrom_toNat
  rw [← h, key.tryFrom_toNat] at hother
  exact Except.ok.inj hother

def Settings.setKnown (settings : Settings) : List (Nat × Nat) → Settings
  | [] => settings
  | (key, value) :: pairs =>
    match SettingKey.tryFrom key with
    | .ok key => (settings.set key value).setKnown pairs
    | .error _ => settings.setKnown pairs

theorem Settings.get_set_self (settings : Settings) (key : SettingKey) (value : Nat) :
    (settings.set key value).get key = some value := by
  simp [Settings.set]

theorem Settings.get_set_of_ne (settings : Settings) (value : Nat) {key other : SettingKey}
    (h : other ≠ key) : (settings.set key value).get other = settings.get other := by
  simp [Settings.set, h]

theorem fresh_cons_known {key : SettingKey} :
    Fresh settings ((key.toNat, value) :: pairs) ↔
      settings.get key = none ∧ Fresh (settings.set key value) pairs := by
  have hothers : ∀ other : SettingKey, other ≠ key →
      (((key.toNat, value) :: pairs).map Prod.fst).count other.toNat =
        (pairs.map Prod.fst).count other.toNat := by
    intro other hne
    rw [List.map_cons, List.count_cons_of_ne fun h => hne (SettingKey.toNat_injective h).symm]
  constructor
  · intro h
    have hkey := h key
    rw [List.map_cons, List.count_cons_self] at hkey
    have hnone : settings.get key = none := by
      cases hget : settings.get key with
      | none => rfl
      | some old => simp [hget] at hkey
    refine ⟨hnone, fun other => ?_⟩
    by_cases hother : other = key
    · subst hother
      rw [Settings.get_set_self]
      simp
      omega
    · rw [Settings.get_set_of_ne settings value hother, ← hothers other hother]
      exact h other
  · rintro ⟨hnone, h⟩ other
    by_cases hother : other = key
    · subst hother
      have hkey := h other
      rw [Settings.get_set_self] at hkey
      rw [List.map_cons, List.count_cons_self, hnone]
      simp at hkey ⊢
      omega
    · rw [hothers other hother, ← Settings.get_set_of_ne settings value hother]
      exact h other

theorem fresh_cons_unknown (h : SettingKey.tryFrom key = .error e) :
    Fresh settings ((key, value) :: pairs) ↔ Fresh settings pairs := by
  have hne : ∀ known : SettingKey, key ≠ known.toNat := by
    rintro known rfl
    rw [known.tryFrom_toNat] at h
    cases h
  unfold Fresh
  simp only [List.map_cons, List.count_cons_of_ne (hne _)]

theorem get_setKnown (h : Fresh settings pairs) (key : SettingKey) (value : Nat) :
    (settings.setKnown pairs).get key = some value ↔
      settings.get key = some value ∨ (key.toNat, value) ∈ pairs := by
  induction pairs generalizing settings with
  | nil => simp [Settings.setKnown]
  | cons pair pairs ih =>
    obtain ⟨k, v⟩ := pair
    cases hknown : SettingKey.tryFrom k with
    | error e =>
      have hne : key.toNat ≠ k := by
        rintro rfl
        rw [key.tryFrom_toNat] at hknown
        cases hknown
      simp [Settings.setKnown, hknown, ih ((fresh_cons_unknown hknown).mp h), hne]
    | ok known =>
      obtain rfl := SettingKey.tryFrom_eq_ok.mp hknown
      obtain ⟨hnone, hfresh⟩ := fresh_cons_known.mp h
      simp only [Settings.setKnown, hknown, ih hfresh, List.mem_cons, Prod.mk.injEq]
      by_cases hkey : key = known
      · subst hkey
        simp [Settings.get_set_self, hnone, eq_comm]
      · have hnat : key.toNat ≠ known.toNat := fun h => hkey (SettingKey.toNat_injective h)
        simp [Settings.get_set_of_ne settings v hkey, hnat]

theorem decodeEntries_succ :
    settings.decodeEntries src (count + 1) = .ok out ↔
      ∃ key k value v rest, Varint.Minimal key k ∧ Varint.Minimal value v ∧ src = k ++ v ++ rest ∧
        match SettingKey.tryFrom key with
        | .ok key =>
          settings.get key = none ∧ (settings.set key value).decodeEntries rest count = .ok out
        | .error _ => settings.decodeEntries rest count = .ok out := by
  constructor
  · intro h
    obtain ⟨⟨key, tail⟩, hkey, h⟩ := bind_eq_ok.mp h
    obtain ⟨⟨value, rest⟩, hvalue, hset⟩ := bind_eq_ok.mp h
    obtain ⟨k, hk, hsrc⟩ := Varint.decode_eq_ok.mp hkey
    obtain ⟨v, hv, htail⟩ := Varint.decode_eq_ok.mp hvalue
    refine ⟨key, k, value, v, rest, hk, hv, by simp [hsrc, htail], ?_⟩
    cases hknown : SettingKey.tryFrom key with
    | ok known =>
      simp only [hknown] at hset
      split at hset
      · cases hset
      · rename_i hnone
        exact ⟨by simpa using hnone, hset⟩
    | error e => simpa only [hknown] using hset
  · rintro ⟨key, k, value, v, rest, hk, hv, rfl, h⟩
    refine bind_eq_ok.mpr ⟨(key, v ++ rest), Varint.decode_eq_ok.mpr ⟨k, hk, by simp⟩, ?_⟩
    refine bind_eq_ok.mpr ⟨(value, rest), Varint.decode_eq_ok.mpr ⟨v, hv, rfl⟩, ?_⟩
    cases hknown : SettingKey.tryFrom key with
    | ok known =>
      simp only [hknown] at h
      simp only [h.1, h.2, Option.isSome_none, Bool.false_eq_true, if_false]
    | error e => simpa only [hknown] using h

theorem decodeEntries_eq_ok {settings settings' : Settings} :
    settings.decodeEntries src count = .ok (settings', rest) ↔
      ∃ pairs entries, pairs.length = count ∧ Entries pairs entries ∧ src = entries ++ rest ∧
        Fresh settings pairs ∧ settings' = settings.setKnown pairs := by
  induction count generalizing settings src with
  | zero =>
    have hfresh : Fresh settings [] := fun key => by simp [Bool.toNat_le]
    constructor
    · intro h
      cases h
      exact ⟨[], [], rfl, .nil, rfl, hfresh, rfl⟩
    · rintro ⟨pairs, entries, hlength, hentries, rfl, -, rfl⟩
      cases hentries with
      | nil => rfl
      | cons => simp at hlength
  | succ count ih =>
    rw [decodeEntries_succ]
    constructor
    · rintro ⟨key, k, value, v, src, hk, hv, rfl, h⟩
      split at h
      · rename_i known hknown
        obtain ⟨pairs, entries, hlength, hentries, rfl, hfresh, hset⟩ := ih.mp h.2
        obtain rfl := SettingKey.tryFrom_eq_ok.mp hknown
        refine ⟨_, _, by simp [hlength], .cons hk hv hentries, by simp,
          fresh_cons_known.mpr ⟨h.1, hfresh⟩, ?_⟩
        simp [Settings.setKnown, hknown, hset]
      · rename_i hknown
        obtain ⟨pairs, entries, hlength, hentries, rfl, hfresh, hset⟩ := ih.mp h
        refine ⟨_, _, by simp [hlength], .cons hk hv hentries, by simp,
          (fresh_cons_unknown hknown).mpr hfresh, ?_⟩
        simp [Settings.setKnown, hknown, hset]
    · rintro ⟨pairs, entries, hlength, hentries, rfl, hfresh, rfl⟩
      cases hentries with
      | nil => simp at hlength
      | @cons key k value v pairs entries hk hv hentries =>
        have hcount : pairs.length = count := by simpa using hlength
        refine ⟨key, k, value, v, entries ++ rest, hk, hv, by simp, ?_⟩
        cases hknown : SettingKey.tryFrom key with
        | ok known =>
          obtain rfl := SettingKey.tryFrom_eq_ok.mp hknown
          obtain ⟨hnone, hfresh⟩ := fresh_cons_known.mp hfresh
          refine ⟨hnone, ih.mpr ⟨pairs, entries, hcount, hentries, rfl, hfresh, ?_⟩⟩
          simp [Settings.setKnown, hknown]
        | error e =>
          have hfresh := (fresh_cons_unknown hknown).mp hfresh
          refine ih.mpr ⟨pairs, entries, hcount, hentries, rfl, hfresh, ?_⟩
          simp [Settings.setKnown, hknown]

theorem fresh_empty_iff :
    Fresh Settings.empty pairs ↔
      ∀ key : SettingKey, (pairs.map Prod.fst).count key.toNat ≤ 1 := by
  simp [Fresh, Settings.empty]

theorem Settings.decode_eq_ok :
    Settings.decode src = .ok settings ↔
      ∃ pairs, Written pairs src ∧ settings = Settings.empty.setKnown pairs := by
  constructor
  · intro h
    obtain ⟨⟨count, src⟩, hcount, h⟩ := bind_eq_ok.mp h
    obtain ⟨⟨settings, rest⟩, hentries, h⟩ := bind_eq_ok.mp h
    dsimp only at h
    split at h
    · rename_i hrest
      cases h
      obtain ⟨x, hx, rfl⟩ := Varint.decode_eq_ok.mp hcount
      obtain ⟨pairs, entries, rfl, hpairs, rfl, hfresh, rfl⟩ := decodeEntries_eq_ok.mp hentries
      refine ⟨pairs, ⟨⟨x, entries, hx, hpairs, ?_⟩, fresh_empty_iff.mp hfresh⟩, rfl⟩
      rw [List.isEmpty_iff.mp hrest, List.append_nil]
    · cases h
  · rintro ⟨pairs, ⟨⟨count, entries, hcount, hentries, rfl⟩, honce⟩, rfl⟩
    refine bind_eq_ok.mpr ⟨(pairs.length, entries), Varint.decode_eq_ok.mpr ⟨_, hcount, rfl⟩, ?_⟩
    refine bind_eq_ok.mpr ⟨(Settings.empty.setKnown pairs, []), decodeEntries_eq_ok.mpr ?_, rfl⟩
    exact ⟨pairs, entries, rfl, hentries, by simp, fresh_empty_iff.mpr honce, rfl⟩

theorem get_setKnown_empty (h : Written pairs src) (key : SettingKey) (value : Nat) :
    (Settings.empty.setKnown pairs).get key = some value ↔ (key.toNat, value) ∈ pairs := by
  rw [get_setKnown (fresh_empty_iff.mpr h.once)]
  simp [Settings.empty]

def Settings.pairs (settings : Settings) : List (Nat × Nat) :=
  SettingKey.all.filterMap fun key => (settings.get key).map (key.toNat, ·)

theorem SettingKey.mem_all (key : SettingKey) : key ∈ SettingKey.all := by
  cases key <;> decide

theorem Settings.mem_pairs {key : SettingKey} :
    (key.toNat, value) ∈ settings.pairs ↔ settings.get key = some value := by
  simp only [Settings.pairs, List.mem_filterMap, Option.map_eq_some_iff, Prod.mk.injEq]
  constructor
  · rintro ⟨other, -, value, hget, hkey, rfl⟩
    rwa [SettingKey.toNat_injective hkey] at hget
  · intro hget
    exact ⟨key, key.mem_all, value, hget, rfl, rfl⟩

theorem Settings.pairs_once (settings : Settings) (key : SettingKey) :
    (settings.pairs.map Prod.fst).count key.toNat ≤ 1 := by
  have hnodup : (settings.pairs.map Prod.fst).Nodup := by
    rw [Settings.pairs, List.map_filterMap]
    refine List.Nodup.filterMap (fun key other n hkey hother => ?_) (by decide)
    simp only [Option.mem_def, Option.map_map, Option.map_eq_some_iff] at hkey hother
    obtain ⟨_, -, hkey⟩ := hkey
    obtain ⟨_, -, hother⟩ := hother
    exact SettingKey.toNat_injective (hkey.trans hother.symm)
  exact List.nodup_iff_count_le_one.mp hnodup key.toNat

theorem encodeEntries_entries (h : encodeEntries entries = .ok x) :
    Entries (entries.map fun entry => (entry.1.toNat, entry.2)) x := by
  induction entries generalizing x with
  | nil =>
    cases h
    exact .nil
  | cons entry entries ih =>
    obtain ⟨k, hk, h⟩ := bind_eq_ok.mp h
    obtain ⟨v, hv, h⟩ := bind_eq_ok.mp h
    obtain ⟨rest, hrest, h⟩ := bind_eq_ok.mp h
    cases h
    exact .cons (Varint.minimal_iff.mpr hk) (Varint.minimal_iff.mpr hv) (ih hrest)

theorem encodeEntries_exists {entries : List (SettingKey × Nat)}
    (h : ∀ entry ∈ entries, entry.2 ≤ Varint.maxVarint) : ∃ x, encodeEntries entries = .ok x := by
  induction entries with
  | nil => exact ⟨[], rfl⟩
  | cons entry entries ih =>
    obtain ⟨hentry, hentries⟩ := List.forall_mem_cons.mp h
    have hkey : entry.1.toNat ≤ Varint.maxVarint := by
      cases entry.1 <;> decide
    obtain ⟨k, hk⟩ := Varint.encode_ok_iff.mpr hkey
    obtain ⟨v, hv⟩ := Varint.encode_ok_iff.mpr hentry
    obtain ⟨rest, hrest⟩ := ih hentries
    exact ⟨k ++ v ++ rest, bind_eq_ok.mpr ⟨k, hk, bind_eq_ok.mpr ⟨v, hv,
      bind_eq_ok.mpr ⟨rest, hrest, rfl⟩⟩⟩⟩

theorem Settings.encode_written
    (h : ∀ key value, settings.get key = some value → value ≤ Varint.maxVarint) :
    ∃ x, settings.encode = .ok x ∧ Written settings.pairs x := by
  let entries := SettingKey.all.filterMap fun key => (settings.get key).map (key, ·)
  have hpairs : settings.pairs = entries.map fun entry => (entry.1.toNat, entry.2) := by
    simp [Settings.pairs, entries, List.map_filterMap, Option.map_map, Function.comp_def]
  have hentries : ∀ entry ∈ entries, entry.2 ≤ Varint.maxVarint := by
    intro entry hmem
    obtain ⟨key, -, hentry⟩ := List.mem_filterMap.mp hmem
    obtain ⟨value, hget, rfl⟩ := Option.map_eq_some_iff.mp hentry
    exact h key value hget
  have hcount : entries.length ≤ Varint.maxVarint :=
    (List.length_filterMap_le _ _).trans (by decide)
  obtain ⟨count, hcount⟩ := Varint.encode_ok_iff.mpr hcount
  obtain ⟨x, hx⟩ := encodeEntries_exists hentries
  refine ⟨count ++ x, bind_eq_ok.mpr ⟨count, hcount, bind_eq_ok.mpr ⟨x, hx, rfl⟩⟩, ?_⟩
  refine ⟨⟨count, x, ?_, hpairs ▸ encodeEntries_entries hx, rfl⟩, settings.pairs_once⟩
  rw [hpairs, List.length_map]
  exact Varint.minimal_iff.mpr hcount

theorem Settings.ext_get {settings other : Settings}
    (h : ∀ key value, settings.get key = some value ↔ other.get key = some value) :
    settings = other := by
  obtain ⟨get⟩ := settings
  obtain ⟨get'⟩ := other
  congr
  funext key
  exact Option.ext fun value => h key value

section

variable {settings : Settings}

theorem Settings.decode_encode
    (h : ∀ key value, settings.get key = some value → value ≤ Varint.maxVarint) :
    ∃ x, settings.encode = .ok x ∧ Settings.decode x = .ok settings := by
  obtain ⟨x, hx, hwritten⟩ := Settings.encode_written h
  refine ⟨x, hx, Settings.decode_eq_ok.mpr ⟨settings.pairs, hwritten, Settings.ext_get ?_⟩⟩
  intro key value
  rw [get_setKnown_empty hwritten, Settings.mem_pairs]

theorem getD_of_rejectSetting
    (h : rejectSetting unfit settings key name = .ok ()) (hfallback : unfit fallback = false) :
    unfit ((settings.get key).getD fallback) = false := by
  cases hget : settings.get key with
  | none => exact hfallback
  | some value => simpa [rejectSetting, hget] using h

theorem le_of_rejectLargeSetting
    (h : rejectLargeSetting settings key name maximum = .ok ()) (hfallback : fallback ≤ maximum) :
    (settings.get key).getD fallback ≤ maximum := by
  simpa using getD_of_rejectSetting h (by simpa using hfallback)

theorem le_of_rejectSmallSetting
    (h : rejectSmallSetting settings key name minimum = .ok ()) (hfallback : minimum ≤ fallback) :
    minimum ≤ (settings.get key).getD fallback := by
  simpa using getD_of_rejectSetting h (by simpa using hfallback)

theorem pos_of_rejectZeroSetting
    (h : rejectZeroSetting settings key name = .ok ()) (hfallback : 0 < fallback) :
    0 < (settings.get key).getD fallback := by
  have hne := getD_of_rejectSetting h (by simpa using hfallback.ne')
  exact Nat.pos_of_ne_zero (by simpa using hne)

end

theorem revision_of_checkProtocolRevision (h : checkProtocolRevision settings = .ok ()) :
    settings.get .protocolRevision = some protocolRevisionV1 := by
  unfold checkProtocolRevision at h
  split at h
  · cases h
  · rename_i revision hget
    split at h
    · cases h
    · rename_i hmatch
      rw [hget, not_not.mp hmatch]

theorem Settings.negotiated_bounds (h : Settings.negotiated settings = .ok agreed) :
    settings.get .protocolRevision = some 2 ∧
      262 ≤ agreed.maxFrameSize ∧ agreed.maxFrameSize ≤ 16 * 2 ^ 20 ∧
      1 ≤ agreed.maxStreams ∧ agreed.maxStreams ≤ 1000000 ∧
      agreed.maxUdpFlows ≤ agreed.maxStreams ∧
      agreed.idleTimeoutSeconds ≤ 30 * 24 * 60 * 60 := by
  obtain ⟨⟨⟩, hrevision, h⟩ := bind_eq_ok.mp h
  obtain ⟨⟨⟩, -, h⟩ := bind_eq_ok.mp h
  obtain ⟨⟨⟩, hzero, h⟩ := bind_eq_ok.mp h
  iterate 2 obtain ⟨⟨⟩, -, h⟩ := bind_eq_ok.mp h
  obtain ⟨⟨⟩, hsmall, h⟩ := bind_eq_ok.mp h
  obtain ⟨⟨⟩, hlarge, h⟩ := bind_eq_ok.mp h
  obtain ⟨⟨⟩, hstreams, h⟩ := bind_eq_ok.mp h
  obtain ⟨⟨⟩, -, h⟩ := bind_eq_ok.mp h
  obtain ⟨⟨⟩, hidle, h⟩ := bind_eq_ok.mp h
  dsimp only at h
  split at h
  · cases h
  · rename_i hudp
    cases h
    exact ⟨revision_of_checkProtocolRevision hrevision,
      le_of_rejectSmallSetting hsmall (by decide), le_of_rejectLargeSetting hlarge (by decide),
      pos_of_rejectZeroSetting hzero (by decide), le_of_rejectLargeSetting hstreams (by decide),
      Nat.not_lt.mp hudp, le_of_rejectLargeSetting hidle (by decide)⟩

/-- What is read is what the grammar says, and what is negotiated lies in its bounds. -/
theorem settings_canonical_and_bounded :
    (∀ settings : Settings,
      (∀ key value, settings.get key = some value → value ≤ Varint.maxVarint) →
        ∃ x, settings.encode = .ok x ∧ Settings.decode x = .ok settings) ∧
    (∀ src,
      ((∃ settings, Settings.decode src = .ok settings) ↔ ∃ pairs, Written pairs src) ∧
      ∀ settings pairs, Settings.decode src = .ok settings → Written pairs src →
        ∀ key value, settings.get key = some value ↔ (key.toNat, value) ∈ pairs) ∧
    ∀ settings agreed, Settings.negotiated settings = .ok agreed →
      settings.get .protocolRevision = some 2 ∧
        262 ≤ agreed.maxFrameSize ∧ agreed.maxFrameSize ≤ 16 * 2 ^ 20 ∧
        1 ≤ agreed.maxStreams ∧ agreed.maxStreams ≤ 1000000 ∧
        agreed.maxUdpFlows ≤ agreed.maxStreams ∧
        agreed.idleTimeoutSeconds ≤ 30 * 24 * 60 * 60 := by
  refine ⟨fun _ => Settings.decode_encode, fun src => ⟨⟨?_, ?_⟩, ?_⟩,
    fun _ _ => Settings.negotiated_bounds⟩
  · rintro ⟨settings, hdecode⟩
    obtain ⟨pairs, hwritten, -⟩ := Settings.decode_eq_ok.mp hdecode
    exact ⟨pairs, hwritten⟩
  · rintro ⟨pairs, hwritten⟩
    exact ⟨_, Settings.decode_eq_ok.mpr ⟨pairs, hwritten, rfl⟩⟩
  · intro settings pairs hdecode hwritten
    have hsame := hdecode.symm.trans (Settings.decode_eq_ok.mpr ⟨pairs, hwritten, rfl⟩)
    obtain rfl := Except.ok.inj hsame
    exact get_setKnown_empty hwritten

end UncrownedKing.Proto
