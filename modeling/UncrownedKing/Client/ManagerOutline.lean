import UncrownedKing.Client.Manager

/-!
# What the tasks of the pool know

The invariant of the shared state, what a task knows at each point of its
program, and what a step of one task leaves to the others.
-/

namespace UncrownedKing.Client

open Lib

namespace Pc

def holdsConnect : Pc → Bool
  | .checkClosed _ locked | .look _ locked | .choose _ locked _ | .checkFailure _ locked => locked
  | .count _ | .compare _ _ | .snapshot _ | .connecting _ _ | .rememberFailure _ _ _
  | .lockPublish _ _ _ | .checkGeneration _ _ _ | .clearFailure _ _ _
  | .checkClosedPublishing _ _ _ | .push _ _ _ | .admitFresh => true
  | _ => false

def holdsPublish : Pc → Bool
  | .checkGeneration _ _ _ | .clearFailure _ _ _ | .checkClosedPublishing _ _ _ | .push _ _ _
  | .reloadCompatible _ | .reloadRefresh _ | .reloadReplace _ | .reloadClear _
  | .reloadDrainPool _ | .reloadBeginDrain _ _ => true
  | _ => false

/-- The session a task has connected and not yet published. -/
def pending : Pc → Option Nat
  | .lockPublish _ _ session | .checkGeneration _ _ session | .clearFailure _ _ session
  | .checkClosedPublishing _ _ session | .push _ _ session => some session
  | _ => none

def afterDrain : Pc → Bool
  | .shutdownClose _ | .shutdownDone => true
  | _ => false

end Pc

namespace Manager

def generationOf (m : Manager) (session : Nat) : Option Nat :=
  (m.sessions[session]?).map (·.generation)

def Current (m : Manager) : Prop :=
  ∀ session ∈ m.pool, m.generationOf session = some m.current.generation

/-- What holds while nobody is replacing the configuration. -/
def Settled (m : Manager) : Prop := m.Current ∧ m.pool.length ≤ m.maxPoolSize

def Room (m : Manager) : Prop := m.Current → m.pool.length < m.maxPoolSize

def Guarded (m : Manager) (task generation session : Nat) : Prop :=
  ∃ s, m.sessions[session]? = some s ∧ s.generation = generation ∧ s.owner = some task ∧
    s.published = false ∧ s.draining = false

structure Sound (m : Manager) : Prop where
  pooled : ∀ session ∈ m.pool, ∃ s, m.sessions[session]? = some s ∧ s.published = true ∧
    s.draining = false ∧ s.generation ≤ m.current.generation
  uniform : ∀ session ∈ m.pool, ∀ other ∈ m.pool, m.generationOf session = m.generationOf other
  numbered : m.current.generation < m.nextGeneration
  free : m.configPublishLock = none → m.Settled
  published : ∀ (session : Nat) (s : PoolSession), m.sessions[session]? = some s →
    s.published = true → s.owner = none
  /-- A session that never was in the pool is guarded or torn down. -/
  unpublished : ∀ (session : Nat) (s : PoolSession), m.sessions[session]? = some s →
    s.published = false → s.owner ≠ none ∨ s.closed = true ∨ session ∈ m.reapers

def Knows (m : Manager) (task : Nat) : Pc → Prop
  | .choose request true live => request ≠ .admissionForNewFlow → ∀ session ∈ m.pool, session ∈ live
  | .compare _ live => m.pool.length ≤ live
  | .checkFailure _ true | .snapshot _ | .connecting _ _ => m.Room
  | .lockPublish _ generation session => m.Room ∧ m.Guarded task generation session
  | .checkGeneration _ generation session =>
    m.Room ∧ m.Guarded task generation session ∧ m.Settled
  | .clearFailure _ generation session | .checkClosedPublishing _ generation session
  | .push _ generation session =>
    m.Room ∧ m.Guarded task generation session ∧ m.Settled ∧ m.current.generation = generation
  | .reloadCompatible _ | .reloadRefresh _ | .reloadReplace _ => m.Settled
  | .reloadBeginDrain _ drained => m.pool = [] ∧
    ∀ session ∈ drained, ∃ s, m.sessions[session]? = some s ∧ s.published = true
  | .shutdownDrain => m.closed = true
  | .shutdownClose _ | .shutdownDone => m.closed = true ∧ m.pool = []
  | _ => True

structure At (m : Manager) (task : Nat) (pc : Pc) : Prop where
  connect : m.connectLock = some task ↔ pc.holdsConnect = true
  publish : m.configPublishLock = some task ↔ pc.holdsPublish = true
  owned : ∀ (session : Nat) (s : PoolSession), m.sessions[session]? = some s →
    s.owner = some task → pc.pending = some session
  knows : m.Knows task pc

structure Guarantee (task : Nat) (m m' : Manager) : Prop where
  connect : ∀ other ≠ task, m'.connectLock = some other ↔ m.connectLock = some other
  publish : ∀ other ≠ task, m'.configPublishLock = some other ↔ m.configPublishLock = some other
  closed : m.closed = true → m'.closed = true
  current : m'.current = m.current ∨ m.configPublishLock = some task ∧ m'.pool = m.pool ∧
    m.current.generation < m'.current.generation
  pool : m'.pool.Sublist m.pool ∨
    m.connectLock = some task ∧ m.configPublishLock = some task ∧ m.closed = false
  sessions : ∀ (session : Nat) (s : PoolSession), m.sessions[session]? = some s →
    ∃ s', m'.sessions[session]? = some s' ∧ s'.generation = s.generation ∧
    (s.published = true → s'.published = true) ∧
    (∀ other ≠ task, s.owner = some other →
      s'.owner = s.owner ∧ s'.published = s.published ∧ s'.draining = s.draining)
  owners : ∀ (session : Nat) (s' : PoolSession), m'.sessions[session]? = some s' →
    ∀ other ≠ task, s'.owner = some other →
    ∃ s, m.sessions[session]? = some s ∧ s.owner = some other

variable {m m' : Manager} {task other : Nat}

theorem maxPoolSize_pos (m : Manager) : 0 < m.maxPoolSize := Nat.lt_of_lt_of_le Nat.one_pos
  (Nat.le_max_right _ _)

theorem Guarantee.generationOf (hg : Guarantee task m m') (h : m.Sound) {session : Nat}
    (hmem : session ∈ m.pool) : m'.generationOf session = m.generationOf session := by
  obtain ⟨s, hs, -⟩ := h.pooled session hmem
  obtain ⟨s', hs', hgen, -⟩ := hg.sessions session s hs
  simp [Manager.generationOf, hs, hs', hgen]

theorem Room.stable (hroom : m.Room) (h : m.Sound) (hg : Guarantee task m m')
    (hpool : m'.pool.Sublist m.pool) : m'.Room := by
  intro hcurrent
  cases hempty : m'.pool with
  | nil => exact maxPoolSize_pos m'
  | cons first rest =>
    have hfirst : first ∈ m'.pool := hempty ▸ List.mem_cons_self
    have hfirst' := hpool.subset hfirst
    have hgen := hcurrent first hfirst
    rw [hg.generationOf h hfirst'] at hgen
    rcases hg.current with hsame | ⟨-, -, hlt⟩
    · rw [hsame] at hgen
      have hall : m.Current := fun session hmem =>
        (h.uniform session hmem first hfirst').trans hgen
      have hlen := hroom hall
      rw [← hempty]
      show _ < max _ _
      rw [hsame]
      exact Nat.lt_of_le_of_lt hpool.length_le hlen
    · obtain ⟨s, hs, -, -, hle⟩ := h.pooled first hfirst'
      simp only [Manager.generationOf, hs, Option.map_some, Option.some.injEq] at hgen
      omega

theorem Settled.stable (hsettled : m.Settled) (h : m.Sound) (hg : Guarantee task m m')
    (hcurrent : m'.current = m.current) (hpool : m'.pool.Sublist m.pool) : m'.Settled := by
  refine ⟨fun session hmem => ?_, ?_⟩
  · rw [hg.generationOf h (hpool.subset hmem), hcurrent]
    exact hsettled.1 session (hpool.subset hmem)
  · show _ ≤ max _ _
    rw [hcurrent]
    exact Nat.le_trans hpool.length_le hsettled.2

theorem Guarded.stable (hguarded : m.Guarded other generation session) (hg : Guarantee task m m')
    (hne : other ≠ task) : m'.Guarded other generation session := by
  obtain ⟨s, hs, hgen, howner, hpub, hdrain⟩ := hguarded
  obtain ⟨s', hs', hgen', -, hkept⟩ := hg.sessions session s hs
  obtain ⟨howner', hpub', hdrain'⟩ := hkept other hne howner
  exact ⟨s', hs', hgen'.trans hgen, howner'.trans howner, hpub'.trans hpub, hdrain'.trans hdrain⟩

theorem Guarantee.pool_of_connect (hg : Guarantee task m m') (hne : other ≠ task)
    (hlock : m.connectLock = some other) : m'.pool.Sublist m.pool := by
  rcases hg.pool with hsub | ⟨hconnect, -⟩
  · exact hsub
  · rw [hlock] at hconnect
    exact absurd (Option.some.inj hconnect) hne

theorem Guarantee.of_publish (hg : Guarantee task m m') (hne : other ≠ task)
    (hlock : m.configPublishLock = some other) :
    m'.current = m.current ∧ m'.pool.Sublist m.pool := by
  have hnot : m.configPublishLock ≠ some task := by
    rw [hlock]
    exact fun heq => hne (Option.some.inj heq)
  refine ⟨?_, ?_⟩
  · rcases hg.current with hsame | ⟨hpublish, -⟩
    · exact hsame
    · exact absurd hpublish hnot
  · rcases hg.pool with hsub | ⟨-, hpublish, -⟩
    · exact hsub
    · exact absurd hpublish hnot

theorem Guarantee.pool_of_closed (hg : Guarantee task m m') (hclosed : m.closed = true) :
    m'.pool.Sublist m.pool := by
  rcases hg.pool with hsub | ⟨-, -, hopen⟩
  · exact hsub
  · rw [hclosed] at hopen
    cases hopen

theorem Knows.stable {pc : Pc} (hknows : m.Knows other pc) (h : m.Sound) (hg : Guarantee task m m')
    (hne : other ≠ task) (hconnect : pc.holdsConnect = true → m.connectLock = some other)
    (hpublish : pc.holdsPublish = true → m.configPublishLock = some other) :
    m'.Knows other pc := by
  cases pc with
  | choose request locked live =>
    cases locked with
    | false => trivial
    | true =>
      intro hrequest session hmem
      exact hknows hrequest session ((hg.pool_of_connect hne (hconnect rfl)).subset hmem)
  | compare request live =>
    exact Nat.le_trans (hg.pool_of_connect hne (hconnect rfl)).length_le hknows
  | checkFailure request locked =>
    cases locked with
    | false => trivial
    | true => exact Room.stable hknows h hg (hg.pool_of_connect hne (hconnect rfl))
  | snapshot request | connecting request snapshot =>
    exact Room.stable hknows h hg (hg.pool_of_connect hne (hconnect rfl))
  | lockPublish request generation session =>
    exact ⟨hknows.1.stable h hg (hg.pool_of_connect hne (hconnect rfl)),
      hknows.2.stable hg hne⟩
  | checkGeneration request generation session =>
    obtain ⟨hcurrent, hpool⟩ := hg.of_publish hne (hpublish rfl)
    exact ⟨hknows.1.stable h hg hpool, hknows.2.1.stable hg hne,
      hknows.2.2.stable h hg hcurrent hpool⟩
  | clearFailure request generation session
  | checkClosedPublishing request generation session | push request generation session =>
    obtain ⟨hcurrent, hpool⟩ := hg.of_publish hne (hpublish rfl)
    exact ⟨hknows.1.stable h hg hpool, hknows.2.1.stable hg hne,
      hknows.2.2.1.stable h hg hcurrent hpool, hcurrent ▸ hknows.2.2.2⟩
  | reloadCompatible candidate | reloadRefresh candidate | reloadReplace candidate =>
    obtain ⟨hcurrent, hpool⟩ := hg.of_publish hne (hpublish rfl)
    exact Settled.stable hknows h hg hcurrent hpool
  | reloadBeginDrain generation drained =>
    obtain ⟨-, hpool⟩ := hg.of_publish hne (hpublish rfl)
    refine ⟨List.sublist_nil.mp (hknows.1 ▸ hpool), fun session hmem => ?_⟩
    obtain ⟨s, hs, hpub⟩ := hknows.2 session hmem
    obtain ⟨s', hs', -, hpub', -⟩ := hg.sessions session s hs
    exact ⟨s', hs', hpub' hpub⟩
  | shutdownDrain => exact hg.closed hknows
  | shutdownClose closing =>
    exact ⟨hg.closed hknows.1, List.sublist_nil.mp (hknows.2 ▸ hg.pool_of_closed hknows.1)⟩
  | shutdownDone =>
    exact ⟨hg.closed hknows.1, List.sublist_nil.mp (hknows.2 ▸ hg.pool_of_closed hknows.1)⟩
  | _ => trivial

theorem At.stable {pc : Pc} (hat : m.At other pc) (h : m.Sound) (hg : Guarantee task m m')
    (hne : other ≠ task) : m'.At other pc where
  connect := (hg.connect other hne).trans hat.connect
  publish := (hg.publish other hne).trans hat.publish
  owned := fun session s' hs' howner => by
    obtain ⟨s, hs, hs'owner⟩ := hg.owners session s' hs' other hne howner
    exact hat.owned session s hs hs'owner
  knows := hat.knows.stable h hg hne hat.connect.mpr hat.publish.mpr

end Manager

end UncrownedKing.Client
