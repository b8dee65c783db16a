import UncrownedKing.Client.ManagerOutline

/-!
# What the pool holds

Every step keeps the outline: generation and closed flag are looked at again
under the locks that protect them.
-/

namespace UncrownedKing.Client

open Lib

namespace Manager

variable {m m' : Manager} {task other : Nat}

/-- A move of `task`, with what the others rely on. -/
structure Keeps (task : Nat) (m m' : Manager) (pc : Pc) : Prop where
  sound : m'.Sound
  at_pc : m'.At task pc
  guarantee : Guarantee task m m'

variable {pc pc' : Pc} {session : Nat}

structure Alike (m m' : Manager) : Prop where
  keeps : ∀ (session : Nat) (s : PoolSession), m.sessions[session]? = some s →
    ∃ s', m'.sessions[session]? = some s' ∧ s'.generation = s.generation ∧
      s'.published = s.published ∧ s'.owner = s.owner ∧ s'.draining = s.draining ∧
      (s.closed = true → s'.closed = true)
  only : ∀ (session : Nat) (s' : PoolSession), m'.sessions[session]? = some s' →
    ∃ s, m.sessions[session]? = some s

theorem Alike.of_eq (h : m'.sessions = m.sessions) : Alike m m' where
  keeps := fun _ s hs => ⟨s, h ▸ hs, rfl, rfl, rfl, rfl, id⟩
  only := fun _ s' hs' => ⟨s', h ▸ hs'⟩

theorem Alike.back {s' : PoolSession} (h : Alike m m') (hs' : m'.sessions[session]? = some s') :
    ∃ s : PoolSession, m.sessions[session]? = some s ∧ s'.generation = s.generation ∧
      s'.published = s.published ∧ s'.owner = s.owner ∧ s'.draining = s.draining ∧
      (s.closed = true → s'.closed = true) := by
  obtain ⟨s, hs⟩ := h.only session s' hs'
  obtain ⟨s'', hs'', hrest⟩ := h.keeps session s hs
  rw [hs'] at hs''
  cases hs''
  exact ⟨s, hs, hrest⟩

theorem Alike.generationOf (h : Alike m m') (session : Nat) :
    m'.generationOf session = m.generationOf session := by
  unfold Manager.generationOf
  cases hs : m.sessions[session]? with
  | some s =>
    obtain ⟨s', hs', hgen, -⟩ := h.keeps session s hs
    simp [hs', hgen]
  | none =>
    cases hs' : m'.sessions[session]? with
    | none => rfl
    | some s' =>
      obtain ⟨s, hsome⟩ := h.only session s' hs'
      rw [hs] at hsome
      cases hsome

theorem Alike.modify (m : Manager) (session : Nat) {change : PoolSession → PoolSession}
    (hchange : ∀ s, (change s).generation = s.generation ∧ (change s).published = s.published ∧
      (change s).owner = s.owner ∧ (change s).draining = s.draining ∧
      (s.closed = true → (change s).closed = true)) : Alike m (m.modify session change) where
  keeps := fun id s hs => by
    by_cases heq : session = id
    · exact ⟨change s, by simp [Manager.modify, heq, hs], hchange s⟩
    · exact ⟨s, by simp [Manager.modify, heq, hs], rfl, rfl, rfl, rfl,
        fun h => h⟩
  only := fun id s' hs' => by
    cases hs : m.sessions[id]? with
    | some s => exact ⟨s, rfl⟩
    | none => simp [Manager.modify, List.getElem?_modify, hs] at hs'

theorem Alike.closeSession (m : Manager) (session : Nat) : Alike m (m.closeSession session) :=
  .modify m session fun _ => ⟨rfl, rfl, rfl, rfl, fun _ => rfl⟩

theorem Alike.markHealthSession (m : Manager) (session : Nat) :
    Alike m (m.markHealthSession session) :=
  .modify m session fun _ => ⟨rfl, rfl, rfl, rfl, id⟩

/-- The task has the lock iff `held`, and no other task gains or loses it. -/
def Locks (task : Nat) (held : Bool) (lock lock' : Option Nat) : Prop :=
  (lock' = some task ↔ held = true) ∧ ∀ other ≠ task, lock' = some other ↔ lock = some other

theorem Locks.same (h : lock = some task ↔ held = true) : Locks task held lock lock :=
  ⟨h, fun _ _ => .rfl⟩

theorem Locks.take (task : Nat) : Locks task true none (some task) :=
  ⟨by simp, fun other hne => by simp [Ne.symm hne]⟩

theorem Locks.release (task : Nat) (lock : Option Nat) :
    Locks task false lock (if lock = some task then none else lock) := by
  refine ⟨?_, fun other hne => ?_⟩
  · split <;> simp_all
  · split <;> simp_all [Ne.symm hne]

theorem Keeps.shrink (h : m.Sound) (hat : m.At task pc) (halike : Alike m m')
    (hsub : m'.pool.Sublist m.pool) (hcurrent : m'.current = m.current)
    (hnext : m'.nextGeneration = m.nextGeneration) (hclosed : m.closed = true → m'.closed = true)
    (hreapers : ∀ (session : Nat) (s' : PoolSession), m'.sessions[session]? = some s' →
      session ∈ m.reapers → s'.closed = true ∨ session ∈ m'.reapers)
    (hconnect : Locks task pc'.holdsConnect m.connectLock m'.connectLock)
    (hpublish : Locks task pc'.holdsPublish m.configPublishLock m'.configPublishLock)
    (hfree : m'.configPublishLock = none → m.Settled)
    (hpending : ∀ session, pc.pending = some session → pc'.pending = some session)
    (hknows : m'.Knows task pc') : Keeps task m m' pc' := by
  have hguarantee : Guarantee task m m' :=
    { connect := hconnect.2
      publish := hpublish.2
      closed := hclosed
      current := .inl hcurrent
      pool := .inl hsub
      sessions := fun session s hs => by
        obtain ⟨s', hs', hgen, hpub, howner, hdrain, -⟩ := halike.keeps session s hs
        exact ⟨s', hs', hgen, fun hp => hpub.trans hp, fun _ _ _ => ⟨howner, hpub, hdrain⟩⟩
      owners := fun session s' hs' other _ howned => by
        obtain ⟨s, hs, -, -, howner, -⟩ := halike.back hs'
        exact ⟨s, hs, howner ▸ howned⟩ }
  refine ⟨?_, ⟨hconnect.1, hpublish.1, ?_, hknows⟩, hguarantee⟩
  · refine
      { pooled := fun session hmem => ?_
        uniform := fun session hmem other hother => ?_
        numbered := by rw [hcurrent, hnext]; exact h.numbered
        free := fun hnone => (hfree hnone).stable h hguarantee hcurrent hsub
        published := fun session s' hs' hpub => ?_
        unpublished := fun session s' hs' hpub => ?_ }
    · obtain ⟨s, hs, hpub, hdrain, hle⟩ := h.pooled session (hsub.subset hmem)
      obtain ⟨s', hs', hgen, hpub', -, hdrain', -⟩ := halike.keeps session s hs
      exact ⟨s', hs', hpub'.trans hpub, hdrain'.trans hdrain, by rw [hgen, hcurrent]; exact hle⟩
    · rw [halike.generationOf, halike.generationOf]
      exact h.uniform session (hsub.subset hmem) other (hsub.subset hother)
    · obtain ⟨s, hs, -, hpub', howner, -⟩ := halike.back hs'
      rw [howner]
      exact h.published session s hs (hpub'.symm.trans hpub)
    · obtain ⟨s, hs, -, hpub', howner, -, hclose⟩ := halike.back hs'
      rcases h.unpublished session s hs (hpub'.symm.trans hpub) with hown | hcl | hreap
      · exact .inl (howner ▸ hown)
      · exact .inr (.inl (hclose hcl))
      · exact .inr (hreapers session s' hs' hreap)
  · intro session s' hs' howned
    obtain ⟨s, hs, -, -, howner, -⟩ := halike.back hs'
    exact hpending session (hat.owned session s hs (howner ▸ howned))

def KeepsLocks (pc pc' : Pc) : Prop :=
  pc'.holdsConnect = pc.holdsConnect ∧ pc'.holdsPublish = pc.holdsPublish ∧ pc'.pending = pc.pending

section

variable (h : m.Sound) (hat : m.At task pc)
include h hat

theorem Keeps.pass (halike : Alike m m')
    (hsub : m'.pool.Sublist m.pool) (hcurrent : m'.current = m.current)
    (hnext : m'.nextGeneration = m.nextGeneration) (hclosed : m.closed = true → m'.closed = true)
    (hreapers : ∀ (session : Nat) (s' : PoolSession), m'.sessions[session]? = some s' →
      session ∈ m.reapers → s'.closed = true ∨ session ∈ m'.reapers)
    (hlocks : m'.connectLock = m.connectLock ∧ m'.configPublishLock = m.configPublishLock)
    (hpc : KeepsLocks pc pc') (hknows : m'.Knows task pc') : Keeps task m m' pc' := by
  obtain ⟨hconnect, hpublish, hpending⟩ := hpc
  refine .shrink h hat halike hsub hcurrent hnext hclosed hreapers ?_ ?_ (hlocks.2 ▸ h.free)
    (fun _ heq => hpending.trans heq) hknows
  · rw [hlocks.1, hconnect]
    exact .same hat.connect
  · rw [hlocks.2, hpublish]
    exact .same hat.publish

theorem Keeps.stay (hpc : KeepsLocks pc pc') (hknows : m.Knows task pc') : Keeps task m m pc' :=
  .pass h hat (.of_eq rfl) (List.Sublist.refl _) rfl rfl id (fun _ _ _ hmem => .inr hmem)
    ⟨rfl, rfl⟩ hpc hknows

theorem Keeps.leave (halike : Alike m { m with sessions := after })
    (failure : Option CachedConnectFailure) (failures : Nat)
    (hpublish : pc.holdsPublish = false) (hpending : pc.pending = none)
    (hconnect' : pc'.holdsConnect = false) (hpublish' : pc'.holdsPublish = false)
    (hknows : ∀ m : Manager, m.Knows task pc') :
    Keeps task m (unlockConnect { m with
      sessions := after
      recentConnectFailure := failure
      consecutiveConnectFailures := failures } task) pc' := by
  refine .shrink h hat ⟨halike.keeps, halike.only⟩ (List.Sublist.refl _) rfl rfl id
    (fun _ _ _ hmem => .inr hmem) (hconnect' ▸ Locks.release task _)
    (.same (hpublish'.trans hpublish.symm ▸ hat.publish)) h.free ?_ (hknows _)
  intro session heq
  rw [hpending] at heq
  cases heq

theorem Keeps.finish (hpublish : pc.holdsPublish = false)
    (hpending : pc.pending = none) (returned : Returned) :
    Keeps task m (m.finish task returned).1 (m.finish task returned).2 :=
  .leave h hat (.of_eq rfl) _ _ hpublish hpending rfl rfl fun _ => trivial

theorem Keeps.retry (hpublish : pc.holdsPublish = false)
    (hpending : pc.pending = none) (request : Request) :
    Keeps task m (m.retry task request).1 (m.retry task request).2 := by
  cases request with
  | ensureHealthSession => exact .finish h hat hpublish hpending _
  | admissionForNewFlow | currentSession =>
    exact .leave h hat (.of_eq rfl) _ _ hpublish hpending rfl rfl fun _ => trivial

theorem Keeps.unlockPublish (hsettled : m.Settled)
    (hconnect : pc.holdsConnect = false) (hpending : pc.pending = none) (returned : Returned) :
    Keeps task m (m.unlockPublish task) (.idle returned) := by
  refine .shrink h hat (.of_eq rfl) (List.Sublist.refl _) rfl rfl id
    (fun _ _ _ hmem => .inr hmem) (.same (by rw [hat.connect, hconnect]; rfl))
    (Locks.release task _)
    (fun _ => hsettled) ?_ trivial
  intro session heq
  rw [hpending] at heq
  cases heq

end

theorem settled_of_empty (hpool : m.pool = []) : m.Settled := by
  refine ⟨fun session hmem => ?_, ?_⟩
  · rw [hpool] at hmem
    cases hmem
  · rw [hpool]
    exact Nat.zero_le _

theorem room_of_empty (hpool : m.pool = []) : m.Room := fun _ => by
  rw [hpool]
  exact maxPoolSize_pos m

theorem Keeps.connected (h : m.Sound) (hat : m.At task (.connecting request snapshot)) :
    Keeps task m (m.connected task snapshot.generation)
      (.lockPublish request snapshot.generation m.sessions.length) := by
  have hold {session : Nat} {s : PoolSession} (hs : m.sessions[session]? = some s) :
      (m.connected task snapshot.generation).sessions[session]? = some s := by
    simp only [Manager.connected]
    rwa [List.getElem?_append_left (List.getElem?_eq_some_iff.mp hs).1]
  have hnew {session : Nat} {s : PoolSession}
      (hs : (m.connected task snapshot.generation).sessions[session]? = some s) :
      m.sessions[session]? = some s ∨ session = m.sessions.length ∧
        s = { generation := snapshot.generation, owner := some task } := by
    simp only [Manager.connected, List.getElem?_append] at hs
    split at hs
    · exact .inl hs
    · rename_i hle
      rw [List.getElem?_singleton] at hs
      split at hs
      · cases hs
        exact .inr ⟨by omega, rfl⟩
      · cases hs
  have hgeneration {session : Nat} (hmem : session ∈ m.pool) :
      (m.connected task snapshot.generation).generationOf session = m.generationOf session := by
    obtain ⟨s, hs, -⟩ := h.pooled session hmem
    simp only [Manager.generationOf, hs, hold hs]
  have hcurrent : (m.connected task snapshot.generation).Current ↔ m.Current :=
    ⟨fun hall session hmem => (hgeneration hmem).symm.trans (hall session hmem),
      fun hall session hmem => (hgeneration hmem).trans (hall session hmem)⟩
  refine ⟨?_, ⟨hat.connect, hat.publish, ?_, ?_, ?_⟩, ?_⟩
  · exact
      { pooled := fun session hmem => by
          obtain ⟨s, hs, hrest⟩ := h.pooled session hmem
          exact ⟨s, hold hs, hrest⟩
        uniform := fun session hmem other hother =>
          (hgeneration hmem).trans ((h.uniform session hmem other hother).trans
            (hgeneration hother).symm)
        numbered := h.numbered
        free := fun hnone => ⟨hcurrent.mpr (h.free hnone).1, (h.free hnone).2⟩
        published := fun session s hs hpub => by
          rcases hnew hs with hs | ⟨-, rfl⟩
          · exact h.published session s hs hpub
          · cases hpub
        unpublished := fun session s hs hpub => by
          rcases hnew hs with hs | ⟨-, rfl⟩
          · exact h.unpublished session s hs hpub
          · exact .inl (Option.some_ne_none task) }
  · intro session s hs howner
    rcases hnew hs with hs | ⟨rfl, rfl⟩
    · cases hat.owned session s hs howner
    · rfl
  · exact fun hall => hat.knows (hcurrent.mp hall)
  · exact ⟨{ generation := snapshot.generation, owner := some task }, by simp [Manager.connected],
      rfl, rfl, rfl, rfl⟩
  · exact
      { connect := fun _ _ => .rfl
        publish := fun _ _ => .rfl
        closed := id
        current := .inl rfl
        pool := .inl (List.Sublist.refl _)
        sessions := fun session s hs => ⟨s, hold hs, rfl, id, fun _ _ _ => ⟨rfl, rfl, rfl⟩⟩
        owners := fun session s hs other hne howner => by
          rcases hnew hs with hs | ⟨-, rfl⟩
          · exact ⟨s, hs, howner⟩
          · exact absurd (Option.some.inj howner).symm hne }

theorem modify_get (m : Manager) (session id : Nat) (change : PoolSession → PoolSession) :
    (m.modify session change).sessions[id]? =
      (m.sessions[id]?).map fun s => if session = id then change s else s := by
  rw [Manager.modify, List.getElem?_modify]
  split <;> simp_all

/-- One session of the pool changes, and is nobody's after. -/
structure Modifies (task : Nat) (m m' : Manager) (session : Nat) (s₀ : PoolSession)
    (change : PoolSession → PoolSession) : Prop where
  get : m.sessions[session]? = some s₀
  owner : s₀.owner = some task ∨ s₀.owner = none
  sessions : m'.sessions = (m.modify session change).sessions
  generation : (change s₀).generation = s₀.generation
  published : s₀.published = true → (change s₀).published = true
  released : (change s₀).owner = none
  current : m'.current = m.current

section Modifies

variable {s₀ : PoolSession} {change : PoolSession → PoolSession}

section

variable (hm : Modifies task m m' session s₀ change)
include hm

theorem Modifies.after : m'.sessions[session]? = some (change s₀) := by
  rw [hm.sessions, modify_get, hm.get]
  simp

theorem Modifies.elsewhere {id : Nat} (hne : id ≠ session) :
    m'.sessions[id]? = m.sessions[id]? := by
  rw [hm.sessions, modify_get]
  simp [Ne.symm hne]

theorem Modifies.ne_of_owned {id : Nat} (hs' : m'.sessions[id]? = some s')
    (howned : s'.owner = some other) : id ≠ session := by
  rintro rfl
  obtain rfl := Option.some.inj (hm.after.symm.trans hs')
  cases hm.released.symm.trans howned

theorem Modifies.owned {id : Nat} (hs' : m'.sessions[id]? = some s')
    (howned : s'.owner = some other) : m.sessions[id]? = some s' :=
  (hm.elsewhere (hm.ne_of_owned hs' howned)).symm.trans hs'

theorem Modifies.unpublished {id : Nat} (hpub : (change s₀).published = true)
    (hs' : m'.sessions[id]? = some s') (hp : s'.published = false) :
    m.sessions[id]? = some s' := by
  by_cases heq : id = session
  · subst heq
    obtain rfl := Option.some.inj (hm.after.symm.trans hs')
    cases hpub.symm.trans hp
  · exact (hm.elsewhere heq).symm.trans hs'

theorem Modifies.unowned {id : Nat} (h : m.Sound) (hs' : m'.sessions[id]? = some s')
    (hpub : s'.published = true) : s'.owner = none := by
  cases howned : s'.owner with
  | none => rfl
  | some other => exact howned ▸ h.published id s' (hm.owned hs' howned) hpub

theorem Modifies.generationOf (id : Nat) : m'.generationOf id = m.generationOf id := by
  by_cases heq : id = session
  · subst heq
    simp [Manager.generationOf, hm.after, hm.get, hm.generation]
  · simp only [Manager.generationOf, hm.elsewhere heq]

theorem Modifies.guarantee
    (hconnect : ∀ other ≠ task, m'.connectLock = some other ↔ m.connectLock = some other)
    (hpublish : ∀ other ≠ task,
      m'.configPublishLock = some other ↔ m.configPublishLock = some other)
    (hclosed : m.closed = true → m'.closed = true) (hpool : m'.pool.Sublist m.pool ∨
      m.connectLock = some task ∧ m.configPublishLock = some task ∧ m.closed = false) :
    Guarantee task m m' where
  connect := hconnect
  publish := hpublish
  closed := hclosed
  current := .inl hm.current
  pool := hpool
  sessions := fun id s hs => by
    by_cases heq : id = session
    · subst heq
      obtain rfl : s₀ = s := Option.some.inj (hm.get.symm.trans hs)
      refine ⟨_, hm.after, hm.generation, hm.published, fun other hne howner => ?_⟩
      rcases hm.owner with hown | hnone
      · exact absurd (Option.some.inj (howner.symm.trans hown)) hne
      · exact nomatch howner.symm.trans hnone
    · exact ⟨s, (hm.elsewhere heq).trans hs, rfl, fun hp => hp, fun _ _ _ => ⟨rfl, rfl, rfl⟩⟩
  owners := fun _ s' hs' _ _ howner => ⟨s', hm.owned hs' howner, howner⟩

end

end Modifies

theorem Keeps.drop (h : m.Sound) (hat : m.At task pc) (hsettled : m.Settled)
    (hguarded : m.Guarded task generation session) (hpending : pc.pending = some session)
    (hconnect' : pc'.holdsConnect = false) (hpublish' : pc'.holdsPublish = false)
    (hknows : ∀ m : Manager, m.Knows task pc') :
    Keeps task m (((m.unlockPublish task).dropPending session).unlockConnect task) pc' := by
  obtain ⟨s₀, hs₀, -, howner, hpub, -⟩ := hguarded
  have hm : Modifies task m (((m.unlockPublish task).dropPending session).unlockConnect task)
      session s₀ ({ · with owner := none }) :=
    ⟨hs₀, .inl howner, rfl, rfl, id, rfl, rfl⟩
  have hg := hm.guarantee (Locks.release task _).2 (Locks.release task _).2 id
    (.inl (List.Sublist.refl _))
  have hnotin : session ∉ m.pool := fun hmem => by
    obtain ⟨s, hs, hpub', -⟩ := h.pooled session hmem
    obtain rfl : s₀ = s := Option.some.inj (hs₀.symm.trans hs)
    rw [hpub] at hpub'
    cases hpub'
  refine ⟨?_, ⟨hconnect' ▸ (Locks.release task _).1, hpublish' ▸ (Locks.release task _).1, ?_,
    hknows _⟩, hg⟩
  · exact
      { pooled := fun id hmem => by
          rw [hm.elsewhere fun heq => hnotin (heq ▸ hmem)]
          exact h.pooled id hmem
        uniform := fun id hmem other hother => by
          rw [hm.generationOf, hm.generationOf]
          exact h.uniform id hmem other hother
        numbered := h.numbered
        free := fun _ => hsettled.stable h hg rfl (List.Sublist.refl _)
        published := fun id s' => hm.unowned h
        unpublished := fun id s' hs' hpub' => by
          by_cases heq : id = session
          · exact .inr (.inr (List.mem_append_right _ (List.mem_singleton.mpr heq)))
          · rcases h.unpublished id s' ((hm.elsewhere heq).symm.trans hs') hpub' with
              hown | hclosed | hreap
            · exact .inl hown
            · exact .inr (.inl hclosed)
            · exact .inr (.inr (List.mem_append_left _ hreap)) }
  · intro id s' hs' howned
    have hid := hat.owned id s' (hm.owned hs' howned) howned
    rw [hpending] at hid
    exact absurd (Option.some.inj hid).symm (hm.ne_of_owned hs' howned)

theorem Keeps.publish (h : m.Sound) (hat : m.At task (.push request generation session))
    (hopen : m.closed = false) (change : PoolSession → PoolSession)
    (hchange : ∀ s, (change s).generation = s.generation ∧ (change s).published = true ∧
      (change s).owner = none ∧ (change s).draining = s.draining)
    (hconnect' : Locks task pc'.holdsConnect m.connectLock connect)
    (hpublish' : pc'.holdsPublish = false) (hknows : ∀ m : Manager, m.Knows task pc') :
    Keeps task m { ({ m.modify session change with
      pool := m.pool ++ [session] }).unlockPublish task with connectLock := connect } pc' := by
  obtain ⟨hroom, ⟨s₀, hs₀, hgen, howner, -, hdrain⟩, hsettled, hcurrent⟩ := hat.knows
  obtain ⟨hgen', hpub', howner', hdrain'⟩ := hchange s₀
  generalize hm' : { ({ m.modify session change with
    pool := m.pool ++ [session] }).unlockPublish task with connectLock := connect } = m'
  have hm : Modifies task m m' session s₀ change := by
    subst hm'
    exact ⟨hs₀, .inl howner, rfl, hgen', fun _ => hpub', howner', rfl⟩
  have hpool : m'.pool = m.pool ++ [session] := hm' ▸ rfl
  have hg : Guarantee task m m' := hm.guarantee (hm' ▸ hconnect'.2)
    (hm' ▸ (Locks.release task _).2) (hm' ▸ id)
    (.inr ⟨hat.connect.mpr rfl, hat.publish.mpr rfl, hopen⟩)
  have hall : m'.Current := by
    intro id hmem
    rw [hm.generationOf, hm.current]
    rw [hpool] at hmem
    rcases List.mem_append.mp hmem with hold | hnew
    · exact hsettled.1 id hold
    · rw [List.mem_singleton.mp hnew, Manager.generationOf, hs₀, hcurrent, ← hgen]
      rfl
  refine ⟨?_, ⟨hm' ▸ hconnect'.1, hm' ▸ hpublish' ▸ (Locks.release task _).1, ?_, hknows _⟩, hg⟩
  · exact
      { pooled := fun id hmem => by
          by_cases heq : id = session
          · subst heq
            refine ⟨_, hm.after, hpub', hdrain'.trans hdrain, ?_⟩
            exact Nat.le_of_eq (by rw [hgen', hgen, hm.current, hcurrent])
          · rw [hm.elsewhere heq, hm.current]
            rw [hpool] at hmem
            exact h.pooled id ((List.mem_append.mp hmem).resolve_right (by simpa using heq))
        uniform := fun id hmem other hother => (hall id hmem).trans (hall other hother).symm
        numbered := hm' ▸ h.numbered
        free := fun _ => ⟨hall, by
          rw [hpool, List.length_append]
          show _ ≤ max _ _
          rw [hm.current]
          exact hroom hsettled.1⟩
        published := fun id s' => hm.unowned h
        unpublished := fun id s' hs' hp => by
          have hreapers : m'.reapers = m.reapers := hm' ▸ rfl
          rw [hreapers]
          exact h.unpublished id s' (hm.unpublished hpub' hs' hp) hp }
  · intro id s' hs' howned
    have hid := hat.owned id s' (hm.owned hs' howned) howned
    exact absurd (Option.some.inj hid).symm (hm.ne_of_owned hs' howned)

theorem Keeps.push (h : m.Sound) (hat : m.At task (.push request generation session)) :
    Keeps task m (m.pushSession task request session).1 (m.pushSession task request session).2 := by
  unfold Manager.pushSession
  split
  · exact .drop h hat hat.knows.2.2.1 hat.knows.2.1 rfl rfl rfl fun _ => trivial
  · rename_i hopen
    have hopen : m.closed = false := by simpa using hopen
    have hchange (s : PoolSession) :
        let after := { s with
          owner := none, published := true,
          health := s.health || decide (request = Request.ensureHealthSession) }
        after.generation = s.generation ∧ after.published = true ∧ after.owner = none ∧
          after.draining = s.draining := ⟨rfl, rfl, rfl, rfl⟩
    cases request with
    | admissionForNewFlow =>
      exact .publish h hat hopen _ hchange (.same hat.connect) rfl fun _ => trivial
    | currentSession | ensureHealthSession =>
      exact .publish h hat hopen _ hchange (Locks.release task _) rfl fun _ => trivial

theorem Keeps.replace (h : m.Sound) (hat : m.At task (.reloadReplace candidate)) :
    Keeps task m { m with
      current := ⟨m.nextGeneration, candidate⟩
      nextGeneration := m.nextGeneration + 1 } (.reloadClear m.nextGeneration) := by
  have hlocked := hat.publish.mpr rfl
  refine ⟨?_, ⟨hat.connect, hat.publish, hat.owned, trivial⟩, ?_⟩
  · exact
      { pooled := fun session hmem => by
          obtain ⟨s, hs, hpub, hdrain, hle⟩ := h.pooled session hmem
          exact ⟨s, hs, hpub, hdrain, Nat.le_trans hle (Nat.le_of_lt h.numbered)⟩
        uniform := h.uniform
        numbered := Nat.lt_succ_self _
        free := fun hnone => by
          rw [hlocked] at hnone
          cases hnone
        published := h.published
        unpublished := h.unpublished }
  · exact
      { connect := fun _ _ => .rfl
        publish := fun _ _ => .rfl
        closed := id
        current := .inr ⟨hlocked, rfl, h.numbered⟩
        pool := .inl (List.Sublist.refl _)
        sessions := fun session s hs => ⟨s, hs, rfl, id, fun _ _ _ => ⟨rfl, rfl, rfl⟩⟩
        owners := fun session s hs _ _ howner => ⟨s, hs, howner⟩ }

theorem Keeps.beginDrain (h : m.Sound)
    (hat : m.At task (.reloadBeginDrain generation (session :: rest))) (unused : Bool) :
    Keeps task m
      (m.modify session fun s => { s with draining := true, closed := s.closed || unused })
      (.reloadBeginDrain generation rest) := by
  obtain ⟨hpool, hdrained⟩ := hat.knows
  obtain ⟨s₀, hs₀, hpub⟩ := hdrained session List.mem_cons_self
  have howner := h.published session s₀ hs₀ hpub
  generalize hm' : m.modify session
    (fun s => { s with draining := true, closed := s.closed || unused }) = m'
  have hm : Modifies task m m' session s₀
      fun s => { s with draining := true, closed := s.closed || unused } := by
    subst hm'
    exact ⟨hs₀, .inr howner, rfl, rfl, id, howner, rfl⟩
  have hpool' : m'.pool = [] := hm' ▸ hpool
  have hg : Guarantee task m m' := hm.guarantee (hm' ▸ fun _ _ => .rfl) (hm' ▸ fun _ _ => .rfl)
    (hm' ▸ id) (.inl (hm' ▸ List.Sublist.refl _))
  refine ⟨?_, ⟨hm' ▸ hat.connect, hm' ▸ hat.publish, ?_, hpool', fun id hmem => ?_⟩, hg⟩
  · exact
      { pooled := fun id hmem => by
          rw [hpool'] at hmem
          cases hmem
        uniform := fun id hmem => by
          rw [hpool'] at hmem
          cases hmem
        numbered := hm' ▸ h.numbered
        free := fun _ => settled_of_empty hpool'
        published := fun id s' => hm.unowned h
        unpublished := fun id s' hs' hp => by
          have hreapers : m'.reapers = m.reapers := hm' ▸ rfl
          rw [hreapers]
          exact h.unpublished id s' (hm.unpublished hpub hs' hp) hp }
  · intro id s' hs' howned
    exact hat.owned id s' (hm.owned hs' howned) howned
  · obtain ⟨s, hs, hpubs⟩ := hdrained id (List.mem_cons_of_mem _ hmem)
    obtain ⟨s', hs', -, hpub', -⟩ := hg.sessions id s hs
    exact ⟨s', hs', hpub' hpubs⟩

theorem Keeps.chooseSession (h : m.Sound) (hat : m.At task (.choose request locked live))
    (world : World) :
    Keeps task m (m.chooseSession task request locked live world).1
      (m.chooseSession task request locked live world).2 := by
  have hmiss (hroom : request ≠ .admissionForNewFlow → locked = true → m.Room) :
      Keeps task m m (miss request locked) := by
    cases request <;> cases locked <;> first
      | exact .stay h hat ⟨rfl, rfl, rfl⟩ trivial
      | exact .stay h hat ⟨rfl, rfl, rfl⟩ (hroom nofun rfl)
  cases request with
  | admissionForNewFlow =>
    simp only [Manager.chooseSession]
    split
    · exact .finish h hat rfl rfl _
    · exact .finish h hat rfl rfl _
    · exact hmiss fun hne => absurd rfl hne
  | currentSession | ensureHealthSession =>
    cases live with
    | nil =>
      refine hmiss fun hne hlocked => room_of_empty ?_
      subst hlocked
      exact List.eq_nil_iff_forall_not_mem.mpr fun session hmem =>
        List.not_mem_nil (hat.knows hne session hmem)
    | cons session rest =>
      simp only [Manager.chooseSession]
      split
      · rename_i hdraining
        refine .stay h hat ⟨rfl, rfl, rfl⟩ ?_
        cases locked with
        | false => trivial
        | true =>
          -- a draining session is not in the pool any more
          intro hne other hmem
          rcases List.mem_cons.mp (hat.knows hne other hmem) with rfl | hrest
          · obtain ⟨s, hs, -, hnot, -⟩ := h.pooled other hmem
            simp [Manager.isDraining, hs, hnot] at hdraining
          · exact hrest
      · first
          | exact .finish h hat rfl rfl _
          | exact .leave h hat (.markHealthSession m session) _ _ rfl rfl rfl rfl fun _ => trivial

theorem recentFailure_cases (m : Manager) (now : Nat) :
    (∃ failure, m.recentFailure now = (m, some failure)) ∨
      ∃ kept, m.recentFailure now = ({ m with recentConnectFailure := kept }, none) := by
  unfold Manager.recentFailure
  split
  · exact .inr ⟨m.recentConnectFailure, rfl⟩
  · split
    · exact .inr ⟨none, rfl⟩
    · exact .inl ⟨_, rfl⟩

theorem Keeps.go (h : m.Sound) (hat : m.At task pc) (world : World) :
    Keeps task m (m.go task world pc).1 (m.go task world pc).2 := by
  cases pc with
  | idle last => exact .stay h hat ⟨rfl, rfl, rfl⟩ trivial
  | checkClosed request locked =>
    simp only [Manager.go]
    split
    · exact .finish h hat rfl rfl _
    · exact .stay h hat ⟨rfl, rfl, rfl⟩ trivial
  | look request locked =>
    refine .pass h hat (.of_eq rfl) List.filter_sublist rfl rfl id
      (fun _ _ _ hmem => .inr (List.mem_append_left _ hmem)) ⟨rfl, rfl⟩ ⟨rfl, rfl, rfl⟩ ?_
    cases locked with
    | false => trivial
    | true => exact fun _ _ hmem => hmem
  | choose request locked live => exact .chooseSession h hat world
  | checkFailure request locked =>
    simp only [Manager.go]
    obtain ⟨failure, hrecent⟩ | ⟨kept, hrecent⟩ := recentFailure_cases m world.now
    · simp only [hrecent]
      exact .finish h hat rfl rfl _
    · simp only [hrecent]
      cases locked <;>
        exact .pass h hat (.of_eq rfl) (List.Sublist.refl _) rfl rfl id
          (fun _ _ _ hmem => .inr hmem) ⟨rfl, rfl⟩ ⟨rfl, rfl, rfl⟩ hat.knows
  | lockConnect request =>
    simp only [Manager.go]
    split
    · rename_i hfree
      rw [Option.isNone_iff_eq_none] at hfree
      exact .shrink h hat (.of_eq rfl) (List.Sublist.refl _) rfl rfl id
        (fun _ _ _ hmem => .inr hmem) (hfree ▸ Locks.take task) (.same hat.publish) h.free nofun
        trivial
    · exact .stay h hat ⟨rfl, rfl, rfl⟩ trivial
  | count request =>
    exact .pass h hat (.of_eq rfl) List.filter_sublist rfl rfl id
      (fun _ _ _ hmem => .inr (List.mem_append_left _ hmem)) ⟨rfl, rfl⟩ ⟨rfl, rfl, rfl⟩
      (Nat.le_refl _)
  | compare request live =>
    simp only [Manager.go]
    split
    · exact .finish h hat rfl rfl _
    · rename_i hlt
      refine .stay h hat ⟨rfl, rfl, rfl⟩ fun _ => ?_
      exact Nat.lt_of_le_of_lt hat.knows (Nat.not_le.mp hlt)
  | snapshot request => exact .stay h hat ⟨rfl, rfl, rfl⟩ hat.knows
  | connecting request snapshot =>
    simp only [Manager.go]
    split
    · exact .connected h hat
    · exact .stay h hat ⟨rfl, rfl, rfl⟩ trivial
  | rememberFailure request snapshot message =>
    simp only [Manager.go]
    split
    · exact .stay h hat ⟨rfl, rfl, rfl⟩ trivial
    · simp only [Manager.rememberConnectFailure]
      split
      · rename_i heq
        split at heq
        · cases heq
        · split at heq <;> cases heq
          · exact .finish h hat rfl rfl _
          · exact .leave h hat (.of_eq rfl) _ _ rfl rfl rfl rfl fun _ => trivial
      · rename_i heq
        split at heq
        · cases heq
          exact .retry h hat rfl rfl _
        · split at heq <;> cases heq
  | lockPublish request generation session =>
    simp only [Manager.go]
    split
    · rename_i hfree
      rw [Option.isNone_iff_eq_none] at hfree
      exact .shrink h hat (.of_eq rfl) (List.Sublist.refl _) rfl rfl id
        (fun _ _ _ hmem => .inr hmem) (.same hat.connect) (hfree ▸ Locks.take task)
        (fun _ => h.free hfree) (fun _ heq => heq) ⟨hat.knows.1, hat.knows.2, h.free hfree⟩
    · exact .stay h hat ⟨rfl, rfl, rfl⟩ hat.knows
  | checkGeneration request generation session =>
    obtain ⟨hroom, hguarded, hsettled⟩ := hat.knows
    simp only [Manager.go]
    split
    · cases request <;>
        exact .drop h hat hsettled hguarded rfl rfl rfl fun _ => trivial
    · rename_i hsame
      exact .stay h hat ⟨rfl, rfl, rfl⟩ ⟨hroom, hguarded, hsettled, not_not.mp hsame⟩
  | clearFailure request generation session =>
    exact .pass h hat (.of_eq rfl) (List.Sublist.refl _) rfl rfl id (fun _ _ _ hmem => .inr hmem)
      ⟨rfl, rfl⟩ ⟨rfl, rfl, rfl⟩ hat.knows
  | checkClosedPublishing request generation session =>
    simp only [Manager.go]
    split
    · exact .drop h hat hat.knows.2.2.1 hat.knows.2.1 rfl rfl rfl fun _ => trivial
    · exact .stay h hat ⟨rfl, rfl, rfl⟩ hat.knows
  | push request generation session => exact .push h hat
  | admitFresh =>
    simp only [Manager.go]
    split
    · exact .finish h hat rfl rfl _
    · exact .finish h hat rfl rfl _
    · exact .retry h hat rfl rfl _
  | reloadCheck candidate =>
    simp only [Manager.go]
    split <;> exact .stay h hat ⟨rfl, rfl, rfl⟩ trivial
  | reloadLock candidate =>
    simp only [Manager.go]
    split
    · rename_i hfree
      rw [Option.isNone_iff_eq_none] at hfree
      exact .shrink h hat (.of_eq rfl) (List.Sublist.refl _) rfl rfl id
        (fun _ _ _ hmem => .inr hmem) (.same hat.connect) (hfree ▸ Locks.take task)
        (fun _ => h.free hfree) nofun (h.free hfree)
    · exact .stay h hat ⟨rfl, rfl, rfl⟩ trivial
  | reloadCompatible candidate =>
    simp only [Manager.go]
    split
    · exact .unlockPublish h hat hat.knows rfl rfl _
    · exact .stay h hat ⟨rfl, rfl, rfl⟩ hat.knows
  | reloadRefresh candidate =>
    simp only [Manager.go]
    split
    · exact .stay h hat ⟨rfl, rfl, rfl⟩ hat.knows
    · exact .unlockPublish h hat hat.knows rfl rfl _
  | reloadReplace candidate => exact .replace h hat
  | reloadClear generation =>
    exact .pass h hat (.of_eq rfl) (List.Sublist.refl _) rfl rfl id (fun _ _ _ hmem => .inr hmem)
      ⟨rfl, rfl⟩ ⟨rfl, rfl, rfl⟩ trivial
  | reloadDrainPool generation =>
    refine .pass h hat (.of_eq rfl) (List.nil_sublist _) rfl rfl id (fun _ _ _ hmem => .inr hmem)
      ⟨rfl, rfl⟩ ⟨rfl, rfl, rfl⟩ ⟨rfl, fun session hmem => ?_⟩
    obtain ⟨s, hs, hpub, -⟩ := h.pooled session hmem
    exact ⟨s, hs, hpub⟩
  | reloadBeginDrain generation drained =>
    cases drained with
    | nil => exact .unlockPublish h hat (settled_of_empty hat.knows.1) rfl rfl _
    | cons session rest => exact .beginDrain h hat world.unused
  | invalidate session =>
    simp only [Manager.go]
    split
    · exact .pass h hat (.of_eq rfl) List.filter_sublist rfl rfl id
        (fun _ _ _ hmem => .inr (List.mem_append_left _ hmem)) ⟨rfl, rfl⟩ ⟨rfl, rfl, rfl⟩ trivial
    · exact .pass h hat (.closeSession m session) (List.Sublist.refl _) rfl rfl id
        (fun _ _ _ hmem => .inr hmem) ⟨rfl, rfl⟩ ⟨rfl, rfl, rfl⟩ trivial
  | shutdownStore =>
    exact .pass h hat (.of_eq rfl) (List.Sublist.refl _) rfl rfl (fun _ => rfl)
      (fun _ _ _ hmem => .inr hmem) ⟨rfl, rfl⟩ ⟨rfl, rfl, rfl⟩ rfl
  | shutdownDrain =>
    exact .pass h hat (.of_eq rfl) (List.nil_sublist _) rfl rfl id (fun _ _ _ hmem => .inr hmem)
      ⟨rfl, rfl⟩ ⟨rfl, rfl, rfl⟩ ⟨hat.knows, rfl⟩
  | shutdownClose closing =>
    cases closing with
    | nil => exact .stay h hat ⟨rfl, rfl, rfl⟩ hat.knows
    | cons session rest =>
      exact .pass h hat (.closeSession m session) (List.Sublist.refl _) rfl rfl id
        (fun _ _ _ hmem => .inr hmem) ⟨rfl, rfl⟩ ⟨rfl, rfl, rfl⟩ hat.knows
  | shutdownDone => exact .stay h hat ⟨rfl, rfl, rfl⟩ hat.knows

theorem Knows.start (m : Manager) (task : Nat) (operation : Operation) :
    m.Knows task operation.start := by
  cases operation with
  | request request => cases request <;> trivial
  | reload candidate | invalidate session | shutdown => trivial

theorem start_alike (operation : Operation) (last : Returned) :
    KeepsLocks (.idle last) operation.start := by
  cases operation with
  | request request => cases request <;> exact ⟨rfl, rfl, rfl⟩
  | reload candidate | invalidate session | shutdown => exact ⟨rfl, rfl, rfl⟩

theorem Keeps.step (h : m.Sound) (hat : m.At task pc) (input : Input) :
    Keeps task m (m.step task pc input).1 (m.step task pc input).2 := by
  unfold Manager.step
  split
  · rename_i last operation
    exact .stay h hat (start_alike operation last) (.start m task operation)
  · rename_i last session
    exact .pass h hat (.closeSession m session) (List.Sublist.refl _) rfl rfl id
      (fun _ _ _ hmem => .inr hmem) ⟨rfl, rfl⟩ ⟨rfl, rfl, rfl⟩ trivial
  · rename_i last session
    split
    · refine .pass h hat ⟨(Alike.closeSession m session).keeps, (Alike.closeSession m session).only⟩
        (List.Sublist.refl _) rfl rfl id (fun id s' hs' hmem => ?_) ⟨rfl, rfl⟩ ⟨rfl, rfl, rfl⟩
        trivial
      by_cases heq : id = session
      · left
        have hget := modify_get m session id ({ · with closed := true })
        obtain ⟨s, -, rfl⟩ := Option.map_eq_some_iff.mp (hget.symm.trans hs')
        simp [heq]
      · exact .inr (List.mem_filter.mpr ⟨hmem, by simpa using heq⟩)
    · exact .stay h hat ⟨rfl, rfl, rfl⟩ trivial
  · exact .go h hat _
  · exact .stay h hat ⟨rfl, rfl, rfl⟩ hat.knows

end Manager

def managerOutline : Outline Manager.step where
  Inv := Manager.Sound
  At := Manager.At
  Guarantee := Manager.Guarantee
  own := fun _ _ _ input h hat =>
    let hkeeps := Manager.Keeps.step h hat input
    ⟨hkeeps.sound, hkeeps.at_pc, hkeeps.guarantee⟩
  stable := fun _ _ _ _ _ hne h hg hat => hat.stable h hg (Ne.symm hne)

def Manager.start (config : ClientConfig) : Threads Manager Pc where
  shared := .new config
  pc := fun _ => .idle .nothing

theorem managerOutline_start (config : ClientConfig) :
    managerOutline.Holds (Manager.start config) where
  inv :=
    { pooled := fun _ hmem => absurd hmem List.not_mem_nil
      uniform := fun _ hmem => absurd hmem List.not_mem_nil
      numbered := Nat.lt_succ_self _
      free := fun _ => Manager.settled_of_empty rfl
      published := nofun
      unpublished := nofun }
  pc := fun _ => ⟨by simp [Manager.start, Manager.new, Pc.holdsConnect],
    by simp [Manager.start, Manager.new, Pc.holdsPublish], nofun, trivial⟩

theorem afterDrain_step (t : Threads Manager Pc) (h : (t.pc task).afterDrain = true)
    (act : Nat × Input) : ((t.step Manager.step act).pc task).afterDrain = true := by
  obtain ⟨mover, input⟩ := act
  by_cases heq : task = mover
  · subst heq
    simp only [Threads.step, Function.update_self]
    generalize t.pc task = pc at h
    cases pc with
    | shutdownDone => cases input <;> rfl
    | shutdownClose closing =>
      cases input with
      | go world => cases closing <;> rfl
      | call operation | carrierCloses session | reap session => rfl
    | _ => cases h
  · simpa [Threads.step, heq] using h

theorem afterDrain_run (t : Threads Manager Pc) (h : (t.pc task).afterDrain = true)
    (acts : List (Nat × Input)) : ((t.run Manager.step acts).pc task).afterDrain = true := by
  induction acts generalizing t with
  | nil => exact h
  | cons act rest ih => exact ih _ (afterDrain_step t h act)

theorem Manager.At.drained {m : Manager} {pc : Pc} (hat : m.At task pc)
    (h : pc.afterDrain = true) : m.pool = [] := by
  have hknows := hat.knows
  cases pc with
  | shutdownClose closing | shutdownDone => exact hknows.2
  | _ => cases h

/-- Whenever nobody holds the publish lock, the pool is within its limit and of the published
generation, and a session that was not in it when a shutdown drained it gets closed. -/
theorem pool_within_limits (config : ClientConfig) (acts : List (Nat × Input)) :
    let t := (Manager.start config).run Manager.step acts
    (t.shared.configPublishLock = none →
      t.shared.pool.length ≤ t.shared.maxPoolSize ∧
      ∀ session ∈ t.shared.pool, ∃ s, t.shared.sessions[session]? = some s ∧
        s.generation = t.shared.current.generation) ∧
    ((∃ task, (t.pc task).afterDrain = true) → ∀ more,
      let later := t.run Manager.step more
      later.shared.pool = [] ∧
      ∀ (session : Nat) (s : PoolSession), later.shared.sessions[session]? = some s →
        s.published = false →
        s.closed = true ∨ session ∈ later.shared.reapers ∨
          ∃ task, (later.pc task).pending = some session) := by
  intro t
  have h := (managerOutline_start config).run acts
  refine ⟨fun hfree => ?_, fun ⟨task, hdrained⟩ more => ?_⟩
  · obtain ⟨hcurrent, hlength⟩ := h.inv.free hfree
    refine ⟨hlength, fun session hmem => ?_⟩
    obtain ⟨s, hs, hgen⟩ := Option.map_eq_some_iff.mp (hcurrent session hmem)
    exact ⟨s, hs, hgen⟩
  · have hlater := h.run more
    refine ⟨(hlater.pc task).drained (afterDrain_run t hdrained more), fun session s hs hpub => ?_⟩
    rcases hlater.inv.unpublished session s hs hpub with howner | hclosed | hreap
    · obtain ⟨guardian, howner⟩ := Option.ne_none_iff_exists'.mp howner
      exact .inr (.inr ⟨guardian, (hlater.pc guardian).owned session s hs howner⟩)
    · exact .inl hclosed
    · exact .inr (.inl hreap)

end UncrownedKing.Client
