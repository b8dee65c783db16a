import UncrownedKing.Client.Keepalive
import UncrownedKing.Lib.Run

/-!
# A PONG is believed only in its time

The outstanding nonce is the one registered last, unless it was cleared since;
what counts is when the PONG came, not when it was recorded.
-/

namespace UncrownedKing.Client

open Lib

/-- A registration lasts until the next one, or until it is cleared. -/
def KeepaliveEvent.ends (nonce : Nat) : KeepaliveEvent → Bool
  | .registered _ => true
  | .cleared other => other = nonce
  | _ => false

/-- The registration of `nonce` is still in force. -/
def Outstanding (log : List KeepaliveEvent) (nonce : Nat) : Prop :=
  ∃ before since, log = before ++ .registered nonce :: since ∧ ∀ e ∈ since, e.ends nonce = false

/-- A PONG with the nonce came while its registration was in force. -/
def Answered (log : List KeepaliveEvent) (nonce : Nat) : Prop :=
  ∃ before since answer after,
    log = before ++ .registered nonce :: since ++
        .pong (keepaliveNoncePayload nonce) answer :: after ∧
      ∀ e ∈ since, e.ends nonce = false

theorem outstanding_registered (log : List KeepaliveEvent) (nonce : Nat) :
    Outstanding (log ++ [.registered nonce]) nonce :=
  ⟨log, [], rfl, by simp⟩

theorem Outstanding.emit (h : Outstanding log nonce) (hends : e.ends nonce = false) :
    Outstanding (log ++ [e]) nonce := by
  obtain ⟨before, since, rfl, hsince⟩ := h
  refine ⟨before, since ++ [e], by simp, ?_⟩
  simpa [or_imp, forall_and, hends] using hsince

theorem Outstanding.answered (h : Outstanding log nonce) (answer : KeepalivePong) :
    Answered (log ++ [.pong (keepaliveNoncePayload nonce) answer]) nonce := by
  obtain ⟨before, since, rfl, hsince⟩ := h
  exact ⟨before, since, answer, [], rfl, hsince⟩

theorem Answered.mono (h : Answered log nonce) (hlog : log <+: log') : Answered log' nonce := by
  obtain ⟨before, since, answer, after, rfl, hsince⟩ := h
  obtain ⟨more, rfl⟩ := hlog
  exact ⟨before, since, answer, after ++ more, by simp, hsince⟩

theorem payload_of_decode (h : decodeKeepaliveNonce payload = some nonce) :
    payload = keepaliveNoncePayload nonce := by
  unfold decodeKeepaliveNonce at h
  split at h
  · next hlength =>
    obtain rfl := Option.some.inj h
    rw [keepaliveNoncePayload, ← hlength, toBe_fromBe]
  · cases h

theorem matchPong_eq_matched (h : Keepalive.matchPong s payload = .matched nonce) :
    payload = keepaliveNoncePayload nonce ∧ s.outstandingPingNonce = nonce ∧ nonce ≠ 0 := by
  unfold Keepalive.matchPong at h
  split at h
  · cases h
  · next decoded hdecode =>
    split at h
    · cases h
    · next hmatches =>
      obtain rfl := KeepalivePong.matched.inj h
      rw [not_or, not_not] at hmatches
      exact ⟨payload_of_decode hdecode, hmatches.2.symm, hmatches.2 ▸ hmatches.1⟩

def Confirmed (log : List KeepaliveEvent) : Prop :=
  Each (fun before e => ∀ nonce, e = .confirmed nonce → Answered before nonce) log

theorem Confirmed.emit (h : Confirmed log)
    (he : ∀ nonce, e = .confirmed nonce → Answered log nonce) : Confirmed (log ++ [e]) :=
  each_append h (each_cons (by simpa using he) each_nil)

structure Keepalive.Sound (s : Keepalive) : Prop where
  outstanding : s.outstandingPingNonce ≠ 0 → Outstanding s.log s.outstandingPingNonce
  lastPong : s.lastPongNonce ≠ 0 → Answered s.log s.lastPongNonce
  confirmed : Confirmed s.log

def KeepalivePoint.Knows (log : List KeepaliveEvent) : KeepalivePoint → Prop
  | .register nonce | .writePing nonce | .clearUnsent nonce | .enlist nonce | .clear nonce _
  | .checkClosed nonce _ | .observePong nonce _ | .notified nonce _ => nonce ≠ 0
  | .storePong nonce => Answered log nonce
  | _ => True

theorem KeepalivePoint.Knows.mono {point : KeepalivePoint} (h : point.Knows log)
    (hlog : log <+: log') : point.Knows log' := by
  cases point with
  | storePong nonce => exact Answered.mono h hlog
  | _ => exact h

structure Keepalive.Sound.Next (s : Keepalive) (next : Keepalive × KeepalivePoint) : Prop where
  sound : next.1.Sound
  knows : next.2.Knows next.1.log
  log : s.log <+: next.1.log

namespace Keepalive.Sound

variable {s : Keepalive}

theorem keep (h : s.Sound) (hknows : point.Knows s.log) : Next s (s, point) :=
  ⟨h, hknows, List.prefix_rfl⟩

theorem emit (h : s.Sound)
    (hends : s.outstandingPingNonce ≠ 0 → event.ends s.outstandingPingNonce = false)
    (hconfirmed : ∀ nonce, event = .confirmed nonce → Answered s.log nonce) :
    (s.emit event).Sound where
  outstanding hne := (h.outstanding hne).emit (hends hne)
  lastPong hne := (h.lastPong hne).mono (List.prefix_append _ _)
  confirmed := h.confirmed.emit hconfirmed

theorem close (h : s.Sound) : s.close.Sound ∧ s.log <+: s.close.log := by
  unfold Keepalive.close
  split
  · exact ⟨h, List.prefix_rfl⟩
  · refine ⟨?_, List.prefix_append _ _⟩
    exact emit ⟨h.outstanding, h.lastPong, h.confirmed⟩ (fun _ => rfl) nofun

theorem register (h : s.Sound) (nonce : Nat) : (s.register nonce).Sound where
  outstanding _ := outstanding_registered s.log nonce
  lastPong hne := (h.lastPong hne).mono (List.prefix_append _ _)
  confirmed := h.confirmed.emit nofun

theorem clearOutstandingPing (h : s.Sound) (nonce : Nat) :
    (s.clearOutstandingPing nonce).Sound ∧ s.log <+: (s.clearOutstandingPing nonce).log := by
  unfold Keepalive.clearOutstandingPing
  split
  · refine ⟨⟨fun hne => absurd rfl hne, fun hne => ?_, h.confirmed.emit nofun⟩,
      List.prefix_append _ _⟩
    exact (h.lastPong hne).mono (List.prefix_append _ _)
  · exact ⟨h, List.prefix_rfl⟩

theorem recordPong (h : s.Sound) (payload : Bytes) : Next s (s.recordPong payload) := by
  have hsound : (s.emit (.pong payload (s.matchPong payload))).Sound :=
    h.emit (fun _ => rfl) nofun
  unfold Keepalive.recordPong
  refine ⟨hsound, ?_, List.prefix_append _ _⟩
  dsimp only
  split
  · next nonce hmatched =>
    -- the comparison has just found the nonce to be the outstanding one
    obtain ⟨rfl, rfl, hne⟩ := matchPong_eq_matched hmatched
    exact (h.outstanding hne).answered _
  · trivial

theorem exchangeNonce (h : s.Sound) (current : Nat) (choice : KeepaliveChoice) :
    Next s (s.exchangeNonce current choice) := by
  unfold Keepalive.exchangeNonce
  split
  · exact h.keep trivial
  · split
    · exact ⟨⟨h.outstanding, h.lastPong, h.confirmed⟩, Nat.succ_ne_zero current, List.prefix_rfl⟩
    · exact h.keep trivial

theorem observePong (h : s.Sound) (hnonce : nonce ≠ 0) (task ticket : Nat)
    (choice : KeepaliveChoice) : Next s (s.step task (.observePong nonce ticket) (.go choice)) := by
  simp only [Keepalive.step]
  split
  · next hobserved =>
    refine ⟨h.emit (fun _ => rfl) ?_, hnonce, List.prefix_append _ _⟩
    rintro _ ⟨⟩
    exact hobserved ▸ h.lastPong (hobserved ▸ hnonce)
  · exact h.keep hnonce

theorem step (h : s.Sound) (hknows : point.Knows s.log) (task : Nat) (input : KeepaliveInput) :
    Next s (s.step task point input) := by
  cases input with
  | ping =>
    cases point with
    | idle =>
      simp only [Keepalive.step]
      split <;> exact h.keep trivial
    | _ => exact h.keep hknows
  | pong payload =>
    cases point with
    | idle => exact h.recordPong payload
    | _ => exact h.keep hknows
  | close =>
    cases point with
    | idle => exact h.keep trivial
    | _ => exact h.keep hknows
  | go choice =>
    cases point with
    | idle | ended | loadNonce => exact h.keep trivial
    | exchangeNonce current => exact h.exchangeNonce current choice
    | register nonce => exact ⟨h.register nonce, hknows, List.prefix_append _ _⟩
    | writePing nonce =>
      simp only [Keepalive.step]
      split
      · exact ⟨h.close.1, hknows, h.close.2⟩
      · exact h.keep hknows
    | clearUnsent nonce =>
      obtain ⟨hsound, hlog⟩ := h.clearOutstandingPing nonce
      exact ⟨hsound, trivial, hlog⟩
    | enlist nonce => exact h.keep hknows
    | checkClosed nonce ticket =>
      simp only [Keepalive.step]
      split <;> exact h.keep hknows
    | observePong nonce ticket => exact h.observePong hknows task ticket choice
    | notified nonce ticket =>
      simp only [Keepalive.step]
      repeat' split
      all_goals exact h.keep hknows
    | clear nonce result =>
      obtain ⟨hsound, hlog⟩ := h.clearOutstandingPing nonce
      refine ⟨hsound, ?_, hlog⟩
      simp only [Keepalive.step]
      split <;> trivial
    | timedOut =>
      simp only [Keepalive.step]
      split <;> exact h.keep trivial
    | close => exact ⟨h.close.1, trivial, h.close.2⟩
    | storePong nonce =>
      exact ⟨⟨h.outstanding, fun _ => hknows, h.confirmed⟩, trivial, List.prefix_rfl⟩
    | notifyWaiters =>
      exact ⟨⟨h.outstanding, h.lastPong, h.confirmed⟩, trivial, List.prefix_rfl⟩

end Keepalive.Sound

def keepaliveOutline : Outline Keepalive.step where
  Inv := Keepalive.Sound
  At s _ point := point.Knows s.log
  Guarantee _ s s' := s.log <+: s'.log
  own _ task _ input h hknows :=
    have hnext := h.step hknows task input
    ⟨hnext.sound, hnext.knows, hnext.log⟩
  stable _ _ _ _ _ _ _ hlog hknows := hknows.mono hlog

/-- When `wait_for_pong` returns true, a PONG with just that nonce has arrived while it was
outstanding. -/
theorem confirmed_by_timely_pong (acts : List (Nat × KeepaliveInput)) :
    Each (fun before e => ∀ nonce, e = .confirmed nonce → Answered before nonce)
      (keepaliveRun acts).shared.log := by
  have hstart : keepaliveOutline.Holds ⟨{}, fun _ => .idle⟩ :=
    ⟨⟨fun h => absurd rfl h, fun h => absurd rfl h, each_nil⟩, fun _ => trivial⟩
  exact (hstart.run acts).inv.confirmed

-- The PONG of an earlier PING, sent again, does not answer for a later one.
example :
    let ping := (0, .ping) :: List.replicate 7 (0, .go .proceed)
    let pong (nonce : Nat) := [(1, .pong (keepaliveNoncePayload nonce)), (1, .go .proceed),
      (1, .go .proceed)]
    let awake := List.replicate 5 (0, .go .proceed)
    let t := keepaliveRun (ping ++ pong 1 ++ awake ++ ping ++ pong 1 ++ awake)
    t.shared.log.filter (fun e => e = .confirmed 1 ∨ e = .confirmed 2) = [.confirmed 1] ∧
      t.pc 0 = .notified 2 1 := by
  decide +kernel

end UncrownedKing.Client
