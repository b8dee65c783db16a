import UncrownedKing.Server.Masking

/-!
# What the gate reports

A rejection is counted before the connection is drained.
-/

namespace UncrownedKing.Server

open Lib Net Mask Timed

variable {world : World}

theorem drainWithin_events (budget : Option Duration) (t : Instant) :
    (drainWithin world budget t).events = [] := by
  cases budget with
  | none => rfl
  | some budget =>
    show [] ++ _ = []
    dsimp only
    cases t.checkedAdd budget <;> rfl

theorem rejectMasked_apply (drainBudget : Option Duration) (kind : RejectKind) (reason : String)
    (t : Instant) :
    rejectMasked world drainBudget kind reason t =
      ⟨[(t, kind.event), (t, .failedHandshake .auth), (t, .recordFailure world.peer.ip)],
        (drainWithin world drainBudget t).done.map fun ended => (ended.1, .error reason)⟩ := by
  have hevents : (drainWithin world drainBudget t).events = [] := drainWithin_events drainBudget t
  show ((drainWithin world drainBudget >>= _) t).after [_, _, _] = _
  cases hdone : (drainWithin world drainBudget t).done with
  | none => simp [bind_of_pending hdone, hevents, Trace.after]
  | some ended =>
    rw [bind_of_done hdone, hevents]
    rfl

theorem judgePrelude_cases (hmac : Hmac) (world : World) (maskKeys : List MaskKeys)
    (admissionTimeout : Duration) (read : Option (Except IoError (Bytes × TcpStream))) :
    (∃ masked, maskKeys ≠ [] ∧
        judgePrelude hmac world maskKeys admissionTimeout read = pure (.ok masked)) ∨
      ∃ drainBudget kind reason, judgePrelude hmac world maskKeys admissionTimeout read =
        rejectMasked world drainBudget kind reason := by
  rcases read with _ | err | ⟨wire, tcp⟩
  · exact .inr ⟨_, _, _, rfl⟩
  · exact .inr ⟨_, _, _, rfl⟩
  · dsimp only [judgePrelude]
    cases hverify : verifyPrelude hmac maskKeys (wire.take preludeLen) (wire.drop preludeLen) with
    | none => exact .inr ⟨_, _, _, rfl⟩
    | some verified =>
      obtain ⟨keys, authenticated⟩ := verified
      dsimp only
      split
      · refine .inl ⟨_, ?_, rfl⟩
        rintro rfl
        cases hverify
      · exact .inr ⟨_, _, _, rfl⟩

theorem admitTcp_apply (hmac : Hmac) (maskKeys : List MaskKeys)
    (hread : timeout world.timers d (await (world.tcp.readExact (preludeLen + nonceLen))) t =
      (⟨[], some (t', wire)⟩ : Trace ConnectionEvent _)) :
    admitTcp hmac world maskKeys d t =
      (judgePrelude hmac world maskKeys d wire t').after [(t, .prelude)] := by
  show Trace.after ((_ >>= judgePrelude hmac world maskKeys d) t) _ = _
  rw [bind_of_done (congrArg Trace.done hread), hread, Trace.after_nil]
  rfl

theorem admitTcp_cases (hmac : Hmac) (world : World) (maskKeys : List MaskKeys)
    (admissionTimeout : Duration) (t : Instant) :
    (∃ t' masked, maskKeys ≠ [] ∧ admitTcp hmac world maskKeys admissionTimeout t =
        ⟨[(t, .prelude)], some (t', .ok masked)⟩) ∨
      ∃ t' drainBudget kind reason, admitTcp hmac world maskKeys admissionTimeout t =
        (rejectMasked world drainBudget kind reason t').after [(t, .prelude)] := by
  obtain ⟨read, hread⟩ := timeout_await (ε := ConnectionEvent) world.timers admissionTimeout
    (world.tcp.readExact (preludeLen + nonceLen)) t
  have hadmit := admitTcp_apply hmac maskKeys hread
  rcases judgePrelude_cases hmac world maskKeys admissionTimeout read with
    ⟨masked, hkeys, hjudge⟩ | ⟨drainBudget, kind, reason, hjudge⟩
  · rw [hjudge] at hadmit
    exact .inl ⟨_, masked, hkeys, hadmit⟩
  · rw [hjudge] at hadmit
    exact .inr ⟨_, drainBudget, kind, reason, hadmit⟩

end UncrownedKing.Server
