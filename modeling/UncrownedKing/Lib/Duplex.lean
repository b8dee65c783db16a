import UncrownedKing.Lib.Wire

/-!
# Talking on a byte stream

A computation that reads what the other side sends, in pieces of any sizes, and
writes back.
-/

namespace UncrownedKing.Lib

/-- The pieces that reads will bring, the error behind them if any, and all that has been written.
An empty piece is a read that has to wait. -/
structure Duplex (ε : Type) where
  chunks : List Bytes
  ending : Option ε
  written : Bytes
  deriving DecidableEq, Repr

abbrev DuplexM (ε : Type) := ExceptT ε (StateM (Duplex ε))

def Duplex.rest (s : Duplex ε) : Bytes := s.chunks.flatten

def takeExact : Nat → List Bytes → Bytes × List Bytes
  | 0, chunks => ([], chunks)
  | _ + 1, [] => ([], [])
  | n + 1, chunk :: chunks =>
    if n + 1 < chunk.length then (chunk.take (n + 1), chunk.drop (n + 1) :: chunks)
    else
      let (data, left) := takeExact (n + 1 - chunk.length) chunks
      (chunk ++ data, left)

namespace DuplexM

def readExact (eof : ε) (n : Nat) : DuplexM ε Bytes := do
  let s ← get
  let (data, left) := takeExact n s.chunks
  set { s with chunks := left }
  if data.length = n then pure data else throw (s.ending.getD eof)

def write (data : Bytes) : DuplexM ε Unit := modify fun s => { s with written := s.written ++ data }

def on (f : DuplexM ε α) (s : Duplex ε) : Except ε α × Duplex ε := Id.run (StateT.run f.run s)

variable {f : DuplexM ε α} {g : α → DuplexM ε β} {handler : ε → DuplexM ε α} {s : Duplex ε}

@[simp] theorem on_pure (a : α) (s : Duplex ε) : (pure a : DuplexM ε α).on s = (.ok a, s) := rfl

@[simp] theorem on_throw (e : ε) (s : Duplex ε) :
    (throw e : DuplexM ε α).on s = (.error e, s) := rfl

@[simp] theorem on_write (data : Bytes) (s : Duplex ε) :
    (write data : DuplexM ε Unit).on s = (.ok (), { s with written := s.written ++ data }) := rfl

theorem on_get (s : Duplex ε) : (get : DuplexM ε (Duplex ε)).on s = (.ok s, s) := rfl

theorem on_set (s s' : Duplex ε) : (set s' : DuplexM ε PUnit).on s = (.ok (), s') := rfl

theorem on_bind_ok (h : f.on s = (.ok a, s')) : (f >>= g).on s = (g a).on s' := by
  have hrun : Id.run (StateT.run f.run s) = (.ok a, s') := h
  simp only [on, ExceptT.run_bind, StateT.run_bind, Id.run_bind, hrun]

theorem on_bind_error (h : f.on s = (.error e, s')) : (f >>= g).on s = (.error e, s') := by
  have hrun : Id.run (StateT.run f.run s) = (.error e, s') := h
  simp only [on, ExceptT.run_bind, StateT.run_bind, Id.run_bind, hrun, StateT.run_pure, Id.run_pure]

theorem on_bind_eq_ok :
    (f >>= g).on s = (.ok b, s') ↔ ∃ a mid, f.on s = (.ok a, mid) ∧ (g a).on mid = (.ok b, s') := by
  constructor
  · intro h
    cases hf : f.on s with
    | mk result mid =>
      cases result with
      | ok a => exact ⟨a, mid, rfl, (on_bind_ok hf).symm.trans h⟩
      | error e => cases (on_bind_error hf).symm.trans h
  · rintro ⟨a, mid, hf, hg⟩
    exact (on_bind_ok hf).trans hg

theorem on_tryCatch_ok (h : f.on s = (.ok a, s')) : (tryCatch f handler).on s = (.ok a, s') := by
  have hrun : Id.run (StateT.run f.run s) = (.ok a, s') := h
  simp only [on, ExceptT.run_tryCatch, StateT.run_bind, Id.run_bind, hrun, StateT.run_pure,
    Id.run_pure]

theorem on_tryCatch_error
    (h : f.on s = (.error e, s')) : (tryCatch f handler).on s = (handler e).on s' := by
  have hrun : Id.run (StateT.run f.run s) = (.error e, s') := h
  simp only [on, ExceptT.run_tryCatch, StateT.run_bind, Id.run_bind, hrun]

theorem on_tryCatch_eq_ok (hhandler : ∀ e s, ∃ e' s', (handler e).on s = (.error e', s'))
    (h : (tryCatch f handler).on s = (.ok a, s')) : f.on s = (.ok a, s') := by
  cases hf : f.on s with
  | mk result mid =>
    cases result with
    | ok b => exact (on_tryCatch_ok hf).symm.trans h
    | error e =>
      obtain ⟨e', s'', herror⟩ := hhandler e mid
      cases herror.symm.trans ((on_tryCatch_error hf).symm.trans h)

theorem takeExact_eq (n : Nat) (chunks : List Bytes) :
    (takeExact n chunks).1 = chunks.flatten.take n ∧
      (takeExact n chunks).2.flatten = chunks.flatten.drop n := by
  fun_induction takeExact n chunks with
  | case1 chunks | case2 => simp
  | case3 n chunk chunks hlt =>
    simp [List.take_append_of_le_length hlt.le, List.drop_append_of_le_length hlt.le]
  | case4 n chunk chunks hge data left heq ih =>
    have hle : chunk.length ≤ n + 1 := Nat.le_of_not_lt hge
    simp only [heq] at ih
    simp [List.take_append, List.drop_append, List.take_of_length_le hle,
      List.drop_eq_nil_of_le hle, ih]

/-- Reading `n` bytes is all that happened. -/
structure Consumed (n : Nat) (s s' : Duplex ε) : Prop where
  rest : s'.rest = s.rest.drop n
  ending : s'.ending = s.ending
  written : s'.written = s.written

theorem Consumed.trans {s s' s'' : Duplex ε} (h : Consumed n s s') (h' : Consumed k s' s'') :
    Consumed (n + k) s s'' where
  rest := by rw [h'.rest, h.rest, List.drop_drop]
  ending := h'.ending.trans h.ending
  written := h'.written.trans h.written

theorem on_readExact (eof : ε) (n : Nat) (s : Duplex ε) :
    (readExact eof n).on s =
      (if n ≤ s.rest.length then .ok (s.rest.take n) else .error (s.ending.getD eof),
        { s with chunks := (takeExact n s.chunks).2 }) := by
  have htake : (takeExact n s.chunks).1 = s.rest.take n := (takeExact_eq n s.chunks).1
  have hlen : (takeExact n s.chunks).1.length = n ↔ n ≤ s.rest.length := by
    simp [htake, List.length_take]
  simp only [readExact, on_bind_ok (on_get s), on_bind_ok (on_set s _), hlen]
  split
  · rw [htake, on_pure]
  · rw [on_throw]

theorem consumed_takeExact (n : Nat) (s : Duplex ε) :
    Consumed n s { s with chunks := (takeExact n s.chunks).2 } :=
  ⟨(takeExact_eq n s.chunks).2, rfl, rfl⟩

theorem readExact_ok (eof : ε) (h : n ≤ s.rest.length) :
    ∃ s', (readExact eof n).on s = (.ok (s.rest.take n), s') ∧ Consumed n s s' :=
  ⟨_, by rw [on_readExact, if_pos h], consumed_takeExact n s⟩

theorem readExact_short (eof : ε) (h : s.rest.length < n) :
    ∃ s', (readExact eof n).on s = (.error (s.ending.getD eof), s') ∧ Consumed n s s' :=
  ⟨_, by rw [on_readExact, if_neg (Nat.not_le.mpr h)], consumed_takeExact n s⟩

theorem readExact_eq_ok (h : (readExact eof n).on s = (.ok data, s')) :
    data.length = n ∧ s.rest = data ++ s'.rest := by
  by_cases hlen : n ≤ s.rest.length
  · obtain ⟨mid, hok, hconsumed⟩ := readExact_ok eof hlen
    cases hok.symm.trans h
    exact ⟨List.length_take_of_le hlen, by rw [hconsumed.rest, List.take_append_drop]⟩
  · obtain ⟨mid, herror, -⟩ := readExact_short eof (Nat.lt_of_not_le hlen)
    cases herror.symm.trans h

/-- It reads and writes nothing, and fails only at the end of the input. -/
def Reads (eof : ε) (f : DuplexM ε α) : Prop :=
  ∀ s, (∃ n a s', f.on s = (.ok a, s') ∧ Consumed n s s') ∨
    ∃ n s', f.on s = (.error (s.ending.getD eof), s') ∧ Consumed n s s'

theorem reads_readExact (eof : ε) (n : Nat) : Reads eof (readExact eof n) := by
  intro s
  by_cases h : n ≤ s.rest.length
  · obtain ⟨s', hok, hconsumed⟩ := readExact_ok eof h
    exact .inl ⟨n, _, s', hok, hconsumed⟩
  · obtain ⟨s', herror, hconsumed⟩ := readExact_short eof (Nat.lt_of_not_le h)
    exact .inr ⟨n, s', herror, hconsumed⟩

theorem Reads.bind_pure (h : Reads eof f) (g : α → β) : Reads eof (f >>= fun a => pure (g a)) := by
  intro s
  obtain ⟨n, a, s', hok, hconsumed⟩ | ⟨n, s', herror, hconsumed⟩ := h s
  · exact .inl ⟨n, g a, s', on_bind_ok hok, hconsumed⟩
  · exact .inr ⟨n, s', on_bind_error herror, hconsumed⟩

def QuietAt (Answer : Option ε → ε → Bytes → Prop) (s : Duplex ε) (f : DuplexM ε α) : Prop :=
  (∀ a s', f.on s = (.ok a, s') → s'.ending = s.ending ∧ s'.written = s.written) ∧
    ∀ e s', f.on s = (.error e, s') →
      ∃ answer, s'.written = s.written ++ answer ∧ Answer s.ending e answer

def QuietOr (Answer : Option ε → ε → Bytes → Prop) (f : DuplexM ε α) : Prop :=
  ∀ s, QuietAt Answer s f

variable {Answer : Option ε → ε → Bytes → Prop}

theorem quietOr_pure (a : α) : QuietOr Answer (pure a) := by
  intro s
  constructor
  · rintro a s' ⟨⟩
    exact ⟨rfl, rfl⟩
  · rintro e s' ⟨⟩

theorem quietAt_throw (h : Answer s.ending e []) : QuietAt Answer s (throw e : DuplexM ε α) := by
  constructor
  · rintro a s' ⟨⟩
  · rintro e s' ⟨⟩
    exact ⟨[], by rw [List.append_nil], h⟩

theorem quietAt_answer (h : Answer s.ending e answer) :
    QuietAt Answer s (write answer >>= fun _ => throw e : DuplexM ε α) := by
  constructor
  · rintro a s' ⟨⟩
  · rintro e s' ⟨⟩
    exact ⟨answer, rfl, h⟩

theorem QuietOr.bind (hf : QuietOr Answer f)
    (hg : ∀ a, QuietOr Answer (g a)) : QuietOr Answer (f >>= g) := by
  intro s
  obtain ⟨hok, herror⟩ := hf s
  unfold QuietAt
  cases hmid : f.on s with
  | mk result mid =>
    cases result with
    | error e =>
      rw [on_bind_error hmid]
      constructor
      · rintro a s' ⟨⟩
      · rintro e s' ⟨⟩
        exact herror _ _ hmid
    | ok a =>
      obtain ⟨hending, hwritten⟩ := hok a mid hmid
      rw [on_bind_ok hmid, ← hending, ← hwritten]
      exact hg a mid

theorem Reads.quietOr (hf : Reads eof f)
    (h : ∀ ending : Option ε, Answer ending (ending.getD eof) []) : QuietOr Answer f := by
  intro s
  unfold QuietAt
  obtain ⟨n, a, mid, hok, hconsumed⟩ | ⟨n, mid, herror, hconsumed⟩ := hf s
  · rw [hok]
    constructor
    · rintro a s' ⟨⟩
      exact ⟨hconsumed.ending, hconsumed.written⟩
    · rintro e s' ⟨⟩
  · rw [herror]
    constructor
    · rintro a s' ⟨⟩
    · rintro e s' ⟨⟩
      exact ⟨[], by rw [hconsumed.written, List.append_nil], h s.ending⟩

theorem Reads.quietOr_catch (hf : Reads eof f)
    (h : ∀ s, QuietAt Answer s (handler (s.ending.getD eof))) :
    QuietOr Answer (tryCatch f handler) := by
  intro s
  unfold QuietAt
  obtain ⟨n, a, mid, hok, hconsumed⟩ | ⟨n, mid, herror, hconsumed⟩ := hf s
  · rw [on_tryCatch_ok hok]
    constructor
    · rintro a s' ⟨⟩
      exact ⟨hconsumed.ending, hconsumed.written⟩
    · rintro e s' ⟨⟩
  · rw [on_tryCatch_error herror, ← hconsumed.ending, ← hconsumed.written]
    exact h mid

end DuplexM

end UncrownedKing.Lib
