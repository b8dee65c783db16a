import UncrownedKing.Mask.Stream
import UncrownedKing.Server.CommitGateLaws

/-!
# Alerts through a commit gate

The gate looks at the first byte of each write, so the rest of an alert need not
look like one.
-/

namespace UncrownedKing.Server

open Lib Net Mask

/-- A record of content type 21. -/
structure AlertRecord where
  version : UInt8 × UInt8
  fragment : Bytes
  fits : fragment.length ≤ 2 ^ 14 + 256

def AlertRecord.encode (record : AlertRecord) : Bytes :=
  tlsAlertContentType :: record.version.1 :: record.version.2 ::
    (toBe 2 record.fragment.length ++ record.fragment)

structure AlertWriter where
  gate : CommitGate
  shared : SharedRegistry
  direction : Direction
  queue : List Bytes

namespace AlertWriter

def start (shared : SharedRegistry) (pending : UInt64 × Nat) (direction : Direction)
    (buffers : List (List AlertRecord)) : AlertWriter where
  gate := .new pending
  shared := shared
  direction := direction
  queue := buffers.map fun records => records.flatMap AlertRecord.encode

def advance (buf : Bytes) (queue : List Bytes) : Poll Nat → List Bytes
  | .ready (.ok written) =>
    let rest := buf.drop written
    if rest.isEmpty then queue else rest :: queue
  | .ready (.error _) | .pending => buf :: queue

/-- It reports the pairs that `commit` is called with. -/
def step (chacha : ChaCha20) (w : AlertWriter) (inner : (len : Nat) → InnerWrite len) :
    AlertWriter × List (UInt64 × Nat) :=
  match w.queue with
  | [] => (w, [])
  | buf :: queue =>
    let (gate, shared, result) := w.gate.pollWrite w.shared buf
    let calls := (w.gate.commits buf).toList
    match result with
    | .failed _ => ({ w with gate := gate, shared := shared }, calls)
    | .inner =>
      let ((direction, polled), _) := w.direction.pollWrite chacha buf inner
      (⟨gate, shared, direction, advance buf queue polled⟩, calls)

/-- While a commit is pending the next buffer starts as an alert. -/
def LooksLikeAlert (w : AlertWriter) : Prop :=
  w.gate.pending ≠ none → ∀ buf ∈ w.queue.head?, ∀ first ∈ buf.head?, first = tlsAlertContentType

variable {chacha : ChaCha20} {w : AlertWriter}

theorem commits_none_iff {gate : CommitGate} : gate.commits buf = none ↔
    (gate.pending ≠ none → ∀ first ∈ buf.head?, first = tlsAlertContentType) := by
  cases hpending : gate.pending with
  | none => simp [CommitGate.commits, hpending]
  | some pair => cases buf <;> simp [CommitGate.commits, hpending, Carries]

theorem step_calls (w : AlertWriter) (inner : (len : Nat) → InnerWrite len) :
    (w.step chacha inner).2 = [] ↔ w.LooksLikeAlert := by
  unfold step LooksLikeAlert
  split
  · rename_i hqueue
    simp [hqueue]
  · rename_i buf queue hqueue
    dsimp only
    split <;> simp [hqueue, commits_none_iff]

theorem step_quiet (w : AlertWriter) (inner : (len : Nat) → InnerWrite len)
    (h : (w.step chacha inner).2 = []) :
    (w.step chacha inner).1.gate = w.gate ∧ (w.step chacha inner).1.shared = w.shared := by
  have hquiet := (step_calls w inner).mp h
  unfold step
  split
  · exact ⟨rfl, rfl⟩
  · rename_i buf queue hqueue
    have hcommits : w.gate.commits buf = none :=
      commits_none_iff.mpr fun hpending => hquiet hpending buf (by simp [hqueue])
    rw [CommitGate.pollWrite_quiet w.gate w.shared hcommits]
    exact ⟨rfl, rfl⟩

theorem run_shared (w : AlertWriter) (inners : List ((len : Nat) → InnerWrite len))
    (h : (run (step chacha) w inners).2 = []) :
    (run (step chacha) w inners).1.shared = w.shared := by
  induction inners generalizing w with
  | nil => rfl
  | cons inner rest ih =>
    obtain ⟨hnow, hlater⟩ := List.append_eq_nil_iff.mp h
    exact (ih _ hlater).trans (step_quiet w inner hnow).2

theorem run_calls (w : AlertWriter) (inners : List ((len : Nat) → InnerWrite len)) :
    (run (step chacha) w inners).2 = [] ↔
      Along (step chacha) (fun w _ => w.LooksLikeAlert) w inners := by
  have hnil (log : List (UInt64 × Nat)) : log = [] ↔ Each (fun _ _ => False) log := by
    rw [each_forall_iff, List.eq_nil_iff_forall_not_mem]
  rw [hnil]
  refine run_each_iff (fun _ _ => True) (fun _ _ _ _ => trivial) (fun _ w inner _ => ?_) trivial _
  rw [← hnil, step_calls]

def TakesWhole (inner : (len : Nat) → InnerWrite len) : Prop :=
  ∀ len, match inner len with
    | .accepted written _ => written = 0 ∨ written = len
    | .failed _ | .pending => True

theorem rewindThen_not_ok {direction : Direction} {result : Poll Nat}
    (hresult : ∀ written, result ≠ .ready (.ok written)) (written : Nat) :
    (direction.rewindThen chacha result).2 ≠ .ready (.ok written) := by
  unfold Direction.rewindThen
  split
  · simp
  · exact hresult written

theorem pollWrite_whole {inner : (len : Nat) → InnerWrite len} (hwhole : TakesWhole inner)
    (hfits : buf.length ≤ maxWriteChunk) {direction : Direction}
    (h : (direction.pollWrite chacha buf inner).1.2 = .ready (.ok written)) :
    written = buf.length := by
  unfold Direction.pollWrite at h
  split at h
  · rename_i hempty
    cases h
    simp [List.isEmpty_iff.mp hempty]
  · dsimp only at h
    rw [Nat.min_eq_left hfits] at h
    split at h
    · cases h
    · split at h
      · cases h
      · rename_i cipher scratch happly
        have hlength : scratch.length = buf.length := by
          unfold Cipher.tryApplyKeystream at happly
          split at happly
          · cases happly
            simp
          · cases happly
        have hanswer := hwhole scratch.length
        split at h
        · rename_i taken _ hinner
          rw [hinner] at hanswer
          split at h
          · cases h
            rfl
          · rename_i hpartial
            have hzero : taken = 0 :=
              hanswer.resolve_right fun hall => hpartial (hall.trans hlength)
            rw [if_pos hzero] at h
            exact absurd h (rewindThen_not_ok (by simp) written)
        · exact absurd h (rewindThen_not_ok (by simp) written)
        · exact absurd h (rewindThen_not_ok (by simp) written)

def Whole (w : AlertWriter) : Prop := ∀ buf ∈ w.queue, ∃ record : AlertRecord, buf = record.encode

theorem Whole.start (shared : SharedRegistry) (pending : UInt64 × Nat) (direction : Direction)
    (records : List AlertRecord) : (start shared pending direction (records.map ([·]))).Whole := by
  intro buf hbuf
  simp only [AlertWriter.start, List.map_map, List.mem_map] at hbuf
  obtain ⟨record, -, rfl⟩ := hbuf
  exact ⟨record, by simp⟩

theorem Whole.looksLikeAlert (h : w.Whole) : w.LooksLikeAlert := by
  intro _ buf hbuf first hfirst
  obtain ⟨record, rfl⟩ := h buf (List.mem_of_mem_head? hbuf)
  cases hfirst
  rfl

theorem Whole.step (h : w.Whole) {inner : (len : Nat) → InnerWrite len}
    (hwhole : TakesWhole inner) : (w.step chacha inner).1.Whole := by
  unfold AlertWriter.step
  split
  · exact h
  · rename_i buf queue hqueue
    have hnext : ∀ other ∈ queue, ∃ record : AlertRecord, other = record.encode :=
      fun other hother => h other (by simp [hqueue, hother])
    have hbuf : ∃ record : AlertRecord, buf = record.encode := h buf (by simp [hqueue])
    have hstay : ∀ other ∈ buf :: queue, ∃ record : AlertRecord, other = record.encode :=
      List.forall_mem_cons.mpr ⟨hbuf, hnext⟩
    obtain ⟨record, hrecord⟩ := hbuf
    have hfits : buf.length ≤ maxWriteChunk := by
      have hfragment := record.fits
      simp only [hrecord, AlertRecord.encode, List.length_cons, List.length_append, length_toBe,
        maxWriteChunk]
      omega
    dsimp only
    split
    · simpa [Whole, hqueue] using hstay
    · intro other hother
      unfold advance at hother
      split at hother
      · rename_i written hpolled
        rw [pollWrite_whole hwhole hfits hpolled, List.drop_length] at hother
        exact hnext other hother
      · exact hstay other hother
      · exact hstay other hother

theorem Whole.along (h : w.Whole) {inners : List ((len : Nat) → InnerWrite len)}
    (hwhole : ∀ inner ∈ inners, TakesWhole inner) :
    Along (AlertWriter.step chacha) (fun w _ => w.LooksLikeAlert) w inners := by
  induction inners generalizing w with
  | nil => trivial
  | cons inner rest ih =>
    obtain ⟨hinner, hrest⟩ := List.forall_mem_cons.mp hwhole
    exact ⟨h.looksLikeAlert, ih (h.step hinner) hrest⟩

/-- No commit is made exactly if each time what is written is empty or starts like an alert. -/
theorem alerts_keep_pair_iff (chacha : ChaCha20) (shared : SharedRegistry) (identity : UInt64)
    (counter : Nat) (hadmitted : shared.precheck identity counter = true)
    (direction : Direction) (buffers : List (List AlertRecord))
    (inners : List ((len : Nat) → InnerWrite len)) :
    ((run (step chacha) (start shared (identity, counter) direction buffers) inners).2 = [] ∧
        (run (step chacha) (start shared (identity, counter) direction buffers)
          inners).1.shared.precheck identity counter = true) ↔
      Along (step chacha) (fun w _ => w.LooksLikeAlert)
        (start shared (identity, counter) direction buffers) inners := by
  rw [← run_calls, and_iff_left_iff_imp]
  intro hnone
  rw [run_shared _ inners hnone]
  exact hadmitted

def zeroChacha : ChaCha20 := ⟨fun _ _ _ => 0, streamLimit, Nat.le_refl _⟩

/-- Fatal, `handshake_failure`. -/
def handshakeFailure : AlertRecord := ⟨(3, 3), [2, 40], by decide⟩

def takes (n len : Nat) : InnerWrite len := .accepted (min n len) (Nat.min_le_right n len)

def emptyRegistry : SharedRegistry := ⟨.new 1024 (by decide), false⟩

def takesAll (len : Nat) : InnerWrite len := .accepted len (Nat.le_refl len)

/-- Two alerts that are taken whole, the second after a wait. -/
theorem whole_alerts_keep_pair :
    emptyRegistry.precheck 7 1 = true ∧
      (run (step zeroChacha)
        (start emptyRegistry (7, 1) (.new [] []) [[handshakeFailure], [handshakeFailure]])
        [takesAll, fun _ => .pending, takesAll]).2 = [] := by
  have hadmitted : emptyRegistry.precheck 7 1 = true := by decide +kernel
  have hwhole : ∀ inner ∈ [takesAll, fun _ => .pending, takesAll], TakesWhole inner := by
    simp [TakesWhole, takesAll]
  have hstart := Whole.start emptyRegistry (7, 1) (.new [] []) [handshakeFailure, handshakeFailure]
  exact ⟨hadmitted, ((alerts_keep_pair_iff zeroChacha emptyRegistry 7 1 hadmitted (.new [] [])
    [[handshakeFailure], [handshakeFailure]] _).mpr (hstart.along hwhole)).1⟩

/-- Three bytes are taken first: the gate commits in front of the rest. -/
theorem split_alert_commits :
    emptyRegistry.precheck 7 1 = true ∧
      let after := run (step zeroChacha)
        (start emptyRegistry (7, 1) (.new [] []) [[handshakeFailure]]) [takes 3, takes 4]
      after.2 = [(7, 1)] ∧ after.1.shared.precheck 7 1 = false := by
  decide +kernel

end AlertWriter

end UncrownedKing.Server
