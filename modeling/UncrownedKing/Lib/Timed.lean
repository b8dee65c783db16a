import Mathlib.Algebra.Group.Nat.Defs
import Mathlib.Data.List.Basic

/-!
# Time and timed computations

A timed computation starts at an instant, reports events with their instants,
and ends at an instant with a result or never. What it waits for is an input.
Time is counted in nanoseconds.
-/

namespace UncrownedKing.Lib

abbrev Instant := Nat

abbrev Duration := Nat

def nanosPerSec : Nat := 1000000000

def fromSecs (secs : Nat) : Duration := secs * nanosPerSec

def asSecs (d : Duration) : Nat := d / nanosPerSec

@[simp] theorem asSecs_fromSecs (secs : Nat) : asSecs (fromSecs secs) = secs :=
  Nat.mul_div_cancel _ (by decide)

def Instant.checkedAdd (t : Instant) (d : Duration) : Option Instant :=
  if t + d < 2 ^ 63 * nanosPerSec then some (t + d) else none

def Instant.checkedDurationSince (t earlier : Instant) : Option Duration :=
  if earlier ≤ t then some (t - earlier) else none

/-- What a run emits, and when and with what it ends, if it does. -/
structure Trace (ε α : Type) where
  events : List (Instant × ε)
  done : Option (Instant × α)

def Trace.after (run : Trace ε α) (before : List (Instant × ε)) : Trace ε α :=
  { run with events := before ++ run.events }

@[simp] theorem Trace.after_events (run : Trace ε α) (before : List (Instant × ε)) :
    (run.after before).events = before ++ run.events := rfl

@[simp] theorem Trace.after_done (run : Trace ε α) (before : List (Instant × ε)) :
    (run.after before).done = run.done := rfl

@[simp] theorem Trace.after_nil (run : Trace ε α) : run.after [] = run := rfl

def Timed (ε α : Type) := Instant → Trace ε α

namespace Timed

variable {ε α β : Type}

instance : Monad (Timed ε) where
  pure a := fun t => ⟨[], some (t, a)⟩
  bind x f := fun t =>
    match (x t).done with
    | none => ⟨(x t).events, none⟩
    | some (t', a) => (f a t').after (x t).events

def emit (e : ε) : Timed ε Unit := fun t => ⟨[(t, e)], some (t, ())⟩

def clock : Timed ε Instant := fun t => ⟨[], some (t, t)⟩

def await (ready : Option (Instant × α)) : Timed ε α :=
  fun t => ⟨[], ready.map fun (at', a) => (max t at', a)⟩

def halt : Timed ε α := fun _ => ⟨[], none⟩

def early (limit : Instant) (first : Bool) (at' : Instant) : Bool :=
  if first then at' ≤ limit else at' < limit

def untilAt (limit : Instant) (first : Bool) (x : Timed ε α) : Timed ε (Option α) := fun t =>
  match (x t).done.filter fun (t', _) => early limit first t' with
  | some (t', a) => ⟨(x t).events, some (t', some a)⟩
  | none => ⟨(x t).events.filter fun (at', _) => early limit first at', some (max t limit, none)⟩

/-- When a deadline is noticed: never early, and in order. -/
structure Timers where
  seen : Instant → Instant
  le_seen : ∀ due, due ≤ seen due
  seen_mono : ∀ {due due'}, due ≤ due' → seen due ≤ seen due'

def farFuture : Duration := fromSecs (86400 * 365 * 30)

def dueAfter (start : Instant) (d : Duration) : Instant :=
  (start.checkedAdd d).getD (start + farFuture)

def Timers.waitEnd (timers : Timers) (start : Instant) (d : Duration)
    (ready : Option (Instant × α)) : Instant :=
  ready.elim (timers.seen (dueAfter start d)) fun ready =>
    min (max start ready.1) (timers.seen (dueAfter start d))

/-- The computation is looked at before its timer. -/
def timeout (timers : Timers) (d : Duration) (x : Timed ε α) : Timed ε (Option α) := fun t =>
  untilAt (timers.seen (dueAfter t d)) true x t

variable {x : Timed ε α} {f : α → Timed ε β} {t t' : Instant} {a : α} {e : Instant × ε}

theorem bind_of_done (h : (x t).done = some (t', a)) :
    (x >>= f) t = (f a t').after (x t).events := by
  simp only [bind, h]

theorem bind_of_pending (h : (x t).done = none) : (x >>= f) t = ⟨(x t).events, none⟩ := by
  simp only [bind, h]

theorem bind_congr {y : Timed ε α} {g : α → Timed ε β} (hx : x t = y t) (hf : ∀ a, f a = g a) :
    (x >>= f) t = (y >>= g) t := by
  obtain rfl : f = g := funext hf
  simp only [bind, hx]

theorem bind_after {y : Timed ε α} {before : List (Instant × ε)} {u : Instant}
    (h : x t = (y u).after before) : (x >>= f) t = ((y >>= f) u).after before := by
  cases hdone : (y u).done with
  | none =>
    have hx : (x t).done = none := by rw [h, Trace.after_done, hdone]
    rw [bind_of_pending hx, bind_of_pending hdone, h]
    rfl
  | some p =>
    obtain ⟨t', a⟩ := p
    have hx : (x t).done = some (t', a) := by rw [h, Trace.after_done, hdone]
    rw [bind_of_done hx, bind_of_done hdone, h]
    simp [Trace.after]

theorem events_bind_pure (f : α → β) : ((x >>= fun a => pure (f a)) t).events = (x t).events := by
  cases hd : (x t).done with
  | none => rw [bind_of_pending hd]
  | some p =>
    rw [bind_of_done hd, Trace.after_events]
    exact List.append_nil _

theorem mem_events_bind (h : e ∈ ((x >>= f) t).events) :
    e ∈ (x t).events ∨ ∃ t' a, (x t).done = some (t', a) ∧ e ∈ (f a t').events := by
  cases hd : (x t).done with
  | none =>
    rw [bind_of_pending hd] at h
    exact .inl h
  | some p =>
    obtain ⟨t', a⟩ := p
    rw [bind_of_done hd] at h
    exact (List.mem_append.mp h).imp_right fun hmem => ⟨t', a, rfl, hmem⟩

theorem events_bind (f : α → Timed ε β) (t : Instant) :
    ∃ later, ((x >>= f) t).events = (x t).events ++ later := by
  cases hd : (x t).done with
  | none => exact ⟨[], by simp [bind_of_pending hd]⟩
  | some p => exact ⟨_, by rw [bind_of_done hd, Trace.after_events]⟩

theorem mem_events_bind_left (h : e ∈ (x t).events) : e ∈ ((x >>= f) t).events := by
  obtain ⟨later, hevents⟩ := events_bind (x := x) f t
  rw [hevents]
  exact List.mem_append_left _ h

def Only (P : ε → Prop) (x : Timed ε α) : Prop := ∀ t, ∀ e ∈ (x t).events, P e.2

variable {P : ε → Prop}

theorem Only.pure (a : α) : Only P (Pure.pure a : Timed ε α) := nofun

theorem Only.bind (hx : Only P x) (hf : ∀ a, Only P (f a)) : Only P (x >>= f) := by
  intro t e he
  rcases mem_events_bind he with hmem | ⟨t', a, -, hmem⟩
  · exact hx t e hmem
  · exact hf a t' e hmem

theorem Only.emit {e : ε} (h : P e) : Only P (Timed.emit e) := by
  intro t e' he
  rw [List.mem_singleton.mp he]
  exact h

theorem Only.clock : Only P (Timed.clock : Timed ε Instant) := nofun

theorem Only.await (ready : Option (Instant × α)) : Only P (Timed.await ready : Timed ε α) := nofun

theorem untilAt_events (limit : Instant) (first : Bool) (x : Timed ε α) (t : Instant) :
    (untilAt limit first x t).events.Sublist (x t).events := by
  unfold untilAt
  split
  · exact List.Sublist.refl _
  · exact List.filter_sublist

theorem Only.untilAt (limit : Instant) (first : Bool) (hx : Only P x) :
    Only P (untilAt limit first x) :=
  fun t e he => hx t e ((untilAt_events limit first x t).subset he)

theorem Only.timeout (timers : Timers) (d : Duration) (hx : Only P x) :
    Only P (timeout timers d x) :=
  fun t => Only.untilAt _ true hx t

theorem untilAt_done (h : (x t).done = some (t', a)) (hearly : early limit first t' = true) :
    untilAt limit first x t = ⟨(x t).events, some (t', some a)⟩ := by
  simp only [untilAt, h, Option.filter, hearly, if_true]

theorem untilAt_late (h : (x t).done = some (t', a)) (hlate : ¬ early limit first t' = true) :
    untilAt limit first x t =
      ⟨(x t).events.filter fun (at', _) => early limit first at', some (max t limit, none)⟩ := by
  simp only [untilAt, h, Option.filter, hlate, Bool.false_eq_true, if_false]

theorem mem_untilAt (he : e ∈ (x t).events) (hearly : early limit first e.1 = true) :
    e ∈ (untilAt limit first x t).events := by
  unfold untilAt
  split
  · exact he
  · exact List.mem_filter.mpr ⟨he, hearly⟩

theorem le_dueAfter (start : Instant) (d : Duration) : start ≤ dueAfter start d := by
  unfold dueAfter Instant.checkedAdd
  split <;> simp

theorem Timers.start_le (timers : Timers) (start : Instant) (d : Duration) :
    start ≤ timers.seen (dueAfter start d) :=
  Nat.le_trans (le_dueAfter start d) (timers.le_seen _)

theorem timeout_await_ready (timers : Timers) {d : Duration} {ready : Instant × α}
    (hin : max t ready.1 ≤ timers.seen (dueAfter t d)) :
    timeout timers d (await (some ready) : Timed ε α) t =
      ⟨[], some (max t ready.1, some ready.2)⟩ := by
  have hdone : (await (some ready) t : Trace ε α).done = some (max t ready.1, ready.2) := rfl
  have hearly : early (timers.seen (dueAfter t d)) true (max t ready.1) = true := by
    simpa [early] using hin
  exact untilAt_done hdone hearly

theorem timeout_await_late (timers : Timers) {d : Duration} {ready : Option (Instant × α)}
    (hlate : ∀ r, ready = some r → ¬ max t r.1 ≤ timers.seen (dueAfter t d)) :
    timeout timers d (await ready : Timed ε α) t =
      ⟨[], some (timers.seen (dueAfter t d), none)⟩ := by
  have hle := timers.start_le t d
  cases ready with
  | none => simp [timeout, untilAt, await, Nat.max_eq_right hle]
  | some ready =>
    have hdone : (await (some ready) t : Trace ε α).done = some (max t ready.1, ready.2) := rfl
    have hlate : ¬ early (timers.seen (dueAfter t d)) true (max t ready.1) = true := by
      simpa [early] using hlate ready rfl
    refine (untilAt_late hdone hlate).trans ?_
    simp only [await, List.filter_nil, Nat.max_eq_right hle]

theorem timeout_await (timers : Timers) (d : Duration) (ready : Option (Instant × α))
    (t : Instant) :
    ∃ result, timeout timers d (await ready : Timed ε α) t =
      ⟨[], some (timers.waitEnd t d ready, result)⟩ := by
  cases ready with
  | none => exact ⟨none, timeout_await_late timers nofun⟩
  | some ready =>
    by_cases hin : max t ready.1 ≤ timers.seen (dueAfter t d)
    · refine ⟨some ready.2, (timeout_await_ready timers hin).trans ?_⟩
      simp only [Timers.waitEnd, Option.elim_some, Nat.min_eq_left hin]
    · have hlate (r : Instant × α) (hr : some ready = some r) :
          ¬ max t r.1 ≤ timers.seen (dueAfter t d) := by
        cases hr
        exact hin
      refine ⟨none, (timeout_await_late timers hlate).trans ?_⟩
      simp only [Timers.waitEnd, Option.elim_some, Nat.min_eq_right (Nat.le_of_not_le hin)]

variable {χ : Type} {y : ExceptT χ (Timed ε) α} {g : α → ExceptT χ (Timed ε) β}

theorem Only.lift (hx : Only P x) : Only P (liftM x : ExceptT χ (Timed ε) α).run :=
  Only.bind hx fun _ => Only.pure _

theorem Only.throw (err : χ) : Only P (throw err : ExceptT χ (Timed ε) α).run := nofun

theorem Only.bindExcept (hy : Only P y.run) (hg : ∀ a, Only P (g a).run) :
    Only P (y >>= g).run := by
  refine Only.bind hy fun result => ?_
  cases result with
  | ok a => exact hg a
  | error err => exact Only.pure _

def FailsAfter (trigger : ε → Prop) (Q : Instant → Instant × χ → Prop)
    (y : ExceptT χ (Timed ε) α) : Prop :=
  ∀ t, ∀ e ∈ (y.run t).events, trigger e.2 →
    ∃ t' err, (y.run t).done = some (t', .error err) ∧ Q e.1 (t', err)

variable {trigger : ε → Prop} {Q : Instant → Instant × χ → Prop}

theorem FailsAfter.of_only (hy : Only (¬ trigger ·) y.run) : FailsAfter trigger Q y :=
  fun t e he htrigger => (hy t e he htrigger).elim

theorem FailsAfter.bind (hy : FailsAfter trigger Q y) (hg : ∀ a, FailsAfter trigger Q (g a)) :
    FailsAfter trigger Q (y >>= g) := by
  intro t e he htrigger
  rcases mem_events_bind he with hmem | ⟨t', result, hdone, hmem⟩
  · -- the failure of the first part is the failure of the whole
    obtain ⟨t', err, hdone, hq⟩ := hy t e hmem htrigger
    refine ⟨t', err, ?_, hq⟩
    exact congrArg Trace.done (bind_of_done hdone)
  · cases result with
    | error err => cases hmem
    | ok a =>
      obtain ⟨t'', err, hdone', hq⟩ := hg a t' e hmem htrigger
      refine ⟨t'', err, ?_, hq⟩
      exact (congrArg Trace.done (bind_of_done hdone)).trans hdone'

end Timed

end UncrownedKing.Lib
