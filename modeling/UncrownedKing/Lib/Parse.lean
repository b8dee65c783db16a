import UncrownedKing.Lib.Wire

/-!
# Incremental parsers

An incremental parser never takes an answer back when more bytes follow.
-/

namespace UncrownedKing.Lib

def Incremental (short : ε) (parse : Bytes → Except ε (α × Bytes)) : Prop :=
  ∀ src more, parse src ≠ .error short →
    parse (src ++ more) = (parse src).map fun result => (result.1, result.2 ++ more)

variable {short : ε} {parse : Bytes → Except ε (α × Bytes)}

theorem Incremental.ok (h : Incremental short parse) (hok : parse src = .ok (a, rest))
    (more : Bytes) : parse (src ++ more) = .ok (a, rest ++ more) := by
  rw [h src more (by simp [hok]), hok]
  rfl

theorem Incremental.error (h : Incremental short parse) (herror : parse src = .error e)
    (hne : e ≠ short) (more : Bytes) : parse (src ++ more) = .error e := by
  rw [h src more (by simpa [herror] using hne), herror]
  rfl

theorem Incremental.bind {next : α → Bytes → Except ε (β × Bytes)} (h : Incremental short parse)
    (hnext : ∀ a, Incremental short (next a)) :
    Incremental short fun src => parse src >>= fun result => next result.1 result.2 := by
  intro src more hne
  cases hparse : parse src with
  | error e =>
    have he : e ≠ short := by
      rintro rfl
      simp [hparse, Bind.bind, Except.bind] at hne
    simp only [hparse, h.error hparse he more, Bind.bind, Except.bind]
    rfl
  | ok result =>
    simp only [hparse, h.ok hparse more, Bind.bind, Except.bind] at hne ⊢
    exact hnext result.1 result.2 more hne

end UncrownedKing.Lib
