import Mathlib.Logic.Basic

/-!
# Computations that succeed

What a computation in several parts has done when it has succeeded.

**Results.**
* `bind_eq_ok_iff`, `exists_of_bind_eq_ok`: it has succeeded in its first part, and
  then with the rest.
* `map_eq_ok_iff`: a changed result is that of a computation that succeeds.
-/

namespace EpaperLayout

variable {ε α β : Type}

/-- A computation in two parts succeeds exactly if both do. -/
theorem bind_eq_ok_iff
    {first : Except ε α} {rest : α → Except ε β} {result : β} :
    first >>= rest = .ok result ↔ ∃ value, first = .ok value ∧ rest value = .ok result := by
  cases first with
  | error error =>
      constructor
      · exact fun h => nomatch h
      · exact fun ⟨_, h, _⟩ => nomatch h
  | ok value =>
      constructor
      · exact fun h => ⟨value, rfl, h⟩
      · rintro ⟨_, ⟨⟩, h⟩
        exact h

/-- A computation that succeeds succeeds in its first part. -/
theorem exists_of_bind_eq_ok
    {first : Except ε α} {rest : α → Except ε β} {result : β}
    (h : first >>= rest = .ok result) :
    ∃ value, first = .ok value ∧ rest value = .ok result :=
  bind_eq_ok_iff.mp h

theorem map_eq_ok_iff
    {first : Except ε α} {change : α → β} {result : β} :
    first.map change = .ok result ↔ ∃ value, first = .ok value ∧ change value = result := by
  cases first with
  | error error => simp [Except.map]
  | ok value => simp [Except.map]

end EpaperLayout
