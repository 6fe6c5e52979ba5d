import EpaperLayout.Proofs.Text.Numerals
import EpaperLayout.Snippet.PageReading

/-!
# Free identifiers

A page whose identifier is taken gets a numbered one.  The search for a free
number is bounded by the number of identifiers in use, and that bound suffices:
the candidates `id_2`, `id_3`, ... are all different, so one of any
`used.length + 1` of them is free.
-/

namespace EpaperLayout
namespace Snippet

/-- The identifier with a number. -/
def numbered (id : String) (number : Nat) : String :=
  s!"{id}_{number}"

theorem toList_numbered (id : String) (number : Nat) :
    (numbered id number).toList = id.toList ++ '_' :: Nat.toDigits 10 number := by
  change (id ++ "_" ++ toString number).toList = _
  simp

/-- Different numbers give different identifiers. -/
theorem numbered_injective (id : String) : Function.Injective (numbered id) := by
  intro m n h
  have hlists := congrArg String.toList h
  rw [toList_numbered, toList_numbered] at hlists
  have hdigits := (List.cons.inj (List.append_cancel_left hlists)).2
  exact Text.toDigits_injective hdigits

/-- A numbered identifier is not blank, as it holds an underscore. -/
theorem isBlankText_numbered (id : String) (number : Nat) :
    Text.isBlankText (numbered id number) = false := by
  rw [Text.isBlankText, List.all_eq_false]
  refine ⟨'_', ?_, by decide⟩
  rw [toList_numbered]
  simp

/-- If the bounded search ends with a used identifier, all candidates it tried are used. -/
theorem numbered_mem_of_freeIdFrom_mem
    {used : List String} {id : String}
    {tries number : Nat}
    (h : freeIdFrom used id tries number ∈ used) :
    ∀ k ≤ tries, numbered id (number + k) ∈ used := by
  induction tries generalizing number with
  | zero =>
      intro k hk
      obtain rfl : k = 0 := by omega
      exact h
  | succ tries ih =>
      unfold freeIdFrom at h
      split at h
      · next hmem =>
        intro k hk
        cases k with
        | zero =>
            exact List.contains_iff_mem.mp hmem
        | succ k =>
            have := ih h k (by omega)
            rwa [show number + 1 + k = number + (k + 1) by omega] at this
      · next hfree =>
        exact absurd (List.contains_iff_mem.mpr h) hfree

/-- Different identifiers that are all used are no more than the used ones. -/
theorem le_length_of_forall_mem
    {used : List String} {candidate : Nat → String} {count : Nat}
    (hinjective : Function.Injective candidate)
    (h : ∀ k < count, candidate k ∈ used) :
    count ≤ used.length := by
  have hnodup : ((List.range count).map candidate).Nodup :=
    List.nodup_range.map hinjective
  have hsub : (List.range count).map candidate ⊆ used := by
    intro s hs
    obtain ⟨k, hk, rfl⟩ := List.mem_map.mp hs
    exact h k (List.mem_range.mp hk)
  simpa using (hnodup.subperm hsub).length_le

/-- One candidate more than there are used identifiers is always free. -/
theorem freeIdFrom_notMem (used : List String) (id : String) (number : Nat) :
    freeIdFrom used id used.length number ∉ used := by
  intro h
  have hall := numbered_mem_of_freeIdFrom_mem h
  have hinjective : Function.Injective fun k => numbered id (number + k) := by
    intro a b hab
    exact Nat.add_left_cancel (numbered_injective id hab)
  have hle : used.length + 1 ≤ used.length :=
    le_length_of_forall_mem hinjective fun k hk => hall k (Nat.le_of_lt_succ hk)
  omega

/-- The search ends with a numbered identifier, behind others that are all used. -/
theorem exists_freeIdFrom_eq
    (used : List String) (id : String) (tries number : Nat) :
    ∃ k, freeIdFrom used id tries number = numbered id (number + k) ∧
      ∀ j < k, numbered id (number + j) ∈ used := by
  induction tries generalizing number with
  | zero =>
      exact ⟨0, rfl, nofun⟩
  | succ tries ih =>
      unfold freeIdFrom
      split
      · next hmem =>
        obtain ⟨k, hk, hused⟩ := ih (number + 1)
        refine ⟨k + 1, ?_, ?_⟩
        · rw [hk, Nat.add_assoc, Nat.add_comm 1]
        · intro j hj
          cases j with
          | zero =>
              exact List.contains_iff_mem.mp hmem
          | succ j =>
              have := hused j (by omega)
              rwa [Nat.add_assoc, Nat.add_comm 1] at this
      · exact ⟨0, rfl, nofun⟩

theorem freeId_notMem (used : List String) (id : String) :
    freeId used id ∉ used := by
  unfold freeId
  split
  · exact freeIdFrom_notMem used id 2
  · next h =>
    intro hmem
    exact h (List.contains_iff_mem.mpr hmem)

theorem freeId_of_notMem
    {used : List String} {id : String}
    (h : id ∉ used) :
    freeId used id = id := by
  simp [freeId, h]

theorem freeId_eq_iff
    {used : List String} {id : String} :
    freeId used id = id ↔ id ∉ used := by
  refine ⟨?_, freeId_of_notMem⟩
  intro h
  rw [← h]
  exact freeId_notMem used id

/-- Renaming makes no identifier blank. -/
theorem isBlankText_freeId
    {id : String}
    (used : List String)
    (h : Text.isBlankText id = false) :
    Text.isBlankText (freeId used id) = false := by
  unfold freeId
  split
  · obtain ⟨k, hk, -⟩ := exists_freeIdFrom_eq used id used.length 2
    rw [hk]
    exact isBlankText_numbered id _
  · exact h

end Snippet
end EpaperLayout
