import EpaperLayout.Proofs.Snippet.LabelGrammar
import EpaperLayout.Snippet.PageReading

/-!
# The order of labels and branches

The labels of a dispatch come in the order of the text, each ends behind its
beginning, and a branch ends where the next label begins.  So the bodies of the
branches lie one behind the other between the first label and the end of the
dispatch, and no comment belongs to two of them.

**Results.**
* `map_label_branchesOf`: there is one branch for each label, in the same order.
* `pairwise_branches`: every branch ends before the next label begins.
* `branchLabel_bounds`, `branch_stop_le`: all branches lie inside the dispatch.
-/

namespace EpaperLayout
namespace Snippet

section Labels

/-- Every label begins at one of the places and ends behind its beginning. -/
theorem mem_labelsAfter
    {previous : Option Char} {places : List Located} {label : Label}
    (hplaces : places.Pairwise fun a b => a.offset < b.offset)
    (h : label ∈ labelsAfter previous places) :
    (∃ place ∈ places, label.start = place.offset) ∧ label.start < label.stop := by
  have hstands := mem_labelsAfter_iff_standsIn.mp h
  obtain ⟨place, hplace, hoffset, -⟩ := hstands.exists_mem
  exact ⟨⟨place, hplace, hoffset.symm⟩, hstands.start_lt_stop hplaces⟩

/-- The labels come in the order of the text. -/
theorem pairwise_labelsAfter
    {previous : Option Char} {places : List Located}
    (hplaces : places.Pairwise fun a b => a.offset < b.offset) :
    (labelsAfter previous places).Pairwise fun a b => a.start < b.start := by
  refine (pairwise_stop_labelsAfter hplaces).imp_of_mem ?_
  intro a b ha _ hstop
  exact Nat.lt_of_lt_of_le (mem_labelsAfter hplaces ha).2 hstop

theorem pairwise_branchLabels (lambda : Lambda) (start stop : Nat) :
    (lambda.branchLabels start stop).Pairwise fun a b => a.start < b.start :=
  (pairwise_labelsAfter (pairwise_offset_codeIn lambda start stop)).filter _

/-- A label of a branch begins inside the dispatch and ends behind its beginning. -/
theorem branchLabel_bounds
    {lambda : Lambda} {start stop : Nat} {label : Label}
    (h : label ∈ lambda.branchLabels start stop) :
    start ≤ label.start ∧ label.start < stop ∧ label.start < label.stop := by
  rw [Lambda.branchLabels, List.mem_filter] at h
  obtain ⟨⟨place, hplace, hstart⟩, hlt⟩ :=
    mem_labelsAfter (pairwise_offset_codeIn lambda start stop) h.1
  obtain ⟨hlow, hhigh⟩ := bounds_of_mem_codeIn hplace
  exact ⟨by omega, by omega, hlt⟩

end Labels

section Branches

/-- There is one branch for each label, in the same order. -/
@[simp] theorem map_label_branchesOf (stop : Nat) (labels : List Label) :
    (branchesOf stop labels).map Branch.label = labels := by
  fun_induction branchesOf stop labels with
  | case1 =>
      rfl
  | case2 label =>
      rfl
  | case3 label next rest ih =>
      rw [List.map_cons, ih]

theorem label_mem_of_mem_branchesOf
    {stop : Nat} {labels : List Label} {branch : Branch}
    (h : branch ∈ branchesOf stop labels) :
    branch.label ∈ labels := by
  rw [← map_label_branchesOf stop labels]
  exact List.mem_map_of_mem h

/-- No branch reaches beyond the end. -/
theorem stop_le_of_mem_branchesOf
    {stop : Nat} {labels : List Label} {branch : Branch}
    (hlabels : ∀ label ∈ labels, label.start < stop)
    (h : branch ∈ branchesOf stop labels) :
    branch.stop ≤ stop := by
  fun_induction branchesOf stop labels with
  | case1 =>
      simp at h
  | case2 label =>
      rw [List.mem_singleton] at h
      rw [h]
  | case3 label next rest ih =>
      rcases List.mem_cons.mp h with rfl | h
      · exact Nat.le_of_lt (hlabels next (by simp))
      · exact ih (fun other hother => hlabels other (List.mem_cons_of_mem _ hother)) h

/-- Every branch ends behind the beginning of its label. -/
theorem start_lt_stop_of_mem_branchesOf
    {stop : Nat} {labels : List Label} {branch : Branch}
    (hlabels : ∀ label ∈ labels, label.start < stop)
    (hpairwise : labels.Pairwise fun a b => a.start < b.start)
    (h : branch ∈ branchesOf stop labels) :
    branch.label.start < branch.stop := by
  fun_induction branchesOf stop labels with
  | case1 =>
      cases h
  | case2 label =>
      obtain rfl := List.mem_singleton.mp h
      exact hlabels label List.mem_cons_self
  | case3 label next rest ih =>
      obtain ⟨hnext, hrest⟩ := List.pairwise_cons.mp hpairwise
      rcases List.mem_cons.mp h with rfl | h
      · exact hnext next List.mem_cons_self
      · exact ih (fun other hother => hlabels other (List.mem_cons_of_mem _ hother)) hrest h

/-- Every branch ends before the next label begins. -/
theorem pairwise_branchesOf
    {stop : Nat} {labels : List Label}
    (hlabels : labels.Pairwise fun a b => a.start < b.start) :
    (branchesOf stop labels).Pairwise fun a b => a.stop ≤ b.label.start := by
  fun_induction branchesOf stop labels with
  | case1 =>
      exact List.Pairwise.nil
  | case2 label =>
      exact List.pairwise_singleton _ _
  | case3 label next rest ih =>
      have hrest := (List.pairwise_cons.mp hlabels).2
      rw [List.pairwise_cons]
      refine ⟨?_, ih hrest⟩
      intro branch hbranch
      rcases List.mem_cons.mp (label_mem_of_mem_branchesOf hbranch) with heq | hmem
      · rw [heq]
      · exact Nat.le_of_lt ((List.pairwise_cons.mp hrest).1 _ hmem)

variable (lambda : Lambda) (dispatch : Dispatch) (closing : Nat)

theorem map_label_branches :
    (lambda.branches dispatch closing).map Branch.label =
      lambda.branchLabels (dispatch.opening + 1) closing :=
  map_label_branchesOf closing _

/-- The branches come in the order of the text. -/
theorem pairwise_start_branches :
    (lambda.branches dispatch closing).Pairwise fun a b => a.label.start < b.label.start := by
  have hlabels := pairwise_branchLabels lambda (dispatch.opening + 1) closing
  rwa [← map_label_branches, List.pairwise_map] at hlabels

/-- Every branch of a dispatch ends before the label of the next one. -/
theorem pairwise_branches :
    (lambda.branches dispatch closing).Pairwise fun a b => a.stop ≤ b.label.start :=
  pairwise_branchesOf (pairwise_branchLabels lambda _ closing)

theorem start_lt_branch_stop
    {branch : Branch}
    (h : branch ∈ lambda.branches dispatch closing) :
    branch.label.start < branch.stop :=
  start_lt_stop_of_mem_branchesOf (fun _ hlabel => (branchLabel_bounds hlabel).2.1)
    (pairwise_branchLabels lambda _ closing) h

theorem branch_stop_le
    {branch : Branch}
    (h : branch ∈ lambda.branches dispatch closing) :
    branch.stop ≤ closing :=
  stop_le_of_mem_branchesOf (fun _ hlabel => (branchLabel_bounds hlabel).2.1) h

/-- The first label begins no later than any branch. -/
theorem firstLabel_le
    {branch : Branch}
    (h : branch ∈ lambda.branches dispatch closing) :
    ((lambda.branches dispatch closing).head?.map fun first => first.label.start).getD closing ≤
      branch.label.start := by
  have hsorted := pairwise_start_branches lambda dispatch closing
  cases hbranches : lambda.branches dispatch closing with
  | nil =>
      rw [hbranches] at h
      simp at h
  | cons first rest =>
      rw [hbranches] at h hsorted
      rw [List.head?_cons, Option.map_some, Option.getD_some]
      rcases List.mem_cons.mp h with rfl | h
      · exact Nat.le_refl _
      · exact Nat.le_of_lt ((List.pairwise_cons.mp hsorted).1 branch h)

end Branches

end Snippet
end EpaperLayout
