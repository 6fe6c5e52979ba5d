import EpaperLayout.Proofs.Snippet.BraceDepth
import EpaperLayout.Proofs.Snippet.BranchOrder
import EpaperLayout.Proofs.Snippet.VisiblePlaces

/-!
# Finding the branches of a dispatch

The branches of a dispatch begin at the labels of its block outside all inner
blocks.  They are found in one pass over the labels, which adds up the depth of
braces from one label to the next and goes on behind the labels of inner blocks
without keeping them.

**Definitions.**
* `Branch.Covers`: where the body of a branch is.
* `Lambda.scanLabels`: the pass over the labels.
* `TopLevelBranches`: what the branches of a block are.

**Results.**
* `scanLabels_eq_filter`: the pass keeps the labels at depth zero.
* `mem_branchLabels_iff`, `exists_matchingBrace?_lt_start`: the labels of branches, in
  terms of braces and of inner blocks.
* `branch_bounds`, `pairwise_not_covers`: where the branches reach.
* `topLevelBranches_branches`: the branches of every dispatch whose block is closed.
-/

namespace EpaperLayout
namespace Snippet

/-- The offset is in the body of the branch, which begins behind the label. -/
def Branch.Covers (branch : Branch) (offset : Nat) : Prop :=
  branch.label.stop ≤ offset ∧ offset < branch.stop

namespace Lambda

/-- The place is a character of code, in neither a comment nor a literal. -/
def IsCodeAt (lambda : Lambda) (place : Located) : Prop :=
  ∃ before after, pieces lambda.text = before ++ .code place.char :: after ∧
    place.offset = Text.byteSize (before.flatMap Piece.text)

/-- The labels at depth zero, found in one pass.  The label before ends at `reach`, so none begins
ahead of it; at `scanned` the depth is `depth`. -/
def scanLabels (lambda : Lambda) (reach scanned : Nat) (depth : Int) : List Label → List Label
  | [] => []
  | label :: rest =>
    if label.start < reach then lambda.scanLabels reach scanned depth rest
    else
      let here := depth + lambda.depthChange scanned label.start
      let others := lambda.scanLabels label.stop label.start here rest
      if here = 0 then label :: others else others

end Lambda

/-- The branches of a block whose braces stand at `opening` and `closing`. -/
structure TopLevelBranches (lambda : Lambda) (opening closing : Nat) (branches : List Branch) :
    Prop where
  /-- They come in the order of the text. -/
  inOrder : branches.Pairwise fun a b => a.label.start < b.label.start
  /-- They begin at the labels before which the block has as many opening as closing braces. -/
  labels : ∀ label, (∃ branch ∈ branches, branch.label = label) ↔
    label.StandsIn none (lambda.codeIn (opening + 1) closing) ∧
      lambda.countIn '{' (opening + 1) label.start = lambda.countIn '}' (opening + 1) label.start
  /-- One pass over the labels finds them. -/
  inOnePass : branches.map Branch.label =
    lambda.scanLabels (opening + 1) (opening + 1) 0 (lambda.labelsIn (opening + 1) closing)
  /-- Every inner block that opens before a label is closed before it. -/
  outsideBlocks : ∀ branch ∈ branches,
    ∀ brace ∈ lambda.codeIn (opening + 1) branch.label.start, brace.char = '{' →
      ∃ inner, lambda.matchingBrace? brace.offset = some inner ∧ inner < branch.label.start
  /-- No visible character of a label is part of a comment or a literal. -/
  inCode : ∀ branch ∈ branches,
    ∀ place ∈ lambda.codeIn branch.label.start branch.label.stop,
      Text.isBlank place.char = false → lambda.IsCodeAt place
  /-- Nowhere in the block have more inner blocks been closed than opened. -/
  neverNegative : ∀ offset, opening < offset → offset ≤ closing →
    lambda.countIn '}' (opening + 1) offset ≤ lambda.countIn '{' (opening + 1) offset
  /-- A branch reaches to the next label, the last one to the closing brace. -/
  reach : ∀ i branch, branches[i]? = some branch →
    branch.stop = (branches[i + 1]?.map fun next => next.label.start).getD closing
  /-- Labels and bodies lie inside the block. -/
  inside : ∀ branch ∈ branches, opening < branch.label.start ∧
    branch.label.start < branch.label.stop ∧ branch.label.stop ≤ branch.stop ∧
    branch.stop ≤ closing
  /-- No offset is in two bodies. -/
  apart : branches.Pairwise fun a b => ∀ offset, a.Covers offset → ¬b.Covers offset

section Pass

variable {lambda : Lambda} {start stop : Nat}

theorem depthChange_self (lambda : Lambda) (start : Nat) : lambda.depthChange start start = 0 := by
  have h := depthChange_add lambda (Nat.le_refl start) (Nat.le_refl start)
  omega

/-- **The pass keeps the labels at depth zero,** since the depth at the label before is that
from the start on. -/
theorem scanLabels_eq_filter
    {labels : List Label} {reach scanned : Nat}
    (hstart : start ≤ scanned)
    (hscanned : ∀ label ∈ labels, scanned ≤ label.start)
    (hreach : ∀ label ∈ labels, reach ≤ label.start)
    (hlabels : labels.Pairwise fun a b => a.start < b.start)
    (happart : labels.Pairwise fun a b => a.stop ≤ b.start) :
    lambda.scanLabels reach scanned (lambda.depthChange start scanned) labels =
      labels.filter fun label => lambda.depthChange start label.start = 0 := by
  induction labels generalizing reach scanned with
  | nil =>
      rfl
  | cons label rest ih =>
      obtain ⟨hfirst, hrest⟩ := List.pairwise_cons.mp hlabels
      obtain ⟨hstop, hstops⟩ := List.pairwise_cons.mp happart
      have hlabel := hscanned label List.mem_cons_self
      have hothers := ih (Nat.le_trans hstart hlabel)
        (fun other hother => Nat.le_of_lt (hfirst other hother)) hstop hrest hstops
      have hnot : ¬label.start < reach := Nat.not_lt.mpr (hreach label List.mem_cons_self)
      rw [Lambda.scanLabels, if_neg hnot]
      simp only [depthChange_add lambda hstart hlabel, hothers]
      by_cases hzero : lambda.depthChange start label.start = 0
      · rw [if_pos hzero, List.filter_cons_of_pos (by simpa using hzero)]
      · rw [if_neg hzero, List.filter_cons_of_neg (by simpa using hzero)]

variable (lambda start stop)

/-- The labels of branches are those that one pass over the code finds. -/
theorem scanLabels_labelsIn :
    lambda.scanLabels start start 0 (lambda.labelsIn start stop) =
      lambda.branchLabels start stop := by
  have hplaces := pairwise_offset_codeIn lambda start stop
  have hbehind : ∀ label ∈ lambda.labelsIn start stop, start ≤ label.start := by
    intro label hlabel
    obtain ⟨⟨place, hplace, hlabelStart⟩, -⟩ := mem_labelsAfter hplaces hlabel
    rw [hlabelStart]
    exact (bounds_of_mem_codeIn hplace).1
  rw [Lambda.branchLabels, ← scanLabels_eq_filter (Nat.le_refl start) hbehind hbehind
    (pairwise_labelsAfter hplaces) (pairwise_stop_labelsAfter hplaces), depthChange_self]

end Pass

section Labels

variable {lambda : Lambda} {start stop : Nat} {label : Label}

/-- **A label of a branch stands where as many braces have opened as closed.** -/
theorem mem_branchLabels_iff :
    label ∈ lambda.branchLabels start stop ↔
      label.StandsIn none (lambda.codeIn start stop) ∧
        lambda.countIn '{' start label.start = lambda.countIn '}' start label.start := by
  rw [Lambda.branchLabels, List.mem_filter, Lambda.labelsIn, mem_labelsAfter_iff_standsIn,
    decide_eq_true_eq, depthChange_eq_sub, Int.sub_eq_zero, Int.ofNat_inj]

/-- A label ends inside the range that it is found in. -/
theorem branchLabel_stop_le
    (h : label ∈ lambda.branchLabels start stop) :
    label.stop ≤ stop := by
  obtain ⟨before, text, after, hplaces, -, htext⟩ := (mem_branchLabels_iff.mp h).1
  obtain ⟨colon, hcolon, hstop⟩ := Option.map_eq_some_iff.mp htext.stop
  have hmem : colon ∈ lambda.codeIn start stop := by
    rw [hplaces]
    exact List.mem_append_left _ (List.mem_append_right _ (List.mem_of_getLast? hcolon))
  have hbound := (bounds_of_mem_codeIn hmem).2
  omega

theorem pairwise_stop_branchLabels (lambda : Lambda) (start stop : Nat) :
    (lambda.branchLabels start stop).Pairwise fun a b => a.stop ≤ b.start :=
  (pairwise_stop_labelsAfter (pairwise_offset_codeIn lambda start stop)).filter _

/-- **A block has never more closing than opening braces,** as far as one reads. -/
theorem countIn_close_le_countIn_open
    {opening closing offset : Nat}
    (hclosed : lambda.matchingBrace? opening = some closing)
    (hopening : opening < offset)
    (hclosing : offset ≤ closing) :
    lambda.countIn '}' (opening + 1) offset ≤ lambda.countIn '{' (opening + 1) offset := by
  have hdepth := depthChange_nonneg_of_matchingBrace? hclosed hopening hclosing
  rw [depthChange_eq_sub] at hdepth
  omega

/-- **No label of a branch is inside an inner block:** one that opens before the label is closed
before it. -/
theorem exists_matchingBrace?_lt_start
    {opening closing : Nat}
    (hclosed : lambda.matchingBrace? opening = some closing)
    (h : label ∈ lambda.branchLabels (opening + 1) closing)
    {brace : Located}
    (hbrace : brace ∈ lambda.codeIn (opening + 1) label.start)
    (hchar : brace.char = '{') :
    ∃ inner, lambda.matchingBrace? brace.offset = some inner ∧ inner < label.start := by
  obtain ⟨hlow, hhigh⟩ := bounds_of_mem_codeIn hbrace
  obtain ⟨-, hlabel, -⟩ := branchLabel_bounds h
  have hzero : lambda.depthChange (opening + 1) label.start = 0 := by
    simpa using (List.mem_filter.mp h).2
  have hbefore : 0 ≤ lambda.depthChange (opening + 1) brace.offset :=
    depthChange_nonneg_of_matchingBrace? hclosed hlow (by omega)
  have hsum := depthChange_add lambda hlow (Nat.le_of_lt hhigh)
  exact exists_matchingBrace?_lt (List.mem_filter.mp hbrace).1 hchar hhigh (by omega)

/-- **A visible character of the code is in neither a comment nor a literal.** -/
theorem isCodeAt_of_mem_codeIn
    {place : Located}
    (h : place ∈ lambda.codeIn start stop)
    (hvisible : Text.isBlank place.char = false) :
    lambda.IsCodeAt place := by
  obtain ⟨before, after, hpieces, hoffset⟩ :=
    exists_code_of_mem_masked (List.mem_filter.mp h).1 hvisible
  exact ⟨before, after, hpieces, by rw [hoffset, Nat.zero_add]⟩

end Labels

section Bodies

variable {stop : Nat} {labels : List Label}

/-- A branch reaches to the label of the next one. -/
theorem stop_of_getElem?_branchesOf
    {i : Nat} {branch : Branch}
    (h : (branchesOf stop labels)[i]? = some branch) :
    branch.stop =
      ((branchesOf stop labels)[i + 1]?.map fun next => next.label.start).getD stop := by
  fun_induction branchesOf stop labels generalizing i with
  | case1 =>
      cases h
  | case2 label =>
      cases i with
      | zero =>
          obtain rfl := Option.some.inj h
          rfl
      | succ i =>
          cases h
  | case3 label next rest ih =>
      cases i with
      | zero =>
          obtain rfl := Option.some.inj h
          cases rest <;> rfl
      | succ i =>
          rw [List.getElem?_cons_succ] at h ⊢
          exact ih h

/-- Every branch ends behind its label if the labels do not overlap. -/
theorem label_stop_le_of_mem_branchesOf
    {branch : Branch}
    (hlabels : ∀ label ∈ labels, label.stop ≤ stop)
    (happart : labels.Pairwise fun a b => a.stop ≤ b.start)
    (h : branch ∈ branchesOf stop labels) :
    branch.label.stop ≤ branch.stop := by
  fun_induction branchesOf stop labels with
  | case1 =>
      cases h
  | case2 label =>
      obtain rfl := List.mem_singleton.mp h
      exact hlabels label List.mem_cons_self
  | case3 label next rest ih =>
      obtain ⟨hnext, hrest⟩ := List.pairwise_cons.mp happart
      rcases List.mem_cons.mp h with rfl | h
      · exact hnext next List.mem_cons_self
      · exact ih (fun other hother => hlabels other (List.mem_cons_of_mem _ hother)) hrest h

variable {lambda : Lambda} {dispatch : Dispatch} {closing : Nat}

theorem label_mem_branchLabels
    {branch : Branch}
    (h : branch ∈ lambda.branches dispatch closing) :
    branch.label ∈ lambda.branchLabels (dispatch.opening + 1) closing :=
  label_mem_of_mem_branchesOf h

/-- A branch and its label lie in the block of the dispatch. -/
theorem branch_bounds
    {branch : Branch}
    (h : branch ∈ lambda.branches dispatch closing) :
    dispatch.opening < branch.label.start ∧ branch.label.start < branch.label.stop ∧
      branch.label.stop ≤ branch.stop ∧ branch.stop ≤ closing := by
  obtain ⟨hlow, -, hlt⟩ := branchLabel_bounds (label_mem_branchLabels h)
  refine ⟨hlow, hlt, ?_, branch_stop_le lambda dispatch closing h⟩
  exact label_stop_le_of_mem_branchesOf (fun _ hlabel => branchLabel_stop_le hlabel)
    (pairwise_stop_branchLabels lambda _ closing) h

/-- **No offset is in the bodies of two branches.** -/
theorem pairwise_not_covers (lambda : Lambda) (dispatch : Dispatch) (closing : Nat) :
    (lambda.branches dispatch closing).Pairwise
      fun a b => ∀ offset, a.Covers offset → ¬b.Covers offset := by
  refine (pairwise_branches lambda dispatch closing).imp_of_mem ?_
  rintro a b - hb hstop offset ⟨-, hend⟩ ⟨hbegin, -⟩
  have hlabel := (branch_bounds hb).2.1
  omega

end Bodies

/-- **The branches of a dispatch whose block is closed.** -/
theorem topLevelBranches_branches
    {lambda : Lambda} {dispatch : Dispatch} {closing : Nat}
    (hclosed : lambda.matchingBrace? dispatch.opening = some closing) :
    TopLevelBranches lambda dispatch.opening closing (lambda.branches dispatch closing) where
  inOrder := pairwise_start_branches lambda dispatch closing
  labels := by
    intro label
    rw [← mem_branchLabels_iff, ← map_label_branches, List.mem_map]
  inOnePass := by
    rw [scanLabels_labelsIn, map_label_branches]
  outsideBlocks := by
    intro branch hbranch brace hbrace hchar
    exact exists_matchingBrace?_lt_start hclosed (label_mem_branchLabels hbranch) hbrace hchar
  inCode := by
    intro branch _ place hplace hvisible
    exact isCodeAt_of_mem_codeIn hplace hvisible
  neverNegative := by
    intro offset hopening hclosing
    exact countIn_close_le_countIn_open hclosed hopening hclosing
  reach := by
    intro i branch hbranch
    exact stop_of_getElem?_branchesOf hbranch
  inside := by
    intro branch hbranch
    exact branch_bounds hbranch
  apart := pairwise_not_covers lambda dispatch closing

/-- A dispatch with a nested switch, and with labels in a comment and in a literal. -/
def nestedSwitch : Lambda :=
  .ofText <|
    "switch(id(display_page))\x7b\n" ++
    "case 0: switch(x)\x7bcase 7: \x7b\x7d default: \x7d\n" ++
    "// case 8:\n" ++
    "case 1: f(\"default:\");\n" ++
    "default: \x7d"

/-- Its first switch. -/
def outerSwitch : Dispatch where
  start := 0
  opening := 24

/-- It has three branches, though it holds more labels. -/
theorem topLevelBranches_nestedSwitch :
    nestedSwitch.matchingBrace? outerSwitch.opening = some 109 ∧
      ((nestedSwitch.branches outerSwitch 109).map fun branch => branch.label.digits) =
        [some ['0'], some ['1'], none] ∧
      TopLevelBranches nestedSwitch outerSwitch.opening 109
        (nestedSwitch.branches outerSwitch 109) := by
  have hspelled : nestedSwitch = { text := _ } :=
    Lambda.ofText_eq (toList_append_eq (toList_append_eq (toList_append_eq (toList_append_eq
      String.toList_ofList String.toList_ofList) String.toList_ofList) String.toList_ofList)
        String.toList_ofList)
  have hclosed : nestedSwitch.matchingBrace? outerSwitch.opening = some 109 := by
    rewrite [hspelled]
    decide +kernel
  refine ⟨hclosed, ?_, topLevelBranches_branches hclosed⟩
  rewrite [hspelled]
  decide +kernel

end Snippet
end EpaperLayout
