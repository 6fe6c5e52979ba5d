import EpaperLayout.Disk.Path
import Mathlib.Data.List.TakeWhile

/-!
# Steps of a path

The segments of a path that are empty or a single dot stay where they are.  What is
left of a path without them are its *steps*: names, and double dots.  Two paths with
the same steps from the same place lead to the same place.

**Parts.**  Taking a path apart into its parent and its file name loses idle segments
only, and putting another name in place of the file name changes the last step only.

**Results.**
* `steps_trimmed`: idle segments at the end of a path do not count.
* `continues_of_fileName?_eq_some`: a path goes one step further than its parent.
* `continues_withFileName`: so does the path with another file name.
* `fileName?_of_lastSegment`: a path whose last segment is a name has it as its file name.
-/

namespace EpaperLayout
namespace Disk
namespace Path

section Segments

theorem segmentsOf_ne_nil (cs : List Char) : segmentsOf cs ≠ [] := by
  cases cs with
  | nil =>
      exact List.cons_ne_nil _ _
  | cons c rest =>
      rw [segmentsOf]
      split
      · split <;> exact List.cons_ne_nil _ _
      · exact List.cons_ne_nil _ _

theorem segmentsOf_cons_slash (cs : List Char) :
    segmentsOf ('/' :: cs) = [] :: segmentsOf cs := by
  obtain ⟨first, others, hsegments⟩ := List.exists_cons_of_ne_nil (segmentsOf_ne_nil cs)
  rw [segmentsOf, hsegments]
  simp only [if_pos]

/-- A slash separates segments. -/
theorem segmentsOf_append_slash (before after : List Char) :
    segmentsOf (before ++ '/' :: after) = segmentsOf before ++ segmentsOf after := by
  induction before with
  | nil =>
      exact segmentsOf_cons_slash after
  | cons c rest ih =>
      obtain ⟨first, others, hsegments⟩ := List.exists_cons_of_ne_nil (segmentsOf_ne_nil rest)
      rw [hsegments, List.cons_append] at ih
      by_cases hc : c = '/'
      · rw [hc, List.cons_append, segmentsOf_cons_slash, segmentsOf_cons_slash, ih, hsegments]
        rfl
      · rw [List.cons_append, segmentsOf, segmentsOf, ih, hsegments]
        simp only [if_neg hc, List.cons_append]

theorem segmentsOf_of_notMem
    {cs : List Char}
    (h : '/' ∉ cs) :
    segmentsOf cs = [cs] := by
  induction cs with
  | nil =>
      rfl
  | cons c rest ih =>
      rw [List.mem_cons, not_or] at h
      rw [segmentsOf, ih h.2]
      simp only [if_neg (Ne.symm h.1)]

end Segments

section Steps

/-- A segment that stays where it is. -/
def isIdle (segment : String) : Bool :=
  segment = "" || segment = "."

/-- The steps that the characters of a path make. -/
def stepsOf (cs : List Char) : List String :=
  ((segmentsOf cs).map String.ofList).filter fun segment => !isIdle segment

/-- The steps of a path. -/
def steps (path : Path) : List String :=
  stepsOf path.toList

theorem stepsOf_nil : stepsOf [] = [] := by
  simp [stepsOf, segmentsOf, isIdle]

theorem stepsOf_append_slash (before after : List Char) :
    stepsOf (before ++ '/' :: after) = stepsOf before ++ stepsOf after := by
  rw [stepsOf, segmentsOf_append_slash, List.map_append, List.filter_append]
  rfl

theorem stepsOf_name
    {name : String}
    (hslash : '/' ∉ name.toList)
    (hidle : isIdle name = false) :
    stepsOf name.toList = [name] := by
  rw [stepsOf, segmentsOf_of_notMem hslash, List.map_singleton, String.ofList_toList,
    List.filter_cons_of_pos (by rw [hidle]; rfl), List.filter_nil]

/-- Slashes and idle dots at the end of a path make no steps. -/
theorem stepsOf_trimReversed (count : Nat) (reversed : List Char) :
    stepsOf (trimReversed count reversed).reverse = stepsOf reversed.reverse := by
  fun_induction trimReversed count reversed with
  | case1 => rfl
  | case2 => rfl
  | case3 count rest _ ih =>
      rw [ih, List.reverse_cons, stepsOf_append_slash, stepsOf_nil, List.append_nil]
  | case4 count rest ih =>
      have hdot : stepsOf (rest.reverse ++ '/' :: ['.']) = stepsOf (rest.reverse ++ '/' :: []) := by
        rw [stepsOf_append_slash, stepsOf_append_slash]
        rfl
      rw [ih]
      simpa using hdot.symm
  | case5 => rfl

/-- **Idle segments at the end of a path do not count.** -/
theorem steps_trimmed (path : Path) : steps (trimmed path) = steps path := by
  rw [steps, trimmed, String.toList_ofList, stepsOf_trimReversed, List.reverse_reverse]
  rfl

/-- The first character of a path is not trimmed. -/
theorem getLast?_trimReversed (count : Nat) (reversed : List Char) :
    (trimReversed count reversed).getLast? = reversed.getLast? := by
  fun_induction trimReversed count reversed with
  | case1 => rfl
  | case2 => rfl
  | case3 count rest hrest ih =>
      obtain ⟨c, others, rfl⟩ := List.exists_cons_of_ne_nil hrest
      rw [ih, List.getLast?_cons_cons]
  | case4 count rest ih =>
      rw [ih, List.getLast?_cons_cons]
  | case5 => rfl

theorem isAbsolute_trimmed (path : Path) : isAbsolute (trimmed path) = isAbsolute path := by
  rw [isAbsolute, trimmed, String.toList_ofList, List.head?_reverse, getLast?_trimReversed,
    List.getLast?_reverse, isAbsolute]

end Steps

section Parts

/-- The path goes one step further than the base, by the given name. -/
structure Continues (path base : Path) (name : String) : Prop where
  steps_eq : steps path = steps base ++ [name]
  isAbsolute_eq : isAbsolute path = isAbsolute base

/-- The parts of a path before and at its last segment. -/
theorem splitLast_eq (path : Path) :
    (trimmed path).toList = (splitLast path).1.toList ++ (splitLast path).2.toList := by
  rw [splitLast, splitLastReversed, String.toList_ofList, String.toList_ofList,
    ← List.reverse_append, List.takeWhile_append_dropWhile, List.reverse_reverse]

theorem slash_notMem_splitLastReversed (reversed : List Char) :
    '/' ∉ (splitLastReversed reversed).2.reverse := by
  intro hmem
  rw [splitLastReversed, List.mem_reverse] at hmem
  simpa using List.mem_takeWhile_imp hmem

theorem slash_notMem_splitLast (path : Path) : '/' ∉ (splitLast path).2.toList := by
  rw [splitLast, String.toList_ofList]
  exact slash_notMem_splitLastReversed _

theorem splitLastReversed_before (reversed : List Char) :
    (splitLastReversed reversed).1 = [] ∨
      ∃ front, (splitLastReversed reversed).1 = '/' :: front := by
  have hhead := List.head?_dropWhile_not (· ≠ '/') reversed
  rw [splitLastReversed]
  cases hdrop : reversed.dropWhile (· ≠ '/') with
  | nil => exact Or.inl rfl
  | cons c rest =>
      rw [hdrop] at hhead
      have hc : c = '/' := by simpa using hhead
      exact Or.inr ⟨rest, by rw [hc]⟩

/-- What comes before the last segment is nothing, or ends with a slash. -/
theorem splitLast_before (path : Path) :
    (splitLast path).1.toList = [] ∨ ∃ front, (splitLast path).1.toList = front ++ ['/'] := by
  rw [splitLast, String.toList_ofList]
  rcases splitLastReversed_before (trimmed path).toList.reverse with hnil | ⟨front, hfront⟩
  · rw [hnil]
    exact Or.inl rfl
  · rw [hfront]
    exact Or.inr ⟨front.reverse, List.reverse_cons⟩

theorem steps_eq_splitLast (path : Path) :
    steps path = steps (splitLast path).1 ++ stepsOf (splitLast path).2.toList := by
  rw [← steps_trimmed path, steps, splitLast_eq, steps]
  rcases splitLast_before path with hnil | ⟨front, hfront⟩
  · rw [hnil, stepsOf_nil, List.nil_append, List.nil_append]
  · rw [hfront, List.append_assoc, List.singleton_append, stepsOf_append_slash,
      stepsOf_append_slash, stepsOf_nil, List.append_nil]

theorem isAbsolute_splitLast (path : Path) :
    isAbsolute (splitLast path).1 = isAbsolute path := by
  rw [← isAbsolute_trimmed path, isAbsolute, isAbsolute, splitLast_eq]
  rcases splitLast_before path with hnil | ⟨front, hfront⟩
  · have hslash := slash_notMem_splitLast path
    rw [hnil, List.nil_append]
    cases hlast : (splitLast path).2.toList with
    | nil => rfl
    | cons c rest =>
        rw [hlast, List.mem_cons, not_or] at hslash
        simpa using Ne.symm hslash.1
  · rw [hfront, List.append_assoc]
    cases front with
    | nil => rw [List.nil_append, List.nil_append, List.singleton_append, List.head?_cons,
        List.head?_cons]
    | cons c rest => rw [List.cons_append, List.cons_append, List.head?_cons, List.head?_cons]

/-- The parent of a path has all its steps but the last. -/
theorem of_parent?_eq_some
    {path parent : Path}
    (h : parent? path = some parent) :
    (steps parent <+: steps path) ∧ isAbsolute parent = isAbsolute path := by
  have hparent : parent = trimmed (splitLast path).1 := by
    rw [parent?] at h
    dsimp only at h
    split at h
    · cases h
    · exact (Option.some.inj h).symm
  rw [hparent, steps_trimmed, isAbsolute_trimmed, isAbsolute_splitLast, steps_eq_splitLast path]
  exact ⟨List.prefix_append _ _, rfl⟩

theorem splitLast_of_fileName?_eq_some
    {path : Path} {name : String}
    (h : fileName? path = some name) :
    (splitLast path).2 = name ∧ name ≠ "" ∧ name ≠ "." ∧ name ≠ ".." := by
  rw [fileName?] at h
  split at h
  · cases h
  · next hlast =>
    rw [Option.some.inj h] at hlast
    simp only [Bool.or_eq_true, decide_eq_true_eq, String.isEmpty_iff, not_or] at hlast
    exact ⟨Option.some.inj h, hlast.1.1, hlast.1.2, hlast.2⟩

/-- **A path goes one step further than its parent**, by its file name. -/
theorem continues_of_fileName?_eq_some
    {path : Path} {name : String}
    (h : fileName? path = some name) :
    Continues path ((parent? path).getD "") name := by
  obtain ⟨hlast, hempty, hdot, -⟩ := splitLast_of_fileName?_eq_some h
  have hslash := slash_notMem_splitLast path
  have hparent : parent? path = some (trimmed (splitLast path).1) := by
    rw [parent?]
    simp [hlast, hempty]
  have hidle : isIdle name = false := by
    simp [isIdle, hempty, hdot]
  rw [hlast] at hslash
  constructor
  · rw [hparent, Option.getD_some, steps_trimmed, steps_eq_splitLast, hlast,
      stepsOf_name hslash hidle]
  · rw [hparent, Option.getD_some, isAbsolute_trimmed, isAbsolute_splitLast]

theorem isAbsolute_of_slash_notMem
    {name : String}
    (h : '/' ∉ name.toList) :
    isAbsolute name = false := by
  rw [isAbsolute]
  cases hname : name.toList with
  | nil => rfl
  | cons c rest =>
      rw [hname, List.mem_cons, not_or] at h
      simpa using Ne.symm h.1

/-- A path that is continued by a name goes one step further. -/
theorem continues_join
    (base : Path)
    {name : String}
    (hslash : '/' ∉ name.toList)
    (hidle : isIdle name = false) :
    Continues (join base name) base name := by
  have hrelative := isAbsolute_of_slash_notMem hslash
  have hsteps := stepsOf_name hslash hidle
  by_cases hempty : base = ""
  · have hjoin : join base name = name := by
      simp [join, hempty]
    rw [hjoin, hempty]
    exact ⟨hsteps, hrelative⟩
  · have hhead : ∀ rest : List Char, (base.toList ++ rest).head? = base.toList.head? := by
      intro rest
      have hne : base.toList ≠ [] := by simpa using hempty
      obtain ⟨c, others, hbase⟩ := List.exists_cons_of_ne_nil hne
      rw [hbase]
      rfl
    by_cases hslash : base.toList.getLast? = some '/'
    · obtain ⟨front, hfront⟩ := List.getLast?_eq_some_iff.mp hslash
      have hjoin : (join base name).toList = base.toList ++ name.toList := by
        simp [join, hrelative, hslash]
      constructor
      · rw [steps, steps, hjoin, hfront, List.append_assoc, List.singleton_append,
          stepsOf_append_slash, stepsOf_append_slash, stepsOf_nil, List.append_nil, hsteps]
      · rw [isAbsolute, isAbsolute, hjoin, hhead]
    · have hjoin : (join base name).toList = base.toList ++ '/' :: name.toList := by
        simp [join, hrelative, hslash, hempty]
      constructor
      · rw [steps, steps, hjoin, stepsOf_append_slash, hsteps]
      · rw [isAbsolute, isAbsolute, hjoin, hhead]

/-- A path that is continued by a name ends with it. -/
theorem getLast?_segments_join
    (base : Path)
    {name : String}
    (hslash : '/' ∉ name.toList) :
    (segments (join base name)).getLast? = some name := by
  have hrelative := isAbsolute_of_slash_notMem hslash
  have hlast (before : List Char) :
      (segmentsOf (before ++ '/' :: name.toList)).getLast? = some name.toList := by
    rw [segmentsOf_append_slash, segmentsOf_of_notMem hslash, List.getLast?_concat]
  rw [segments, List.getLast?_map]
  by_cases hempty : base = ""
  · have hjoin : join base name = name := by
      simp [join, hempty]
    rw [hjoin, segmentsOf_of_notMem hslash]
    simp
  · by_cases hend : base.toList.getLast? = some '/'
    · obtain ⟨front, hfront⟩ := List.getLast?_eq_some_iff.mp hend
      have hjoin : (join base name).toList = front ++ '/' :: name.toList := by
        simp [join, hrelative, hfront]
      rw [hjoin, hlast]
      simp
    · have hjoin : (join base name).toList = base.toList ++ '/' :: name.toList := by
        simp [join, hrelative, hend, hempty]
      rw [hjoin, hlast]
      simp

/-- **A path with another file name goes one step further** than the parent. -/
theorem continues_withFileName
    {path : Path} {name other : String}
    (h : fileName? path = some name)
    (hslash : '/' ∉ other.toList)
    (hidle : isIdle other = false) :
    Continues (withFileName path other) ((parent? path).getD "") other := by
  rw [withFileName, h]
  exact continues_join _ hslash hidle

/-- The last segment is what follows the last slash. -/
theorem getLast?_segmentsOf (cs : List Char) :
    (segmentsOf cs).getLast? = some (splitLastReversed cs.reverse).2.reverse := by
  have hparts : cs = (splitLastReversed cs.reverse).1.reverse ++
      (splitLastReversed cs.reverse).2.reverse := by
    rw [← List.reverse_append, splitLastReversed, List.takeWhile_append_dropWhile,
      List.reverse_reverse]
  have hlast := segmentsOf_of_notMem (slash_notMem_splitLastReversed cs.reverse)
  rcases splitLastReversed_before cs.reverse with hnil | ⟨front, hfront⟩
  · rw [hnil, List.reverse_nil, List.nil_append] at hparts
    rw [congrArg segmentsOf hparts, hlast]
    rfl
  · rw [hfront, List.reverse_cons, List.append_assoc, List.singleton_append] at hparts
    rw [congrArg segmentsOf hparts, segmentsOf_append_slash, hlast, List.getLast?_concat]

/-- The last segment of a path. -/
def lastSegment (path : Path) : String :=
  (segments path).getLast?.getD ""

theorem lastSegment_eq (path : Path) :
    lastSegment path = String.ofList (splitLastReversed path.toList.reverse).2.reverse := by
  rw [lastSegment, segments, List.getLast?_map, getLast?_segmentsOf]
  rfl

/-- Nothing is trimmed behind a last segment that is neither empty nor a dot. -/
theorem trimReversed_eq_self
    {reversed : List Char}
    (hempty : (splitLastReversed reversed).2 ≠ [])
    (hdot : (splitLastReversed reversed).2 ≠ ['.'])
    (count : Nat) :
    trimReversed count reversed = reversed := by
  cases count with
  | zero => rfl
  | succ count =>
      unfold trimReversed
      split
      · rfl
      · exact absurd (by simp [splitLastReversed]) hempty
      · exact absurd (by simp [splitLastReversed]) hdot
      · rfl

/-- **A path whose last segment is a name has it as its file name.** -/
theorem fileName?_of_lastSegment
    {path : Path}
    (hidle : isIdle (lastSegment path) = false)
    (hdots : lastSegment path ≠ "..") :
    fileName? path = some (lastSegment path) := by
  rw [isIdle, Bool.or_eq_false_iff, decide_eq_false_iff_not, decide_eq_false_iff_not] at hidle
  obtain ⟨hempty, hdot⟩ := hidle
  have hlast := lastSegment_eq path
  have htrim : trimReversed path.length path.toList.reverse = path.toList.reverse := by
    refine trimReversed_eq_self ?_ ?_ _
    · intro hnil
      rw [hnil] at hlast
      exact hempty hlast
    · intro hsingle
      rw [hsingle] at hlast
      exact hdot hlast
  have hsplit : (splitLast path).2 = lastSegment path := by
    rw [splitLast, trimmed, htrim, hlast, String.toList_ofList, List.reverse_reverse]
  rw [fileName?, hsplit]
  simp [hempty, hdot, hdots]

end Parts

section Extensions

/-- A file name is what comes before its extension, with or without a dot and one without dots. -/
theorem stem_cases (name : String) :
    stem name = name ∨
      ∃ extension, name.toList = (stem name).toList ++ '.' :: extension ∧ '.' ∉ extension := by
  obtain ⟨reversed, hreversed⟩ : ∃ reversed, name.toList.reverse = reversed := ⟨_, rfl⟩
  have hparts := List.takeWhile_append_dropWhile (p := (· ≠ '.')) (l := reversed)
  have hhead := List.head?_dropWhile_not (· ≠ '.') reversed
  rw [stem, hreversed]
  split
  · next dot before hdrop =>
    split
    · exact Or.inl rfl
    · rw [hdrop] at hparts hhead
      have hdot : dot = '.' := by simpa using hhead
      refine Or.inr ⟨(reversed.takeWhile (· ≠ '.')).reverse, ?_, ?_⟩
      · have hname : name.toList = reversed.reverse := by
          rw [← hreversed, List.reverse_reverse]
        rw [hname, ← congrArg List.reverse hparts, hdot, String.toList_ofList]
        simp
      · intro hmem
        rw [List.mem_reverse] at hmem
        simpa using List.mem_takeWhile_imp hmem
  · exact Or.inl rfl

theorem mem_of_mem_stem
    {name : String} {c : Char}
    (h : c ∈ (stem name).toList) :
    c ∈ name.toList := by
  rcases stem_cases name with heq | ⟨extension, hname, -⟩
  · rwa [heq] at h
  · rw [hname]
    exact List.mem_append_left _ h

/-- An extension with a dot in it makes another name. -/
theorem stem_append_ne
    {extension : String}
    (h : '.' ∈ extension.toList)
    (name : String) :
    stem name ++ "." ++ extension ≠ name := by
  intro heq
  have hlist : (stem name).toList ++ '.' :: extension.toList = name.toList := by
    rw [← String.toList_inj] at heq
    simpa using heq
  rcases stem_cases name with hstem | ⟨other, hname, hdot⟩
  · rw [hstem] at hlist
    simpa using congrArg List.length hlist
  · rw [hname] at hlist
    have hother := (List.cons.inj (List.append_cancel_left hlist)).2
    exact hdot (hother ▸ h)

theorem withExtension_of_some
    {path : Path} {name : String}
    (h : fileName? path = some name)
    (extension : String) :
    withExtension path extension = withFileName path (stem name ++ "." ++ extension) := by
  delta withExtension
  rw [h]

theorem withExtension_of_none
    {path : Path}
    (h : fileName? path = none)
    (extension : String) :
    withExtension path extension = path := by
  delta withExtension
  rw [h]

end Extensions

end Path
end Disk
end EpaperLayout
