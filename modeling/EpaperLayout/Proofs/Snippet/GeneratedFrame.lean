import EpaperLayout.Proofs.Snippet.CodeShape
import EpaperLayout.Proofs.Snippet.MarkedRoutine

/-!
# A generated snippet stays inside its frame

The banner of a snippet consists of comments, and its routine is an indented block.
Whatever the strings of a device are, none of them ends a comment, the block or the
line it stands on: no line holds a character that a document takes for a line break,
every line of the routine keeps its indentation and is not blank, and the number of
lines depends on the pages and on the kinds of the widgets only.

**Input.**  A device that keeps all rules.

**Results.**
* `isVisible_routineLines`: no line of the routine is blank.
* `length_lines`: the number of lines.
* `generate_staysInFrame`: what the generated text looks like.
-/

namespace EpaperLayout
namespace Snippet

section Visible

/-- A line that does not consist of blanks. -/
def IsVisible (line : List Char) : Prop :=
  ∃ c ∈ line, Text.isBlank c = false

theorem isVisible_indented
    {line : String}
    (h : IsVisible line.toList)
    (blanks : Nat) :
    IsVisible (indented blanks line).toList := by
  obtain ⟨c, hc, hblank⟩ := h
  rw [indented, String.toList_ofList]
  exact ⟨c, List.mem_append_right _ hc, hblank⟩

theorem isVisible_markerLine (tag : MarkerTag) (fields : List WrittenField) :
    IsVisible (markerLine tag fields).toList := by
  rw [toList_markerLine]
  exact ⟨'/', List.mem_cons_self, by decide⟩

/-- Every draw call is a statement. -/
theorem isVisible_drawCalls (widget : Widget) :
    ∀ line ∈ drawCalls widget, IsVisible line.toList := by
  have hbegin : ∀ line ∈ drawFragments widget,
      ∃ rest others, line = .code ('i' :: 't' :: '.' :: rest) :: others := by
    unfold drawFragments
    cases widget.kind with
    | text =>
        rw [List.forall_mem_singleton]
        exact ⟨_, _, rfl⟩
    | value =>
        rw [List.forall_mem_singleton]
        exact ⟨_, _, rfl⟩
    | icon =>
        rw [List.forall_mem_singleton]
        exact ⟨_, _, rfl⟩
    | gauge =>
        rw [List.forall_mem_cons, List.forall_mem_singleton]
        exact ⟨⟨_, _, rfl⟩, _, _, rfl⟩
    | clock =>
        rw [List.forall_mem_singleton]
        exact ⟨_, _, rfl⟩
  intro line hline
  have hmem : line.toList ∈ (drawCalls widget).map String.toList := List.mem_map_of_mem hline
  rw [map_toList_drawCalls, List.mem_map] at hmem
  obtain ⟨fragments, hfragments, heq⟩ := hmem
  obtain ⟨rest, others, rfl⟩ := hbegin fragments hfragments
  rw [← heq, List.flatMap_cons]
  exact ⟨'i', List.mem_append_left _ List.mem_cons_self, by decide⟩

theorem isVisible_pageLines (page : Page) :
    ∀ line ∈ pageLines page, IsVisible line.toList := by
  have hopen : IsVisible (branchOpening page.ordinal).toList := by
    refine ⟨'c', ?_, by decide⟩
    simp [branchOpening, toString_string]
  have hclose : IsVisible "\x7d".toList := ⟨'}', by decide, by decide⟩
  have hbreak : IsVisible "break;".toList := ⟨'b', by decide, by decide⟩
  have hinner : ∀ line ∈ pageMarker page :: page.widgets.flatMap widgetLines ++ ["break;"],
      IsVisible line.toList := by
    rw [List.forall_mem_append, List.forall_mem_cons, List.forall_mem_singleton]
    refine ⟨⟨isVisible_markerLine _ _, ?_⟩, hbreak⟩
    intro line hline
    obtain ⟨widget, -, hmem⟩ := List.mem_flatMap.mp hline
    rw [widgetLines, List.mem_cons] at hmem
    rcases hmem with rfl | hmem
    · exact isVisible_markerLine _ _
    · exact isVisible_drawCalls widget line hmem
  rw [pageLines, List.forall_mem_append, List.forall_mem_append, List.forall_mem_singleton,
    List.forall_mem_singleton, List.forall_mem_map]
  refine ⟨⟨isVisible_indented hopen 2, ?_⟩, isVisible_indented hclose 2⟩
  exact fun line hline => isVisible_indented (hinner line hline) 4

/-- **No line of the routine is blank.** -/
theorem isVisible_routineLines (device : Device) :
    ∀ line ∈ routineLines device, IsVisible line.toList := by
  have hopen : IsVisible dispatchOpening.toList := ⟨'s', by decide, by decide⟩
  have hclose : IsVisible "\x7d".toList := ⟨'}', by decide, by decide⟩
  rw [routineLines, List.forall_mem_append, List.forall_mem_append, List.forall_mem_cons,
    List.forall_mem_singleton, List.forall_mem_singleton]
  refine ⟨⟨⟨isVisible_markerLine _ _, hopen⟩, ?_⟩, hclose⟩
  intro line hline
  obtain ⟨page, -, hmem⟩ := List.mem_flatMap.mp hline
  exact isVisible_pageLines page line hmem

end Visible

section Count

/-- **The number of lines depends on the pages and the draw calls of the widgets only.** -/
theorem length_lines (device : Device) :
    (lines device).length =
      19 + (device.pages.map fun page =>
        4 + (page.widgets.map fun widget => 1 + (drawCalls widget).length).sum).sum := by
  have hroutine : (routineLines device).length = 3 + (device.pages.map pageLineCount).sum := by
    rw [← routineLinesWith_widgetMarker, routineLinesWith, List.length_append, List.length_append,
      List.length_flatMap, funext (length_pageLinesWith _)]
    simp only [List.length_cons, List.length_nil]
    omega
  have hhead : (headLines device).length = 15 := rfl
  rw [lines_eq, List.length_append, List.length_cons, List.length_map, hroutine, hhead]
  change _ = 19 + (device.pages.map pageLineCount).sum
  omega

end Count

section Frame

/-- No character of a snippet is taken for a line break or is a control character, apart from the
line feeds at the ends of the lines. -/
theorem needsOctal_of_mem_joinLines
    {device : Device} {c : Char}
    (h : c ∈ (joinLines (lines device)).toList)
    (hfeed : c ≠ '\n') :
    needsOctal c = false := by
  rw [toList_joinLines] at h
  obtain ⟨line, hline, hmem⟩ := List.mem_flatMap.mp h
  rw [lineText, List.mem_append, List.mem_singleton] at hmem
  rcases hmem with hmem | rfl
  · exact clean_lines device line hline c hmem
  · exact absurd rfl hfeed

/-- The banner consists of comments. -/
theorem begins_bannerLines (device : Device) :
    ∀ line ∈ (bannerLines device).take 3, ['#', ' '] <+: line.toList := by
  rw [bannerLines, List.take_succ_cons, List.forall_mem_cons, toList_bannerLine]
  exact ⟨⟨_, rfl⟩, by decide +kernel⟩

/-- **A generated snippet stays inside its frame.** -/
theorem generate_staysInFrame
    {device : Device}
    (h : device.validate.isValid = true) :
    ∃ text, generate device = .ok text ∧
      (∀ c ∈ text.toList, c ≠ '\n' → Text.isControl c = false) ∧
      (∀ c ∈ text.toList, c.toNat ∉ [0x85, 0x2028, 0x2029, 0xFEFF, 0xFFFE, 0xFFFF]) ∧
      (Text.lines text.toList).length =
        19 + (device.pages.map fun page =>
          4 + (page.widgets.map fun widget => 1 + (drawCalls widget).length).sum).sum ∧
      (∀ line ∈ (Text.lines text.toList).take 3, ['#', ' '] <+: line) ∧
      ∃ before after,
        Text.lines text.toList = before ++ "    lambda: |-".toList :: after ∧
        "    lambda: |-".toList ∉ before ∧
        ∀ line ∈ after, ∃ rest, line = List.replicate 6 ' ' ++ rest ∧ IsVisible rest := by
  have hlines : Text.lines (joinLines (lines device)).toList = (lines device).map String.toList :=
    lines_joinLines (clean_lines device)
  have hsplit : (lines device).map String.toList =
      (headLines device).map String.toList ++ "    lambda: |-".toList ::
        ((routineLines device).map (indented routineIndent)).map String.toList := by
    rw [lines_eq, List.map_append, List.map_cons]
  refine ⟨joinLines (lines device), generate_eq_ok h, ?_, ?_, ?_, ?_,
    (headLines device).map String.toList,
    ((routineLines device).map (indented routineIndent)).map String.toList, ?_, ?_, ?_⟩
  · intro c hc hfeed
    have hclean := needsOctal_of_mem_joinLines hc hfeed
    simp only [needsOctal, Bool.or_eq_false_iff] at hclean
    exact hclean.1.1.1.1.1
  · intro c hc
    by_cases hfeed : c = '\n'
    · rw [hfeed]
      decide
    · have hclean := needsOctal_of_mem_joinLines hc hfeed
      simp only [needsOctal, Text.isControl, Bool.or_eq_false_iff, Bool.and_eq_false_iff,
        decide_eq_false_iff_not, beq_eq_false_iff_ne] at hclean
      simp only [List.mem_cons, List.not_mem_nil, or_false, not_or]
      omega
  · rw [hlines, List.length_map, length_lines]
  · have hbanner : (lines device).take 3 = (bannerLines device).take 3 := by
      rw [lines, List.append_assoc, List.append_assoc]
      exact List.take_append_of_le_length (Nat.le_succ 3)
    rw [hlines, ← List.map_take, hbanner, List.forall_mem_map]
    exact begins_bannerLines device
  · rw [hlines, hsplit]
  · intro hmem
    obtain ⟨line, hline, heq⟩ := List.mem_map.mp hmem
    exact ne_of_mem_headLines hline heq
  · rw [List.map_map, List.forall_mem_map]
    intro line hline
    refine ⟨line.toList, ?_, isVisible_routineLines device line hline⟩
    exact String.toList_ofList

/-- Texts that look like the end of the block do not leave the frame. -/
theorem generate_staysInFrame_signWith :
    (signWith "wifi:\u0085api:" "\u2028ota:" "\n\x00logger:").validate.isValid = true ∧
      ∃ text, generate (signWith "wifi:\u0085api:" "\u2028ota:" "\n\x00logger:") = .ok text ∧
        (∀ c ∈ text.toList, c ≠ '\n' → Text.isControl c = false) ∧
        (∀ c ∈ text.toList, c.toNat ∉ [0x85, 0x2028, 0x2029, 0xFEFF, 0xFFFE, 0xFFFF]) ∧
        (Text.lines text.toList).length = 25 ∧
        (∀ line ∈ (Text.lines text.toList).take 3, ['#', ' '] <+: line) ∧
        ∃ before after,
          Text.lines text.toList = before ++ "    lambda: |-".toList :: after ∧
          "    lambda: |-".toList ∉ before ∧
          ∀ line ∈ after, ∃ rest, line = List.replicate 6 ' ' ++ rest ∧ IsVisible rest := by
  have hvalid :
      (signWith "wifi:\u0085api:" "\u2028ota:" "\n\x00logger:").validate.isValid = true := by
    decide
  exact ⟨hvalid, generate_staysInFrame hvalid⟩

end Frame

end Snippet
end EpaperLayout
