import EpaperLayout.Proofs.Snippet.RoutineFragments
import EpaperLayout.Text.Lines

/-!
# The lines of a generated snippet

No string of a device brings a line break or a control character into the
snippet, so that the lines that are written are the lines that are read, and the
routine is what stands behind the line that opens its block, without the
indentation.

**Results.**
* `clean_lines`: no line holds a control character or a line break.
* `lines_joinLines`: clean lines that are put together are found again.
* `routineOfSnippet_joinLines`: the routine is found in the snippet.
-/

namespace EpaperLayout
namespace Snippet

section Clean

theorem clean_indented
    {line : String}
    (h : Clean line.toList)
    (blanks : Nat) :
    Clean (indented blanks line).toList := by
  have hblanks : Clean (List.replicate blanks ' ') := by
    intro c hc
    rw [List.eq_of_mem_replicate hc]
    decide
  rw [indented, String.toList_ofList]
  exact hblanks.append h

theorem clean_toDigits (n : Nat) : Clean (Nat.toDigits 10 n) :=
  fun c hc => (plain_toDigits n c hc).1

theorem clean_stringLiteral (s : String) : Clean (stringLiteral s).toList := by
  have hquote : Clean ['"'] := by decide
  rw [stringLiteral, String.toList_ofList]
  exact (hquote.append (clean_escapeChars _)).append hquote

theorem clean_markerLine
    {fields : List WrittenField}
    (tag : MarkerTag)
    (h : ∀ field ∈ fields, field.Sound) :
    Clean (markerLine tag fields).toList := by
  have hslashes : Clean ['/', '/'] := by decide
  rw [toList_markerLine]
  exact hslashes.append (clean_markerBody tag h)

theorem clean_drawCalls (widget : Widget) :
    ∀ line ∈ drawCalls widget, Clean line.toList := by
  intro line hline
  have hmem : line.toList ∈ (drawCalls widget).map String.toList := List.mem_map_of_mem hline
  rw [map_toList_drawCalls, List.mem_map] at hmem
  obtain ⟨fragments, hfragments, heq⟩ := hmem
  rw [← heq]
  intro c hc
  obtain ⟨fragment, hfragment, hmem⟩ := List.mem_flatMap.mp hc
  exact (onOneLine_drawFragments widget fragments hfragments fragment hfragment).clean_text c hmem

theorem clean_pageLines (page : Page) :
    ∀ line ∈ pageLines page, Clean line.toList := by
  have hopen : Clean (branchOpening page.ordinal).toList := by
    have hcase : Clean "case ".toList := by decide
    have hbrace : Clean ": \x7b".toList := by decide
    have hsplit : (branchOpening page.ordinal).toList =
        "case ".toList ++ Nat.toDigits 10 page.ordinal.toNat ++ ": \x7b".toList := by
      simp [branchOpening, toString_string]
    rw [hsplit]
    exact (hcase.append (clean_toDigits _)).append hbrace
  have hclose : Clean "\x7d".toList := by decide
  have hbreak : Clean "break;".toList := by decide
  have hinner : ∀ line ∈ pageMarker page :: page.widgets.flatMap widgetLines ++ ["break;"],
      Clean line.toList := by
    rw [List.forall_mem_append, List.forall_mem_cons, List.forall_mem_singleton]
    refine ⟨⟨clean_markerLine .page (sound_pageFields page), ?_⟩, hbreak⟩
    intro line hline
    obtain ⟨widget, -, hmem⟩ := List.mem_flatMap.mp hline
    rw [widgetLines, List.mem_cons] at hmem
    rcases hmem with rfl | hmem
    · exact clean_markerLine .widget (sound_widgetFields widget)
    · exact clean_drawCalls widget line hmem
  rw [pageLines, List.forall_mem_append, List.forall_mem_append, List.forall_mem_singleton,
    List.forall_mem_singleton, List.forall_mem_map]
  refine ⟨⟨clean_indented hopen 2, ?_⟩, clean_indented hclose 2⟩
  intro line hline
  exact clean_indented (hinner line hline) 4

theorem clean_routineLines (device : Device) :
    ∀ line ∈ routineLines device, Clean line.toList := by
  have hopen : Clean dispatchOpening.toList := by decide
  have hclose : Clean "\x7d".toList := by decide
  rw [routineLines, List.forall_mem_append, List.forall_mem_append, List.forall_mem_cons,
    List.forall_mem_singleton, List.forall_mem_singleton]
  refine ⟨⟨⟨clean_markerLine .device (sound_deviceFields device), hopen⟩, ?_⟩, hclose⟩
  intro line hline
  obtain ⟨page, -, hmem⟩ := List.mem_flatMap.mp hline
  exact clean_pageLines page line hmem

theorem toList_bannerLine (device : Device) :
    (s!"# Pagecraft display snippet for " ++ stringLiteral device.name
      ++ s!" ({escape device.id})").toList =
      "# Pagecraft display snippet for ".toList ++ (stringLiteral device.name).toList ++
        (" (".toList ++ escapeChars device.id.toList ++ ")".toList) := by
  simp [toString_string, escape]

/-- **No line of a snippet holds a control character or a line break.** -/
theorem clean_lines (device : Device) :
    ∀ line ∈ lines device, Clean line.toList := by
  have hbanner : ∀ line ∈ bannerLines device, Clean line.toList := by
    have hfirst : Clean "# Pagecraft display snippet for ".toList := by decide
    have hopen : Clean " (".toList := by decide
    have hclose : Clean ")".toList := by decide
    rw [bannerLines, List.forall_mem_cons, toList_bannerLine]
    refine ⟨?_, by decide +kernel⟩
    exact (hfirst.append (clean_stringLiteral _)).append
      ((hopen.append (clean_escapeChars _)).append hclose)
  have hglobals : ∀ line ∈ globalsLines, Clean line.toList := by
    decide +kernel
  have hdisplay : ∀ line ∈ displayLines, Clean line.toList := by
    decide +kernel
  rw [lines, List.forall_mem_append, List.forall_mem_append, List.forall_mem_append,
    List.forall_mem_map]
  refine ⟨⟨⟨hbanner, hglobals⟩, hdisplay⟩, ?_⟩
  intro line hline
  exact clean_indented (clean_routineLines device line hline) routineIndent

end Clean

section Lines

theorem linesFrom_append
    {line : List Char}
    (h : Clean line)
    (read rest : List Char)
    (hread : Clean read) :
    Text.linesFrom read (line ++ '\n' :: rest) =
      (read.reverse ++ line) :: Text.linesFrom [] rest := by
  induction line generalizing read with
  | nil =>
      have hreturn : read.head? ≠ some '\r' := by
        intro hhead
        have hmem := List.mem_of_head? hhead
        exact Bool.false_ne_true ((hread _ hmem).symm.trans (by decide))
      have hdrop : Text.dropReturn read.reverse = read.reverse := by
        rw [Text.dropReturn, List.getLast?_reverse, if_neg hreturn]
      rw [List.nil_append, Text.linesFrom, if_pos rfl, hdrop, List.append_nil]
  | cons c line ih =>
      have hc := h c List.mem_cons_self
      have hfeed : c ≠ '\n' := by
        rintro rfl
        exact Bool.false_ne_true (hc.symm.trans (by decide))
      have hline : Clean line := fun d hd => h d (List.mem_cons_of_mem _ hd)
      have hread' : Clean (c :: read) := by
        intro d hd
        rcases List.mem_cons.mp hd with rfl | hd
        · exact hc
        · exact hread d hd
      rw [List.cons_append, Text.linesFrom, if_neg hfeed, ih hline _ hread']
      simp

/-- **Clean lines that are put together are found again.** -/
theorem lines_joinLines
    {lines : List String}
    (h : ∀ line ∈ lines, Clean line.toList) :
    Text.lines (joinLines lines).toList = lines.map String.toList := by
  rw [toList_joinLines, Text.lines]
  induction lines with
  | nil =>
      rfl
  | cons line rest ih =>
      have hline := h line List.mem_cons_self
      have hrest : ∀ other ∈ rest, Clean other.toList :=
        fun other hother => h other (List.mem_cons_of_mem _ hother)
      rw [List.flatMap_cons, lineText, List.append_assoc, List.singleton_append,
        linesFrom_append hline _ _ (by decide), ih hrest]
      rfl

end Lines

section Routine

/-- The lines behind the one that opens the block of the routine, without their indentation. -/
def routineOfSnippet (snippet : String) : String :=
  "\n".intercalate
    ((((Text.lines snippet.toList).dropWhile (· ≠ "    lambda: |-".toList)).tail).map
      fun line => String.ofList (line.drop routineIndent))

/-- The lines of a snippet before the one that opens the block of the routine. -/
def headLines (device : Device) : List String :=
  bannerLines device ++ globalsLines ++ displayLines.take 5

theorem lines_eq (device : Device) :
    lines device =
      headLines device ++ "    lambda: |-" :: (routineLines device).map (indented routineIndent) := by
  have hdisplay : displayLines = displayLines.take 5 ++ ["    lambda: |-"] := by
    decide
  rw [lines, headLines]
  conv_lhs => rw [hdisplay]
  simp

/-- No line opens the block of the routine before its time, whatever the device is called. -/
theorem ne_of_mem_headLines
    {device : Device} {line : String}
    (h : line ∈ headLines device) :
    line.toList ≠ "    lambda: |-".toList := by
  have hbanner : ∀ line ∈ bannerLines device, line.toList ≠ "    lambda: |-".toList := by
    rw [bannerLines, List.forall_mem_cons, toList_bannerLine]
    exact ⟨by simp, by decide +kernel⟩
  have hglobals : ∀ line ∈ globalsLines, line.toList ≠ "    lambda: |-".toList := by
    decide +kernel
  have hdisplay : ∀ line ∈ displayLines.take 5, line.toList ≠ "    lambda: |-".toList := by
    decide +kernel
  rw [headLines, List.mem_append, List.mem_append] at h
  rcases h with (h | h) | h
  · exact hbanner line h
  · exact hglobals line h
  · exact hdisplay line h

/-- **The routine is found in the snippet.** -/
theorem routineOfSnippet_joinLines (device : Device) :
    routineOfSnippet (joinLines (lines device)) = routineText device := by
  have hhead : ∀ line ∈ (headLines device).map String.toList,
      decide (line ≠ "    lambda: |-".toList) = true := by
    intro line hline
    obtain ⟨text, htext, rfl⟩ := List.mem_map.mp hline
    rw [decide_eq_true_eq]
    exact ne_of_mem_headLines htext
  have hindented : ∀ line : String,
      String.ofList ((indented routineIndent line).toList.drop routineIndent) = line := by
    intro line
    rw [indented, String.toList_ofList, List.drop_left' List.length_replicate,
      String.ofList_toList]
  rw [routineOfSnippet, lines_joinLines (clean_lines device), lines_eq, List.map_append,
    List.dropWhile_append_of_pos hhead, List.map_cons,
    List.dropWhile_cons_of_neg (by simp), List.tail_cons, List.map_map, List.map_map, routineText]
  refine congrArg _ ?_
  conv_rhs => rw [← List.map_id (routineLines device)]
  refine List.map_congr_left ?_
  intro line _
  exact hindented line

end Routine

end Snippet
end EpaperLayout
