import EpaperLayout.Proofs.Snippet.GeneratedMarkers

/-!
# The lines of the comments for widgets

Every comment for a widget stands on the line that was written for it, and the draw
calls of a widget take one line each.  So the numbers of the damaged lines follow
from the lengths of the lines before them, whatever stands in the comments.

**Input.**  A device with the lines for its widgets, and the number of the first
line of its routine.

**Results.**
* `lineOf_byteSize`: the number of a line counts the line feeds before it.
* `map_lineOf_widgetPlaces`: the lines of the damaged comments in the branch of a page.
* `length_damagedPageLines`: there is one damaged line for each damaged comment.
-/

namespace EpaperLayout
namespace Snippet

variable (marking : Marking)

section Definitions

/-- The numbers of the damaged lines of widgets whose first line has a number. -/
def Marking.damagedWidgetLines (number : Nat) : List Widget → List Nat
  | [] => []
  | widget :: rest =>
    (if marking.isDamaged widget then [number] else []) ++
      damagedWidgetLines (number + widgetLineCount widget) rest

/-- The numbers of the damaged lines of pages whose first line has a number; the widgets of a page
begin on its third line. -/
def Marking.damagedPageLines (number : Nat) : List Page → List Nat
  | [] => []
  | page :: rest =>
    marking.damagedWidgetLines (number + 2) page.widgets ++
      damagedPageLines (number + pageLineCount page) rest

/-- The number of the first line of the page behind some pages. -/
def pageLine (firstLine : Nat) (before : List Page) : Nat :=
  firstLine + 2 + (before.map pageLineCount).sum

/-- The damaged ones among some places. -/
def Marking.damagedPlaces (places : List (Nat × Widget)) : List (Nat × Widget) :=
  places.filter fun place => marking.isDamaged place.2

end Definitions

section Count

/-- **The number of a line counts the line feeds before it.** -/
theorem lineOf_byteSize
    {lambda : Lambda} {first second : List Char}
    (h : lambda.text = first ++ second) :
    lambda.lineOf (Text.byteSize first) = lambda.firstLine + first.count '\n' := by
  have hfirst : (locate 0 first).countP
      (fun place => place.char = '\n' && place.offset < Text.byteSize first) =
        first.count '\n' := by
    rw [← map_char_locate 0 first, List.count, List.countP_map, map_char_locate]
    refine List.countP_congr ?_
    intro place hplace
    have hbound := (bounds_of_mem_locate hplace).2
    rw [Nat.zero_add] at hbound
    simp [hbound]
  have hsecond : (locate (0 + Text.byteSize first) second).countP
      (fun place => place.char = '\n' && place.offset < Text.byteSize first) = 0 := by
    rw [List.countP_eq_zero]
    intro place hplace
    have hbound := (bounds_of_mem_locate hplace).1
    simp only [Bool.and_eq_true, decide_eq_true_eq, not_and]
    omega
  rw [Lambda.lineOf, h, locate_append, List.countP_append, hfirst, hsecond, Nat.add_zero]

/-- Lines have a line feed each. -/
theorem count_newline_lines
    {lines : List String}
    (h : ∀ line ∈ lines, Legible line.toList) :
    (lines.flatMap lineText).count '\n' = lines.length := by
  induction lines with
  | nil =>
      rfl
  | cons line rest ih =>
      rw [List.forall_mem_cons] at h
      have hline : line.toList.count '\n' = 0 := by
        rw [List.count_eq_zero]
        intro hmem
        exact Bool.false_ne_true ((h.1 '\n' hmem).2.symm.trans (by decide))
      rw [List.flatMap_cons, List.count_append, ih h.2, lineText, List.count_append, hline,
        List.length_cons]
      exact Nat.add_comm 1 _

end Count

section Widgets

theorem byteSize_masked_widget (widget : Widget) :
    Text.byteSize ((marking.widgetFragments widget).flatMap Fragment.masked) =
      Text.byteSize ((widgetLinesWith marking.mark widget).flatMap lineText) := by
  rw [byteSize_flatMap_masked, marking.flatMap_text_widgetFragments]

/-- The damaged comments of widgets stand on their lines. -/
theorem map_lineOf_damagedPlaces
    {lambda : Lambda} {before after : List Char} {widgets : List Widget}
    (h : lambda.text =
      before ++ ((widgets.flatMap (widgetLinesWith marking.mark)).flatMap lineText ++ after))
    (hlegible : ∀ widget ∈ widgets, ∀ line ∈ widgetLinesWith marking.mark widget,
      Legible line.toList) :
    (marking.damagedPlaces (marking.widgetPlaces (Text.byteSize before) widgets)).map
        (fun place => lambda.lineOf place.1) =
      marking.damagedWidgetLines (lambda.firstLine + before.count '\n') widgets := by
  induction widgets generalizing before with
  | nil =>
      rfl
  | cons widget rest ih =>
      rw [List.forall_mem_cons] at hlegible
      obtain ⟨hwidget, hrest⟩ := hlegible
      let text := (widgetLinesWith marking.mark widget).flatMap lineText
      let margin := (marking.line widget).margin
      have hsplit : lambda.text = (before ++ text) ++
          ((rest.flatMap (widgetLinesWith marking.mark)).flatMap lineText ++ after) := by
        rw [h, List.flatMap_cons, List.flatMap_append]
        simp only [List.append_assoc, text]
      obtain ⟨others, hothers⟩ : ∃ others, text = margin ++ others := by
        refine ⟨'/' :: '/' :: ((marking.line widget).body ++
          '\n' :: ((drawCalls widget).map (indented 4)).flatMap lineText), ?_⟩
        simp [text, margin, widgetLinesWith, Marking.mark, MarkerLine.text, lineText]
      have hline : lambda.lineOf (Text.byteSize before + Text.byteSize margin) =
          lambda.firstLine + before.count '\n' := by
        have hmargin : margin.count '\n' = 0 := by
          rw [List.count_eq_zero]
          intro hmem
          rcases marking.margin_blank widget '\n' hmem with heq | heq
          · exact absurd heq (by decide)
          · exact absurd heq (by decide)
        have hrest : lambda.text = (before ++ margin) ++ (others ++
            ((rest.flatMap (widgetLinesWith marking.mark)).flatMap lineText ++ after)) := by
          rw [hsplit, hothers]
          simp only [List.append_assoc]
        have hplace := lineOf_byteSize hrest
        rwa [Text.byteSize_append, List.count_append, hmargin, Nat.add_zero] at hplace
      have htail := ih hsplit hrest
      rw [Text.byteSize_append, List.count_append, count_newline_lines hwidget,
        length_widgetLinesWith] at htail
      rw [Marking.widgetPlaces, Marking.damagedPlaces, List.filter_cons, ← Marking.damagedPlaces,
        byteSize_masked_widget, Marking.damagedWidgetLines, Nat.add_assoc lambda.firstLine,
        ← htail]
      split
      · rw [List.map_cons, hline]
        rfl
      · rfl

end Widgets

section Pages

theorem length_damagedWidgetLines (number : Nat) (widgets : List Widget) :
    (marking.damagedWidgetLines number widgets).length = widgets.countP marking.isDamaged := by
  induction widgets generalizing number with
  | nil =>
      rfl
  | cons widget rest ih =>
      rw [Marking.damagedWidgetLines, List.length_append, ih, List.countP_cons, Nat.add_comm]
      split <;> rfl

/-- There is one damaged line for each damaged comment. -/
theorem length_damagedPageLines (number : Nat) (pages : List Page) :
    (marking.damagedPageLines number pages).length =
      (pages.flatMap Page.widgets).countP marking.isDamaged := by
  induction pages generalizing number with
  | nil =>
      rfl
  | cons page rest ih =>
      rw [Marking.damagedPageLines, List.length_append, ih, length_damagedWidgetLines,
        List.flatMap_cons, List.countP_append]

theorem text_routineOf
    {device : Device} {before after : List Page} {page : Page}
    (firstLine : Nat)
    (hpages : device.pages = before ++ page :: after) :
    (marking.routineOf device firstLine).text =
      ([deviceMarker device, dispatchOpening]
          ++ before.flatMap (pageLinesWith marking.mark)
          ++ [indented 2 (branchOpening page.ordinal), indented 4 (pageMarker page)]).flatMap
            lineText ++
        ((page.widgets.flatMap (widgetLinesWith marking.mark)).flatMap lineText ++
          (([indented 4 "break;", indented 2 "\x7d"]
            ++ after.flatMap (pageLinesWith marking.mark)).flatMap lineText ++ ['}'])) := by
  change (marking.routineText device).toList = _
  have hpage : pageLinesWith marking.mark page =
      [indented 2 (branchOpening page.ordinal), indented 4 (pageMarker page)]
        ++ page.widgets.flatMap (widgetLinesWith marking.mark)
        ++ [indented 4 "break;", indented 2 "\x7d"] :=
    rfl
  rw [Marking.routineText, routineLinesWith, toList_intercalate_concat, hpages]
  simp only [List.flatMap_append, List.flatMap_cons, List.flatMap_nil, hpage, List.append_assoc,
    List.append_nil]
  rfl

/-- **The lines of the damaged comments in the branch of a page.** -/
theorem map_lineOf_widgetPlaces
    {device : Device} {before after : List Page} {page : Page}
    (firstLine : Nat)
    (hpages : device.pages = before ++ page :: after) :
    (marking.damagedPlaces (marking.widgetPlaces
        (widgetsStart (pagesStart device + Text.byteSize (before.flatMap marking.maskedPage)) page)
        page.widgets)).map (fun place => (marking.routineOf device firstLine).lineOf place.1) =
      marking.damagedWidgetLines (pageLine firstLine before + 2) page.widgets := by
  have hlegible := marking.legible_routineLinesWith device
  rw [routineLinesWith, hpages, List.flatMap_append, List.flatMap_cons, List.forall_mem_append,
    List.forall_mem_append, List.forall_mem_append, List.forall_mem_append] at hlegible
  obtain ⟨⟨hhead, hbefore, hpage, -⟩, -⟩ := hlegible
  rw [pageLinesWith, List.forall_mem_append, List.forall_mem_append] at hpage
  obtain ⟨⟨hopening, hwidgets⟩, -⟩ := hpage
  let lines := [deviceMarker device, dispatchOpening]
    ++ before.flatMap (pageLinesWith marking.mark)
    ++ [indented 2 (branchOpening page.ordinal), indented 4 (pageMarker page)]
  have hlines : ∀ line ∈ lines, Legible line.toList := by
    rw [List.forall_mem_append, List.forall_mem_append]
    exact ⟨⟨hhead, hbefore⟩, hopening⟩
  have hstart : widgetsStart
      (pagesStart device + Text.byteSize (before.flatMap marking.maskedPage)) page =
        Text.byteSize (lines.flatMap lineText) := by
    have hpagesStart : pagesStart device = Text.byteSize
        ([deviceMarker device, dispatchOpening].flatMap lineText) := by
      have hopening : Text.byteSize (lineText dispatchOpening) = 28 := by decide
      rw [pagesStart, maskedHead, byteSize_masked, List.flatMap_cons, List.flatMap_singleton,
        Text.byteSize_append, hopening, lineText, deviceMarker, toList_markerLine]
      rfl
    have hmasked : Text.byteSize (before.flatMap marking.maskedPage) =
        Text.byteSize ((before.flatMap (pageLinesWith marking.mark)).flatMap lineText) := by
      rw [← flatMap_masked_pages, byteSize_flatMap_masked, List.flatMap_assoc, List.flatMap_assoc]
      simp only [marking.flatMap_text_pageFragments]
    have hpageHead : (pageHead page).flatMap Fragment.text =
        [indented 2 (branchOpening page.ordinal), indented 4 (pageMarker page)].flatMap
          lineText := by
      rw [pageHead, List.flatMap_cons, flatMap_text_markerFragments]
      simp [Fragment.text, lineText, indented, branchOpening, pageMarker, pageFields,
        toString_string]
    rw [widgetsStart, hpagesStart, hmasked, byteSize_flatMap_masked, hpageHead,
      ← Text.byteSize_append, ← List.flatMap_append, ← Text.byteSize_append,
      ← List.flatMap_append]
  have hnumber : pageLine firstLine before + 2 =
      firstLine + (lines.flatMap lineText).count '\n' := by
    have hbefore : (before.flatMap (pageLinesWith marking.mark)).length =
        (before.map pageLineCount).sum := by
      rw [List.length_flatMap, funext (length_pageLinesWith marking.mark)]
    rw [count_newline_lines hlines, pageLine]
    simp only [lines, List.length_append, List.length_cons, List.length_nil, hbefore]
    omega
  rw [hstart, hnumber]
  refine map_lineOf_damagedPlaces marking (text_routineOf marking firstLine hpages) ?_
  intro widget hwidget line hline
  exact hwidgets line (List.mem_flatMap.mpr ⟨widget, hwidget, hline⟩)

end Pages

end Snippet
end EpaperLayout
