import EpaperLayout.Proofs.Snippet.LoadedSnippet
import EpaperLayout.Proofs.Snippet.QuietBranches

/-!
# Routines with other widget markers

The routine of a device is taken with any line comments in the places of its widget
markers, each on a line of its own.  Some of them are *damaged*: they are markers,
but describe no widget.  The others describe the widget that they stand for.  A
generated routine is the case in which nothing is damaged.

**Input.**  A device and a marking, which gives the line for each widget.

**Results.**
* `toList_markedText`: the fragments make up the lines of the routine.
* `isLiteral_routineLinesWith`: they may stand in a literal block.
* `wellFormed_routineFragments`, `quiet_bodyFragments`: whatever the comments say,
  the routine is cut into the pieces of its fragments, and the branches are quiet.
-/

namespace EpaperLayout
namespace Snippet

section Definitions

/-- A line with a comment in the place of a widget marker. -/
structure MarkerLine where
  /-- The blanks before the slashes. -/
  margin : List Char
  /-- The text after the slashes. -/
  body : List Char
deriving DecidableEq, Repr

/-- The text of the line. -/
def MarkerLine.text (line : MarkerLine) : String :=
  String.ofList (line.margin ++ '/' :: '/' :: line.body)

/-- What is read of a marker describes no widget. -/
def DescribesNoWidget : Except FieldError Marker → Prop
  | .error _ => True
  | .ok marker => marker.tag = .widget ∧ ∃ error, marker.widget = .error error

/-- The comment may stand on its line, and is a marker that describes no widget. -/
structure MarkerLine.IsDamaged (line : MarkerLine) : Prop where
  margin_blank : ∀ c ∈ line.margin, c = ' ' ∨ c = '\t'
  legible : Legible line.body
  unreadable : ∃ outcome, Marker.ofComment line.body = some outcome ∧ DescribesNoWidget outcome

/-- The line with the marker of a widget. -/
def writtenLine (widget : Widget) : MarkerLine where
  margin := List.replicate 4 ' '
  body := markerBody .widget (widgetFields widget)

/-- Lines in the places of the widget markers; those that are not damaged describe their
widgets. -/
structure Marking where
  line : Widget → MarkerLine
  isDamaged : Widget → Bool
  margin_blank : ∀ widget, ∀ c ∈ (line widget).margin, c = ' ' ∨ c = '\t'
  legible : ∀ widget, Legible (line widget).body
  intact : ∀ widget, isDamaged widget = false →
    Marker.ofComment (line widget).body = some (.ok (markerOfWidget widget))
  unreadable : ∀ widget, isDamaged widget = true →
    ∃ outcome, Marker.ofComment (line widget).body = some outcome ∧ DescribesNoWidget outcome

/-- The program lines of a widget whose marker line is given. -/
def widgetLinesWith (mark : Widget → String) (widget : Widget) : List String :=
  mark widget :: (drawCalls widget).map (indented 4)

/-- The program lines of a page whose marker lines of widgets are given. -/
def pageLinesWith (mark : Widget → String) (page : Page) : List String :=
  [indented 2 (branchOpening page.ordinal), indented 4 (pageMarker page)]
    ++ page.widgets.flatMap (widgetLinesWith mark) ++ [indented 4 "break;", indented 2 "\x7d"]

/-- The lines of a routine whose marker lines of widgets are given. -/
def routineLinesWith (mark : Widget → String) (device : Device) : List String :=
  [deviceMarker device, dispatchOpening] ++ device.pages.flatMap (pageLinesWith mark) ++ ["\x7d"]

/-- The number of program lines of a widget. -/
def widgetLineCount (widget : Widget) : Nat :=
  1 + (drawCalls widget).length

/-- The number of program lines of a page. -/
def pageLineCount (page : Page) : Nat :=
  4 + (page.widgets.map widgetLineCount).sum

namespace Marking

/-- The text of the line for a widget. -/
def mark (marking : Marking) (widget : Widget) : String :=
  (marking.line widget).text

/-- The fragments of a widget. -/
def widgetFragments (marking : Marking) (widget : Widget) : List Fragment :=
  [.code (marking.line widget).margin, .comment (marking.line widget).body]
    ++ (drawFragments widget).flatMap lineFragments

/-- The fragments in the branch of a page. -/
def bodyFragments (marking : Marking) (page : Page) : List Fragment :=
  markerFragments .page (pageFields page)
    ++ page.widgets.flatMap marking.widgetFragments ++ [.code "    break;\n".toList]

/-- The fragments of a page. -/
def pageFragments (marking : Marking) (page : Page) : List Fragment :=
  .code ("  case ".toList ++ Nat.toDigits 10 page.ordinal.toNat ++ ": \x7b\n".toList)
    :: (marking.bodyFragments page ++ [.code "  \x7d\n".toList])

/-- The fragments of a routine. -/
def routineFragments (marking : Marking) (device : Device) : List Fragment :=
  [.comment (markerBody .device (deviceFields device)),
      .code (dispatchOpening.toList ++ ['\n'])]
    ++ device.pages.flatMap marking.pageFragments ++ [.code ['}']]

/-- The text of the routine of a device. -/
def routineText (marking : Marking) (device : Device) : String :=
  "\n".intercalate (routineLinesWith marking.mark device)

end Marking
end Definitions

section Counts

theorem length_widgetLinesWith (mark : Widget → String) (widget : Widget) :
    (widgetLinesWith mark widget).length = widgetLineCount widget := by
  rw [widgetLinesWith, List.length_cons, List.length_map, widgetLineCount, Nat.add_comm]

theorem length_flatMap_widgetLinesWith (mark : Widget → String) (widgets : List Widget) :
    (widgets.flatMap (widgetLinesWith mark)).length = (widgets.map widgetLineCount).sum := by
  rw [List.length_flatMap, funext (length_widgetLinesWith mark)]

/-- The number of lines of a page does not depend on the marker lines. -/
theorem length_pageLinesWith (mark : Widget → String) (page : Page) :
    (pageLinesWith mark page).length = pageLineCount page := by
  rw [pageLinesWith, List.length_append, List.length_append, length_flatMap_widgetLinesWith,
    pageLineCount]
  simp only [List.length_cons, List.length_nil]
  omega

end Counts

section Written

theorem text_writtenLine (widget : Widget) :
    (writtenLine widget).text = indented 4 (widgetMarker widget) := by
  rw [MarkerLine.text, writtenLine, ← toList_markerLine, indented, widgetMarker]

theorem pageLinesWith_widgetMarker (page : Page) :
    pageLinesWith (fun widget => indented 4 (widgetMarker widget)) page = pageLines page := by
  have hwidgets : page.widgets.flatMap
        (widgetLinesWith fun widget => indented 4 (widgetMarker widget)) =
      (page.widgets.flatMap widgetLines).map (indented 4) := by
    rw [List.map_flatMap]
    rfl
  rw [pageLinesWith, pageLines, hwidgets]
  simp

/-- With the markers of the widgets, the lines are those that are generated. -/
theorem routineLinesWith_widgetMarker (device : Device) :
    routineLinesWith (fun widget => indented 4 (widgetMarker widget)) device =
      routineLines device := by
  rw [routineLinesWith, routineLines, funext pageLinesWith_widgetMarker]

theorem ofComment_writtenLine (widget : Widget) :
    Marker.ofComment (writtenLine widget).body = some (.ok (markerOfWidget widget)) :=
  ofComment_markerBody .widget (sound_widgetFields widget) (nodup_widgetFields widget)

namespace Marking

/-- The marking in which the marker lines of some widgets are replaced. -/
def ofDamage
    (damage : Widget → Option MarkerLine)
    (h : ∀ widget line, damage widget = some line → line.IsDamaged) :
    Marking where
  line widget := (damage widget).getD (writtenLine widget)
  isDamaged widget := (damage widget).isSome
  margin_blank := by
    intro widget
    cases hdamage : damage widget with
    | none =>
        intro c hc
        exact Or.inl (List.eq_of_mem_replicate hc)
    | some line =>
        exact (h widget line hdamage).margin_blank
  legible := by
    intro widget
    cases hdamage : damage widget with
    | none =>
        exact legible_of_clean (clean_markerBody .widget (sound_widgetFields widget))
    | some line =>
        exact (h widget line hdamage).legible
  intact := by
    intro widget hintact
    rw [Option.isSome_eq_false_iff, Option.isNone_iff_eq_none] at hintact
    rw [hintact]
    exact ofComment_writtenLine widget
  unreadable := by
    intro widget hdamaged
    obtain ⟨line, hline⟩ := Option.isSome_iff_exists.mp hdamaged
    rw [hline]
    exact (h widget line hline).unreadable

/-- The marking that is generated. -/
def written : Marking :=
  ofDamage (fun _ => none) (by simp)

theorem routineLinesWith_written (device : Device) :
    routineLinesWith written.mark device = routineLines device := by
  rw [← routineLinesWith_widgetMarker]
  refine congrArg (routineLinesWith · device) ?_
  funext widget
  exact text_writtenLine widget

end Marking
end Written

namespace Marking

section Text

variable (marking : Marking)

theorem newline_notMem_body (widget : Widget) :
    '\n' ∉ (marking.line widget).body := by
  intro hmem
  have hlegible := (marking.legible widget '\n' hmem).2
  exact Bool.false_ne_true (hlegible.symm.trans (by decide))

theorem flatMap_text_widgetFragments (widget : Widget) :
    (marking.widgetFragments widget).flatMap Fragment.text =
      (widgetLinesWith marking.mark widget).flatMap lineText := by
  have hcalls : ((drawFragments widget).flatMap lineFragments).flatMap Fragment.text =
      ((drawCalls widget).map (indented 4)).flatMap lineText := by
    have hwritten := Snippet.flatMap_text_widgetFragments widget
    rw [Snippet.widgetFragments, List.flatMap_append, flatMap_text_markerFragments, widgetLines,
      List.map_cons, List.flatMap_cons] at hwritten
    exact List.append_cancel_left hwritten
  rw [widgetFragments, List.flatMap_append, hcalls, widgetLinesWith, List.flatMap_cons, mark]
  simp [Fragment.text, lineText, MarkerLine.text]

theorem flatMap_text_pageFragments (page : Page) :
    (marking.pageFragments page).flatMap Fragment.text =
      (pageLinesWith marking.mark page).flatMap lineText := by
  have hwidgets : (page.widgets.flatMap marking.widgetFragments).flatMap Fragment.text =
      (page.widgets.flatMap (widgetLinesWith marking.mark)).flatMap lineText := by
    rw [List.flatMap_assoc, List.flatMap_assoc]
    simp only [flatMap_text_widgetFragments]
  rw [pageFragments, List.flatMap_cons, List.flatMap_append, bodyFragments, List.flatMap_append,
    List.flatMap_append, flatMap_text_markerFragments, hwidgets, pageLinesWith]
  simp [Fragment.text, lineText, indented, branchOpening, pageMarker, pageFields,
    toString_string]

/-- **The fragments make up the routine.** -/
theorem toList_routineText (device : Device) :
    (marking.routineText device).toList =
      (marking.routineFragments device).flatMap Fragment.text := by
  have hpages : (device.pages.flatMap marking.pageFragments).flatMap Fragment.text =
      (device.pages.flatMap (pageLinesWith marking.mark)).flatMap lineText := by
    rw [List.flatMap_assoc, List.flatMap_assoc]
    simp only [flatMap_text_pageFragments]
  rw [routineText, routineLinesWith, toList_intercalate_concat, routineFragments,
    List.flatMap_append, List.flatMap_append, List.flatMap_append, hpages]
  simp [Fragment.text, lineText, deviceMarker, deviceFields, toList_markerLine]

end Text

section Literal

variable (marking : Marking)

/-- The lines of a page may stand on one line of a document each. -/
theorem legible_pageLinesWith (page : Page) :
    ∀ line ∈ pageLinesWith marking.mark page, Legible line.toList := by
  have hclean := clean_pageLines page
  rw [pageLines, List.forall_mem_append, List.forall_mem_append, List.forall_mem_singleton,
    List.forall_mem_singleton, List.forall_mem_map, List.forall_mem_append, List.forall_mem_cons,
    List.forall_mem_singleton] at hclean
  obtain ⟨⟨hopen, ⟨hmarker, -⟩, hbreak⟩, hclose⟩ := hclean
  have hmark : ∀ widget, Legible (marking.mark widget).toList := by
    intro widget c hc
    rw [mark, MarkerLine.text, String.toList_ofList, List.mem_append, List.mem_cons,
      List.mem_cons] at hc
    rcases hc with hc | rfl | rfl | hc
    · rcases marking.margin_blank widget c hc with rfl | rfl <;> decide
    · decide
    · decide
    · exact marking.legible widget c hc
  rw [pageLinesWith, List.forall_mem_append, List.forall_mem_append, List.forall_mem_cons,
    List.forall_mem_singleton, List.forall_mem_cons, List.forall_mem_singleton]
  refine ⟨⟨⟨legible_of_clean hopen, legible_of_clean hmarker⟩, ?_⟩,
    legible_of_clean hbreak, legible_of_clean hclose⟩
  intro line hline
  obtain ⟨widget, -, hmem⟩ := List.mem_flatMap.mp hline
  rw [widgetLinesWith, List.mem_cons, List.mem_map] at hmem
  rcases hmem with rfl | ⟨call, hcall, rfl⟩
  · exact hmark widget
  · exact legible_of_clean (clean_indented (clean_drawCalls widget call hcall) 4)

theorem legible_routineLinesWith (device : Device) :
    ∀ line ∈ routineLinesWith marking.mark device, Legible line.toList := by
  have hclean := clean_routineLines device
  rw [routineLines, List.forall_mem_append, List.forall_mem_append] at hclean
  obtain ⟨⟨hhead, -⟩, hclose⟩ := hclean
  rw [routineLinesWith, List.forall_mem_append, List.forall_mem_append]
  refine ⟨⟨fun line hline => legible_of_clean (hhead line hline), ?_⟩,
    fun line hline => legible_of_clean (hclose line hline)⟩
  intro line hline
  obtain ⟨page, -, hmem⟩ := List.mem_flatMap.mp hline
  exact marking.legible_pageLinesWith page line hmem

/-- No line of a page is empty. -/
theorem ne_nil_of_mem_pageLinesWith
    {page : Page} {line : String}
    (h : line ∈ pageLinesWith marking.mark page) :
    line.toList ≠ [] := by
  have hindented : ∀ (n : Nat) (text : String), (indented (n + 1) text).toList ≠ [] := by
    intro n text
    rw [indented, String.toList_ofList, List.replicate_succ, List.cons_append]
    exact List.cons_ne_nil _ _
  rw [pageLinesWith, List.mem_append, List.mem_append, List.mem_pair, List.mem_pair] at h
  rcases h with ((rfl | rfl) | h) | rfl | rfl
  · exact hindented 1 _
  · exact hindented 3 _
  · obtain ⟨widget, -, hmem⟩ := List.mem_flatMap.mp h
    rw [widgetLinesWith, List.mem_cons, List.mem_map] at hmem
    rcases hmem with rfl | ⟨call, -, rfl⟩
    · rw [mark, MarkerLine.text, String.toList_ofList]
      exact List.append_ne_nil_of_right_ne_nil _ (List.cons_ne_nil _ _)
    · exact hindented 3 call
  · exact hindented 3 _
  · exact hindented 1 _

/-- The routine of a device may stand in a literal block. -/
theorem isLiteral_routineLinesWith (device : Device) :
    IsLiteral (routineLinesWith marking.mark device) where
  begins := by
    refine ⟨'/', '/' :: markerBody .device (deviceFields device),
      dispatchOpening :: (device.pages.flatMap (pageLinesWith marking.mark) ++ ["\x7d"]), ?_,
      by decide⟩
    rw [← toList_markerLine, String.ofList_toList]
    rfl
  nonempty := by
    rw [routineLinesWith, List.forall_mem_append, List.forall_mem_append, List.forall_mem_cons,
      List.forall_mem_singleton, List.forall_mem_singleton]
    refine ⟨⟨⟨?_, by decide⟩, ?_⟩, by decide⟩
    · rw [deviceMarker, toList_markerLine]
      exact List.cons_ne_nil _ _
    · intro line hline
      obtain ⟨page, -, hmem⟩ := List.mem_flatMap.mp hline
      exact marking.ne_nil_of_mem_pageLinesWith hmem
  legible := marking.legible_routineLinesWith device

end Literal

section WellFormed

variable (marking : Marking)

theorem wellFormed_widgetFragments (widget : Widget) :
    ∀ fragment ∈ marking.widgetFragments widget, fragment.WellFormed := by
  have hdraw : ∀ fragment ∈ (drawFragments widget).flatMap lineFragments,
      fragment.WellFormed := fun fragment hfragment =>
    Snippet.wellFormed_widgetFragments widget fragment (List.mem_append_right _ hfragment)
  have hmargin : (Fragment.code (marking.line widget).margin).WellFormed := by
    intro c hc
    rcases marking.margin_blank widget c hc with rfl | rfl <;> decide
  rw [widgetFragments, List.forall_mem_append, List.forall_mem_cons, List.forall_mem_singleton]
  exact ⟨⟨hmargin, marking.newline_notMem_body widget⟩, hdraw⟩

theorem wellFormed_pageFragments (page : Page) :
    ∀ fragment ∈ marking.pageFragments page, fragment.WellFormed := by
  have hwritten := Snippet.wellFormed_pageFragments page
  rw [Snippet.pageFragments, List.forall_mem_cons, List.forall_mem_append, Snippet.bodyFragments,
    List.forall_mem_append, List.forall_mem_append] at hwritten
  obtain ⟨hlabel, ⟨⟨hmarker, -⟩, hbreak⟩, hclose⟩ := hwritten
  rw [pageFragments, List.forall_mem_cons, List.forall_mem_append, bodyFragments,
    List.forall_mem_append, List.forall_mem_append]
  refine ⟨hlabel, ⟨⟨hmarker, ?_⟩, hbreak⟩, hclose⟩
  intro fragment hfragment
  obtain ⟨widget, -, hmem⟩ := List.mem_flatMap.mp hfragment
  exact marking.wellFormed_widgetFragments widget fragment hmem

/-- **The fragments of a routine are well-formed.** -/
theorem wellFormed_routineFragments (device : Device) :
    ∀ fragment ∈ marking.routineFragments device, fragment.WellFormed := by
  have hwritten := Snippet.wellFormed_routineFragments device
  rw [Snippet.routineFragments, List.forall_mem_append, List.forall_mem_append] at hwritten
  obtain ⟨⟨hhead, -⟩, hclose⟩ := hwritten
  rw [routineFragments, List.forall_mem_append, List.forall_mem_append]
  refine ⟨⟨hhead, ?_⟩, hclose⟩
  intro fragment hfragment
  obtain ⟨page, -, hmem⟩ := List.mem_flatMap.mp hfragment
  exact marking.wellFormed_pageFragments page fragment hmem

/-- The routine of a device is cut into the pieces of its fragments. -/
theorem pieces_routineText (device : Device) :
    pieces (marking.routineText device).toList =
      (marking.routineFragments device).flatMap Fragment.pieces := by
  rw [toList_routineText]
  exact piecesAfter_flatMap (marking.wellFormed_routineFragments device) []

/-- The masked routine of a device is made up by its masked fragments. -/
theorem masked_routineText (device : Device) :
    (Lambda.ofText (marking.routineText device)).masked =
      (marking.routineFragments device).flatMap Fragment.masked := by
  rw [Lambda.masked]
  change (pieces (marking.routineText device).toList).flatMap Piece.masked = _
  rw [pieces_routineText, List.flatMap_assoc]
  rfl

end WellFormed

section Quiet

variable (marking : Marking)

theorem quiet_widgetFragments (widget : Widget) :
    ∀ fragment ∈ marking.widgetFragments widget, Quiet fragment.masked := by
  have hmargin : Quiet (marking.line widget).margin := by
    refine Quiet.of_chars ?_
    intro c hc
    rcases marking.margin_blank widget c hc with rfl | rfl <;> decide
  rw [widgetFragments, List.forall_mem_append, List.forall_mem_cons, List.forall_mem_singleton,
    masked_code]
  exact ⟨⟨hmargin, quiet_masked_comment (marking.newline_notMem_body widget)⟩,
    quiet_drawLines widget⟩

/-- **The branch of a page holds no labels and no braces.** -/
theorem quiet_bodyFragments (page : Page) :
    Quiet ((marking.bodyFragments page).flatMap Fragment.masked) := by
  refine Quiet.flatMap ?_
  rw [bodyFragments, List.forall_mem_append, List.forall_mem_append, List.forall_mem_singleton,
    masked_code]
  refine ⟨⟨quiet_markerFragments .page (sound_pageFields page), ?_⟩,
    Quiet.of_chars (by decide)⟩
  intro fragment hfragment
  obtain ⟨widget, -, hmem⟩ := List.mem_flatMap.mp hfragment
  exact marking.quiet_widgetFragments widget fragment hmem

end Quiet

end Marking
end Snippet
end EpaperLayout
