import EpaperLayout.Proofs.Snippet.RoundTrip
import EpaperLayout.Proofs.Text.Trimming

/-!
# Damage to a marker stays local

If the marker lines of some widgets of a snippet are replaced by comments that are
markers but describe no widget, then these widgets are missing from the device that
is read, and nothing else is.  Each damaged line leads to one warning, which names
the line.

**Input.**  A device that keeps all rules, and the lines that replace the marker
lines of some of its widgets.

**Results.**
* `changedLines_damagedLines`: the lines that differ from those of the generated
  snippet are those of the damaged comments.
* `firstLine_snippet`: the routine begins on the seventeenth line.
* `importSnippet_damagedLines`: what is read of the snippet.
-/

namespace EpaperLayout
namespace Snippet

section Definitions

/-- The marker line of a widget, or what replaces it. -/
def damagedMark (damage : Widget → Option MarkerLine) (widget : Widget) : String :=
  match damage widget with
  | some line => line.text
  | none => indented 4 (widgetMarker widget)

/-- The lines of the snippet of a device in which the marker lines of some widgets are replaced. -/
def damagedLines (damage : Widget → Option MarkerLine) (device : Device) : List String :=
  bannerLines device ++ globalsLines ++ displayLines
    ++ (routineLinesWith (damagedMark damage) device).map (indented routineIndent)

/-- The page without the widgets whose marker lines are replaced. -/
def undamagedPage (damage : Widget → Option MarkerLine) (page : Page) : Page :=
  { page with widgets := page.widgets.filter fun widget => (damage widget).isNone }

/-- The numbers of the lines that differ, counted from `number`. -/
def changedLines (number : Nat) : List String → List String → List Nat
  | line :: rest, other :: others =>
    (if line = other then [] else [number]) ++ changedLines (number + 1) rest others
  | _, _ => []

end Definitions

section Changes

theorem changedLines_self (number : Nat) (lines : List String) :
    changedLines number lines lines = [] := by
  induction lines generalizing number with
  | nil =>
      rfl
  | cons line rest ih =>
      rw [changedLines, if_pos rfl, List.nil_append, ih]

theorem changedLines_append
    {first first' : List String}
    (h : first.length = first'.length)
    (number : Nat)
    (second second' : List String) :
    changedLines number (first ++ second) (first' ++ second') =
      changedLines number first first' ++
        changedLines (number + first.length) second second' := by
  induction first generalizing first' number with
  | nil =>
      obtain rfl := List.length_eq_zero_iff.mp h.symm
      rfl
  | cons line rest ih =>
      obtain ⟨other, others, rfl⟩ := List.exists_cons_of_length_eq_add_one h.symm
      rw [List.length_cons, List.length_cons, Nat.add_right_cancel_iff] at h
      rw [List.cons_append, List.cons_append, changedLines, changedLines, ih h, List.length_cons,
        List.append_assoc, Nat.add_right_comm number, Nat.add_assoc number]

/-- Indentation changes no line. -/
theorem changedLines_indented (number blanks : Nat) (lines others : List String) :
    changedLines number (lines.map (indented blanks)) (others.map (indented blanks)) =
      changedLines number lines others := by
  have hinjective : ∀ line other, indented blanks line = indented blanks other ↔
      line = other := by
    intro line other
    rw [indented, indented, String.ofList_inj, List.append_cancel_left_eq, String.toList_inj]
  induction lines generalizing number others with
  | nil =>
      rfl
  | cons line rest ih =>
      cases others with
      | nil =>
          rfl
      | cons other others =>
          simp only [List.map_cons, changedLines, hinjective, ih]

end Changes

section Damage

variable {damage : Widget → Option MarkerLine}
variable (hdamage : ∀ widget line, damage widget = some line → line.IsDamaged)

theorem mark_ofDamage : (Marking.ofDamage damage hdamage).mark = damagedMark damage := by
  funext widget
  rw [damagedMark]
  change ((damage widget).getD (writtenLine widget)).text = _
  cases damage widget with
  | none =>
      exact text_writtenLine widget
  | some line =>
      rfl

theorem snippet_ofDamage (device : Device) :
    (Marking.ofDamage damage hdamage).snippet device = joinLines (damagedLines damage device) := by
  rw [Marking.snippet, mark_ofDamage, snippetWith, damagedLines]

theorem keep_ofDamage : (Marking.ofDamage damage hdamage).keep = undamagedPage damage := by
  have hdamaged : ∀ widget, (!(Marking.ofDamage damage hdamage).isDamaged widget) =
      (damage widget).isNone :=
    fun widget => Option.not_isSome _
  funext page
  rw [Marking.keep, undamagedPage]
  simp only [hdamaged]

/-- A damaged line is not the marker line of the widget. -/
theorem text_ne_of_isDamaged
    {line : MarkerLine}
    (h : line.IsDamaged)
    (widget : Widget) :
    indented 4 (widgetMarker widget) ≠ line.text := by
  rw [← text_writtenLine]
  intro heq
  rw [MarkerLine.text, MarkerLine.text, String.ofList_inj] at heq
  -- the text behind the first slash determines the comment
  have hdrop : ∀ {margin body : List Char}, (∀ c ∈ margin, c = ' ' ∨ c = '\t') →
      (margin ++ '/' :: '/' :: body).dropWhile (· ≠ '/') = '/' :: '/' :: body := by
    intro margin body hmargin
    rw [List.dropWhile_append_of_pos]
    · exact List.dropWhile_cons_of_neg (by simp)
    · intro c hc
      rcases hmargin c hc with rfl | rfl <;> decide
  have hwritten : ∀ c ∈ (writtenLine widget).margin, c = ' ' ∨ c = '\t' :=
    fun c hc => Or.inl (List.eq_of_mem_replicate hc)
  have hbody := congrArg (List.dropWhile (· ≠ '/')) heq
  rw [hdrop hwritten, hdrop h.margin_blank,
    List.cons.injEq, List.cons.injEq] at hbody
  obtain ⟨outcome, houtcome, hnone⟩ := h.unreadable
  rw [← hbody.2.2, ofComment_writtenLine, Option.some_inj] at houtcome
  rw [← houtcome] at hnone
  obtain ⟨-, error, herror⟩ := hnone
  rw [widget_markerOfWidget] at herror
  cases herror

theorem changedLines_widgets (number : Nat) (widgets : List Widget) :
    changedLines number
        (widgets.flatMap (widgetLinesWith fun widget => indented 4 (widgetMarker widget)))
        (widgets.flatMap (widgetLinesWith (damagedMark damage))) =
      (Marking.ofDamage damage hdamage).damagedWidgetLines number widgets := by
  induction widgets generalizing number with
  | nil =>
      rfl
  | cons widget rest ih =>
      have hfirst : changedLines number
          (widgetLinesWith (fun widget => indented 4 (widgetMarker widget)) widget)
          (widgetLinesWith (damagedMark damage) widget) =
            if (damage widget).isSome then [number] else [] := by
        rw [widgetLinesWith, widgetLinesWith, changedLines, changedLines_self, List.append_nil,
          damagedMark]
        cases hline : damage widget with
        | none =>
            exact if_pos rfl
        | some line =>
            exact if_neg (text_ne_of_isDamaged (hdamage widget line hline) widget)
      rw [List.flatMap_cons, List.flatMap_cons, changedLines_append (by
        rw [length_widgetLinesWith, length_widgetLinesWith]), hfirst, ih, length_widgetLinesWith]
      rfl

theorem changedLines_pages (number : Nat) (pages : List Page) :
    changedLines number
        (pages.flatMap (pageLinesWith fun widget => indented 4 (widgetMarker widget)))
        (pages.flatMap (pageLinesWith (damagedMark damage))) =
      (Marking.ofDamage damage hdamage).damagedPageLines number pages := by
  induction pages generalizing number with
  | nil =>
      rfl
  | cons page rest ih =>
      have hfirst : changedLines number
          (pageLinesWith (fun widget => indented 4 (widgetMarker widget)) page)
          (pageLinesWith (damagedMark damage) page) =
            (Marking.ofDamage damage hdamage).damagedWidgetLines (number + 2) page.widgets := by
        rw [pageLinesWith, pageLinesWith, changedLines_append, changedLines_append rfl,
          changedLines_self, changedLines_self, List.append_nil, List.nil_append,
          changedLines_widgets hdamage]
        · rfl
        · rw [List.length_append, List.length_append, length_flatMap_widgetLinesWith,
            length_flatMap_widgetLinesWith]
      rw [List.flatMap_cons, List.flatMap_cons, changedLines_append (by
        rw [length_pageLinesWith, length_pageLinesWith]), hfirst, ih, length_pageLinesWith]
      rfl

/-- **The lines that differ are those of the damaged comments.** -/
theorem changedLines_damagedLines (device : Device) :
    changedLines 1 (lines device) (damagedLines damage device) =
      (Marking.ofDamage damage hdamage).damagedPageLines 19 device.pages := by
  have hlength : (device.pages.flatMap
        (pageLinesWith fun widget => indented 4 (widgetMarker widget))).length =
      (device.pages.flatMap (pageLinesWith (damagedMark damage))).length := by
    rw [List.length_flatMap, List.length_flatMap, funext (length_pageLinesWith _),
      funext (length_pageLinesWith _)]
  rw [lines, damagedLines, changedLines_append rfl, changedLines_self, List.nil_append,
    changedLines_indented, ← routineLinesWith_widgetMarker, routineLinesWith, routineLinesWith,
    changedLines_append (by rw [List.length_append, List.length_append, hlength]),
    changedLines_append rfl, changedLines_self, changedLines_self, List.append_nil,
    List.nil_append, changedLines_pages hdamage]
  rfl

end Damage

section FirstLine

/-- Clean lines in front of a text are found again. -/
theorem lines_flatMap_lineText
    {first : List String}
    (h : ∀ line ∈ first, Clean line.toList)
    (rest : List Char) :
    Text.lines (first.flatMap lineText ++ rest) =
      first.map String.toList ++ Text.lines rest := by
  induction first with
  | nil =>
      rfl
  | cons line others ih =>
      rw [List.forall_mem_cons] at h
      rw [List.flatMap_cons, lineText, List.append_assoc, List.append_assoc,
        List.singleton_append, Text.lines, linesFrom_append h.1 _ _ (by decide), ← Text.lines,
        ih h.2]
      rfl

theorem trim_indented (blanks : Nat) (line : String) :
    Text.trim (indented blanks line).toList = Text.trim line.toList := by
  rw [indented, String.toList_ofList, Text.trim_replicate_append]

/-- A comment of the document opens no routine. -/
theorem opensLiteralRoutine_comment (rest : List Char) :
    opensLiteralRoutine ('#' :: rest) = false :=
  rfl

theorem opensLiteralRoutine_of_mem_headLines
    {device : Device} {line : String}
    (h : line ∈ headLines device) :
    opensLiteralRoutine line.toList = false := by
  have hbanner : ∀ line ∈ bannerLines device, opensLiteralRoutine line.toList = false := by
    rw [bannerLines, List.forall_mem_cons, toList_bannerLine]
    exact ⟨opensLiteralRoutine_comment _, by decide +kernel⟩
  have hglobals : ∀ line ∈ globalsLines, opensLiteralRoutine line.toList = false := by
    decide +kernel
  have hdisplay : ∀ line ∈ displayLines.take 5, opensLiteralRoutine line.toList = false := by
    decide +kernel
  rw [headLines, List.mem_append, List.mem_append] at h
  rcases h with (h | h) | h
  · exact hbanner line h
  · exact hglobals line h
  · exact hdisplay line h

theorem routineLineFrom?_append
    {first : List (List Char)}
    (h : ∀ line ∈ first, opensLiteralRoutine line = false)
    (skip : Nat)
    (text : List Char)
    (index : Nat)
    (rest : List (List Char)) :
    routineLineFrom? skip text index (first ++ rest) =
      routineLineFrom? skip text (index + first.length) rest := by
  induction first generalizing index with
  | nil =>
      rfl
  | cons line others ih =>
      rw [List.forall_mem_cons] at h
      rw [List.cons_append, routineLineFrom?, h.1, Bool.false_and, if_neg Bool.false_ne_true,
        ih h.2, List.length_cons, Nat.add_right_comm, Nat.add_assoc]

/-- What follows the device marker in a routine. -/
def linesBehindMarker (marking : Marking) (device : Device) : List String :=
  dispatchOpening :: (device.pages.flatMap (pageLinesWith marking.mark) ++ ["\x7d"])

theorem clean_deviceMarker (device : Device) : Clean (deviceMarker device).toList :=
  clean_markerLine .device (sound_deviceFields device)

/-- A routine begins with its device marker. -/
theorem lines_routineText (marking : Marking) (device : Device) :
    Text.lines (marking.routineText device).toList =
      (deviceMarker device).toList ::
        Text.lines ("\n".intercalate (linesBehindMarker marking device)).toList := by
  have hroutine : routineLinesWith marking.mark device =
      deviceMarker device :: linesBehindMarker marking device := rfl
  have hne : linesBehindMarker marking device ≠ [] := List.cons_ne_nil _ _
  have hsplit : (marking.routineText device).toList =
      [deviceMarker device].flatMap lineText ++
        ("\n".intercalate (linesBehindMarker marking device)).toList := by
    rw [Marking.routineText, hroutine, String.intercalate_cons_of_ne_nil hne,
      String.toList_append, String.toList_append, List.flatMap_singleton, lineText]
    rfl
  rw [hsplit, lines_flatMap_lineText (by simpa using clean_deviceMarker device)]
  rfl

/-- Up to its device marker, a snippet is the same whatever replaces the other markers. -/
theorem lines_snippet (marking : Marking) (device : Device) :
    Text.lines (marking.snippet device).toList =
      (headLines device).map String.toList ++ "    lambda: |-".toList ::
        (indented routineIndent (deviceMarker device)).toList ::
          Text.lines
            (((linesBehindMarker marking device).map (indented routineIndent)).flatMap
              lineText) := by
  have hroutine : routineLinesWith marking.mark device =
      deviceMarker device :: linesBehindMarker marking device := rfl
  have hframe : bannerLines device ++ globalsLines ++ displayLines =
      headLines device ++ ["    lambda: |-"] := by
    have hdisplay : displayLines = displayLines.take 5 ++ ["    lambda: |-"] := by
      decide
    rw [headLines]
    conv_lhs => rw [hdisplay]
    simp
  have hsplit : (marking.snippet device).toList =
      (headLines device ++ ["    lambda: |-",
        indented routineIndent (deviceMarker device)]).flatMap lineText ++
          ((linesBehindMarker marking device).map (indented routineIndent)).flatMap
            lineText := by
    rw [Marking.snippet, snippetWith, toList_joinLines, hframe, hroutine, List.map_cons]
    simp
  have hclean : ∀ line ∈ headLines device ++ ["    lambda: |-",
      indented routineIndent (deviceMarker device)], Clean line.toList := by
    have hlines := clean_lines device
    rw [lines_eq, List.forall_mem_append, List.forall_mem_cons, List.forall_mem_map] at hlines
    obtain ⟨hfirst, hlambda, -⟩ := hlines
    rw [List.forall_mem_append, List.forall_mem_cons, List.forall_mem_singleton]
    exact ⟨hfirst, hlambda, clean_indented (clean_deviceMarker device) routineIndent⟩
  rw [hsplit, lines_flatMap_lineText hclean]
  simp

/-- **The routine begins on the seventeenth line of a snippet.** -/
theorem firstLine_snippet (marking : Marking) (device : Device) :
    firstLine (marking.snippet device) (marking.routineText device) = 17 := by
  have hvisible : (Text.trim (deviceMarker device).toList).isEmpty = false := by
    rw [deviceMarker, toList_markerLine]
    exact Text.isEmpty_trim_of_mem List.mem_cons_self (by decide)
  have hopens : ∀ line ∈ (headLines device).map String.toList,
      opensLiteralRoutine line = false := by
    rw [List.forall_mem_map]
    exact fun line hline => opensLiteralRoutine_of_mem_headLines hline
  have hlambda : opensLiteralRoutine "    lambda: |-".toList = true := by decide
  have hlength : (headLines device).length = 15 := rfl
  rw [firstLine, lines_routineText, lines_snippet, List.takeWhile_cons_of_neg (by
    rw [hvisible]; exact Bool.false_ne_true), List.length_nil]
  simp only [List.getElem?_cons_zero]
  rw [routineLineFrom?_append hopens, routineLineFrom?, hlambda, List.getElem?_cons_zero,
    Option.any_some, trim_indented, List.length_map, hlength]
  simp

end FirstLine

section Import

/-- **Damage to markers costs the widgets that they describe, and nothing else.** -/
theorem importSnippet_damagedLines
    {device : Device} {damage : Widget → Option MarkerLine}
    (hvalid : device.validate.isValid = true)
    (hdamage : ∀ widget line, damage widget = some line → line.IsDamaged) :
    ∃ warnings, generate device = .ok (joinLines (lines device)) ∧
      importSnippet (joinLines (damagedLines damage device)) device.id =
        .ok { device := { device with pages := device.pages.map (undamagedPage damage) }
              warnings } ∧
      warnings.map Warning.line =
        (changedLines 1 (lines device) (damagedLines damage device)).map some ∧
      warnings.length = device.widgets.countP fun widget => (damage widget).isSome := by
  have hviolations := (Device.isValid_validate_iff device).mp hvalid
  have hid := ((Device.violations_eq_nil_iff device).mp hviolations).1
  obtain ⟨noted, himport, hlines⟩ := exists_importSnippet_eq (Marking.ofDamage damage hdamage)
    hviolations hid
  have hgenerate := generate_eq_ok hvalid
  rw [snippet_ofDamage, keep_ofDamage, renamingWarnings, if_pos rfl, List.append_nil] at himport
  have hcount := congrArg List.length hlines
  rw [List.length_map, List.length_map, length_damagedPageLines] at hcount
  rw [firstLine_snippet, ← changedLines_damagedLines hdamage] at hlines
  exact ⟨noted, hgenerate, himport, hlines, hcount⟩

/-- A quote that is never closed costs the text of a sign, and leads to one warning. -/
theorem importSnippet_damagedLines_openQuote :
    (signWith "a" "b" "c").validate.isValid = true ∧
      ∃ warnings,
        generate (signWith "a" "b" "c") = .ok (joinLines (lines (signWith "a" "b" "c"))) ∧
          importSnippet (joinLines (damagedLines
              (fun _ => some { margin := [' '], body := " @widget id=\"/* \x7b\\".toList })
              (signWith "a" "b" "c"))) "a" =
            .ok {
              device := { id := "a", name := "b"
                          pages := [{ id := "a", title := "b", ordinal := 0, widgets := [] }] }
              warnings } ∧
          warnings.map Warning.line = [some 21] ∧ warnings.length = 1 := by
  have hvalid : (signWith "a" "b" "c").validate.isValid = true := by
    decide
  have hdamage : ∀ widget line,
      (fun _ : Widget => some (MarkerLine.mk [' '] " @widget id=\"/* \x7b\\".toList)) widget =
        some line → line.IsDamaged := by
    intro widget line hline
    have hopen : Marker.ofComment " @widget id=\"/* \x7b\\".toList =
        some (.error (.unterminated "id")) := by
      decide +kernel
    obtain rfl := Option.some_inj.mp hline
    exact ⟨by decide, by decide, _, hopen, trivial⟩
  have hlines : changedLines 1 (lines (signWith "a" "b" "c")) (damagedLines
      (fun _ => some (MarkerLine.mk [' '] " @widget id=\"/* \x7b\\".toList))
      (signWith "a" "b" "c")) = [21] := by
    rw [changedLines_damagedLines hdamage]
    rfl
  obtain ⟨warnings, hgenerate, himport, hnumbers, hcount⟩ :=
    importSnippet_damagedLines hvalid hdamage
  rw [hlines] at hnumbers
  exact ⟨hvalid, warnings, hgenerate, himport, hnumbers, hcount⟩

end Import

end Snippet
end EpaperLayout
