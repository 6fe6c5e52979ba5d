import EpaperLayout.Proofs.Snippet.GeneratedLines

/-!
# Marker lines on their own

Every device, page and widget has a marker line, whether or not the layout keeps any
rule: identifiers may be blank, a widget may lie far off the canvas, and settings
may be set that its kind does not allow.  The line is one line comment, and the text behind its
slashes is read as a marker from which the same data are decoded.

**Limit.**  The marker of a page with a blank identifier is written and read as a
marker, but it is not taken for a page.

**Results.**
* `lines_of_newline_notMem`: a text without a line feed is one line.
* `isLineOf_markerLine`: the line of sound fields with different keys is a line of
  their marker.
* `isLineOf_markers`: the lines of devices, pages and widgets, and what is decoded
  from them.
-/

namespace EpaperLayout
namespace Snippet

/-- A line that is one line comment, whose text is read as the marker. -/
structure IsLineOf (marker : Marker) (line : String) : Prop where
  /-- No control character and no line break of any kind. -/
  clean : Clean line.toList
  lines_eq : Text.lines line.toList = [line.toList]
  exists_body : ∃ body, line.toList = '/' :: '/' :: body ∧
    Marker.ofComment body = some (.ok marker)

section Lines

theorem linesFrom_of_newline_notMem
    {read line : List Char}
    (hread : read ≠ [])
    (hline : '\n' ∉ line) :
    Text.linesFrom read line = [read.reverse ++ line] := by
  induction line generalizing read with
  | nil =>
      rw [Text.linesFrom, if_neg (by simpa using hread), List.append_nil]
  | cons c line ih =>
      rw [List.mem_cons, not_or] at hline
      rw [Text.linesFrom, if_neg (Ne.symm hline.1), ih (List.cons_ne_nil _ _) hline.2]
      simp

/-- A text without a line feed is one line. -/
theorem lines_of_newline_notMem
    {line : List Char}
    (hne : line ≠ [])
    (h : '\n' ∉ line) :
    Text.lines line = [line] := by
  obtain ⟨c, rest, rfl⟩ := List.exists_cons_of_ne_nil hne
  rw [List.mem_cons, not_or] at h
  rw [Text.lines, Text.linesFrom, if_neg (Ne.symm h.1),
    linesFrom_of_newline_notMem (List.cons_ne_nil _ _) h.2]
  rfl

end Lines

section Markers

/-- The line of sound fields with different keys is a line of their marker. -/
theorem isLineOf_markerLine
    {fields : List WrittenField}
    (tag : MarkerTag)
    (hsound : ∀ field ∈ fields, field.Sound)
    (hkeys : (fields.map fun field => field.pair.1).Nodup) :
    IsLineOf { tag, fields := fields.map WrittenField.pair } (markerLine tag fields) where
  clean := clean_markerLine tag hsound
  lines_eq := by
    have hfeed : '\n' ∉ (markerLine tag fields).toList := by
      intro hmem
      exact Bool.false_ne_true ((clean_markerLine tag hsound _ hmem).symm.trans (by decide))
    have hne : (markerLine tag fields).toList ≠ [] := by
      rw [toList_markerLine]
      exact List.cons_ne_nil _ _
    exact lines_of_newline_notMem hne hfeed
  exists_body := ⟨_, toList_markerLine tag fields, ofComment_markerBody tag hsound hkeys⟩

theorem isLineOf_widgetMarker (widget : Widget) :
    IsLineOf (markerOfWidget widget) (widgetMarker widget) :=
  isLineOf_markerLine .widget (sound_widgetFields widget) (nodup_widgetFields widget)

theorem isLineOf_deviceMarker (device : Device) :
    IsLineOf (markerOfDevice device) (deviceMarker device) := by
  have hkeys : ((deviceFields device).map fun field => field.pair.1).Nodup := by
    change ["id", "name"].Nodup
    decide
  exact isLineOf_markerLine .device (sound_deviceFields device) hkeys

theorem isLineOf_pageMarker (page : Page) :
    IsLineOf (markerOfPage page) (pageMarker page) := by
  have hkeys : ((pageFields page).map fun field => field.pair.1).Nodup := by
    change ["id", "title"].Nodup
    decide
  exact isLineOf_markerLine .page (sound_pageFields page) hkeys

/-- A page marker must name its page. -/
theorem page_markerOfPage_eq_ok_iff (page : Page) :
    (markerOfPage page).page = .ok { id := page.id, title := page.title }
      ↔
    Text.isBlankText page.id = false := by
  rw [page_markerOfPage_eq]
  cases Text.isBlankText page.id <;> simp

/-- **All data survive their marker line.**  Whatever a widget, a device or a page holds, its line
is one line comment that is read as a marker of its kind, and the same data are decoded from it; of
a page, exactly if its identifier is not blank. -/
theorem isLineOf_markers :
    (∀ widget, ∃ marker, IsLineOf marker (widgetMarker widget) ∧
      marker.tag = .widget ∧ marker.widget = .ok widget) ∧
    (∀ device, ∃ marker, IsLineOf marker (deviceMarker device) ∧
      marker.tag = .device ∧
      marker.device = .ok { id := some device.id, name := some device.name }) ∧
    ∀ page, ∃ marker, IsLineOf marker (pageMarker page) ∧
      marker.tag = .page ∧
      (marker.page = .ok { id := page.id, title := page.title }
        ↔ Text.isBlankText page.id = false) := by
  refine ⟨?_, ?_, ?_⟩
  · intro widget
    exact ⟨_, isLineOf_widgetMarker widget, rfl, widget_markerOfWidget widget⟩
  · intro device
    exact ⟨_, isLineOf_deviceMarker device, rfl, device_markerOfDevice device⟩
  · intro page
    exact ⟨_, isLineOf_pageMarker page, rfl, page_markerOfPage_eq_ok_iff page⟩

end Markers

end Snippet
end EpaperLayout
