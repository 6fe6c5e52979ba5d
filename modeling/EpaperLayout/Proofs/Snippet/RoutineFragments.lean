import EpaperLayout.Proofs.Snippet.Fragments
import EpaperLayout.Proofs.Snippet.MarkerRoundTrip
import EpaperLayout.Snippet.Generation

/-!
# The fragments of a generated routine

The routine of a device is written down once more, as fragments: markers are
comments, texts and icons are literals, and everything else is code that consists
of fixed words, numerals, colours and component identifiers.

**Input.**  A device; its strings may hold any characters.

**Results.**
* `toList_routineText`: the fragments make up the lines of the routine.
* `wellFormed_routineFragments`: all of them are well-formed, so that the routine
  is cut into their pieces.
-/

namespace EpaperLayout
namespace Snippet

section Definitions

/-- What stands between the quotes of an icon's literal. -/
def iconBody (icon : String) : List Char :=
  match iconCodePoint? icon with
  | some n => '\\' :: 'U' :: (Text.paddedDigits 16 8 n).map Text.upperDigit
  | none => escapeChars icon.toList

/-- The colour expression of a widget. -/
def colorCode (widget : Widget) : List Char :=
  ((widget.style.color.map Color.drawExpression).getD defaultColor).toList

/-- The font size of a widget in digits. -/
def sizeCode (widget : Widget) : List Char :=
  Nat.toDigits 10 (widget.style.fontSize.getD defaultFontSize).toNat

/-- The component that a widget reads. -/
def sourceCode (widget : Widget) : List Char :=
  (componentId (widget.dataPoint.getD "")).toList

/-- The call that draws a text with a font at the place of a widget. -/
def textCall (call font : List Char) (widget : Widget) (body : List Char) : List Fragment :=
  [.code (call ++ Nat.toDigits 10 widget.x.toNat ++ [',', ' ']
      ++ Nat.toDigits 10 widget.y.toNat ++ [',', ' ']),
    .code (font ++ sizeCode widget ++ [')', ',']),
    .code (' ' :: (colorCode widget ++ [','])),
    .literal body]

/-- The draw calls of a widget, without their indentation. -/
def drawFragments (widget : Widget) : List (List Fragment) :=
  let style := widget.style
  let x := Nat.toDigits 10 widget.x.toNat
  let y := Nat.toDigits 10 widget.y.toNat
  let width := Nat.toDigits 10 widget.width.toNat
  let height := Nat.toDigits 10 widget.height.toNat
  let low := style.gaugeMin.toInt
  let span := style.gaugeMax.toInt - low
  match widget.kind with
  | .text =>
    [textCall "it.print(".toList "id(font_".toList widget
        (escapeChars (style.text.getD "").toList)
      ++ [.code ");".toList]]
  | .value =>
    [textCall "it.printf(".toList "id(font_".toList widget
        (escapeChars (style.format.getD defaultValueFormat).toList)
      ++ [.code ", ".toList, .code ("id(".toList ++ sourceCode widget ++ [')', '.']),
        .code "state);".toList]]
  | .icon =>
    [textCall "it.print(".toList "id(icon_font_".toList widget (iconBody (style.icon.getD ""))
      ++ [.code ");".toList]]
  | .gauge =>
    [[.code "it.rectangle(".toList,
        .code (x ++ ", ".toList ++ y ++ ", ".toList ++ width ++ ", ".toList ++ height
          ++ ", ".toList ++ colorCode widget ++ ");".toList)],
      [.code "it.filled_rectangle(".toList,
        .code (x ++ ", ".toList ++ y ++ ", (int) (".toList ++ width ++ " * ".toList),
        .code "std".toList,
        .code "::".toList,
        .code ("clamp((id(".toList ++ sourceCode widget ++ [')', '.']),
        .code ("state - (".toList ++ low.repr.toList ++ ")) ".toList),
        .division,
        .code (span.repr.toList ++ ".0f, 0.0f, 1.0f)), ".toList ++ height ++ ", ".toList
          ++ colorCode widget ++ ");".toList)]]
  | .clock =>
    [textCall "it.strftime(".toList "id(font_".toList widget
        (escapeChars (style.format.getD defaultClockFormat).toList)
      ++ [.code ", ".toList, .code ("id(".toList ++ timeSource.toList ++ [')', '.']),
        .code "now());".toList]]

/-- A line with its indentation and its line feed. -/
def lineFragments (line : List Fragment) : List Fragment :=
  .code (List.replicate 4 ' ') :: (line ++ [.code ['\n']])

/-- A line with a marker, its indentation and its line feed. -/
def markerFragments (tag : MarkerTag) (fields : List WrittenField) : List Fragment :=
  [.code (List.replicate 4 ' '), .comment (markerBody tag fields)]

/-- The fragments of a widget: its marker and its draw calls. -/
def widgetFragments (widget : Widget) : List Fragment :=
  markerFragments .widget (widgetFields widget) ++ (drawFragments widget).flatMap lineFragments

/-- The fields of a page. -/
def pageFields (page : Page) : List WrittenField :=
  [.escaped "id" page.id, .escaped "title" page.title]

/-- The fields of a device. -/
def deviceFields (device : Device) : List WrittenField :=
  [.escaped "id" device.id, .escaped "name" device.name]

/-- The fragments in the branch of a page. -/
def bodyFragments (page : Page) : List Fragment :=
  markerFragments .page (pageFields page)
    ++ page.widgets.flatMap widgetFragments ++ [.code "    break;\n".toList]

/-- The fragments of a page. -/
def pageFragments (page : Page) : List Fragment :=
  .code ("  case ".toList ++ Nat.toDigits 10 page.ordinal.toNat ++ ": \x7b\n".toList)
    :: (bodyFragments page ++ [.code "  \x7d\n".toList])

/-- The fragments of a routine. -/
def routineFragments (device : Device) : List Fragment :=
  [.comment (markerBody .device (deviceFields device)),
      .code (dispatchOpening.toList ++ ['\n'])]
    ++ device.pages.flatMap pageFragments ++ [.code ['}']]

/-- The text of the routine of a device. -/
def routineText (device : Device) : String :=
  "\n".intercalate (routineLines device)

end Definitions

section Text

/-- A line with its line feed. -/
def lineText (line : String) : List Char :=
  line.toList ++ ['\n']

theorem toList_joinLines (lines : List String) :
    (joinLines lines).toList = lines.flatMap lineText := by
  rw [joinLines, String.toList_join, List.flatMap_map]
  simp only [String.toList_append]
  rfl

theorem toList_intercalate_concat (lines : List String) (last : String) :
    ("\n".intercalate (lines ++ [last])).toList = lines.flatMap lineText ++ last.toList := by
  induction lines with
  | nil =>
      simp
  | cons line rest ih =>
      rw [List.cons_append, String.intercalate_cons_of_ne_nil (by simp), String.toList_append, ih]
      simp [lineText]

theorem toString_string (s : String) : toString s = s := rfl

theorem toList_markerLine (tag : MarkerTag) (fields : List WrittenField) :
    (markerLine tag fields).toList = '/' :: '/' :: markerBody tag fields := by
  simp [markerLine, markerBody, toString_string, List.flatMap_map]

theorem toList_iconLiteral (icon : String) :
    (iconLiteral icon).toList = '"' :: (iconBody icon ++ ['"']) := by
  unfold iconLiteral iconBody
  cases iconCodePoint? icon <;> simp [stringLiteral]

/-- The lines of the draw calls are made up by their fragments. -/
theorem map_toList_drawCalls (widget : Widget) :
    (drawCalls widget).map String.toList =
      (drawFragments widget).map fun line => line.flatMap Fragment.text := by
  unfold drawCalls drawFragments
  cases widget.kind <;>
    simp [toString_string, textCall, Fragment.text, stringLiteral, toList_iconLiteral, colorCode,
      sizeCode, sourceCode]

theorem flatMap_text_markerFragments (tag : MarkerTag) (fields : List WrittenField) :
    (markerFragments tag fields).flatMap Fragment.text =
      lineText (indented 4 (markerLine tag fields)) := by
  simp [markerFragments, Fragment.text, lineText, indented, toList_markerLine]

theorem flatMap_text_widgetFragments (widget : Widget) :
    (widgetFragments widget).flatMap Fragment.text =
      ((widgetLines widget).map (indented 4)).flatMap lineText := by
  have hcalls :
      ((drawFragments widget).flatMap lineFragments).flatMap Fragment.text =
        ((drawCalls widget).map (indented 4)).flatMap lineText := by
    have hlines :
        ((drawFragments widget).flatMap lineFragments).flatMap Fragment.text =
          ((drawFragments widget).map fun line => line.flatMap Fragment.text).flatMap
            fun line => List.replicate 4 ' ' ++ line ++ ['\n'] := by
      simp [List.flatMap_assoc, List.flatMap_map, lineFragments, Fragment.text]
    rw [hlines, ← map_toList_drawCalls]
    simp [List.flatMap_map, lineText, indented]
  rw [widgetFragments, List.flatMap_append, flatMap_text_markerFragments, hcalls, widgetLines,
    List.map_cons, List.flatMap_cons, widgetMarker]

theorem flatMap_text_pageFragments (page : Page) :
    (pageFragments page).flatMap Fragment.text = (pageLines page).flatMap lineText := by
  have hwidgets :
      (page.widgets.flatMap widgetFragments).flatMap Fragment.text =
        ((page.widgets.flatMap widgetLines).map (indented 4)).flatMap lineText := by
    rw [List.flatMap_assoc, List.map_flatMap, List.flatMap_assoc]
    simp only [flatMap_text_widgetFragments]
  rw [pageFragments, List.flatMap_cons, List.flatMap_append, bodyFragments, List.flatMap_append,
    List.flatMap_append, flatMap_text_markerFragments, hwidgets, pageLines]
  simp [Fragment.text, lineText, indented, branchOpening, pageMarker, pageFields,
    toString_string]

/-- **The fragments make up the routine.** -/
theorem toList_routineText (device : Device) :
    (routineText device).toList = (routineFragments device).flatMap Fragment.text := by
  have hpages :
      (device.pages.flatMap pageFragments).flatMap Fragment.text =
        (device.pages.flatMap pageLines).flatMap lineText := by
    rw [List.flatMap_assoc, List.flatMap_assoc]
    simp only [flatMap_text_pageFragments]
  rw [routineText, routineLines, toList_intercalate_concat, routineFragments,
    List.flatMap_append, List.flatMap_append, List.flatMap_append, hpages]
  simp [Fragment.text, lineText, deviceMarker, deviceFields, toList_markerLine]

end Text

section WellFormed

theorem Plain.append
    {first second : List Char}
    (hfirst : Plain first)
    (hsecond : Plain second) :
    Plain (first ++ second) := by
  intro c hc
  rcases List.mem_append.mp hc with hc | hc
  · exact hfirst c hc
  · exact hsecond c hc

/-- Code of identifier characters and minus signs, which includes all numerals. -/
theorem plain_of_identifierChars
    {cs : List Char}
    (h : ∀ c ∈ cs, Text.isIdentifierChar c = true ∨ c = '-') :
    Plain cs := by
  intro c hc
  have hno : ∀ d : Char, Text.isIdentifierChar d = false → d ≠ '-' → c ≠ d := by
    rintro d hd hminus rfl
    rcases h c hc with hid | heq
    · rw [hd] at hid
      cases hid
    · exact hminus heq
  exact ⟨clean_of_isIdentifierChar h c hc, hno '/' rfl (by decide), hno '"' rfl (by decide),
    hno '\'' rfl (by decide)⟩

theorem plain_toDigits (n : Nat) : Plain (Nat.toDigits 10 n) :=
  plain_of_identifierChars fun _ hc =>
    Or.inl (isIdentifierChar_of_isDigit (Text.isDigit_of_mem_toDigits hc))

theorem plain_repr (i : Int) : Plain i.repr.toList := by
  refine plain_of_identifierChars ?_
  intro c hc
  rcases Text.isDigit_or_minus_of_mem_repr hc with hdigit | hminus
  · exact Or.inl (isIdentifierChar_of_isDigit hdigit)
  · exact Or.inr hminus

/-- A component identifier has identifier characters only. -/
theorem isIdentifierChar_of_mem_componentId
    {dataPoint : String} {c : Char}
    (h : c ∈ (componentId dataPoint).toList) :
    Text.isIdentifierChar c = true := by
  have hmap : ∀ d ∈ dataPoint.toList.map componentChar, Text.isIdentifierChar d = true := by
    intro d hd
    obtain ⟨e, -, rfl⟩ := List.mem_map.mp hd
    unfold componentChar
    split
    · assumption
    · rfl
  unfold componentId at h
  simp only at h
  split at h
  · rw [List.mem_singleton.mp h]
    rfl
  · split at h
    · rw [String.toList_ofList, List.mem_cons] at h
      rcases h with rfl | h
      · rfl
      · exact hmap c h
    · rw [String.toList_ofList] at h
      exact hmap c h

theorem plain_sourceCode (widget : Widget) : Plain (sourceCode widget) :=
  plain_of_identifierChars fun _ hc => Or.inl (isIdentifierChar_of_mem_componentId hc)

theorem toList_drawExpression (color : Color) :
    color.drawExpression.toList =
      "Color(".toList ++ Nat.toDigits 10 color.red.toNat ++ ", ".toList
        ++ Nat.toDigits 10 color.green.toNat ++ ", ".toList
        ++ Nat.toDigits 10 color.blue.toNat ++ ")".toList := by
  simp [Color.drawExpression, toString_string]

theorem plain_colorCode (widget : Widget) : Plain (colorCode widget) := by
  unfold colorCode
  cases widget.style.color with
  | none =>
      decide
  | some color =>
      rw [Option.map_some, Option.getD_some, toList_drawExpression]
      have hopen : Plain "Color(".toList := by decide
      have hcomma : Plain ", ".toList := by decide
      have hclose : Plain ")".toList := by decide
      exact (((((hopen.append (plain_toDigits _)).append hcomma).append
        (plain_toDigits _)).append hcomma).append (plain_toDigits _)).append hclose

theorem closed_clean_escapeChars (cs : List Char) :
    Closed (escapeChars cs) ∧ Clean (escapeChars cs) :=
  ⟨closed_escapeChars cs, clean_escapeChars cs⟩

theorem closed_clean_iconBody (icon : String) :
    Closed (iconBody icon) ∧ Clean (iconBody icon) := by
  unfold iconBody
  split
  · next n _ =>
    have hall : ∀ d : Fin 16, Text.upperDigit d ≠ '"' ∧ Text.upperDigit d ≠ '\\' ∧
        Text.upperDigit d ≠ '\n' ∧ needsOctal (Text.upperDigit d) = false := by
      decide
    have hdigits : ∀ c ∈ (Text.paddedDigits 16 8 n).map Text.upperDigit,
        c ≠ '"' ∧ c ≠ '\\' ∧ c ≠ '\n' ∧ needsOctal c = false := by
      intro c hc
      obtain ⟨digit, hdigit, rfl⟩ := List.mem_map.mp hc
      exact hall ⟨digit, Text.lt_of_mem_paddedDigits (by decide) hdigit⟩
    constructor
    · refine Closed.pair (by decide) (Closed.of_plain ?_)
      intro c hc
      obtain ⟨hquote, hbackslash, hfeed, -⟩ := hdigits c hc
      exact ⟨hquote, hbackslash, hfeed⟩
    · have hmark : Clean ['\\', 'U'] := by decide
      exact hmark.append fun c hc => (hdigits c hc).2.2.2
  · exact closed_clean_escapeChars _

theorem onOneLine_textCall
    {call font body : List Char}
    (hcall : Plain call)
    (hfont : Plain font)
    (hbody : Closed body ∧ Clean body)
    (widget : Widget) :
    ∀ fragment ∈ textCall call font widget body, fragment.OnOneLine := by
  have hcomma : Plain [',', ' '] := by decide
  have hclose : Plain [')', ','] := by decide
  have hblank : Plain [' '] := by decide
  have hend : Plain [','] := by decide
  simp only [textCall, List.forall_mem_cons, List.not_mem_nil, false_implies, implies_true,
    and_true]
  refine ⟨?_, ?_, ?_, hbody⟩
  · exact (((hcall.append (plain_toDigits _)).append hcomma).append (plain_toDigits _)).append
      hcomma
  · exact (hfont.append (plain_toDigits _)).append hclose
  · exact hblank.append ((plain_colorCode widget).append hend)

/-- The draw calls consist of well-formed fragments, and each stays on its line. -/
theorem onOneLine_drawFragments (widget : Widget) :
    ∀ line ∈ drawFragments widget, ∀ fragment ∈ line, fragment.OnOneLine := by
  have hcomma : Plain ", ".toList := by decide
  have hend : Plain ");".toList := by decide
  have hread : Plain [')', '.'] := by decide
  have hid : Plain "id(".toList := by decide
  unfold drawFragments
  cases widget.kind with
  | text =>
      simp only [List.forall_mem_singleton, List.forall_mem_append]
      exact ⟨onOneLine_textCall (by decide) (by decide) (closed_clean_escapeChars _) widget, hend⟩
  | value =>
      simp only [List.forall_mem_singleton, List.forall_mem_append, List.forall_mem_cons]
      refine ⟨onOneLine_textCall (by decide) (by decide) (closed_clean_escapeChars _) widget,
        hcomma, ?_, ?_⟩
      · exact (hid.append (plain_sourceCode widget)).append hread
      · change Plain _
        decide
  | icon =>
      simp only [List.forall_mem_singleton, List.forall_mem_append]
      exact ⟨onOneLine_textCall (by decide) (by decide) (closed_clean_iconBody _) widget, hend⟩
  | gauge =>
      have hsource := plain_sourceCode widget
      have hcolor := plain_colorCode widget
      simp only [List.forall_mem_cons, List.not_mem_nil, false_implies, implies_true, and_true]
      refine ⟨⟨?_, ?_⟩, ?_, ?_, ?_, ?_, ?_, ?_, trivial, ?_⟩
      · change Plain _
        decide
      · exact ((((((((plain_toDigits _).append hcomma).append (plain_toDigits _)).append
          hcomma).append (plain_toDigits _)).append hcomma).append (plain_toDigits _)).append
          hcomma).append hcolor |>.append hend
      · change Plain _
        decide
      · have hcast : Plain ", (int) (".toList := by decide
        have htimes : Plain " * ".toList := by decide
        exact ((((plain_toDigits _).append hcomma).append (plain_toDigits _)).append
          hcast).append (plain_toDigits _) |>.append htimes
      · change Plain _
        decide
      · change Plain _
        decide
      · have hclamp : Plain "clamp((id(".toList := by decide
        exact (hclamp.append hsource).append hread
      · have hminus : Plain "state - (".toList := by decide
        have hclose : Plain ")) ".toList := by decide
        exact (hminus.append (plain_repr _)).append hclose
      · have hbounds : Plain ".0f, 0.0f, 1.0f)), ".toList := by decide
        exact ((((plain_repr _).append hbounds).append (plain_toDigits _)).append hcomma).append
          hcolor |>.append hend
  | clock =>
      simp only [List.forall_mem_singleton, List.forall_mem_append, List.forall_mem_cons]
      refine ⟨onOneLine_textCall (by decide) (by decide) (closed_clean_escapeChars _) widget,
        hcomma, ?_, ?_⟩
      · change Plain _
        decide
      · change Plain _
        decide

theorem wellFormed_markerFragments
    {fields : List WrittenField}
    (tag : MarkerTag)
    (h : ∀ field ∈ fields, field.Sound) :
    ∀ fragment ∈ markerFragments tag fields, fragment.WellFormed := by
  have hindent : (Fragment.code (List.replicate 4 ' ')).WellFormed := by
    change ∀ c ∈ List.replicate 4 ' ', _
    decide
  simp only [markerFragments, List.forall_mem_cons, List.not_mem_nil, false_implies,
    implies_true, and_true]
  exact ⟨hindent, newline_notMem_markerBody tag h⟩

theorem wellFormed_widgetFragments (widget : Widget) :
    ∀ fragment ∈ widgetFragments widget, fragment.WellFormed := by
  have hindent : (Fragment.code (List.replicate 4 ' ')).WellFormed := by
    change ∀ c ∈ List.replicate 4 ' ', _
    decide
  have hfeed : (Fragment.code ['\n']).WellFormed := by
    change ∀ c ∈ ['\n'], _
    decide
  rw [widgetFragments, List.forall_mem_append]
  refine ⟨wellFormed_markerFragments .widget (sound_widgetFields widget), ?_⟩
  intro fragment hfragment
  obtain ⟨line, hline, hmem⟩ := List.mem_flatMap.mp hfragment
  have honOneLine := onOneLine_drawFragments widget line hline
  rw [lineFragments, List.mem_cons, List.mem_append, List.mem_singleton] at hmem
  rcases hmem with rfl | hmem | rfl
  · exact hindent
  · exact (honOneLine fragment hmem).wellFormed
  · exact hfeed

theorem sound_pageFields (page : Page) :
    ∀ field ∈ pageFields page, field.Sound := by
  simp only [pageFields, List.forall_mem_cons, List.not_mem_nil, false_implies, implies_true,
    and_true]
  exact ⟨⟨by decide, by decide⟩, ⟨by decide, by decide⟩⟩

theorem sound_deviceFields (device : Device) :
    ∀ field ∈ deviceFields device, field.Sound := by
  simp only [deviceFields, List.forall_mem_cons, List.not_mem_nil, false_implies, implies_true,
    and_true]
  exact ⟨⟨by decide, by decide⟩, ⟨by decide, by decide⟩⟩

theorem wellFormed_bodyFragments (page : Page) :
    ∀ fragment ∈ bodyFragments page, fragment.WellFormed := by
  have hbreak : (Fragment.code "    break;\n".toList).WellFormed := by
    change ∀ c ∈ "    break;\n".toList, _
    decide
  rw [bodyFragments, List.forall_mem_append, List.forall_mem_append, List.forall_mem_singleton]
  refine ⟨⟨wellFormed_markerFragments .page (sound_pageFields page), ?_⟩, hbreak⟩
  intro fragment hfragment
  obtain ⟨widget, -, hmem⟩ := List.mem_flatMap.mp hfragment
  exact wellFormed_widgetFragments widget fragment hmem

theorem wellFormed_pageFragments (page : Page) :
    ∀ fragment ∈ pageFragments page, fragment.WellFormed := by
  have hlabel : (Fragment.code ("  case ".toList ++ Nat.toDigits 10 page.ordinal.toNat
      ++ ": \x7b\n".toList)).WellFormed := by
    have hcase : ∀ c ∈ "  case ".toList, c ≠ '/' ∧ c ≠ '"' ∧ c ≠ '\'' := by decide
    have hopen : ∀ c ∈ ": \x7b\n".toList, c ≠ '/' ∧ c ≠ '"' ∧ c ≠ '\'' := by decide
    intro c hc
    rw [List.mem_append, List.mem_append] at hc
    rcases hc with (hc | hc) | hc
    · exact hcase c hc
    · exact (plain_toDigits _ c hc).2
    · exact hopen c hc
  have hclose : (Fragment.code "  \x7d\n".toList).WellFormed := by
    change ∀ c ∈ "  \x7d\n".toList, _
    decide
  rw [pageFragments, List.forall_mem_cons, List.forall_mem_append, List.forall_mem_singleton]
  exact ⟨hlabel, wellFormed_bodyFragments page, hclose⟩

/-- **The fragments of a routine are well-formed.** -/
theorem wellFormed_routineFragments (device : Device) :
    ∀ fragment ∈ routineFragments device, fragment.WellFormed := by
  have hopen : (Fragment.code (dispatchOpening.toList ++ ['\n'])).WellFormed := by
    change ∀ c ∈ dispatchOpening.toList ++ ['\n'], _
    decide
  have hclose : (Fragment.code ['}']).WellFormed := by
    change ∀ c ∈ ['}'], _
    decide
  rw [routineFragments, List.forall_mem_append, List.forall_mem_append, List.forall_mem_cons,
    List.forall_mem_singleton, List.forall_mem_singleton]
  refine ⟨⟨⟨newline_notMem_markerBody .device (sound_deviceFields device), hopen⟩, ?_⟩, hclose⟩
  intro fragment hfragment
  obtain ⟨page, -, hmem⟩ := List.mem_flatMap.mp hfragment
  exact wellFormed_pageFragments page fragment hmem

/-- The routine of a device is cut into the pieces of its fragments. -/
theorem pieces_routineText (device : Device) :
    pieces (routineText device).toList = (routineFragments device).flatMap Fragment.pieces := by
  rw [toList_routineText]
  exact piecesAfter_flatMap (wellFormed_routineFragments device) []

/-- The masked routine of a device is made up by its masked fragments. -/
theorem masked_routineText (device : Device) :
    (Lambda.ofText (routineText device)).masked =
      (routineFragments device).flatMap Fragment.masked := by
  rw [Lambda.masked]
  change (pieces (routineText device).toList).flatMap Piece.masked = _
  rw [pieces_routineText, List.flatMap_assoc]
  rfl

end WellFormed

end Snippet
end EpaperLayout
