import EpaperLayout.Proofs.Layout.Violations
import EpaperLayout.Proofs.Snippet.GeneratedLines

/-!
# Free text adds no code

What a routine does depends on its code, that is on what is left when comments
and literals are blanked out.  The code of a generated routine depends on the
geometry, colours, sizes and bounds of the widgets and on the components that they
read, but on no other string of the device.

**Input.**  Two devices that keep all rules and have the same drawing, widget by
widget; their identifiers, names, titles, texts, formats and icons may be any
strings.

**Results.**
* `bare_routineFragments`: the code of both routines is the same.
* `visibleBytes_masked_routineOfSnippet`: so are the bytes of the masked routines,
  blanks aside.
-/

namespace EpaperLayout
namespace Snippet

section Shapes

/-- Two widgets are drawn in the same way, whatever is written. -/
structure SameDrawing (a b : Widget) : Prop where
  kind_eq : a.kind = b.kind
  x_eq : a.x = b.x
  y_eq : a.y = b.y
  width_eq : a.width = b.width
  height_eq : a.height = b.height
  fontSize_eq : a.style.fontSize = b.style.fontSize
  color_eq : a.style.color = b.style.color
  min_eq : a.style.min = b.style.min
  max_eq : a.style.max = b.style.max
  /-- The data points are read from the same component. -/
  component_eq : componentId (a.dataPoint.getD "") = componentId (b.dataPoint.getD "")

/-- Two devices have pages with the same drawing, one by one. -/
def SameShape (a b : Device) : Prop :=
  List.Forall₂ (fun p q => List.Forall₂ SameDrawing p.widgets q.widgets) a.pages b.pages

/-- A byte of white space. -/
def isBlankByte (byte : UInt8) : Bool :=
  byte == 0x20 || (0x09 ≤ byte && byte ≤ 0x0D)

/-- The bytes of a text without white space. -/
def visibleBytes (cs : List Char) : List UInt8 :=
  (Text.encode cs).filter fun byte => !isBlankByte byte

end Shapes

section Bare

/-- The code of a fragment. -/
def Fragment.bare : Fragment → List Char
  | .code text => text
  | .division => ['/']
  | .literal _ => []
  | .comment _ => []

theorem visibleBytes_append (first second : List Char) :
    visibleBytes (first ++ second) = visibleBytes first ++ visibleBytes second := by
  simp [visibleBytes, Text.encode]

theorem visibleBytes_replicate (n : Nat) :
    visibleBytes (List.replicate n ' ') = [] := by
  induction n with
  | zero =>
      rfl
  | succ n ih =>
      rw [List.replicate_succ, ← List.singleton_append, visibleBytes_append, ih]
      decide

/-- Masking leaves the code of a fragment, and blanks. -/
theorem visibleBytes_masked
    {fragment : Fragment}
    (h : fragment.WellFormed) :
    visibleBytes fragment.masked = visibleBytes fragment.bare := by
  cases fragment with
  | code text =>
      rw [masked_code]
      rfl
  | division =>
      decide
  | literal body =>
      rw [masked_literal h, visibleBytes_replicate]
      rfl
  | comment body =>
      have hfeed : visibleBytes ['\n'] = [] := by decide
      rw [masked_comment h, visibleBytes_append, visibleBytes_replicate, hfeed]
      rfl

theorem visibleBytes_flatMap_masked
    {fragments : List Fragment}
    (h : ∀ fragment ∈ fragments, fragment.WellFormed) :
    visibleBytes (fragments.flatMap Fragment.masked) =
      visibleBytes (fragments.flatMap Fragment.bare) := by
  induction fragments with
  | nil =>
      rfl
  | cons fragment rest ih =>
      rw [List.flatMap_cons, List.flatMap_cons, visibleBytes_append, visibleBytes_append,
        visibleBytes_masked (h fragment List.mem_cons_self), ih]
      intro other hother
      exact h other (List.mem_cons_of_mem _ hother)

end Bare

section Same

variable {a b : Widget}

/-- Widgets with the same drawing have the same code. -/
theorem bare_drawFragments
    (h : SameDrawing a b) :
    (drawFragments a).map (fun line => line.flatMap Fragment.bare) =
      (drawFragments b).map fun line => line.flatMap Fragment.bare := by
  have hcolor : colorCode a = colorCode b := by
    rw [colorCode, colorCode, h.color_eq]
  have hsize : sizeCode a = sizeCode b := by
    rw [sizeCode, sizeCode, h.fontSize_eq]
  have hsource : sourceCode a = sourceCode b := by
    rw [sourceCode, sourceCode, h.component_eq]
  have hlow : a.style.gaugeMin = b.style.gaugeMin := by
    rw [Style.gaugeMin, Style.gaugeMin, h.min_eq]
  have hhigh : a.style.gaugeMax = b.style.gaugeMax := by
    rw [Style.gaugeMax, Style.gaugeMax, h.max_eq]
  have hcall : ∀ call font body body',
      (textCall call font a body).flatMap Fragment.bare =
        (textCall call font b body').flatMap Fragment.bare := by
    intro call font body body'
    simp only [textCall, List.flatMap_cons, List.flatMap_nil, Fragment.bare, h.x_eq, h.y_eq,
      hcolor, hsize]
  unfold drawFragments
  rw [h.kind_eq]
  cases b.kind with
  | text =>
      simp only [List.map_cons, List.map_nil, List.flatMap_append]
      rw [hcall]
  | value =>
      simp only [List.map_cons, List.map_nil, List.flatMap_append, hsource]
      rw [hcall]
  | icon =>
      simp only [List.map_cons, List.map_nil, List.flatMap_append]
      rw [hcall]
  | gauge =>
      simp only [hcolor, hsource, hlow, hhigh, h.x_eq, h.y_eq, h.width_eq, h.height_eq]
  | clock =>
      simp only [List.map_cons, List.map_nil, List.flatMap_append]
      rw [hcall]

theorem bare_markerFragments (tag : MarkerTag) (fields : List WrittenField) :
    (markerFragments tag fields).flatMap Fragment.bare = List.replicate 4 ' ' := by
  simp [markerFragments, Fragment.bare]

theorem bare_widgetFragments
    (h : SameDrawing a b) :
    (widgetFragments a).flatMap Fragment.bare = (widgetFragments b).flatMap Fragment.bare := by
  have hlines : ∀ widget : Widget,
      ((drawFragments widget).flatMap lineFragments).flatMap Fragment.bare =
        ((drawFragments widget).map fun line => line.flatMap Fragment.bare).flatMap
          fun line => List.replicate 4 ' ' ++ line ++ ['\n'] := by
    intro widget
    simp [List.flatMap_assoc, List.flatMap_map, lineFragments, Fragment.bare]
  rw [widgetFragments, widgetFragments, List.flatMap_append, List.flatMap_append,
    bare_markerFragments, bare_markerFragments, hlines, hlines, bare_drawFragments h]

theorem bare_pageFragments
    {p q : Page}
    (hordinal : p.ordinal.toNat = q.ordinal.toNat)
    (h : List.Forall₂ SameDrawing p.widgets q.widgets) :
    (pageFragments p).flatMap Fragment.bare = (pageFragments q).flatMap Fragment.bare := by
  have hwidgets : (p.widgets.flatMap widgetFragments).flatMap Fragment.bare =
      (q.widgets.flatMap widgetFragments).flatMap Fragment.bare := by
    generalize p.widgets = first at h
    generalize q.widgets = second at h
    induction h with
    | nil =>
        rfl
    | cons hhead _ ih =>
        rw [List.flatMap_cons, List.flatMap_cons, List.flatMap_append, List.flatMap_append,
          bare_widgetFragments hhead, ih]
  simp only [pageFragments, bodyFragments, List.flatMap_cons, List.flatMap_append,
    bare_markerFragments, hwidgets, hordinal]

/-- Pages that keep all rules have the same code, if they have the same drawing. -/
theorem bare_pages
    {earlier earlier' first second : List Page}
    (hlength : earlier.length = earlier'.length)
    (hfirst : Device.pageViolations earlier first = [])
    (hsecond : Device.pageViolations earlier' second = [])
    (h : List.Forall₂ (fun p q => List.Forall₂ SameDrawing p.widgets q.widgets) first second) :
    (first.flatMap pageFragments).flatMap Fragment.bare =
      (second.flatMap pageFragments).flatMap Fragment.bare := by
  induction h generalizing earlier earlier' with
  | nil =>
      rfl
  | cons hhead _ ih =>
      rw [Device.pageViolations, List.append_eq_nil_iff] at hfirst hsecond
      have hordinal := ((Page.violations_eq_nil_iff _ _).mp hfirst.1).1
      have hordinal' := ((Page.violations_eq_nil_iff _ _).mp hsecond.1).1
      have hrest := ih (by simp [hlength]) hfirst.2 hsecond.2
      rw [List.flatMap_cons, List.flatMap_cons, List.flatMap_append, List.flatMap_append,
        bare_pageFragments (by rw [hordinal, hordinal', hlength]) hhead, hrest]

/-- **The code of both routines is the same.** -/
theorem bare_routineFragments
    {a b : Device}
    (ha : a.violations = [])
    (hb : b.violations = [])
    (h : SameShape a b) :
    (routineFragments a).flatMap Fragment.bare =
      (routineFragments b).flatMap Fragment.bare := by
  have hpages := bare_pages rfl ((Device.violations_eq_nil_iff a).mp ha).2.2
    ((Device.violations_eq_nil_iff b).mp hb).2.2 h
  simp only [routineFragments, List.flatMap_append, hpages, List.flatMap_cons, Fragment.bare]

end Same

/-- A device that keeps all rules has a snippet. -/
theorem generate_eq_ok
    {device : Device}
    (h : device.validate.isValid = true) :
    generate device = .ok (joinLines (lines device)) := by
  simp only [generate, h, if_true]

/-- **Free text adds no code.** -/
theorem visibleBytes_masked_routineOfSnippet
    {a b : Device}
    (ha : a.validate.isValid = true)
    (hb : b.validate.isValid = true)
    (h : SameShape a b) :
    ∃ first second, generate a = .ok first ∧ generate b = .ok second ∧
      visibleBytes (Lambda.ofText (routineOfSnippet first)).masked =
        visibleBytes (Lambda.ofText (routineOfSnippet second)).masked := by
  refine ⟨_, _, generate_eq_ok ha, generate_eq_ok hb, ?_⟩
  have hbare := bare_routineFragments ((Device.isValid_validate_iff a).mp ha)
    ((Device.isValid_validate_iff b).mp hb) h
  rw [routineOfSnippet_joinLines, routineOfSnippet_joinLines, masked_routineText,
    masked_routineText, visibleBytes_flatMap_masked (wellFormed_routineFragments a),
    visibleBytes_flatMap_masked (wellFormed_routineFragments b), hbare]

/-- A device with one text on one page. -/
def signWith (id title text : String) : Device where
  id := id
  name := title
  pages :=
    [{ id := id
       title := title
       ordinal := 0
       widgets :=
         [{ id := id, kind := .text, x := 8, y := 8, width := 90, height := 20,
            style := { text := some text } }] }]

/-- A text that looks like code adds none. -/
theorem visibleBytes_masked_signWith :
    (signWith "a" "b" "c").validate.isValid = true ∧
      (signWith "*/ //@page" "\" \n \x7d" "\\\"); case 7: \x7b").validate.isValid = true ∧
      ∃ first second, generate (signWith "a" "b" "c") = .ok first ∧
        generate (signWith "*/ //@page" "\" \n \x7d" "\\\"); case 7: \x7b") = .ok second ∧
        visibleBytes (Lambda.ofText (routineOfSnippet first)).masked =
          visibleBytes (Lambda.ofText (routineOfSnippet second)).masked := by
  have hplain : (signWith "a" "b" "c").validate.isValid = true := by
    decide
  have hhostile :
      (signWith "*/ //@page" "\" \n \x7d" "\\\"); case 7: \x7b").validate.isValid = true := by
    decide
  refine ⟨hplain, hhostile, visibleBytes_masked_routineOfSnippet hplain hhostile ?_⟩
  have hdrawing : ∀ id title text id' title' text',
      SameShape (signWith id title text) (signWith id' title' text') := by
    intro id title text id' title' text'
    refine List.Forall₂.cons (List.Forall₂.cons ?_ List.Forall₂.nil) List.Forall₂.nil
    exact ⟨rfl, rfl, rfl, rfl, rfl, rfl, rfl, rfl, rfl, rfl⟩
  exact hdrawing _ _ _ _ _ _

end Snippet
end EpaperLayout
