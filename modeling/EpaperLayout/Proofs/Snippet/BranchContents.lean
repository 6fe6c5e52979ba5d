import EpaperLayout.Snippet.PageReading
import Mathlib.Tactic

/-!
# What the markers of a branch come to

The markers of a branch are taken one after the other.  Here the outcome is said
without that order of work: which marker gives the page its identity, which
widgets are taken, and which markers are left over.

**Input.**  The markers of a branch in the order of the text, and the identifiers
`used` of the widgets on earlier pages.

**Account.**
* `pageOf?`, `widgetOf?`: what a marker would give the page by itself.
* `firstById`: of widgets with the same identifier the first counts, and none
  whose identifier is used.
* `isUsed`, `leftOver`: a marker is used if it is the first page marker that can be
  read, or if its widget is taken; the others are left over.

**Results.**
* `accountsFor_ofMarkers`: identity, widgets and left-over markers are as the
  account says, with exactly one remark for every marker that is left over.
-/

namespace EpaperLayout
namespace Snippet

/-- A marker, well-formed or not, with its offset. -/
abbrev PlacedMarker :=
  Nat × Except FieldError Marker

/-- What a page marker that can be read says. -/
def pageOf? (place : PlacedMarker) : Option PageIdentity :=
  match place.2 with
  | .error _ => none
  | .ok marker => if marker.tag = .page then marker.page.toOption else none

/-- The widget of a widget marker that can be read, if it has no flaws. -/
def widgetOf? (place : PlacedMarker) : Option Widget :=
  match place.2 with
  | .error _ => none
  | .ok marker =>
    if marker.tag = .widget then
      marker.widget.toOption.filter fun widget => widget.problems.isEmpty
    else none

/-- The widgets whose identifier neither is used nor belongs to a widget before them. -/
def firstById (used : List String) : List Widget → List Widget
  | [] => []
  | widget :: rest =>
    if widget.id ∈ used then firstById used rest
    else widget :: firstById (used ++ [widget.id]) rest

/-- Whether a marker that comes after the markers `before` of its branch is used: it is the first
page marker that can be read, or its widget is the first with an identifier that is not used. -/
def isUsed (used : List String) (before : List PlacedMarker) (place : PlacedMarker) : Bool :=
  ((pageOf? place).isSome && (before.findSome? pageOf?).isNone) ||
    (widgetOf? place).any fun widget =>
      !used.contains widget.id &&
        !((before.filterMap widgetOf?).map Widget.id).contains widget.id

/-- The markers that are not used, among those that come after the markers `before`. -/
def leftOver (used : List String) (before : List PlacedMarker) :
    List PlacedMarker → List PlacedMarker
  | [] => []
  | place :: rest =>
    if isUsed used before place then leftOver used (before ++ [place]) rest
    else place :: leftOver used (before ++ [place]) rest

/-- Whether something odd is the fate of a single marker. -/
def Oddity.isAboutMarker : Oddity → Bool
  | .malformedMarker _ | .malformedData .. | .deviceInBranch | .extraPage | .invalidWidget ..
  | .duplicateWidget _ | .outsideBranch _ | .extraDevice => true
  | _ => false

theorem mem_firstById_ids
    (used : List String) (widgets : List Widget) (id : String) :
    id ∈ used ∨ id ∈ (firstById used widgets).map Widget.id
      ↔
    id ∈ used ∨ id ∈ widgets.map Widget.id := by
  induction widgets generalizing used with
  | nil =>
      simp [firstById]
  | cons widget rest ih =>
      unfold firstById
      split
      · next hused =>
        rw [ih used, List.map_cons, List.mem_cons]
        constructor
        · rintro (h | h)
          · exact Or.inl h
          · exact Or.inr (Or.inr h)
        · rintro (h | rfl | h)
          · exact Or.inl h
          · exact Or.inl hused
          · exact Or.inr h
      · have h := ih (used ++ [widget.id])
        rw [List.mem_append, List.mem_singleton, or_assoc, or_assoc] at h
        rw [List.map_cons, List.map_cons, List.mem_cons, List.mem_cons]
        exact h

/-- One more widget is taken if its identifier is new. -/
theorem firstById_concat
    (used : List String) (widgets : List Widget) (widget : Widget) :
    firstById used (widgets ++ [widget]) =
      firstById used widgets ++
        if widget.id ∈ used ∨ widget.id ∈ widgets.map Widget.id then [] else [widget] := by
  induction widgets generalizing used with
  | nil =>
      by_cases h : widget.id ∈ used <;> simp [firstById, h]
  | cons first rest ih =>
      rw [List.cons_append]
      unfold firstById
      split
      · next hused =>
        rw [ih used]
        have hiff :
            (widget.id ∈ used ∨ widget.id ∈ rest.map Widget.id)
              ↔
            (widget.id ∈ used ∨ widget.id ∈ (first :: rest).map Widget.id) := by
          rw [List.map_cons, List.mem_cons]
          constructor
          · rintro (h | h)
            · exact Or.inl h
            · exact Or.inr (Or.inr h)
          · rintro (h | h | h)
            · exact Or.inl h
            · exact Or.inl (by rwa [h])
            · exact Or.inr h
        simp only [hiff]
      · rw [ih (used ++ [first.id])]
        simp [or_assoc]

/-- Further markers are seen behind the first ones. -/
theorem leftOver_append
    (used : List String) (before first second : List PlacedMarker) :
    leftOver used before (first ++ second) =
      leftOver used before first ++ leftOver used (before ++ first) second := by
  induction first generalizing before with
  | nil =>
      simp [leftOver]
  | cons place rest ih =>
      rw [List.cons_append, leftOver, leftOver]
      split <;> simp [ih]

theorem leftOver_concat
    (used : List String) (before markers : List PlacedMarker) (place : PlacedMarker) :
    leftOver used before (markers ++ [place]) =
      leftOver used before markers ++
        if isUsed used (before ++ markers) place then [] else [place] := by
  rw [leftOver_append, leftOver, leftOver]

theorem leftOver_sublist
    (used : List String) (before markers : List PlacedMarker) :
    (leftOver used before markers).Sublist markers := by
  induction markers generalizing before with
  | nil =>
      exact List.Sublist.slnil
  | cons place rest ih =>
      unfold leftOver
      split
      · exact (ih _).cons place
      · exact (ih _).cons_cons place

/-- The contents of a branch account for its markers. -/
structure AccountsFor (used : List String) (markers : List PlacedMarker)
    (contents : BranchContents) : Prop where
  /-- The first page marker that can be read gives the identity. -/
  identity_eq : contents.identity = markers.findSome? pageOf?
  /-- The widgets are the first ones with their identifiers. -/
  widgets_eq : contents.widgets = firstById used (markers.filterMap widgetOf?)
  /-- The markers that are left over have one remark each, in the order of the text. -/
  offsets_eq : contents.oddities.map Prod.fst = (leftOver used [] markers).map Prod.fst
  aboutMarker : ∀ odd ∈ contents.oddities, odd.2.isAboutMarker = true

namespace AccountsFor

variable {used : List String} {markers : List PlacedMarker} {contents : BranchContents}

/-- A marker that is left over is accounted for by a remark. -/
theorem note
    (h : AccountsFor used markers contents)
    (place : PlacedMarker)
    {oddity : Oddity}
    (hpage : pageOf? place = none ∨ (markers.findSome? pageOf?).isSome = true)
    (hwidget : ∀ widget, widgetOf? place = some widget →
      widget.id ∈ used ∨ widget.id ∈ (markers.filterMap widgetOf?).map Widget.id)
    (hodd : oddity.isAboutMarker = true) :
    AccountsFor used (markers ++ [place]) (contents.note place.1 oddity) := by
  have hunused : isUsed used markers place = false := by
    unfold isUsed
    rw [Bool.or_eq_false_iff]
    constructor
    · rcases hpage with hnone | hsome
      · simp [hnone]
      · rw [Option.isNone_eq_false_iff.mpr hsome, Bool.and_false]
    · cases hw : widgetOf? place with
      | none => rfl
      | some widget =>
          rcases hwidget widget hw with hmem | hmem
          · simp [hmem]
          · have : ((markers.filterMap widgetOf?).map Widget.id).contains widget.id = true :=
              List.contains_iff_mem.mpr hmem
            simp only [Option.any_some, this, Bool.not_true, Bool.and_false]
  refine ⟨?_, ?_, ?_, ?_⟩
  · rw [List.findSome?_append]
    rcases hpage with hnone | hsome
    · simpa [BranchContents.note, hnone] using h.identity_eq
    · obtain ⟨identity, hidentity⟩ := Option.isSome_iff_exists.mp hsome
      rw [hidentity]
      simpa [BranchContents.note, hidentity] using h.identity_eq
  · rw [List.filterMap_append]
    cases hw : widgetOf? place with
    | none =>
        simpa [BranchContents.note, hw] using h.widgets_eq
    | some widget =>
        have hsingle : [place].filterMap widgetOf? = [widget] := by
          simp [hw]
        rw [hsingle, firstById_concat, if_pos (hwidget widget hw), List.append_nil]
        exact h.widgets_eq
  · rw [leftOver_concat, List.nil_append, hunused]
    simp [BranchContents.note, h.offsets_eq]
  · intro odd hmem
    rcases List.mem_append.mp hmem with hmem | hmem
    · exact h.aboutMarker odd hmem
    · rw [List.mem_singleton] at hmem
      rw [hmem]
      exact hodd

/-- The first page marker that can be read is used. -/
theorem usePage
    (h : AccountsFor used markers contents)
    {place : PlacedMarker} {identity : PageIdentity}
    (hpage : pageOf? place = some identity)
    (hwidget : widgetOf? place = none)
    (hfirst : markers.findSome? pageOf? = none) :
    AccountsFor used (markers ++ [place]) { contents with identity := some identity } := by
  have hused : isUsed used markers place = true := by
    rw [isUsed, hfirst, hpage]
    rfl
  refine ⟨?_, ?_, ?_, h.aboutMarker⟩
  · rw [List.findSome?_append, hfirst]
    simp [hpage]
  · rw [List.filterMap_append]
    simpa [hwidget] using h.widgets_eq
  · rw [leftOver_concat, List.nil_append, hused]
    simpa using h.offsets_eq

/-- A widget with a new identifier is taken. -/
theorem useWidget
    (h : AccountsFor used markers contents)
    {place : PlacedMarker} {widget : Widget}
    (hpage : pageOf? place = none)
    (hwidget : widgetOf? place = some widget)
    (hnew : ¬(widget.id ∈ used ∨ widget.id ∈ (markers.filterMap widgetOf?).map Widget.id)) :
    AccountsFor used (markers ++ [place])
      { contents with widgets := contents.widgets ++ [widget] } := by
  have hused : isUsed used markers place = true := by
    rw [not_or] at hnew
    have hother : ((markers.filterMap widgetOf?).map Widget.id).contains widget.id = false := by
      rw [← Bool.not_eq_true, List.contains_iff_mem]
      exact hnew.2
    simp only [isUsed, hpage, hwidget, Option.any_some, hother]
    simp [hnew.1]
  refine ⟨?_, ?_, ?_, h.aboutMarker⟩
  · rw [List.findSome?_append]
    simpa [hpage] using h.identity_eq
  · have hsingle : [place].filterMap widgetOf? = [widget] := by
      simp [hwidget]
    rw [List.filterMap_append, hsingle, firstById_concat, if_neg hnew, h.widgets_eq]
  · rw [leftOver_concat, List.nil_append, hused]
    simpa using h.offsets_eq

/-- Taking a page marker keeps the account. -/
theorem takePage
    (h : AccountsFor used markers contents)
    (offset : Nat)
    {marker : Marker}
    (htag : marker.tag = .page) :
    AccountsFor used (markers ++ [(offset, .ok marker)]) (contents.takePage offset marker) := by
  have hwidget : widgetOf? (offset, .ok marker) = none := by
    simp [widgetOf?, htag]
  unfold BranchContents.takePage
  split
  · next hsome =>
    rw [h.identity_eq] at hsome
    exact h.note (offset, .ok marker) (Or.inr hsome) (by simp [hwidget]) rfl
  · next hnone =>
    split
    · next identity hread =>
      have hpage : pageOf? (offset, .ok marker) = some identity := by
        simp [pageOf?, htag, hread, Except.toOption]
      rw [h.identity_eq, Option.not_isSome_iff_eq_none] at hnone
      exact h.usePage hpage hwidget hnone
    · next error hread =>
      have hpage : pageOf? (offset, .ok marker) = none := by
        simp [pageOf?, htag, hread, Except.toOption]
      exact h.note (offset, .ok marker) (Or.inl hpage) (by simp [hwidget]) rfl

/-- The widgets on the page know the same identifiers as the widget markers before. -/
theorem isKnown_iff
    (h : AccountsFor used markers contents)
    (id : String) :
    (used.contains id || (contents.widgets.map Widget.id).contains id) = true
      ↔
    (id ∈ used ∨ id ∈ (markers.filterMap widgetOf?).map Widget.id) := by
  rw [Bool.or_eq_true, List.contains_iff_mem, List.contains_iff_mem, h.widgets_eq]
  exact mem_firstById_ids used _ id

/-- Taking a widget marker keeps the account. -/
theorem takeWidget
    (h : AccountsFor used markers contents)
    (offset : Nat)
    {marker : Marker}
    (htag : marker.tag = .widget) :
    AccountsFor used (markers ++ [(offset, .ok marker)])
      (contents.takeWidget used offset marker) := by
  have hpage : pageOf? (offset, .ok marker) = none := by
    simp [pageOf?, htag]
  unfold BranchContents.takeWidget
  split
  · next error hread =>
    have hwidget : widgetOf? (offset, .ok marker) = none := by
      simp [widgetOf?, htag, hread, Except.toOption]
    exact h.note (offset, .ok marker) (Or.inl hpage) (by simp [hwidget]) rfl
  · next widget hread =>
    split
    · next hflawed =>
      have hwidget : widgetOf? (offset, .ok marker) = none := by
        simpa [widgetOf?, htag, hread, Except.toOption] using hflawed
      exact h.note (offset, .ok marker) (Or.inl hpage) (by simp [hwidget]) rfl
    · next hflawless =>
      have hwidget : widgetOf? (offset, .ok marker) = some widget := by
        simpa [widgetOf?, htag, hread, Except.toOption, Option.filter] using hflawless
      split
      · next hdup =>
        refine h.note (offset, .ok marker) (Or.inl hpage) ?_ rfl
        intro other hother
        obtain rfl : widget = other := by
          rw [hwidget] at hother
          exact Option.some.inj hother
        exact (h.isKnown_iff widget.id).mp hdup
      · next hnew =>
        exact h.useWidget hpage hwidget fun hmem => hnew ((h.isKnown_iff widget.id).mpr hmem)

/-- Taking one more marker keeps the account. -/
theorem take
    (h : AccountsFor used markers contents)
    (place : PlacedMarker) :
    AccountsFor used (markers ++ [place]) (contents.take used place) := by
  obtain ⟨offset, reading⟩ := place
  cases reading with
  | error error =>
      exact h.note _ (Or.inl rfl) (by simp [widgetOf?]) rfl
  | ok marker =>
      cases htag : marker.tag with
      | device =>
          have hpage : pageOf? (offset, .ok marker) = none := by
            simp [pageOf?, htag]
          have hwidget : widgetOf? (offset, .ok marker) = none := by
            simp [widgetOf?, htag]
          simp only [BranchContents.take, htag]
          exact h.note (offset, .ok marker) (Or.inl hpage) (by simp [hwidget]) rfl
      | page =>
          simp only [BranchContents.take, htag]
          exact h.takePage offset htag
      | widget =>
          simp only [BranchContents.take, htag]
          exact h.takeWidget offset htag

end AccountsFor

/-- **Account of a branch.** -/
theorem accountsFor_ofMarkers (used : List String) (markers : List PlacedMarker) :
    AccountsFor used markers (BranchContents.ofMarkers used markers) := by
  induction markers using List.reverseRecOn with
  | nil =>
      exact ⟨rfl, rfl, rfl, by simp [BranchContents.ofMarkers]⟩
  | append_singleton markers place ih =>
      have hstep :
          BranchContents.ofMarkers used (markers ++ [place]) =
            (BranchContents.ofMarkers used markers).take used place := by
        simp [BranchContents.ofMarkers]
      rw [hstep]
      exact ih.take place

end Snippet
end EpaperLayout
