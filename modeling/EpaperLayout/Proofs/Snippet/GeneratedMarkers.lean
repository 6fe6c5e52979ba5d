import EpaperLayout.Proofs.Snippet.GeneratedDispatch
import EpaperLayout.Proofs.Snippet.PageSequence

/-!
# The comments of a routine

The line comments of the routine of a device are its markers and what stands in the
places of the widget markers: the marker of the device before the dispatch, and in
the branch of each page the marker of the page and the comments for its widgets.

**Results.**
* `commentsOutside_routineOf`: the marker of the device stands outside the branches.
* `commentsIn_routineOf`: the comments in the branch of a page are those of the page.
* `markersOf_pageComments`: what is read of them.
-/

namespace EpaperLayout
namespace Snippet

variable (marking : Marking)

section Definitions

/-- The line comments of fragments whose text begins at an offset. -/
def commentsOf (offset : Nat) (fragments : List Fragment) : List LineComment :=
  lineCommentsFrom offset (fragments.flatMap Fragment.pieces)

/-- What is read of the comment for a widget. -/
def Marking.outcome (widget : Widget) : Except FieldError Marker :=
  (Marker.ofComment (marking.line widget).body).getD (.ok (markerOfWidget widget))

/-- The line comment for a widget at an offset. -/
def Marking.comment (place : Nat × Widget) : LineComment where
  offset := place.1
  body := (marking.line place.2).body

/-- Widgets whose text begins at an offset, each with the place of its comment. -/
def Marking.widgetPlaces (offset : Nat) : List Widget → List (Nat × Widget)
  | [] => []
  | widget :: rest =>
    (offset + Text.byteSize (marking.line widget).margin, widget) ::
      widgetPlaces
        (offset + Text.byteSize ((marking.widgetFragments widget).flatMap Fragment.masked)) rest

/-- The label of a page and its marker. -/
def pageHead (page : Page) : List Fragment :=
  .code ("  case ".toList ++ Nat.toDigits 10 page.ordinal.toNat ++ ": \x7b\n".toList)
    :: markerFragments .page (pageFields page)

/-- The place of the first widget of a page whose text begins at an offset. -/
def widgetsStart (offset : Nat) (page : Page) : Nat :=
  offset + Text.byteSize ((pageHead page).flatMap Fragment.masked)

/-- The line comments of a page whose text begins at an offset. -/
def Marking.pageComments (offset : Nat) (page : Page) : List LineComment :=
  commentsOf offset (marking.pageFragments page)

end Definitions

section Outcomes

theorem ofComment_line (widget : Widget) :
    Marker.ofComment (marking.line widget).body = some (marking.outcome widget) := by
  rw [Marking.outcome]
  cases hdamaged : marking.isDamaged widget with
  | false =>
      rw [marking.intact widget hdamaged]
      rfl
  | true =>
      obtain ⟨outcome, houtcome, -⟩ := marking.unreadable widget hdamaged
      rw [houtcome]
      rfl

theorem outcome_of_intact
    {widget : Widget}
    (h : marking.isDamaged widget = false) :
    marking.outcome widget = .ok (markerOfWidget widget) := by
  rw [Marking.outcome, marking.intact widget h]
  rfl

theorem describesNoWidget_outcome
    {widget : Widget}
    (h : marking.isDamaged widget = true) :
    DescribesNoWidget (marking.outcome widget) := by
  obtain ⟨outcome, houtcome, hnone⟩ := marking.unreadable widget h
  rw [Marking.outcome, houtcome]
  exact hnone

end Outcomes

section Comments

theorem byteSize_text_pieces (fragments : List Fragment) :
    Text.byteSize ((fragments.flatMap Fragment.pieces).flatMap Piece.text) =
      Text.byteSize (fragments.flatMap Fragment.masked) := by
  rw [List.flatMap_assoc, byteSize_flatMap_masked]
  simp only [flatMap_text_pieces]

/-- The comments of further fragments begin where the first fragments end. -/
theorem commentsOf_append (offset : Nat) (first second : List Fragment) :
    commentsOf offset (first ++ second) =
      commentsOf offset first ++
        commentsOf (offset + Text.byteSize (first.flatMap Fragment.masked)) second := by
  rw [commentsOf, List.flatMap_append, lineCommentsFrom_append, byteSize_text_pieces]
  rfl

theorem bounds_of_mem_commentsOf
    {offset : Nat} {fragments : List Fragment} {comment : LineComment}
    (h : comment ∈ commentsOf offset fragments) :
    offset ≤ comment.offset ∧
      comment.offset < offset + Text.byteSize (fragments.flatMap Fragment.masked) := by
  have hbounds := bounds_of_mem_lineCommentsFrom h
  rwa [byteSize_text_pieces] at hbounds

/-- Fragments that are no comments hold none. -/
theorem commentsOf_eq_nil
    {fragments : List Fragment}
    (h : ∀ fragment ∈ fragments, ∀ body, fragment ≠ .comment body)
    (offset : Nat) :
    commentsOf offset fragments = [] := by
  have hcode : ∀ (text : List Char) (offset : Nat),
      lineCommentsFrom offset (text.map Piece.code) = [] := by
    intro text
    induction text with
    | nil =>
        exact fun _ => rfl
    | cons c text ih =>
        exact fun offset => ih _
  induction fragments generalizing offset with
  | nil =>
      rfl
  | cons fragment rest ih =>
      rw [← List.singleton_append, commentsOf_append,
        ih fun other hother => h other (List.mem_cons_of_mem _ hother), List.append_nil]
      cases fragment with
      | code text =>
          rw [commentsOf, List.flatMap_singleton]
          exact hcode text offset
      | division =>
          rfl
      | literal body =>
          rfl
      | comment body =>
          exact absurd rfl (h _ List.mem_cons_self body)

theorem commentsOf_code (offset : Nat) (text : List Char) :
    commentsOf offset [.code text] = [] :=
  commentsOf_eq_nil (by simp) offset

/-- The comments of code and a comment behind it. -/
theorem commentsOf_line (offset : Nat) (text body : List Char) :
    commentsOf offset [.code text, .comment body] =
      [{ offset := offset + Text.byteSize text, body }] := by
  have hmasked : [Fragment.code text].flatMap Fragment.masked = text := by simp
  rw [← List.singleton_append, commentsOf_append, commentsOf_code, hmasked]
  rfl

/-- The lines with the draw calls hold no comments. -/
theorem commentsOf_drawLines (offset : Nat) (widget : Widget) :
    commentsOf offset ((drawFragments widget).flatMap lineFragments) = [] := by
  refine commentsOf_eq_nil ?_ offset
  rintro _ hfragment body rfl
  obtain ⟨line, hline, hmem⟩ := List.mem_flatMap.mp hfragment
  rw [lineFragments, List.mem_cons, List.mem_append, List.mem_singleton] at hmem
  rcases hmem with heq | hmem | heq
  · cases heq
  · exact onOneLine_drawFragments widget line hline _ hmem
  · cases heq

/-- The comments of widgets are those in the places of their markers. -/
theorem commentsOf_widgets (offset : Nat) (widgets : List Widget) :
    commentsOf offset (widgets.flatMap marking.widgetFragments) =
      (marking.widgetPlaces offset widgets).map marking.comment := by
  induction widgets generalizing offset with
  | nil =>
      rfl
  | cons widget rest ih =>
      have hfirst : commentsOf offset (marking.widgetFragments widget) =
          [marking.comment (offset + Text.byteSize (marking.line widget).margin, widget)] := by
        rw [Marking.widgetFragments, commentsOf_append, commentsOf_line, commentsOf_drawLines]
        rfl
      rw [List.flatMap_cons, commentsOf_append, hfirst, ih]
      rfl

theorem pageFragments_eq (page : Page) :
    marking.pageFragments page =
      pageHead page ++ page.widgets.flatMap marking.widgetFragments ++
        [.code "    break;\n".toList, .code "  \x7d\n".toList] := by
  simp [Marking.pageFragments, pageHead, Marking.bodyFragments]

/-- The comments of a page are its marker and those for its widgets. -/
theorem exists_pageComments_eq (offset : Nat) (page : Page) :
    ∃ first, marking.pageComments offset page =
      { offset := first, body := markerBody .page (pageFields page) } ::
        (marking.widgetPlaces (widgetsStart offset page) page.widgets).map marking.comment := by
  let label := "  case ".toList ++ Nat.toDigits 10 page.ordinal.toNat ++ ": \x7b\n".toList
  have hhead : commentsOf offset (pageHead page) =
      [{ offset := offset + Text.byteSize label + Text.byteSize (List.replicate 4 ' ')
         body := markerBody .page (pageFields page) }] := by
    rw [pageHead, ← List.singleton_append, commentsOf_append, commentsOf_code, List.nil_append,
      markerFragments, commentsOf_line, List.flatMap_singleton, masked_code]
  have hend : ∀ offset, commentsOf offset
      [.code "    break;\n".toList, .code "  \x7d\n".toList] = [] :=
    commentsOf_eq_nil (by simp)
  refine ⟨offset + Text.byteSize label + Text.byteSize (List.replicate 4 ' '), ?_⟩
  rw [Marking.pageComments, pageFragments_eq, commentsOf_append, commentsOf_append, hend,
    List.append_nil, commentsOf_widgets, hhead]
  rfl

/-- The comments of a page stand behind its label and before its end. -/
theorem bounds_of_mem_pageComments
    {offset : Nat} {page : Page} {comment : LineComment}
    (h : comment ∈ marking.pageComments offset page) :
    (labelOf offset page).stop ≤ comment.offset ∧
      comment.offset < offset + Text.byteSize (marking.maskedPage page) := by
  constructor
  · rw [Marking.pageComments, Marking.pageFragments, ← List.singleton_append, commentsOf_append,
      commentsOf_code, List.nil_append] at h
    have hlow := (bounds_of_mem_commentsOf h).1
    have hcase : Text.byteSize "  case ".toList = 7 := by decide
    have hopen : Text.byteSize ": \x7b\n".toList = 4 := by decide
    rw [List.flatMap_singleton, masked_code, Text.byteSize_append, Text.byteSize_append,
      Text.byteSize_toDigits, hcase, hopen] at hlow
    simp only [labelOf]
    omega
  · exact (bounds_of_mem_commentsOf h).2

end Comments

section Pages

theorem flatMap_masked_pages (pages : List Page) :
    (pages.flatMap marking.pageFragments).flatMap Fragment.masked =
      pages.flatMap marking.maskedPage := by
  rw [List.flatMap_assoc]
  rfl

theorem commentsOf_pages_append (offset : Nat) (first second : List Page) :
    commentsOf offset ((first ++ second).flatMap marking.pageFragments) =
      commentsOf offset (first.flatMap marking.pageFragments) ++
        commentsOf (offset + Text.byteSize (first.flatMap marking.maskedPage))
          (second.flatMap marking.pageFragments) := by
  rw [List.flatMap_append, commentsOf_append, flatMap_masked_pages]

theorem commentsOf_pages_cons (offset : Nat) (page : Page) (rest : List Page) :
    commentsOf offset ((page :: rest).flatMap marking.pageFragments) =
      marking.pageComments offset page ++
        commentsOf (offset + Text.byteSize (marking.maskedPage page))
          (rest.flatMap marking.pageFragments) := by
  rw [List.flatMap_cons, commentsOf_append]
  rfl

/-- The comments of pages stand behind the first label and before the end of the last page. -/
theorem bounds_of_mem_commentsOf_pages
    {offset : Nat} {pages : List Page} {comment : LineComment}
    (h : comment ∈ commentsOf offset (pages.flatMap marking.pageFragments)) :
    offset + 8 ≤ comment.offset ∧
      comment.offset < offset + Text.byteSize (pages.flatMap marking.maskedPage) := by
  induction pages generalizing offset with
  | nil =>
      cases h
  | cons page rest ih =>
      rw [commentsOf_pages_cons, List.mem_append] at h
      rw [List.flatMap_cons, Text.byteSize_append]
      rcases h with h | h
      · obtain ⟨hlow, hhigh⟩ := bounds_of_mem_pageComments marking h
        simp only [labelOf] at hlow
        exact ⟨by omega, by omega⟩
      · obtain ⟨hlow, hhigh⟩ := ih h
        exact ⟨by omega, by omega⟩

/-- All comments of the routine of a device. -/
theorem comments_routineOf (device : Device) (firstLine : Nat) :
    (marking.routineOf device firstLine).comments =
      { offset := 0, body := markerBody .device (deviceFields device) } ::
        commentsOf (pagesStart device) (device.pages.flatMap marking.pageFragments) := by
  have hhead : Text.byteSize ([Fragment.comment (markerBody .device (deviceFields device)),
      Fragment.code (dispatchOpening.toList ++ ['\n'])].flatMap Fragment.masked) =
        pagesStart device := by
    have hopening : Text.byteSize (dispatchOpening.toList ++ ['\n']) = 28 := by decide
    rw [List.flatMap_cons, List.flatMap_singleton, Text.byteSize_append, masked_code, hopening]
    rfl
  have hfirst : commentsOf 0 [Fragment.comment (markerBody .device (deviceFields device)),
      Fragment.code (dispatchOpening.toList ++ ['\n'])] =
        [{ offset := 0, body := markerBody .device (deviceFields device) }] := by
    rw [← List.singleton_append, commentsOf_append, commentsOf_code]
    rfl
  change lineCommentsFrom 0 (pieces (marking.routineText device).toList) = _
  rw [marking.pieces_routineText, ← commentsOf, Marking.routineFragments, commentsOf_append,
    commentsOf_append, commentsOf_code, hfirst, hhead, List.append_nil, Nat.zero_add]
  rfl

/-- **The comments in the branch of a page are those of the page.** -/
theorem commentsIn_routineOf
    {device : Device} {before after : List Page} {page : Page} {stop : Nat}
    (firstLine : Nat)
    (hpages : device.pages = before ++ page :: after)
    (hlow :
      pagesStart device + Text.byteSize ((before ++ [page]).flatMap marking.maskedPage) ≤ stop)
    (hhigh : stop ≤
      pagesStart device + Text.byteSize ((before ++ [page]).flatMap marking.maskedPage) + 2) :
    (marking.routineOf device firstLine).commentsIn
        (labelOf (pagesStart device + Text.byteSize (before.flatMap marking.maskedPage))
          page).stop stop =
      marking.pageComments
        (pagesStart device + Text.byteSize (before.flatMap marking.maskedPage)) page := by
  rw [List.flatMap_append, List.flatMap_singleton, Text.byteSize_append] at hlow hhigh
  have hlabel : pagesStart device + Text.byteSize (before.flatMap marking.maskedPage) + 8 ≤
      (labelOf (pagesStart device + Text.byteSize (before.flatMap marking.maskedPage))
        page).stop :=
    Nat.le_add_right _ _
  have hcomments : (marking.routineOf device firstLine).comments =
      ({ offset := 0, body := markerBody .device (deviceFields device) } ::
          commentsOf (pagesStart device) (before.flatMap marking.pageFragments)) ++
        marking.pageComments
            (pagesStart device + Text.byteSize (before.flatMap marking.maskedPage)) page ++
          commentsOf (pagesStart device + Text.byteSize (before.flatMap marking.maskedPage)
            + Text.byteSize (marking.maskedPage page)) (after.flatMap marking.pageFragments) := by
    rw [comments_routineOf, hpages, commentsOf_pages_append, commentsOf_pages_cons]
    simp
  have hbefore : ∀ comment ∈ ({ offset := 0, body := markerBody .device (deviceFields device) } ::
      commentsOf (pagesStart device) (before.flatMap marking.pageFragments) : List LineComment),
        comment.offset <
          pagesStart device + Text.byteSize (before.flatMap marking.maskedPage) + 8 := by
    intro comment hcomment
    rcases List.mem_cons.mp hcomment with rfl | hcomment
    · exact Nat.succ_pos _
    · have hbound := (bounds_of_mem_commentsOf_pages marking hcomment).2
      omega
  have hafter : ∀ comment ∈ commentsOf (pagesStart device
      + Text.byteSize (before.flatMap marking.maskedPage)
      + Text.byteSize (marking.maskedPage page)) (after.flatMap marking.pageFragments),
        stop ≤ comment.offset := by
    intro comment hcomment
    have hbound := (bounds_of_mem_commentsOf_pages marking hcomment).1
    omega
  rw [Lambda.commentsIn, hcomments, List.filter_append, List.filter_append,
    List.filter_eq_nil_iff.mpr, List.filter_eq_self.mpr, List.filter_eq_nil_iff.mpr,
    List.nil_append, List.append_nil]
  · intro comment hcomment
    have hbound := hafter comment hcomment
    simp only [Bool.and_eq_true, decide_eq_true_eq, not_and]
    omega
  · intro comment hcomment
    obtain ⟨hstart, hend⟩ := bounds_of_mem_pageComments marking hcomment
    simp only [Bool.and_eq_true, decide_eq_true_eq]
    omega
  · intro comment hcomment
    have hbound := hbefore comment hcomment
    simp only [Bool.and_eq_true, decide_eq_true_eq, not_and]
    omega

/-- **The marker of the device stands outside the branches, and no other comment does.** -/
theorem commentsOutside_routineOf
    (device : Device)
    (firstLine : Nat) :
    (marking.routineOf device firstLine).commentsOutside (pagesStart device + 2)
        (marking.closingOf device + 1) =
      [{ offset := 0, body := markerBody .device (deviceFields device) }] := by
  have hinside : ∀ comment ∈ commentsOf (pagesStart device)
      (device.pages.flatMap marking.pageFragments),
        ¬(!(decide (pagesStart device + 2 ≤ comment.offset) &&
          decide (comment.offset < marking.closingOf device + 1))) = true := by
    intro comment hcomment
    obtain ⟨hlow, hhigh⟩ := bounds_of_mem_commentsOf_pages marking hcomment
    have hstop : comment.offset < marking.closingOf device + 1 := Nat.lt_succ_of_lt hhigh
    have hstart : pagesStart device + 2 ≤ comment.offset := by
      omega
    simp [hstart, hstop]
  rw [Lambda.commentsOutside, comments_routineOf, List.filter_cons_of_pos (by simp),
    List.filter_eq_nil_iff.mpr hinside]

end Pages

section Markers

theorem markersOf_comments (places : List (Nat × Widget)) :
    markersOf (places.map marking.comment) =
      places.map fun place => (place.1, marking.outcome place.2) := by
  have hmarker : ∀ place, (Marker.ofComment (marking.comment place).body).map
      (fun marker => ((marking.comment place).offset, marker)) =
        some (place.1, marking.outcome place.2) := by
    intro place
    rw [Marking.comment, ofComment_line, Option.map_some]
  rw [markersOf, List.filterMap_map, ← List.filterMap_eq_map]
  exact List.filterMap_congr fun place _ => hmarker place

/-- **What is read of the comments of a page.** -/
theorem exists_markersOf_pageComments (offset : Nat) (page : Page) :
    ∃ first, markersOf (marking.pageComments offset page) =
      (first, .ok (markerOfPage page)) ::
        (marking.widgetPlaces (widgetsStart offset page) page.widgets).map
          fun place => (place.1, marking.outcome place.2) := by
  have hpage : Marker.ofComment (markerBody .page (pageFields page)) =
      some (.ok (markerOfPage page)) := by
    have hkeys : ((pageFields page).map fun field => field.pair.1).Nodup := by
      change ["id", "title"].Nodup
      decide
    exact ofComment_markerBody .page (sound_pageFields page) hkeys
  obtain ⟨first, hcomments⟩ := exists_pageComments_eq marking offset page
  refine ⟨first, ?_⟩
  have hothers := markersOf_comments marking
    (marking.widgetPlaces (widgetsStart offset page) page.widgets)
  rw [markersOf] at hothers ⊢
  rw [hcomments, List.filterMap_cons, hothers]
  simp only [hpage, Option.map_some]

end Markers

end Snippet
end EpaperLayout
