import EpaperLayout.Proofs.Snippet.QuietCode
import EpaperLayout.Proofs.Snippet.RoutineFragments

/-!
# The lines in the branches of a routine hold no labels

Between the label of a page and the end of its branch, the masked routine is
quiet: no string of the device gets out of its comment or literal, and a component
identifier is followed by a closing parenthesis wherever it stands, so that it
makes no label even if it is a keyword.

**Results.**
* `quiet_drawLines`: the draw calls are quiet.
* `quiet_markerFragments`: so are markers.
-/

namespace EpaperLayout
namespace Snippet

theorem quiet_replicate (n : Nat) : Quiet (List.replicate n ' ') := by
  refine Quiet.of_chars ?_
  intro c hc
  rw [List.eq_of_mem_replicate hc]
  decide

theorem quiet_masked_literal
    {body : List Char}
    (h : Closed body) :
    Quiet (Fragment.literal body).masked := by
  rw [masked_literal h]
  exact quiet_replicate _

theorem quiet_masked_comment
    {body : List Char}
    (h : '\n' ∉ body) :
    Quiet (Fragment.comment body).masked := by
  rw [masked_comment h]
  exact (quiet_replicate _).append (Quiet.of_chars (by decide))

/-- Numerals hold no letters. -/
theorem quiet_of_digits
    {cs : List Char}
    (h : ∀ c ∈ cs, Text.isDigit c = true ∨ c = '-') :
    Quiet cs := by
  refine Quiet.of_chars ?_
  intro c hc
  have hno : ∀ d : Char, Text.isDigit d = false → d ≠ '-' → c ≠ d := by
    rintro d hd hminus rfl
    rcases h c hc with hdigit | heq
    · rw [hd] at hdigit
      cases hdigit
    · exact hminus heq
  exact ⟨hno 'c' rfl (by decide), hno 'd' rfl (by decide), hno '{' rfl (by decide),
    hno '}' rfl (by decide)⟩

theorem quiet_toDigits (n : Nat) : Quiet (Nat.toDigits 10 n) :=
  quiet_of_digits fun _ hc => Or.inl (Text.isDigit_of_mem_toDigits hc)

theorem quiet_repr (i : Int) : Quiet i.repr.toList :=
  quiet_of_digits fun _ hc => Text.isDigit_or_minus_of_mem_repr hc

theorem quiet_colorCode (widget : Widget) : Quiet (colorCode widget) := by
  unfold colorCode
  cases widget.style.color with
  | none =>
      exact Quiet.of_chars (by decide)
  | some color =>
      rw [Option.map_some, Option.getD_some, toList_drawExpression]
      have hopen : Quiet "Color(".toList := Quiet.of_chars (by decide)
      have hcomma : Quiet ", ".toList := Quiet.of_chars (by decide)
      have hclose : Quiet ")".toList := Quiet.of_chars (by decide)
      exact (((((hopen.append (quiet_toDigits _)).append hcomma).append
        (quiet_toDigits _)).append hcomma).append (quiet_toDigits _)).append hclose

/-- A name between parentheses is quiet, whatever it is. -/
theorem quiet_call
    {before name : List Char} {after last : Char}
    (hbefore : ∀ c ∈ before ++ [after, last],
      Text.isBlank c = false ∧ c ≠ ':' ∧ c ≠ '{' ∧ c ≠ '}')
    (hname : ∀ c ∈ name, Text.isIdentifierChar c = true)
    (hlast : last ∉ keywordChars) :
    Quiet (before ++ name ++ [after, last]) := by
  have hchars : ∀ c ∈ name, Text.isBlank c = false ∧ c ≠ ':' ∧ c ≠ '{' ∧ c ≠ '}' := by
    intro c hc
    have hid := hname c hc
    refine ⟨isBlank_of_isIdentifierChar (Or.inl hid), ?_, ?_, ?_⟩
    all_goals
      rintro rfl
      exact Bool.false_ne_true hid
  have hsplit : before ++ name ++ [after, last] = (before ++ name ++ [after]) ++ [last] := by
    simp
  rw [hsplit]
  refine Quiet.of_segment ?_ hlast
  intro c hc
  simp only [List.mem_append, List.mem_singleton] at hc
  rcases hc with ((hc | hc) | hc) | hc
  · exact hbefore c (by simp [hc])
  · exact hchars c hc
  · exact hbefore c (by simp [hc])
  · exact hbefore c (by simp [hc])

theorem quiet_sourceCall
    {before : List Char}
    (hbefore : ∀ c ∈ before ++ [')', '.'],
      Text.isBlank c = false ∧ c ≠ ':' ∧ c ≠ '{' ∧ c ≠ '}')
    (widget : Widget) :
    Quiet (before ++ sourceCode widget ++ [')', '.']) :=
  quiet_call hbefore (fun _ hc => isIdentifierChar_of_mem_componentId hc) (by decide)

theorem quiet_textCall
    {call font body : List Char}
    (hcall : ∀ c ∈ call, c ≠ 'c' ∧ c ≠ 'd' ∧ c ≠ '{' ∧ c ≠ '}')
    (hfont : ∀ c ∈ font ++ [')', ','],
      Text.isBlank c = false ∧ c ≠ ':' ∧ c ≠ '{' ∧ c ≠ '}')
    (hbody : Closed body)
    (widget : Widget) :
    ∀ fragment ∈ textCall call font widget body, Quiet fragment.masked := by
  have hcomma : Quiet [',', ' '] := Quiet.of_chars (by decide)
  have hblank : Quiet [' '] := Quiet.of_chars (by decide)
  have hend : Quiet [','] := Quiet.of_chars (by decide)
  simp only [textCall, List.forall_mem_cons, List.not_mem_nil, false_implies, implies_true,
    and_true, masked_code]
  refine ⟨?_, ?_, ?_, quiet_masked_literal hbody⟩
  · exact ((((Quiet.of_chars hcall).append (quiet_toDigits _)).append hcomma).append
      (quiet_toDigits _)).append hcomma
  · refine quiet_call hfont ?_ (by decide)
    intro c hc
    exact isIdentifierChar_of_isDigit (Text.isDigit_of_mem_toDigits hc)
  · exact hblank.append ((quiet_colorCode widget).append hend)

/-- The draw calls are quiet. -/
theorem quiet_drawFragments (widget : Widget) :
    ∀ line ∈ drawFragments widget, ∀ fragment ∈ line, Quiet fragment.masked := by
  have hcomma : Quiet ", ".toList := Quiet.of_chars (by decide)
  have hend : Quiet ");".toList := Quiet.of_chars (by decide)
  unfold drawFragments
  cases widget.kind with
  | text =>
      simp only [List.forall_mem_singleton, List.forall_mem_append, masked_code]
      exact ⟨quiet_textCall (by decide) (by decide) (closed_escapeChars _) widget, hend⟩
  | value =>
      simp only [List.forall_mem_singleton, List.forall_mem_append, List.forall_mem_cons,
        masked_code]
      refine ⟨quiet_textCall (by decide) (by decide) (closed_escapeChars _) widget, hcomma, ?_,
        Quiet.of_chars (by decide)⟩
      exact quiet_sourceCall (by decide) widget
  | icon =>
      simp only [List.forall_mem_singleton, List.forall_mem_append, masked_code]
      exact ⟨quiet_textCall (by decide) (by decide) (closed_clean_iconBody _).1 widget, hend⟩
  | gauge =>
      have hcolor := quiet_colorCode widget
      have hrectangle : Quiet ("it.rectangle".toList ++ ['(']) :=
        Quiet.of_segment (by decide) (by decide)
      have hfilled : Quiet ("it.filled_rectangle".toList ++ ['(']) :=
        Quiet.of_segment (by decide) (by decide)
      simp only [List.forall_mem_cons, List.not_mem_nil, false_implies, implies_true, and_true,
        masked_code]
      refine ⟨⟨hrectangle, ?_⟩, hfilled, ?_, Quiet.std, Quiet.of_chars (by decide), ?_, ?_,
        Quiet.of_chars (by decide), ?_⟩
      · exact ((((((((quiet_toDigits _).append hcomma).append (quiet_toDigits _)).append
          hcomma).append (quiet_toDigits _)).append hcomma).append (quiet_toDigits _)).append
          hcomma).append hcolor |>.append hend
      · have hcast : Quiet ", (int) (".toList := Quiet.of_chars (by decide)
        have htimes : Quiet " * ".toList := Quiet.of_chars (by decide)
        exact ((((quiet_toDigits _).append hcomma).append (quiet_toDigits _)).append
          hcast).append (quiet_toDigits _) |>.append htimes
      · exact quiet_sourceCall (by decide) widget
      · have hminus : Quiet "state - (".toList := Quiet.of_chars (by decide)
        have hclose : Quiet ")) ".toList := Quiet.of_chars (by decide)
        exact (hminus.append (quiet_repr _)).append hclose
      · have hbounds : Quiet ".0f, 0.0f, 1.0f)), ".toList := Quiet.of_chars (by decide)
        exact ((((quiet_repr _).append hbounds).append (quiet_toDigits _)).append hcomma).append
          hcolor |>.append hend
  | clock =>
      simp only [List.forall_mem_singleton, List.forall_mem_append, List.forall_mem_cons,
        masked_code]
      refine ⟨quiet_textCall (by decide) (by decide) (closed_escapeChars _) widget, hcomma, ?_,
        Quiet.of_chars (by decide)⟩
      exact quiet_call (by decide) (by decide) (by decide)

theorem quiet_markerFragments
    {fields : List WrittenField}
    (tag : MarkerTag)
    (h : ∀ field ∈ fields, field.Sound) :
    ∀ fragment ∈ markerFragments tag fields, Quiet fragment.masked := by
  simp only [markerFragments, List.forall_mem_cons, List.not_mem_nil, false_implies,
    implies_true, and_true, masked_code]
  exact ⟨quiet_replicate 4, quiet_masked_comment (newline_notMem_markerBody tag h)⟩

/-- The lines with the draw calls are quiet. -/
theorem quiet_drawLines (widget : Widget) :
    ∀ fragment ∈ (drawFragments widget).flatMap lineFragments, Quiet fragment.masked := by
  intro fragment hfragment
  obtain ⟨line, hline, hmem⟩ := List.mem_flatMap.mp hfragment
  rw [lineFragments, List.mem_cons, List.mem_append, List.mem_singleton] at hmem
  rcases hmem with rfl | hmem | rfl
  · rw [masked_code]
    exact quiet_replicate 4
  · exact quiet_drawFragments widget line hline fragment hmem
  · rw [masked_code]
    exact Quiet.of_chars (by decide)

end Snippet
end EpaperLayout
