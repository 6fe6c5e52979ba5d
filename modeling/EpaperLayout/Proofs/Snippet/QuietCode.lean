import EpaperLayout.Proofs.Snippet.Places
import EpaperLayout.Snippet.Dispatch

/-!
# Code without labels and braces

Code is *quiet* if no label begins in it and no brace stands in it, whatever comes
before and behind it.  Quiet stretches of code may be put together, and neither
the search for labels nor the search for a closing brace takes notice of them.

**Criteria.**
* `Quiet.of_chars`: no character is the first letter of a label.
* `Quiet.of_segment`: no character is a blank or a colon, and the last one occurs
  in no keyword of a label, so that a keyword cannot end before a blank.
-/

namespace EpaperLayout
namespace Snippet

/-- Code in which no label begins and no brace stands. -/
structure Quiet (cs : List Char) : Prop where
  braces : ∀ c ∈ cs, c ≠ '{' ∧ c ≠ '}'
  /-- The search for labels goes on behind the code, from some character before. -/
  labels : ∀ previous, ∃ previous', ∀ offset rest,
    labelsAfter previous (locate offset (cs ++ rest)) =
      labelsAfter previous' (locate (offset + Text.byteSize cs) rest)

section Labels

/-- A character at which no label begins is passed over. -/
theorem labelsAfter_cons_of_none
    {c : Char} {cs : List Char} {offset : Nat} {previous : Option Char}
    (h : allowsWord previous = true → labelAt? (locate offset (c :: cs)) = none) :
    labelsAfter previous (locate offset (c :: cs)) =
      labelsAfter (some c) (locate (offset + c.utf8Size) cs) := by
  have hnone : (if allowsWord previous then labelAt? (locate offset (c :: cs)) else none) =
      none := by
    split
    · next hallowed => exact h hallowed
    · rfl
  rw [locate] at hnone ⊢
  rw [labelsAfter]
  simp only [hnone]

theorem labelAt?_eq_none_of_head
    {c : Char}
    (hcase : c ≠ 'c')
    (hdefault : c ≠ 'd')
    (offset : Nat)
    (cs : List Char) :
    labelAt? (locate offset (c :: cs)) = none := by
  have hword : ∀ (d : Char) (word : List Char), c ≠ d →
      afterWord? (d :: word) (locate offset (c :: cs)) = none := by
    intro d word hne
    rw [locate, afterWord?, if_neg hne]
  have hpage : pageLabel? (locate offset (c :: cs)) = none := by
    have hnone : afterWord? "case".toList (locate offset (c :: cs)) = none :=
      hword 'c' "ase".toList hcase
    rw [pageLabel?, hnone]
  have hother : defaultLabel? (locate offset (c :: cs)) = none := by
    have hnone : afterWord? "default".toList (locate offset (c :: cs)) = none :=
      hword 'd' "efault".toList hdefault
    rw [defaultLabel?, hnone, Option.bind_none]
  rw [locate] at hpage hother ⊢
  rw [labelAt?, hpage, hother]
  rfl

/-- What follows a keyword in a segment begins inside the segment. -/
theorem afterWord?_segment
    {word segment rest : List Char} {last : Char} {offset : Nat} {places : List Located}
    (hlast : last ∉ word)
    (h : afterWord? word (locate offset (segment ++ last :: rest)) = some places) :
    ∃ segment' offset', (∀ c ∈ segment', c ∈ segment) ∧
      places = locate offset' (segment' ++ last :: rest) := by
  induction word generalizing segment offset with
  | nil =>
      rw [afterWord?, Option.some.injEq] at h
      exact ⟨segment, offset, fun c hc => hc, h.symm⟩
  | cons d word ih =>
      rw [List.mem_cons, not_or] at hlast
      cases segment with
      | nil =>
          rw [List.nil_append, locate, afterWord?, if_neg hlast.1] at h
          cases h
      | cons c segment =>
          rw [List.cons_append, locate, afterWord?] at h
          split at h
          · obtain ⟨segment', offset', hmem, hplaces⟩ := ih hlast.2 h
            exact ⟨segment', offset', fun e he => List.mem_cons_of_mem _ (hmem e he), hplaces⟩
          · cases h

/-- The characters of the keywords of labels. -/
def keywordChars : List Char :=
  "case".toList ++ "default".toList

/-- No label begins in a segment without blanks and colons whose last character is in no
keyword. -/
theorem labelAt?_segment
    (segment : List Char)
    {rest : List Char} {last : Char} {offset : Nat}
    (hsegment : ∀ c ∈ segment ++ [last], Text.isBlank c = false ∧ c ≠ ':')
    (hlast : last ∉ keywordChars) :
    labelAt? (locate offset (segment ++ last :: rest)) = none := by
  rw [keywordChars, List.mem_append, not_or] at hlast
  -- behind a keyword stands neither a blank nor a colon
  have hnext : ∀ segment' : List Char, (∀ c ∈ segment', c ∈ segment) → ∀ offset',
      ∃ place places, locate offset' (segment' ++ last :: rest) = place :: places ∧
        Text.isBlank place.char = false ∧ place.char ≠ ':' := by
    intro segment' hmem offset'
    cases segment' with
    | nil =>
        exact ⟨_, _, rfl, hsegment last (by simp)⟩
    | cons c segment' =>
        refine ⟨_, _, rfl, hsegment c ?_⟩
        exact List.mem_append_left _ (hmem c List.mem_cons_self)
  have hpage : pageLabel? (locate offset (segment ++ last :: rest)) = none := by
    unfold pageLabel?
    split
    · next blank places hword =>
      obtain ⟨segment', offset', hmem, hplaces⟩ := afterWord?_segment hlast.1 hword
      obtain ⟨place, places', hlocate, hblank, -⟩ := hnext segment' hmem offset'
      rw [hlocate, List.cons.injEq] at hplaces
      rw [hplaces.1, hblank]
      rfl
    · rfl
  have hdefault : defaultLabel? (locate offset (segment ++ last :: rest)) = none := by
    unfold defaultLabel?
    cases hword : afterWord? "default".toList (locate offset (segment ++ last :: rest)) with
    | none =>
        rfl
    | some places =>
        obtain ⟨segment', offset', hmem, hplaces⟩ := afterWord?_segment hlast.2 hword
        obtain ⟨place, places', hlocate, hblank, hcolon⟩ := hnext segment' hmem offset'
        rw [hplaces, hlocate, Option.bind_some, afterColon?, skipBlanks,
          List.dropWhile_cons_of_neg (by rw [hblank]; exact Bool.false_ne_true)]
        simp only [hcolon, if_false]
  unfold labelAt?
  split
  · rfl
  · next place places heq =>
    rw [heq] at hpage hdefault
    rw [hpage, hdefault]
    rfl

/-- The search for labels goes on behind characters that begin none. -/
theorem exists_labelsAfter_append
    {cs : List Char}
    (h : ∀ c ∈ cs, c ≠ 'c' ∧ c ≠ 'd')
    (previous : Option Char) :
    ∃ previous', ∀ offset rest,
      labelsAfter previous (locate offset (cs ++ rest)) =
        labelsAfter previous' (locate (offset + Text.byteSize cs) rest) := by
  induction cs generalizing previous with
  | nil =>
      exact ⟨previous, fun offset rest => rfl⟩
  | cons c cs ih =>
      obtain ⟨previous', hprevious'⟩ :=
        ih (fun d hd => h d (List.mem_cons_of_mem _ hd)) (some c)
      refine ⟨previous', ?_⟩
      intro offset rest
      obtain ⟨hcase, hdefault⟩ := h c List.mem_cons_self
      rw [List.cons_append, labelsAfter_cons_of_none, hprevious', Text.byteSize_cons,
        Nat.add_assoc]
      intro _
      exact labelAt?_eq_none_of_head hcase hdefault _ _

end Labels

section Braces

theorem depthOf_append (first second : List Located) :
    depthOf (first ++ second) = depthOf first + depthOf second := by
  induction first with
  | nil =>
      simp [depthOf]
  | cons place rest ih =>
      rw [List.cons_append, depthOf, depthOf, ih, add_assoc]

/-- Code without braces leaves the nesting depth as it is. -/
theorem depthOf_locate_eq_zero
    {cs : List Char}
    (h : ∀ c ∈ cs, c ≠ '{' ∧ c ≠ '}')
    (offset : Nat) :
    depthOf (locate offset cs) = 0 := by
  induction cs generalizing offset with
  | nil =>
      rfl
  | cons c cs ih =>
      obtain ⟨hopen, hclose⟩ := h c List.mem_cons_self
      have hrest := ih (fun d hd => h d (List.mem_cons_of_mem _ hd)) (offset + c.utf8Size)
      rw [locate, depthOf, hrest, depthStep]
      simp only [hopen, hclose, if_false]
      rfl

/-- The search for a closing brace goes on behind code without braces. -/
theorem closingBrace?_append
    {cs : List Char}
    (h : ∀ c ∈ cs, c ≠ '{' ∧ c ≠ '}')
    (depth offset : Nat)
    (rest : List Char) :
    closingBrace? depth (locate offset (cs ++ rest)) =
      closingBrace? depth (locate (offset + Text.byteSize cs) rest) := by
  induction cs generalizing offset with
  | nil =>
      rfl
  | cons c cs ih =>
      obtain ⟨hopen, hclose⟩ := h c List.mem_cons_self
      rw [List.cons_append, locate, closingBrace?]
      simp only [hopen, hclose, if_false]
      rw [ih fun d hd => h d (List.mem_cons_of_mem _ hd), Text.byteSize_cons, Nat.add_assoc]

end Braces

namespace Quiet

theorem nil : Quiet [] :=
  ⟨by simp, fun previous => ⟨previous, fun _ _ => rfl⟩⟩

theorem append
    {first second : List Char}
    (hfirst : Quiet first)
    (hsecond : Quiet second) :
    Quiet (first ++ second) := by
  refine ⟨?_, ?_⟩
  · intro c hc
    rcases List.mem_append.mp hc with hc | hc
    · exact hfirst.braces c hc
    · exact hsecond.braces c hc
  · intro previous
    obtain ⟨middle, hmiddle⟩ := hfirst.labels previous
    obtain ⟨last, hlast⟩ := hsecond.labels middle
    refine ⟨last, ?_⟩
    intro offset rest
    rw [List.append_assoc, hmiddle, hlast, Text.byteSize_append, Nat.add_assoc]

theorem flatMap
    {α : Type} {items : List α} {text : α → List Char}
    (h : ∀ item ∈ items, Quiet (text item)) :
    Quiet (items.flatMap text) := by
  induction items with
  | nil =>
      exact Quiet.nil
  | cons item rest ih =>
      rw [List.flatMap_cons]
      refine (h item List.mem_cons_self).append (ih ?_)
      intro other hother
      exact h other (List.mem_cons_of_mem _ hother)

/-- Code is quiet if no character of it begins a label. -/
theorem of_chars
    {cs : List Char}
    (h : ∀ c ∈ cs, c ≠ 'c' ∧ c ≠ 'd' ∧ c ≠ '{' ∧ c ≠ '}') :
    Quiet cs :=
  ⟨fun c hc => (h c hc).2.2,
    exists_labelsAfter_append fun c hc => ⟨(h c hc).1, (h c hc).2.1⟩⟩

/-- A segment without blanks and colons is quiet if its last character is in no keyword. -/
theorem of_segment
    {segment : List Char} {last : Char}
    (hsegment : ∀ c ∈ segment ++ [last], Text.isBlank c = false ∧ c ≠ ':' ∧ c ≠ '{' ∧ c ≠ '}')
    (hlast : last ∉ keywordChars) :
    Quiet (segment ++ [last]) := by
  refine ⟨fun c hc => (hsegment c hc).2.2, ?_⟩
  induction segment with
  | nil =>
      intro previous
      refine ⟨some last, ?_⟩
      intro offset rest
      rw [List.nil_append, List.singleton_append, labelsAfter_cons_of_none]
      · rfl
      · intro _
        refine labelAt?_segment [] ?_ hlast
        exact fun c hc => ⟨(hsegment c hc).1, (hsegment c hc).2.1⟩
  | cons c segment ih =>
      intro previous
      obtain ⟨previous', hprevious'⟩ :=
        ih (fun d hd => hsegment d (List.mem_cons_of_mem _ hd)) (some c)
      refine ⟨previous', ?_⟩
      intro offset rest
      rw [List.cons_append, List.cons_append, labelsAfter_cons_of_none, hprevious',
        Text.byteSize_cons, Nat.add_assoc]
      intro _
      rw [List.append_assoc, List.singleton_append]
      refine labelAt?_segment (c :: segment) ?_ hlast
      exact fun d hd => ⟨(hsegment d hd).1, (hsegment d hd).2.1⟩

/-- The namespace of the standard library is quiet, since its last letter begins no word. -/
theorem std : Quiet "std".toList := by
  refine ⟨by decide, ?_⟩
  intro previous
  refine ⟨some 'd', ?_⟩
  intro offset rest
  change labelsAfter previous (locate offset ('s' :: 't' :: 'd' :: rest)) = _
  rw [labelsAfter_cons_of_none, labelsAfter_cons_of_none, labelsAfter_cons_of_none]
  · rfl
  · intro hallowed
    exact absurd hallowed (by decide)
  · intro _
    exact labelAt?_eq_none_of_head (by decide) (by decide) _ _
  · intro _
    exact labelAt?_eq_none_of_head (by decide) (by decide) _ _

end Quiet

end Snippet
end EpaperLayout
