import EpaperLayout.Text.Blank
import Mathlib.Data.List.TakeWhile

/-!
# Trimming

Trimming takes blanks away and nothing else: what is visible stays, and it does not
matter how many blanks stand in front or behind.
-/

namespace EpaperLayout
namespace Text

/-- A visible character at the start stays there. -/
theorem trimLeft_cons
    {c : Char}
    (h : isBlank c = false)
    (cs : List Char) :
    trimLeft (c :: cs) = c :: cs :=
  List.dropWhile_cons_of_neg (by rw [h]; exact Bool.false_ne_true)

/-- Spaces in front are taken away. -/
theorem trimLeft_replicate_append (n : Nat) (cs : List Char) :
    trimLeft (List.replicate n ' ' ++ cs) = trimLeft cs := by
  refine List.dropWhile_append_of_pos ?_
  intro c hc
  rw [List.eq_of_mem_replicate hc]
  decide

theorem trim_replicate_append (n : Nat) (cs : List Char) :
    trim (List.replicate n ' ' ++ cs) = trim cs := by
  rw [trim, trimLeft_replicate_append, trim]

/-- **What is visible stays.** -/
theorem mem_trim
    {c : Char} {cs : List Char}
    (h : c ∈ cs)
    (hvisible : isBlank c = false) :
    c ∈ trim cs := by
  have hdrop : ∀ {ds : List Char}, c ∈ ds → c ∈ ds.dropWhile isBlank := by
    intro ds hmem
    rw [← List.takeWhile_append_dropWhile (p := isBlank) (l := ds), List.mem_append] at hmem
    rcases hmem with hmem | hmem
    · rw [List.mem_takeWhile_imp hmem] at hvisible
      cases hvisible
    · exact hmem
  rw [trim, trimRight, List.mem_reverse]
  exact hdrop (List.mem_reverse.mpr (hdrop h))

/-- Something is left of a text with a visible character. -/
theorem isEmpty_trim_of_mem
    {c : Char} {cs : List Char}
    (h : c ∈ cs)
    (hvisible : isBlank c = false) :
    (trim cs).isEmpty = false :=
  List.isEmpty_eq_false_iff.mpr (List.ne_nil_of_mem (mem_trim h hvisible))

/-- The blanks that are taken away stand at the two ends. -/
theorem exists_eq_append_trim (cs : List Char) :
    ∃ before after, cs = before ++ trim cs ++ after ∧
      (∀ c ∈ before, isBlank c = true) ∧ ∀ c ∈ after, isBlank c = true := by
  have hright : trimLeft cs =
      trim cs ++ ((trimLeft cs).reverse.takeWhile isBlank).reverse := by
    rw [trim, trimRight, ← List.reverse_append, List.takeWhile_append_dropWhile,
      List.reverse_reverse]
  refine ⟨cs.takeWhile isBlank, ((trimLeft cs).reverse.takeWhile isBlank).reverse, ?_, ?_, ?_⟩
  · rw [List.append_assoc, ← hright, trimLeft, List.takeWhile_append_dropWhile]
  · exact fun c hc => List.mem_takeWhile_imp hc
  · exact fun c hc => List.mem_takeWhile_imp (List.mem_reverse.mp hc)

/-- **Blanks around a text with visible ends are taken away.** -/
theorem trim_append_append
    {before core after : List Char}
    (hbefore : ∀ c ∈ before, isBlank c = true)
    (hafter : ∀ c ∈ after, isBlank c = true)
    (hfirst : ∀ c ∈ core.head?, isBlank c = false)
    (hlast : ∀ c ∈ core.getLast?, isBlank c = false) :
    trim (before ++ core ++ after) = core := by
  have hleft : trimLeft (before ++ core ++ after) = trimLeft (core ++ after) := by
    rw [List.append_assoc]
    exact List.dropWhile_append_of_pos hbefore
  rw [trim, hleft]
  cases core with
  | nil =>
      rw [List.nil_append, (trimLeft_eq_nil_iff after).mpr hafter]
      rfl
  | cons c rest =>
      have hc := hfirst c rfl
      obtain ⟨last, hsome⟩ : ∃ last, (c :: rest).getLast? = some last :=
        ⟨_, List.getLast?_eq_some_getLast (List.cons_ne_nil c rest)⟩
      obtain ⟨init, hsplit⟩ := List.getLast?_eq_some_iff.mp hsome
      have hend := hlast last hsome
      rw [List.cons_append, trimLeft_cons hc, ← List.cons_append, trimRight, List.reverse_append,
        List.dropWhile_append_of_pos fun d hd => hafter d (List.mem_reverse.mp hd), hsplit,
        List.reverse_append, List.reverse_singleton, List.singleton_append,
        List.dropWhile_cons_of_neg (by rw [hend]; exact Bool.false_ne_true)]
      simp

end Text
end EpaperLayout
