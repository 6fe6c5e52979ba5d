import EpaperLayout.Proofs.Snippet.Places
import EpaperLayout.Proofs.Snippet.QuietCode

/-!
# The depth of braces

The nesting depth changes over a range of the code by its opening braces less its
closing ones, and the changes over adjacent ranges add up.  The brace that closes
a block is the first one at which as many blocks have been closed as opened since
the brace that opens it.

**Results.**
* `depthChange_eq_sub`: the change of the depth is a difference of two counts.
* `depthChange_add`: adjacent ranges.
* `closingBrace?_eq_some_iff`: the search for a closing brace against the depth.
* `depthChange_nonneg_of_matchingBrace?`: inside a block the depth is never below
  that of its beginning.
* `exists_matchingBrace?_lt`: a block is closed as soon as the depth has fallen back.
-/

namespace EpaperLayout
namespace Snippet

/-- How often the character stands in a range of the code, its end excluded. -/
def Lambda.countIn (lambda : Lambda) (c : Char) (start stop : Nat) : Nat :=
  ((lambda.codeIn start stop).map Located.char).count c

section Ranges

/-- Places in the order of their offsets are cut at an offset. -/
theorem eq_filter_lt_append_filter_le
    {places : List Located}
    (hplaces : places.Pairwise fun a b => a.offset < b.offset)
    (middle : Nat) :
    places = (places.filter fun place => place.offset < middle) ++
      places.filter fun place => middle ≤ place.offset := by
  induction places with
  | nil =>
      rfl
  | cons place rest ih =>
      obtain ⟨hfirst, hrest⟩ := List.pairwise_cons.mp hplaces
      by_cases hlt : place.offset < middle
      · rw [List.filter_cons_of_pos (by simpa using hlt),
          List.filter_cons_of_neg (by simpa using hlt), List.cons_append, ← ih hrest]
      · -- everything behind the place is behind the cut as well
        have hbehind : ∀ other ∈ place :: rest, middle ≤ other.offset := by
          intro other hother
          rcases List.mem_cons.mp hother with rfl | hother
          · omega
          · have := hfirst other hother
            omega
        have hnone : ((place :: rest).filter fun other => other.offset < middle) = [] := by
          rw [List.filter_eq_nil_iff]
          intro other hother
          simpa using hbehind other hother
        have hall : ((place :: rest).filter fun other => middle ≤ other.offset) =
            place :: rest := by
          rw [List.filter_eq_self]
          intro other hother
          simpa using hbehind other hother
        rw [hnone, hall, List.nil_append]

variable {lambda : Lambda} {start middle stop : Nat}

/-- Adjacent ranges of the code make up one. -/
theorem codeIn_append
    (lambda : Lambda)
    (hstart : start ≤ middle)
    (hstop : middle ≤ stop) :
    lambda.codeIn start middle ++ lambda.codeIn middle stop = lambda.codeIn start stop := by
  have hcut := eq_filter_lt_append_filter_le (pairwise_offset_codeIn lambda start stop) middle
  rw [hcut, Lambda.codeIn, Lambda.codeIn, Lambda.codeIn, List.filter_filter, List.filter_filter]
  congr 1
  · refine List.filter_congr ?_
    intro place _
    rw [Bool.eq_iff_iff]
    simp only [Bool.and_eq_true, decide_eq_true_eq]
    omega
  · refine List.filter_congr ?_
    intro place _
    rw [Bool.eq_iff_iff]
    simp only [Bool.and_eq_true, decide_eq_true_eq]
    omega

/-- The changes of the depth over adjacent ranges add up. -/
theorem depthChange_add
    (lambda : Lambda)
    (hstart : start ≤ middle)
    (hstop : middle ≤ stop) :
    lambda.depthChange start middle + lambda.depthChange middle stop =
      lambda.depthChange start stop := by
  rw [Lambda.depthChange, Lambda.depthChange, Lambda.depthChange, ← depthOf_append,
    codeIn_append lambda hstart hstop]

/-- The depth changes by the opening braces less the closing ones. -/
theorem depthOf_eq_sub (places : List Located) :
    depthOf places = ((places.map Located.char).count '{' : Int) -
      (places.map Located.char).count '}' := by
  induction places with
  | nil =>
      rfl
  | cons place rest ih =>
      rw [depthOf, ih, depthStep, List.map_cons, List.count_cons, List.count_cons]
      by_cases hopen : place.char = '{'
      · simp only [hopen, beq_iff_eq, if_true, if_neg (show '{' ≠ '}' by decide)]
        push_cast
        omega
      · by_cases hclose : place.char = '}'
        · simp only [hclose, beq_iff_eq, if_true, if_neg (show '}' ≠ '{' by decide)]
          push_cast
          omega
        · simp only [hopen, hclose, beq_iff_eq, if_false]
          omega

/-- **The depth changes by the opening braces of the range less its closing ones.** -/
theorem depthChange_eq_sub (lambda : Lambda) (start stop : Nat) :
    lambda.depthChange start stop = lambda.countIn '{' start stop - lambda.countIn '}' start stop :=
  depthOf_eq_sub _

/-- The code from a place on, up to an offset. -/
theorem codeIn_eq_cons_filter
    {first rest : List Located} {place : Located}
    (hcode : lambda.code = first ++ place :: rest)
    (hstop : place.offset < stop) :
    lambda.codeIn place.offset stop =
      place :: rest.filter fun other => other.offset < stop := by
  have hplaces := pairwise_offset_code lambda
  rw [hcode, List.pairwise_append, List.pairwise_cons] at hplaces
  obtain ⟨-, ⟨hrest, -⟩, hfirst⟩ := hplaces
  have hbefore : first.filter (fun other => place.offset ≤ other.offset &&
      other.offset < stop) = [] := by
    rw [List.filter_eq_nil_iff]
    intro other hother
    have hlt := hfirst other hother place List.mem_cons_self
    simp only [Bool.and_eq_true, decide_eq_true_eq, not_and]
    omega
  have hbehind : rest.filter (fun other => place.offset ≤ other.offset && other.offset < stop) =
      rest.filter fun other => other.offset < stop := by
    refine List.filter_congr ?_
    intro other hother
    have hlt := hrest other hother
    rw [Bool.eq_iff_iff]
    simp only [Bool.and_eq_true, decide_eq_true_eq]
    omega
  rw [Lambda.codeIn, hcode, List.filter_append, hbefore, List.nil_append,
    List.filter_cons_of_pos (by simpa using hstop), hbehind]

/-- The code from a place on begins with the place. -/
theorem codeIn_eq_cons
    {place : Located}
    (hplace : place ∈ lambda.code)
    (hstop : place.offset < stop) :
    lambda.codeIn place.offset stop = place :: lambda.codeIn (place.offset + 1) stop := by
  obtain ⟨first, rest, hcode⟩ := List.append_of_mem hplace
  have hplaces := pairwise_offset_code lambda
  rw [hcode, List.pairwise_append, List.pairwise_cons] at hplaces
  have hnone : (rest.filter fun other => other.offset < place.offset + 1) = [] := by
    rw [List.filter_eq_nil_iff]
    intro other hother
    have hlt := hplaces.2.1.1 other hother
    simp only [decide_eq_true_eq]
    omega
  rw [← codeIn_append lambda (Nat.le_succ place.offset) hstop,
    codeIn_eq_cons_filter hcode (Nat.lt_succ_self _), hnone, List.singleton_append]

/-- The code behind a place, up to an offset. -/
theorem codeIn_behind
    {first rest : List Located} {place : Located}
    (hcode : lambda.code = first ++ place :: rest)
    (hstop : place.offset < stop) :
    lambda.codeIn (place.offset + 1) stop = rest.filter fun other => other.offset < stop := by
  have hplace : place ∈ lambda.code := by
    rw [hcode]
    simp
  have hcons := codeIn_eq_cons_filter hcode hstop
  rw [codeIn_eq_cons hplace hstop] at hcons
  exact (List.cons.inj hcons).2

end Ranges

section Closing

/-- A step changes the depth by one at most, and only a closing brace lowers it. -/
theorem neg_one_le_depthStep (c : Char) :
    -1 ≤ depthStep c ∧ (depthStep c < 0 → c = '}') := by
  rw [depthStep]
  split
  · exact ⟨by omega, fun h => absurd h (by omega)⟩
  · split
    · next hclose => exact ⟨by omega, fun _ => hclose⟩
    · exact ⟨by omega, fun h => absurd h (by omega)⟩

@[simp] theorem depthStep_close : depthStep '}' = -1 :=
  rfl

/-- The search for a closing brace goes on with the new depth until it has fallen to zero. -/
theorem closingBrace?_cons
    {depth : Nat}
    (hdepth : 1 ≤ depth)
    (place : Located) (rest : List Located) :
    closingBrace? depth (place :: rest) =
      if depth + depthStep place.char = 0 then some place.offset
      else closingBrace? (depth + depthStep place.char).toNat rest := by
  rw [closingBrace?, depthStep]
  by_cases hopen : place.char = '{'
  · rw [if_pos hopen, if_pos hopen, if_neg (by omega)]
    congr 1
  · rw [if_neg hopen, if_neg hopen]
    by_cases hclose : place.char = '}'
    · rw [if_pos hclose, if_pos hclose]
      by_cases hlast : depth ≤ 1
      · rw [if_pos hlast, if_pos (by omega)]
      · rw [if_neg hlast, if_neg (by omega)]
        congr 1
        omega
    · rw [if_neg hclose, if_neg hclose, if_neg (by omega), Int.add_zero, Int.toNat_natCast]

/-- **A closing brace is found at the first place that takes the depth to zero.** -/
theorem closingBrace?_eq_some_iff
    {depth closing : Nat} {places : List Located}
    (hdepth : 1 ≤ depth) :
    closingBrace? depth places = some closing ↔
      ∃ inside brace after, places = inside ++ brace :: after ∧
        brace.offset = closing ∧ brace.char = '}' ∧ depth + depthOf inside = 1 ∧
        ∀ first second, inside = first ++ second → 1 ≤ depth + depthOf first := by
  induction places generalizing depth with
  | nil =>
      constructor
      · intro h
        cases h
      · rintro ⟨inside, brace, after, hplaces, -⟩
        simp at hplaces
  | cons place rest ih =>
      obtain ⟨hstep, hclose⟩ := neg_one_le_depthStep place.char
      rw [closingBrace?_cons hdepth]
      split
      · next hzero =>
        constructor
        · intro h
          refine ⟨[], place, rest, rfl, Option.some.inj h, hclose (by omega), ?_, ?_⟩
          · rw [depthOf]
            omega
          · intro first second hsplit
            rw [(List.append_eq_nil_iff.mp hsplit.symm).1, depthOf]
            omega
        · rintro ⟨inside, brace, after, hplaces, hoffset, -, -, hinside⟩
          cases inside with
          | nil =>
              rw [(List.cons.inj hplaces).1, hoffset]
          | cons first inside =>
              have hfirst := hinside [first] inside rfl
              rw [← (List.cons.inj hplaces).1, depthOf, depthOf] at hfirst
              omega
      · next hnonzero =>
        obtain ⟨next, hnext⟩ : ∃ next : Nat, depth + depthStep place.char = next :=
          Int.eq_ofNat_of_zero_le (by omega)
        rw [hnext, Int.toNat_natCast, ih (by omega)]
        constructor
        · rintro ⟨inside, brace, after, rfl, hoffset, hchar, hsum, hinside⟩
          refine ⟨place :: inside, brace, after, rfl, hoffset, hchar, ?_, ?_⟩
          · rw [depthOf]
            omega
          · intro first second hsplit
            cases first with
            | nil =>
                rw [depthOf]
                omega
            | cons other first =>
                obtain ⟨rfl, hrest⟩ := List.cons.inj hsplit
                have := hinside first second hrest
                rw [depthOf]
                omega
        · rintro ⟨inside, brace, after, hplaces, hoffset, hchar, hsum, hinside⟩
          cases inside with
          | nil =>
              rw [(List.cons.inj hplaces).1, hchar, depthStep_close] at hnonzero
              rw [depthOf] at hsum
              omega
          | cons other inside =>
              obtain ⟨rfl, hrest⟩ := List.cons.inj hplaces
              refine ⟨inside, brace, after, hrest, hoffset, hchar, ?_, ?_⟩
              · rw [depthOf] at hsum
                omega
              · intro first second hsplit
                have := hinside (place :: first) second (congrArg (List.cons place) hsplit)
                rw [depthOf] at this
                omega

/-- A closing brace is found where the depth has fallen far enough. -/
theorem exists_closingBrace?
    {depth : Nat} {inside : List Located}
    (hdepth : 1 ≤ depth)
    (h : depth + depthOf inside ≤ 0)
    (after : List Located) :
    ∃ brace ∈ inside, closingBrace? depth (inside ++ after) = some brace.offset := by
  induction inside generalizing depth with
  | nil =>
      rw [depthOf] at h
      omega
  | cons place inside ih =>
      have hstep := (neg_one_le_depthStep place.char).1
      rw [List.cons_append, closingBrace?_cons hdepth]
      split
      · exact ⟨place, List.mem_cons_self, rfl⟩
      · next hnonzero =>
        obtain ⟨next, hnext⟩ : ∃ next : Nat, depth + depthStep place.char = next :=
          Int.eq_ofNat_of_zero_le (by omega)
        rw [depthOf] at h
        obtain ⟨brace, hbrace, hfound⟩ :
            ∃ brace ∈ inside, closingBrace? next (inside ++ after) = some brace.offset :=
          ih (by omega) (by omega)
        rw [hnext, Int.toNat_natCast]
        exact ⟨brace, List.mem_cons_of_mem _ hbrace, hfound⟩

variable {lambda : Lambda} {opening closing : Nat}

/-- The search for the closing brace of a block begins behind its opening one. -/
theorem matchingBrace?_eq_closingBrace?
    {first rest : List Located} {place : Located}
    (hcode : lambda.code = first ++ place :: rest)
    (hchar : place.char = '{') :
    lambda.matchingBrace? place.offset = closingBrace? 1 rest := by
  have hplaces := pairwise_offset_code lambda
  rw [hcode, List.pairwise_append] at hplaces
  have hdrop : lambda.code.dropWhile (fun other => other.offset < place.offset) =
      place :: rest := by
    rw [hcode, List.dropWhile_append_of_pos, List.dropWhile_cons_of_neg (by simp)]
    intro other hother
    simpa using hplaces.2.2 other hother place List.mem_cons_self
  rw [Lambda.matchingBrace?, hdrop]
  exact if_pos ⟨rfl, hchar⟩

/-- A block that is closed begins with an opening brace. -/
theorem exists_of_matchingBrace?_eq_some
    (h : lambda.matchingBrace? opening = some closing) :
    ∃ first place rest, lambda.code = first ++ place :: rest ∧ place.offset = opening ∧
      place.char = '{' ∧ closingBrace? 1 rest = some closing := by
  obtain ⟨first, hfirst⟩ := List.dropWhile_suffix
    (fun place : Located => decide (place.offset < opening)) (l := lambda.code)
  rw [Lambda.matchingBrace?] at h
  split at h
  · next place rest hrest =>
    split at h
    · next hopening =>
      rw [hrest] at hfirst
      exact ⟨first, place, rest, hfirst.symm, hopening.1, hopening.2, h⟩
    · cases h
  · cases h

/-- A matching brace is found for an opening brace of the code, and it is a closing one. -/
theorem exists_mem_of_matchingBrace?
    (h : lambda.matchingBrace? opening = some closing) :
    (∃ place ∈ lambda.code, place.offset = opening ∧ place.char = '{') ∧
      ∃ place ∈ lambda.code, place.offset = closing ∧ place.char = '}' := by
  obtain ⟨first, place, rest, hcode, hopening, hchar, hfound⟩ :=
    exists_of_matchingBrace?_eq_some h
  obtain ⟨inside, brace, after, rfl, hclosing, hbrace, -, -⟩ :=
    (closingBrace?_eq_some_iff (Nat.le_refl 1)).mp hfound
  rw [hcode]
  exact ⟨⟨place, by simp, hopening, hchar⟩, ⟨brace, by simp, hclosing, hbrace⟩⟩

/-- **Inside a block the depth is never below that of its beginning.** -/
theorem depthChange_nonneg_of_matchingBrace?
    (h : lambda.matchingBrace? opening = some closing)
    {offset : Nat}
    (hopening : opening < offset)
    (hclosing : offset ≤ closing) :
    0 ≤ lambda.depthChange (opening + 1) offset := by
  obtain ⟨first, place, rest, hcode, rfl, -, hfound⟩ := exists_of_matchingBrace?_eq_some h
  obtain ⟨inside, brace, after, rfl, rfl, -, -, hinside⟩ :=
    (closingBrace?_eq_some_iff (Nat.le_refl 1)).mp hfound
  have hplaces := pairwise_offset_code lambda
  rw [hcode, List.pairwise_append, List.pairwise_cons, List.pairwise_append] at hplaces
  obtain ⟨-, ⟨-, hsorted, hbrace, -⟩, -⟩ := hplaces
  -- the range is a first part of the block
  have hnone : ((brace :: after).filter fun other => other.offset < offset) = [] := by
    rw [List.filter_eq_nil_iff]
    intro other hother
    simp only [decide_eq_true_eq]
    rcases List.mem_cons.mp hother with rfl | hother
    · omega
    · have := (List.pairwise_cons.mp hbrace).1 other hother
      omega
  rw [Lambda.depthChange, codeIn_behind hcode hopening, List.filter_append, hnone,
    List.append_nil]
  have := hinside _ _ (eq_filter_lt_append_filter_le hsorted offset)
  omega

/-- **A block is closed as soon as the depth has fallen back.** -/
theorem exists_matchingBrace?_lt
    {place : Located} {stop : Nat}
    (hplace : place ∈ lambda.code)
    (hchar : place.char = '{')
    (hstop : place.offset < stop)
    (hdepth : lambda.depthChange place.offset stop ≤ 0) :
    ∃ closing, lambda.matchingBrace? place.offset = some closing ∧ closing < stop := by
  obtain ⟨first, rest, hcode⟩ := List.append_of_mem hplace
  have hplaces := pairwise_offset_code lambda
  rw [hcode, List.pairwise_append, List.pairwise_cons] at hplaces
  have hsplit := eq_filter_lt_append_filter_le hplaces.2.1.2 stop
  rw [Lambda.depthChange, codeIn_eq_cons_filter hcode hstop, depthOf, hchar] at hdepth
  obtain ⟨brace, hbrace, hfound⟩ := exists_closingBrace? (Nat.le_refl 1) hdepth
    (rest.filter fun other => stop ≤ other.offset)
  rw [← hsplit] at hfound
  refine ⟨brace.offset, ?_, ?_⟩
  · rw [matchingBrace?_eq_closingBrace? hcode hchar, hfound]
  · simpa using (List.mem_filter.mp hbrace).2

end Closing

end Snippet
end EpaperLayout
