import EpaperLayout.Proofs.Snippet.PageSequence

/-!
# The identifiers of pages

Every page wants an identifier: that of its page marker, or one named after its
ordinal.  It gets the first of some *candidates* that no earlier page has, which are
the wanted identifier itself and then the same with the numbers from two on.

**Search.**  The candidates go on without an end, and so does `Finds`, the search
among them.  They are all different, so the search comes to an end behind no more
candidates than there are identifiers in use.

**Step and run.**
* `isNamed_freeId`: what one page gets, and what is remarked on it.
* `nodup_ids_giveAll`: any number of pages, whatever they want.
* `PageReading.naming_ofBranches`: the pages of branches are named so.
-/

namespace EpaperLayout
namespace Snippet

section Candidates

/-- The identifiers that are tried for a page, in their order. -/
def candidate (id : String) : Nat → String
  | 0 => id
  | k + 1 => numbered id (k + 2)

/-- The search among the candidates from an index on comes to an identifier that is not used, with
the last of as many candidates as it tries. -/
inductive Finds (used : List String) (id : String) : (index tries : Nat) → String → Prop
  | free {index : Nat} (h : candidate id index ∉ used) :
      Finds used id index 1 (candidate id index)
  | taken {index tries : Nat} {given : String} (h : candidate id index ∈ used)
      (rest : Finds used id (index + 1) tries given) :
      Finds used id index (tries + 1) given

theorem numbered_ne_self (id : String) (number : Nat) : numbered id number ≠ id := by
  intro h
  have hlength := congrArg (fun s => s.toList.length) h
  simp [toList_numbered] at hlength

/-- All candidates are different. -/
theorem candidate_injective (id : String) : Function.Injective (candidate id) := by
  intro i j h
  cases i with
  | zero =>
      cases j with
      | zero => rfl
      | succ j => exact absurd h.symm (numbered_ne_self id _)
  | succ i =>
      cases j with
      | zero => exact absurd h (numbered_ne_self id _)
      | succ j =>
          have := numbered_injective id h
          omega

/-- A page gets the first candidate that is not used. -/
theorem exists_freeId_eq_candidate (used : List String) (id : String) :
    ∃ k, freeId used id = candidate id k ∧ ∀ j < k, candidate id j ∈ used := by
  by_cases hused : id ∈ used
  · obtain ⟨k, hk, htaken⟩ := exists_freeIdFrom_eq used id used.length 2
    refine ⟨k + 1, ?_, ?_⟩
    · rw [freeId, if_pos (List.contains_iff_mem.mpr hused), hk, Nat.add_comm]
      rfl
    · intro j hj
      cases j with
      | zero =>
          exact hused
      | succ j =>
          have := htaken j (by omega)
          rwa [Nat.add_comm] at this
  · exact ⟨0, freeId_of_notMem hused, fun j hj => absurd hj (Nat.not_lt_zero j)⟩

/-- The search ends where the first candidate is that is not used. -/
theorem finds_of_forall_mem
    {used : List String} {id : String} {k : Nat}
    (index : Nat)
    (htaken : ∀ j < k, candidate id (index + j) ∈ used)
    (hfree : candidate id (index + k) ∉ used) :
    Finds used id index (k + 1) (candidate id (index + k)) := by
  induction k generalizing index with
  | zero =>
      exact .free hfree
  | succ k ih =>
      have hnext : index + (k + 1) = index + 1 + k := by omega
      rw [hnext] at hfree ⊢
      refine .taken (htaken 0 (Nat.succ_pos k)) (ih (index + 1) ?_ hfree)
      intro j hj
      have := htaken (j + 1) (by omega)
      rwa [show index + (j + 1) = index + 1 + j by omega] at this

end Candidates

section Naming

/-- What is remarked on a page that wants an identifier and gets one. -/
def renameRemarks (wanted given : String) : List Oddity :=
  if given = wanted then [] else [.renamedPage wanted given]

/-- The identifiers of the pages so far, and the remarks on those that were renamed. -/
structure Naming where
  ids : List String := []
  remarks : List Oddity := []
deriving DecidableEq, Repr

namespace Naming

/-- Gives one more page its identifier. -/
def give (naming : Naming) (wanted : String) : Naming where
  ids := naming.ids ++ [freeId naming.ids wanted]
  remarks := naming.remarks ++ renameRemarks wanted (freeId naming.ids wanted)

/-- Gives all pages their identifiers, the first one first. -/
def giveAll (wanted : List String) : Naming :=
  wanted.foldl give {}

theorem giveAll_concat (wanted : List String) (id : String) :
    giveAll (wanted ++ [id]) = (giveAll wanted).give id := by
  rw [giveAll, List.foldl_concat]
  rfl

/-- Every page gets one identifier. -/
theorem length_ids_giveAll (wanted : List String) :
    (giveAll wanted).ids.length = wanted.length := by
  induction wanted using List.reverseRecOn with
  | nil =>
      rfl
  | append_singleton wanted id ih =>
      rw [giveAll_concat, give, List.length_append, List.length_append, ih]
      rfl

/-- **No two pages get the same identifier,** whatever they want. -/
theorem nodup_ids_giveAll (wanted : List String) : (giveAll wanted).ids.Nodup := by
  induction wanted using List.reverseRecOn with
  | nil =>
      exact List.nodup_nil
  | append_singleton wanted id ih =>
      rw [giveAll_concat, give, ← List.concat_eq_append]
      exact ih.concat (freeId_notMem _ _)

end Naming

/-- A page that wants `id` when some identifiers are used gets `given`, with these remarks. -/
structure IsNamed (used : List String) (id given : String) (remarks : List Oddity) : Prop where
  /-- The search for it tries at most one candidate more than there are identifiers in use. -/
  found : ∃ tries ≤ used.length + 1, Finds used id 0 tries given
  isNew : given ∉ used
  kept : id ∉ used → given = id ∧ remarks = []
  /-- The number is the least one from two on that is free. -/
  renamed : id ∈ used → given ≠ "" ∧ remarks = [.renamedPage id given] ∧
    ∃ number ≤ used.length + 1, given = s!"{id}_{number}" ∧
      IsLeast {n : Nat | 2 ≤ n ∧ s!"{id}_{n}" ∉ used} number

/-- **What a page gets.** -/
theorem isNamed_freeId (used : List String) (id : String) :
    IsNamed used id (freeId used id) (renameRemarks id (freeId used id)) := by
  have hnew := freeId_notMem used id
  obtain ⟨k, hgiven, htaken⟩ := exists_freeId_eq_candidate used id
  have hcount : k ≤ used.length := le_length_of_forall_mem (candidate_injective id) htaken
  refine ⟨⟨k + 1, by omega, ?_⟩, hnew, ?_, ?_⟩
  · have hfinds := finds_of_forall_mem 0 (by simpa using htaken)
      (by rwa [Nat.zero_add, ← hgiven])
    rwa [Nat.zero_add, ← hgiven] at hfinds
  · intro hfree
    rw [freeId_of_notMem hfree]
    exact ⟨rfl, if_pos rfl⟩
  · intro hused
    have hother : freeId used id ≠ id := by
      rw [Ne, freeId_eq_iff, not_not]
      exact hused
    obtain ⟨k, rfl⟩ : ∃ j, k = j + 1 := by
      cases k with
      | zero => exact absurd hgiven hother
      | succ k => exact ⟨k, rfl⟩
    have hnumbered : freeId used id = numbered id (k + 2) := hgiven
    refine ⟨?_, if_neg hother, k + 2, by omega, hnumbered, ⟨by omega, ?_⟩, ?_⟩
    · intro hempty
      have hlist := congrArg String.toList (hnumbered.symm.trans hempty)
      rw [toList_numbered] at hlist
      simp at hlist
    · change numbered id (k + 2) ∉ used
      rwa [← hnumbered]
    · rintro n ⟨htwo, hfree⟩
      by_contra hless
      obtain ⟨j, rfl⟩ : ∃ j, n = j + 2 := ⟨n - 2, by omega⟩
      exact hfree (htaken (j + 1) (by omega))

end Naming

section Branches

/-- Whether something odd is that a page was renamed. -/
def Oddity.isRenaming : Oddity → Bool
  | .renamedPage .. => true
  | _ => false

theorem Oddity.isRenaming_eq_false
    {oddity : Oddity}
    (h : oddity.isAboutMarker = true) :
    oddity.isRenaming = false := by
  cases oddity <;> first | rfl | cases h

theorem filter_isRenaming_renameRemarks (wanted given : String) :
    (renameRemarks wanted given).filter Oddity.isRenaming = renameRemarks wanted given := by
  rw [renameRemarks]
  split <;> rfl

/-- The remarks on renamed pages among warnings. -/
def renamingsIn (warnings : List Warning) : List Oddity :=
  (warnings.map Warning.oddity).filter Oddity.isRenaming

theorem renamingsIn_append (first second : List Warning) :
    renamingsIn (first ++ second) = renamingsIn first ++ renamingsIn second := by
  rw [renamingsIn, List.map_append, List.filter_append]
  rfl

theorem renamingsIn_map_warning (lambda : Lambda) (offset : Nat) (oddities : List Oddity) :
    renamingsIn (oddities.map (lambda.warning offset)) = oddities.filter Oddity.isRenaming := by
  rw [renamingsIn, List.map_map]
  exact congrArg _ (List.map_id _)

/-- The identifier that the page of a branch wants: that of the first page marker that can be read,
or one named after the ordinal. -/
def wantedId (lambda : Lambda) (ordinal : Nat) (branch : Branch) : String :=
  (((markersIn lambda branch).findSome? pageOf?).map PageIdentity.id).getD s!"page_{ordinal}"

/-- The identifiers that the pages of branches want. -/
def wantedIds (lambda : Lambda) (branches : List Branch) : List String :=
  (ordinalBranches branches).mapIdx (wantedId lambda)

namespace PageReading

/-- How the pages that have been read are named. -/
def naming (reading : PageReading) : Naming where
  ids := reading.pageIds
  remarks := renamingsIn reading.warnings

variable {lambda : Lambda} {reading : PageReading} {branch : Branch}

/-- The remark on a label is not about the name of its page. -/
theorem filter_isRenaming_labelOddity? (digits : List Char) (ordinal : UInt32) :
    (labelOddity? digits ordinal).toList.filter Oddity.isRenaming = [] := by
  rw [labelOddity?]
  split
  · split <;> rfl
  · rfl

/-- A branch that adds no page names none. -/
theorem naming_addBranch_of_skipped
    (lambda : Lambda)
    (h : branch.label.digits = none ∨ UInt32.size ≤ reading.pages.length) :
    (reading.addBranch lambda branch).naming = reading.naming := by
  obtain ⟨oddities, hadd, hkinds⟩ := exists_addBranch_eq_of_skipped lambda h
  have hnone : oddities.filter Oddity.isRenaming = [] := by
    rw [List.filter_eq_nil_iff]
    intro oddity hoddity
    rcases hkinds oddity hoddity with rfl | rfl <;> exact Bool.false_ne_true
  rw [hadd, naming, renamingsIn_append, renamingsIn_map_warning, hnone, List.append_nil]
  rfl

/-- A branch that adds a page names it. -/
theorem naming_addBranch
    (lambda : Lambda)
    (hlabel : branch.label.digits.isSome = true)
    (hroom : reading.pages.length < UInt32.size) :
    (reading.addBranch lambda branch).naming =
      reading.naming.give (wantedId lambda reading.pages.length branch) := by
  obtain ⟨digits, hdigits⟩ := Option.isSome_iff_exists.mp hlabel
  have haccount := accountsFor_ofMarkers reading.widgetIds (markersIn lambda branch)
  have hordinal : (UInt32.ofNat reading.pages.length).toNat = reading.pages.length :=
    UInt32.toNat_ofNat_of_lt' hroom
  rw [addBranch_eq_addPage lambda reading hdigits, addPage, if_neg (by omega)]
  generalize BranchContents.ofMarkers reading.widgetIds (markersIn lambda branch) =
    contents at haccount ⊢
  have hwanted : wantedId lambda reading.pages.length branch =
      (contents.identity.getD (defaultIdentity (UInt32.ofNat reading.pages.length))).id := by
    rw [wantedId, ← haccount.identity_eq]
    cases contents.identity with
    | none =>
        rw [Option.map_none, Option.getD_none, Option.getD_none, defaultIdentity, hordinal]
    | some identity =>
        rfl
  have hmarkers :
      renamingsIn (contents.oddities.map fun odd => lambda.warning odd.1 odd.2) = [] := by
    rw [renamingsIn, List.map_map, List.filter_eq_nil_iff]
    intro oddity hoddity
    obtain ⟨odd, hodd, rfl⟩ := List.mem_map.mp hoddity
    exact Bool.not_eq_true _ ▸ Oddity.isRenaming_eq_false (haccount.aboutMarker odd hodd)
  rw [hwanted, naming, Naming.give]
  congr 1
  · rw [pageIds, List.map_append]
    rfl
  · rw [renamingsIn_append, renamingsIn_append, renamingsIn_append, renamingsIn_map_warning,
      renamingsIn_map_warning, hmarkers, filter_isRenaming_labelOddity?, List.append_nil,
      List.append_nil, List.filter_append]
    congr 1
    have hmissing : (if contents.identity.isNone then
        [Oddity.missingPage (UInt32.ofNat reading.pages.length)] else []).filter
          Oddity.isRenaming = [] := by
      split <;> rfl
    rw [hmissing, List.nil_append]
    exact filter_isRenaming_renameRemarks _ _

/-- **The pages of branches get their identifiers one after the other.** -/
theorem naming_ofBranches (lambda : Lambda) (branches : List Branch) :
    (ofBranches lambda branches).naming = Naming.giveAll (wantedIds lambda branches) := by
  induction branches using List.reverseRecOn with
  | nil =>
      rfl
  | append_singleton branches branch ih =>
      have hlength := (addsUpTo_ofBranches lambda branches).length_eq
      by_cases hskipped : branch.label.digits = none ∨
          UInt32.size ≤ (ofBranches lambda branches).pages.length
      · rw [ofBranches_concat, naming_addBranch_of_skipped lambda hskipped, ih, wantedIds, wantedIds,
          ordinalBranches_concat_of_skipped (hlength ▸ hskipped)]
      · rw [not_or, Nat.not_le] at hskipped
        obtain ⟨hlabel, hroom⟩ := hskipped
        have hsome := Option.isSome_iff_ne_none.mpr hlabel
        rw [ofBranches_concat, naming_addBranch lambda hsome hroom, ih, wantedIds, wantedIds,
          ordinalBranches_concat hsome (hlength ▸ hroom), List.mapIdx_concat,
          Naming.giveAll_concat, hlength]

end PageReading

end Branches

/-- An identifier that looks like a renamed one may be taken by then, and may be wanted later. -/
example : (Naming.giveAll ["p", "p_2", "p", "p_3", "p_2"]).ids =
    ["p", "p_2", "p_3", "p_3_2", "p_2_2"] := by
  decide +kernel

end Snippet
end EpaperLayout
