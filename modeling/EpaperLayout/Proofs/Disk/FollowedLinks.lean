import EpaperLayout.Proofs.Disk.PathSteps
import EpaperLayout.Disk.Tree
import EpaperLayout.Proofs.Success
import Mathlib.Data.List.Basic

/-!
# Following a path

A path is followed segment by segment, and a link on the way is followed first.  Here
this is told as a relation, which counts the links: `Leads`.  It says no more than the
function that looks a path up, but it can be taken apart where the path can.

**Ways.**  Only directories and links are passed on the way of a path.  So a tree that
keeps them leads every path to where it led before, whatever becomes of files.

**Passing a place.**  When something is taken away that is no directory, a path leads
to where it led before, or it has passed a link there.  A path that comes to the same
link a second time never ends, so what is known of the rest of the way after the last
visit is known of every visit.

**Results.**
* `trace_eq_ok_iff`: looking up is following.
* `Leads.eq`: a path leads to one place, by way of one number of links.
* `Leads.of_keepsWays`: and to the same place while directories and links are kept.
* `Leads.of_append`: a path is followed part by part.
* `Leads.unfollowed`, `Leads.follow`, `Leads.followLink`: the last segment may be a link.
* `Leads.erase_or`: what is left of a way when something is taken away.
-/

namespace EpaperLayout
namespace Disk

/-- Whether a path may go on at the entry. -/
def Entry.isWay : Entry → Bool
  | .file _ _ => false
  | _ => true

namespace Tree

variable {tree later : Tree} {followLast : Bool} {links : Nat}
variable {location directory : Location} {name : String} {segments : List String}

/-- The segments lead from a location to the last of them in the directory, by way of so many
links. -/
inductive Leads (tree : Tree) (followLast : Bool) (directory : Location) (name : String) :
    (links : Nat) → Location → List String → Prop
  | last {next : Location} :
      tree.enter directory name = .ok next →
      (followLast = true → ∀ target, tree.get? next ≠ some (.link target)) →
      Leads tree followLast directory name 0 directory [name]
  | pass {links : Nat} {location next : Location} {segment other : String} {rest : List String} :
      tree.enter location segment = .ok next →
      tree.get? next = some .directory →
      Leads tree followLast directory name links next (other :: rest) →
      Leads tree followLast directory name links location (segment :: other :: rest)
  | link {links : Nat} {location next : Location} {segment : String} {target : Path}
      {rest : List String} :
      tree.enter location segment = .ok next →
      tree.get? next = some (.link target) →
      faultOf? target = none →
      (rest ≠ [] ∨ followLast = true) →
      Leads tree followLast directory name links (start next.dropLast target)
        (Path.segments target ++ rest) →
      Leads tree followLast directory name (links + 1) location (segment :: rest)

theorem enter_eq_ok_iff
    {next : Location} {segment : String} :
    tree.enter location segment = .ok next ↔
      tree.get? location = some .directory ∧ tree.refuses .search location = false ∧
        segment.utf8ByteSize ≤ nameLimit ∧ advance location segment = next := by
  unfold enter
  split
  · next hdirectory => simp [hdirectory]
  · next hdirectory =>
    rw [Decidable.not_not] at hdirectory
    split
    · next hrefused => simp [hrefused]
    · next hrefused =>
      rw [Bool.not_eq_true] at hrefused
      split
      · next hlimit => simp [Nat.not_le.mpr hlimit]
      · next hlimit => simp [hdirectory, hrefused, Nat.not_lt.mp hlimit]

/-- Paths are looked up from the same location if both are absolute or both are not. -/
theorem base_eq_of_isAbsolute_eq
    {path other : Path}
    (h : Path.isAbsolute path = Path.isAbsolute other)
    (tree : Tree) :
    tree.base path = tree.base other := by
  rw [base, base, start, start, h]

section LookingUp

/-- What follows a segment begins in a directory. -/
theorem Leads.get?_eq (h : Leads tree followLast directory name links location segments) :
    tree.get? location = some .directory := by
  cases h with
  | last henter => exact (enter_eq_ok_iff.mp henter).1
  | pass henter => exact (enter_eq_ok_iff.mp henter).1
  | link henter => exact (enter_eq_ok_iff.mp henter).1

theorem Leads.cons
    {next : Location} {segment : String}
    (henter : tree.enter location segment = .ok next)
    (hdirectory : tree.get? next = some .directory)
    (h : Leads tree followLast directory name links next segments) :
    Leads tree followLast directory name links location (segment :: segments) := by
  cases segments with
  | nil => cases h
  | cons other rest => exact .pass henter hdirectory h

/-- A walk that ends leads there, if what is done at links does. -/
theorem exists_leads_of_walk_eq_ok
    {atLink : Location → Path → List String → Except AccessError (Location × String)}
    (hatLink : ∀ next target rest, atLink next target rest = .ok (directory, name) →
      faultOf? target = none ∧ ∃ count, count + 1 ≤ links ∧
        Leads tree followLast directory name count (start next.dropLast target)
          (Path.segments target ++ rest))
    (h : tree.walk followLast atLink location segments = .ok (directory, name)) :
    ∃ count ≤ links, Leads tree followLast directory name count location segments := by
  fun_induction walk tree followLast atLink location segments with
  | case1 => cases h
  | case2 location segment =>
      obtain ⟨next, henter, h⟩ := exists_of_bind_eq_ok h
      split at h
      · next target hlink =>
        split at h
        · next hfollow =>
          obtain ⟨htarget, count, hcount, hleads⟩ := hatLink next target [] h
          exact ⟨count + 1, hcount, .link henter hlink htarget (Or.inr hfollow) hleads⟩
        · next hfollow =>
          cases h
          exact ⟨0, Nat.zero_le _, .last henter fun hfollow' => absurd hfollow' hfollow⟩
      · next hlink =>
        cases h
        exact ⟨0, Nat.zero_le _, .last henter fun _ => hlink⟩
  | case3 location segment other rest ih =>
      obtain ⟨next, henter, h⟩ := exists_of_bind_eq_ok h
      split at h
      · next target hlink =>
        obtain ⟨htarget, count, hcount, hleads⟩ := hatLink next target (other :: rest) h
        exact ⟨count + 1, hcount,
          .link henter hlink htarget (Or.inl (List.cons_ne_nil _ _)) hleads⟩
      · obtain ⟨count, hcount, hleads⟩ := ih next h
        exact ⟨count, hcount, .pass henter hleads.get?_eq hleads⟩
      · cases h

/-- **Looking segments up is following them**, by way of no more links than allowed. -/
theorem trace_eq_ok_iff :
    tree.trace followLast links location segments = .ok (directory, name) ↔
      ∃ count ≤ links, Leads tree followLast directory name count location segments := by
  constructor
  · intro h
    induction links generalizing location segments with
    | zero =>
        refine exists_leads_of_walk_eq_ok ?_ h
        intro next target rest hlink
        cases hlink
    | succ links ih =>
        refine exists_leads_of_walk_eq_ok ?_ h
        intro next target rest hlink
        split at hlink
        · cases hlink
        · next htarget =>
          obtain ⟨count, hcount, hleads⟩ := ih hlink
          exact ⟨htarget, count, Nat.succ_le_succ hcount, hleads⟩
  · rintro ⟨count, hcount, hleads⟩
    have hwalk (links : Nat) : ∃ atLink, ∀ location segments,
        tree.trace followLast links location segments =
          tree.walk followLast atLink location segments := by
      cases links <;> exact ⟨_, fun _ _ => rfl⟩
    induction hleads generalizing links with
    | @last next henter hlast =>
        obtain ⟨atLink, hatLink⟩ := hwalk links
        rw [hatLink, walk, henter]
        simp only [bind, Except.bind]
        split
        · next target hlink =>
          split
          · next hfollow => exact absurd hlink (hlast hfollow target)
          · rfl
        · rfl
    | pass henter hdirectory _ ih =>
        have hrest := ih hcount
        obtain ⟨atLink, hatLink⟩ := hwalk links
        rw [hatLink] at hrest ⊢
        rw [walk, henter]
        simp only [bind, Except.bind, hdirectory]
        exact hrest
    | @link links' location next segment target rest henter hlink htarget hgoes _ ih =>
        cases links with
        | zero => exact absurd hcount (Nat.not_succ_le_zero _)
        | succ links =>
            have hrest := ih (Nat.le_of_succ_le_succ hcount)
            rw [trace]
            cases rest with
            | nil =>
                have hfollow : followLast = true := hgoes.resolve_left (not_not_intro rfl)
                rw [walk, henter]
                simp only [bind, Except.bind, hlink, if_pos hfollow, htarget]
                exact hrest
            | cons other rest =>
                rw [walk, henter]
                simp only [bind, Except.bind, hlink, htarget]
                exact hrest

/-- A last segment that is followed is no link. -/
theorem Leads.get?_ne_link
    (h : Leads tree true directory name links location segments)
    (target : Path) :
    tree.get? (advance directory name) ≠ some (.link target) := by
  induction h with
  | last henter hlast =>
      rw [(enter_eq_ok_iff.mp henter).2.2.2]
      exact hlast rfl target
  | pass _ _ _ ih => exact ih
  | link _ _ _ _ _ ih => exact ih

/-- At a link, what follows begins at its target. -/
theorem Leads.of_link
    {next : Location} {segment : String} {target : Path} {rest : List String}
    (henter : tree.enter location segment = .ok next)
    (hlink : tree.get? next = some (.link target))
    (hgoes : rest ≠ [] ∨ followLast = true)
    (h : Leads tree followLast directory name links location (segment :: rest)) :
    ∃ count, links = count + 1 ∧ Leads tree followLast directory name count
      (start next.dropLast target) (Path.segments target ++ rest) := by
  cases h with
  | last henter' hlast =>
      rw [henter] at henter'
      cases henter'
      exact absurd hlink (hlast (hgoes.resolve_left (not_not_intro rfl)) _)
  | pass henter' hdirectory =>
      rw [henter] at henter'
      cases henter'
      rw [hlink] at hdirectory
      cases hdirectory
  | link henter' hlink' _ _ hrest =>
      rw [henter] at henter'
      cases henter'
      rw [hlink] at hlink'
      cases hlink'
      exact ⟨_, rfl, hrest⟩

/-- **Segments lead to one place**, by way of one number of links. -/
theorem Leads.eq
    {otherDirectory : Location} {otherName : String} {otherLinks : Nat}
    (h : Leads tree followLast directory name links location segments)
    (hother : Leads tree followLast otherDirectory otherName otherLinks location segments) :
    otherDirectory = directory ∧ otherName = name ∧ otherLinks = links := by
  induction h generalizing otherLinks with
  | last henter hlast =>
      cases hother with
      | last => exact ⟨rfl, rfl, rfl⟩
      | link henter' hlink _ hgoes =>
          rw [henter] at henter'
          cases henter'
          exact absurd hlink (hlast (hgoes.resolve_left (not_not_intro rfl)) _)
  | pass henter hdirectory _ ih =>
      cases hother with
      | pass henter' _ hrest =>
          rw [henter] at henter'
          cases henter'
          exact ih hrest
      | link henter' hlink =>
          rw [henter] at henter'
          cases henter'
          rw [hdirectory] at hlink
          cases hlink
  | link henter hlink _ hgoes _ ih =>
      obtain ⟨count, rfl, hrest⟩ := hother.of_link henter hlink hgoes
      obtain ⟨hdirectory, hname, rfl⟩ := ih hrest
      exact ⟨hdirectory, hname, rfl⟩

end LookingUp

section Ways

/-- The later tree has all directories and links of the earlier one, and paths are looked up from
the same place. -/
structure KeepsWays (tree later : Tree) : Prop where
  workingDirectory_eq : later.workingDirectory = tree.workingDirectory
  refuses_eq : later.refuses = tree.refuses
  get?_eq : ∀ {location entry}, tree.get? location = some entry → entry.isWay = true →
    later.get? location = some entry

theorem KeepsWays.trans
    {last : Tree}
    (h : KeepsWays tree later)
    (hlast : KeepsWays later last) :
    KeepsWays tree last :=
  ⟨hlast.workingDirectory_eq.trans h.workingDirectory_eq, hlast.refuses_eq.trans h.refuses_eq,
    fun hget hway => hlast.get?_eq (h.get?_eq hget hway) hway⟩

theorem KeepsWays.base_eq
    (h : KeepsWays tree later)
    (path : Path) :
    later.base path = tree.base path := by
  rw [base, base, h.workingDirectory_eq]

theorem KeepsWays.enter_eq_ok
    {next : Location} {segment : String}
    (h : KeepsWays tree later)
    (henter : tree.enter location segment = .ok next) :
    later.enter location segment = .ok next := by
  rw [enter_eq_ok_iff] at henter ⊢
  rw [h.refuses_eq]
  exact ⟨h.get?_eq henter.1 rfl, henter.2⟩

/-- **A tree that keeps directories and links leads to the same place**, if no link has come to stand
there. -/
theorem Leads.of_keepsWays
    (hkeeps : KeepsWays tree later)
    (hlast : followLast = true → ∀ target,
      later.get? (advance directory name) ≠ some (.link target))
    (h : Leads tree followLast directory name links location segments) :
    Leads later followLast directory name links location segments := by
  induction h with
  | last henter =>
      rw [← (enter_eq_ok_iff.mp henter).2.2.2] at henter
      exact .last (hkeeps.enter_eq_ok henter) hlast
  | pass henter hdirectory _ ih =>
      exact .pass (hkeeps.enter_eq_ok henter) (hkeeps.get?_eq hdirectory rfl) ih
  | link henter hlink htarget hgoes _ ih =>
      exact .link (hkeeps.enter_eq_ok henter) (hkeeps.get?_eq hlink rfl) htarget hgoes ih

/-- So it is for a last segment that is not followed. -/
theorem Leads.own_of_keepsWays
    (hkeeps : KeepsWays tree later)
    (h : Leads tree false directory name links location segments) :
    Leads later false directory name links location segments :=
  h.of_keepsWays hkeeps nofun

/-- And so it is where a file is. -/
theorem Leads.file_of_keepsWays
    {content : List UInt8} {readable : Bool}
    (hkeeps : KeepsWays tree later)
    (hfile : later.get? (advance directory name) = some (.file content readable))
    (h : Leads tree followLast directory name links location segments) :
    Leads later followLast directory name links location segments :=
  h.of_keepsWays hkeeps fun _ _ hlink => nomatch hfile.symm.trans hlink

end Ways

section Parts

/-- **Segments are followed part by part.**  Where more segments come, the first ones lead to a
directory. -/
theorem Leads.of_append
    {otherDirectory : Location} {otherName : String} {otherLinks : Nat} {rest : List String}
    (h : Leads tree true directory name links location segments)
    (hrest : rest ≠ [])
    (hall : Leads tree followLast otherDirectory otherName otherLinks location
      (segments ++ rest)) :
    tree.get? (advance directory name) = some .directory ∧
      ∃ count, otherLinks = links + count ∧
        Leads tree followLast otherDirectory otherName count (advance directory name) rest := by
  induction h generalizing otherLinks with
  | last henter hlast =>
      obtain ⟨other, others, rfl⟩ := List.exists_cons_of_ne_nil hrest
      cases hall with
      | pass henter' hdirectory hothers =>
          rw [← (enter_eq_ok_iff.mp henter').2.2.2] at hdirectory hothers
          exact ⟨hdirectory, _, (Nat.zero_add _).symm, hothers⟩
      | link henter' hlink =>
          rw [henter] at henter'
          cases henter'
          exact absurd hlink (hlast rfl _)
  | pass henter hdirectory _ ih =>
      cases hall with
      | pass henter' _ hothers =>
          rw [henter] at henter'
          cases henter'
          exact ih hothers
      | link henter' hlink =>
          rw [henter] at henter'
          cases henter'
          rw [hdirectory] at hlink
          cases hlink
  | link henter hlink _ _ _ ih =>
      rw [List.cons_append] at hall
      obtain ⟨count, rfl, hothers⟩ := hall.of_link henter hlink (by simp [hrest])
      rw [← List.append_assoc] at hothers
      obtain ⟨hdirectory, others, rfl, hleads⟩ := ih hothers
      exact ⟨hdirectory, others, Nat.add_right_comm _ _ _, hleads⟩

/-- Before the last segment is followed, it is found where it stands; then it is no link, or a link
that is followed. -/
theorem Leads.unfollowed
    (h : Leads tree true directory name links location segments) :
    ∃ ownDirectory ownName count,
      Leads tree false ownDirectory ownName count location segments ∧
      ((directory = ownDirectory ∧ name = ownName ∧ links = count ∧
          ∀ target, tree.get? (advance ownDirectory ownName) ≠ some (.link target)) ∨
        ∃ target others, tree.get? (advance ownDirectory ownName) = some (.link target) ∧
          faultOf? target = none ∧ links = count + (others + 1) ∧
          Leads tree true directory name others (start (advance ownDirectory ownName).dropLast target)
            (Path.segments target)) := by
  induction h with
  | last henter hlast =>
      have hnext := (enter_eq_ok_iff.mp henter).2.2.2
      exact ⟨directory, name, 0, .last henter nofun, Or.inl ⟨rfl, rfl, rfl, hnext ▸ hlast rfl⟩⟩
  | pass henter hdirectory _ ih =>
      obtain ⟨ownDirectory, ownName, count, hown, hcases⟩ := ih
      exact ⟨ownDirectory, ownName, count, .pass henter hdirectory hown, hcases⟩
  | @link links location next segment target rest henter hlink htarget _ hrest ih =>
      cases rest with
      | nil =>
          have hnext := (enter_eq_ok_iff.mp henter).2.2.2
          rw [List.append_nil] at hrest
          subst hnext
          exact ⟨location, segment, 0, .last henter nofun,
            Or.inr ⟨target, links, hlink, htarget, (Nat.zero_add _).symm, hrest⟩⟩
      | cons other rest =>
          obtain ⟨ownDirectory, ownName, count, hown, hcases⟩ := ih
          refine ⟨ownDirectory, ownName, count + 1,
            .link henter hlink htarget (Or.inl (List.cons_ne_nil _ _)) hown, ?_⟩
          rcases hcases with ⟨rfl, rfl, rfl, hlast⟩ | ⟨target', others, hlast, htarget', rfl, hrest'⟩
          · exact Or.inl ⟨rfl, rfl, rfl, hlast⟩
          · exact Or.inr ⟨target', others, hlast, htarget', Nat.add_right_comm _ _ _, hrest'⟩

/-- A last segment that is no link is found where it stands. -/
theorem Leads.follow
    (h : Leads tree false directory name links location segments)
    (hlast : ∀ target, tree.get? (advance directory name) ≠ some (.link target)) :
    Leads tree true directory name links location segments := by
  induction h with
  | last henter =>
      rw [(enter_eq_ok_iff.mp henter).2.2.2] at hlast
      exact .last henter fun _ => hlast
  | pass henter hdirectory _ ih => exact .pass henter hdirectory ih
  | link henter hlink htarget _ _ ih => exact .link henter hlink htarget (Or.inr rfl) ih

/-- A last segment that is a link leads where its target leads. -/
theorem Leads.followLink
    {ownDirectory : Location} {ownName : String} {count : Nat} {target : Path}
    (h : Leads tree false ownDirectory ownName count location segments)
    (hlink : tree.get? (advance ownDirectory ownName) = some (.link target))
    (htarget : faultOf? target = none)
    (hrest : Leads tree true directory name links
      (start (advance ownDirectory ownName).dropLast target) (Path.segments target)) :
    Leads tree true directory name (count + (links + 1)) location segments := by
  induction h with
  | last henter =>
      rw [(enter_eq_ok_iff.mp henter).2.2.2] at hlink hrest
      rw [Nat.zero_add]
      exact .link henter hlink htarget (Or.inr rfl) (by rwa [List.append_nil])
  | pass henter hdirectory _ ih => exact .pass henter hdirectory ih
  | link henter hpassed htarget' _ _ ih =>
      rw [Nat.add_right_comm]
      exact .link henter hpassed htarget' (Or.inr rfl) ih

/-- The last segment is the one that is found. -/
theorem Leads.getLast?_eq
    (h : Leads tree false directory name links location segments) :
    segments.getLast? = some name := by
  induction h with
  | last => rfl
  | pass _ _ _ ih => rw [List.getLast?_cons_cons, ih]
  | link _ _ _ hgoes _ ih =>
      have hrest := hgoes.resolve_right nofun
      obtain ⟨other, others, rfl⟩ := List.exists_cons_of_ne_nil hrest
      rw [List.getLast?_cons_cons, ← ih, List.getLast?_append_cons]

theorem Leads.size_le
    (h : Leads tree followLast directory name links location segments) :
    name.utf8ByteSize ≤ nameLimit := by
  induction h with
  | last henter => exact (enter_eq_ok_iff.mp henter).2.2.1
  | pass _ _ _ ih => exact ih
  | link _ _ _ _ _ ih => exact ih

/-- Another name is looked up in the same directory. -/
theorem Leads.withLast
    {other : String}
    (h : Leads tree false directory name links location segments)
    (hlimit : other.utf8ByteSize ≤ nameLimit) :
    Leads tree false directory other links location (segments.dropLast ++ [other]) := by
  induction h with
  | last henter =>
      obtain ⟨hdirectory, hrefused, -, -⟩ := enter_eq_ok_iff.mp henter
      exact .last (enter_eq_ok_iff.mpr ⟨hdirectory, hrefused, hlimit, rfl⟩) nofun
  | pass henter hdirectory _ ih =>
      rw [List.dropLast_cons_cons, List.cons_append]
      exact .cons henter hdirectory ih
  | link henter hlink htarget hgoes _ ih =>
      have hrest := hgoes.resolve_right nofun
      rw [List.dropLast_append_of_ne_nil hrest, List.append_assoc] at ih
      rw [List.dropLast_cons_of_ne_nil hrest, List.cons_append]
      exact .link henter hlink htarget (Or.inl (by simp)) ih

end Parts

section Places

theorem isIdle_of_isName
    {name : String}
    (h : isName name = true) :
    Path.isIdle name = false := by
  rw [isName] at h
  rw [Path.isIdle]
  simp only [Bool.not_eq_true', Bool.or_eq_false_iff] at h
  rw [h.1.1, h.1.2]
  rfl

theorem advance_of_isIdle
    {segment : String}
    (h : Path.isIdle segment = true)
    (location : Location) :
    advance location segment = location := by
  rw [Path.isIdle, Bool.or_eq_true, decide_eq_true_eq, decide_eq_true_eq] at h
  rcases h with rfl | rfl <;> rfl

/-- An idle segment stays where it is. -/
theorem leads_cons_idle_iff
    {segment : String}
    (hidle : Path.isIdle segment = true)
    (hne : segments ≠ []) :
    Leads tree followLast directory name links location (segment :: segments) ↔
      Leads tree followLast directory name links location segments := by
  have hadvance := advance_of_isIdle hidle location
  constructor
  · intro h
    cases h with
    | last => exact absurd rfl hne
    | pass henter _ hrest =>
        rw [(enter_eq_ok_iff.mp henter).2.2.2.symm.trans hadvance] at hrest
        exact hrest
    | link henter hlink =>
        obtain ⟨hdirectory, -, -, hnext⟩ := enter_eq_ok_iff.mp henter
        rw [← hnext, hadvance, hdirectory] at hlink
        cases hlink
  · intro h
    have hsearch : tree.refuses .search location = false := by
      cases h with
      | last henter => exact (enter_eq_ok_iff.mp henter).2.1
      | pass henter => exact (enter_eq_ok_iff.mp henter).2.1
      | link henter => exact (enter_eq_ok_iff.mp henter).2.1
    have hlimit : segment.utf8ByteSize ≤ nameLimit := by
      rw [Path.isIdle, Bool.or_eq_true, decide_eq_true_eq, decide_eq_true_eq] at hidle
      rcases hidle with rfl | rfl <;> decide
    exact .cons (enter_eq_ok_iff.mpr ⟨h.get?_eq, hsearch, hlimit, hadvance⟩) h.get?_eq h

/-- The end of the segments may be replaced by another one that leads to the same place. -/
theorem Leads.append_congr
    {after other : List String}
    (before : List String)
    (hother : other ≠ [])
    (hcongr : ∀ {links location}, Leads tree followLast directory name links location after →
      Leads tree followLast directory name links location other)
    (hafter : after ≠ [])
    (h : Leads tree followLast directory name links location (before ++ after)) :
    Leads tree followLast directory name links location (before ++ other) := by
  generalize hsegments : before ++ after = segments at h
  induction h generalizing before with
  | last henter hlast =>
      rcases List.append_eq_singleton_iff.mp hsegments with ⟨rfl, rfl⟩ | ⟨rfl, rfl⟩
      · exact hcongr (.last henter hlast)
      · exact absurd rfl hafter
  | pass henter hdirectory hrest ih =>
      cases before with
      | nil =>
          rw [List.nil_append] at hsegments
          subst hsegments
          exact hcongr (.pass henter hdirectory hrest)
      | cons segment before =>
          rw [List.cons_append, List.cons.injEq] at hsegments
          obtain ⟨rfl, hrest⟩ := hsegments
          exact .cons henter hdirectory (ih before hrest)
  | @link _ _ _ _ target _ henter hlink htarget hgoes hrest ih =>
      cases before with
      | nil =>
          rw [List.nil_append] at hsegments
          subst hsegments
          exact hcongr (.link henter hlink htarget hgoes hrest)
      | cons segment before =>
          rw [List.cons_append, List.cons.injEq] at hsegments
          obtain ⟨rfl, rfl⟩ := hsegments
          have hmore := ih (Path.segments target ++ before) (List.append_assoc _ _ _)
          rw [List.append_assoc] at hmore
          exact .link henter hlink htarget (Or.inl (by simp [hother])) hmore

/-- **Idle segments before a last one do not count.** -/
theorem leads_filter_iff
    {last : String}
    (hlast : Path.isIdle last = false) :
    Leads tree followLast directory name links location (segments ++ [last]) ↔
      Leads tree followLast directory name links location
        ((segments ++ [last]).filter fun segment => !Path.isIdle segment) := by
  have hne (segments : List String) :
      (segments ++ [last]).filter (fun segment => !Path.isIdle segment) ≠ [] := by
    simp [hlast]
  induction segments generalizing links location with
  | nil =>
      rw [List.nil_append, List.filter_cons_of_pos (by rw [hlast]; rfl), List.filter_nil]
  | cons segment rest ih =>
      rw [List.cons_append]
      cases hidle : Path.isIdle segment with
      | true =>
          rw [List.filter_cons_of_neg (by simp [hidle])]
          exact (leads_cons_idle_iff hidle (by simp)).trans ih
      | false =>
          rw [List.filter_cons_of_pos (by simp [hidle])]
          exact ⟨Leads.append_congr [segment] (hne rest) ih.mp (by simp),
            Leads.append_congr [segment] (by simp) ih.mpr (hne rest)⟩

/-- **A path to a name leads where its steps lead.** -/
theorem leads_segments_iff
    {path : Path} {last : String}
    (hlast : (Path.segments path).getLast? = some last)
    (hname : isName last = true) :
    Leads tree followLast directory name links location (Path.segments path) ↔
      Leads tree followLast directory name links location (Path.steps path) := by
  obtain ⟨before, hbefore⟩ := List.getLast?_eq_some_iff.mp hlast
  have hsteps : Path.steps path =
      (before ++ [last]).filter fun segment => !Path.isIdle segment := by
    rw [← hbefore]
    rfl
  rw [hsteps, hbefore]
  exact leads_filter_iff (isIdle_of_isName hname)

/-- **What is left of a way** when something is taken away that is no directory: the way leads on as
before, or it passes a link there, and what comes after the last visit leads on as before. -/
theorem Leads.erase_or
    {place : Location}
    (hplace : tree.get? place ≠ some .directory)
    (h : Leads tree followLast directory name links location segments) :
    Leads (tree.erase place) followLast directory name links location segments ∨
      ∃ target rest count, tree.get? place = some (.link target) ∧
        (rest ≠ [] ∨ followLast = true) ∧ count < links ∧
        Leads (tree.erase place) followLast directory name count (start place.dropLast target)
          (Path.segments target ++ rest) := by
  have henters {location next : Location} {segment : String}
      (henter : tree.enter location segment = .ok next) :
      (tree.erase place).enter location segment = .ok next := by
    rw [enter_eq_ok_iff] at henter ⊢
    refine ⟨?_, henter.2⟩
    rw [get?_erase_of_ne, henter.1]
    rintro rfl
    exact hplace henter.1
  induction h with
  | @last next henter hlast =>
      refine Or.inl (.last (henters henter) fun hfollow target hlink => ?_)
      by_cases hnext : next = place
      · rw [hnext, get?_erase_self] at hlink
        · cases hlink
        · rintro rfl
          exact hplace rfl
      · rw [get?_erase_of_ne _ hnext] at hlink
        exact hlast hfollow target hlink
  | @pass links location next segment other rest henter hdirectory _ ih =>
      refine ih.imp_left fun hrest => .pass (henters henter) ?_ hrest
      rw [get?_erase_of_ne, hdirectory]
      rintro rfl
      exact hplace hdirectory
  | @link links location next segment target rest henter hlink htarget hgoes _ ih =>
      rcases ih with hleads | ⟨target', rest', count, hlink', hgoes', hcount, hleads⟩
      · by_cases hnext : next = place
        · subst hnext
          exact Or.inr ⟨target, rest, links, hlink, hgoes, Nat.lt_succ_self _, hleads⟩
        · refine Or.inl (.link (henters henter) ?_ htarget hgoes hleads)
          rw [get?_erase_of_ne _ hnext, hlink]
      · exact Or.inr ⟨target', rest', count, hlink', hgoes', Nat.lt_succ_of_lt hcount, hleads⟩

end Places

end Tree
end Disk
end EpaperLayout
