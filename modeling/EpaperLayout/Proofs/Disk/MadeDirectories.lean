import EpaperLayout.Proofs.Disk.PathSteps
import EpaperLayout.Proofs.Disk.ReplacedFile

/-!
# Directories made on the way

Without links a path leads to a *place* that is known from its steps and the working
directory, whatever stands there.  Every place to which a disk is followed is of this
kind, so what a change does to a disk can be told by places.

**Way.**  Before a file is replaced the directory of the file is made, with all that are
missing before it.  This adds directories at places that the path to the directory
passes, where nothing stood, and it does no more, whether or not it fails.

**Results.**
* `StandsIn.place_eq`: the place of a name in a directory.
* `onlyMakes_makeDirectories`: what making directories does.
* `onlyMakes_makeDirectoryOf`: what making the directory of a file does.
-/

namespace EpaperLayout
namespace Disk
namespace Tree

variable {tree later : Tree} {location : Location} {path : Path}

section Places

/-- Where steps lead from a location, whatever stands there. -/
def follow (location : Location) (steps : List String) : Location :=
  steps.foldl advance location

/-- Where a path leads, whatever stands there. -/
def place (tree : Tree) (path : Path) : Location :=
  follow (tree.base path) (Path.steps path)

/-- Idle segments lead nowhere. -/
theorem follow_filter (location : Location) (segments : List String) :
    follow location (segments.filter fun segment => !Path.isIdle segment) =
      follow location segments := by
  induction segments generalizing location with
  | nil =>
      rfl
  | cons segment rest ih =>
      cases hidle : Path.isIdle segment with
      | true =>
          rw [List.filter_cons_of_neg (by simp [hidle]), ih, follow, follow, List.foldl_cons,
            advance_of_isIdle hidle]
      | false =>
          rw [List.filter_cons_of_pos (by simp [hidle]), follow, List.foldl_cons]
          exact ih _

theorem place_eq (tree : Tree) (path : Path) :
    tree.place path = follow (tree.base path) (Path.segments path) :=
  follow_filter _ _

/-- A path passes the places of the beginnings of its steps. -/
theorem mem_places_iff :
    location ∈ tree.places path ↔
      ∃ before, before <+: Path.steps path ∧ location = follow (tree.base path) before := by
  have hfrom (segments : List String) (start : Location) :
      location ∈ placesFrom start segments ↔
        ∃ before, before <+: segments.filter (fun segment => !Path.isIdle segment) ∧
          location = follow start before := by
    induction segments generalizing start with
    | nil =>
        simp [placesFrom, follow]
    | cons segment rest ih =>
        rw [placesFrom, List.mem_cons, ih]
        cases hidle : Path.isIdle segment with
        | true =>
            rw [List.filter_cons_of_neg (by simp [hidle]), advance_of_isIdle hidle]
            constructor
            · rintro (rfl | hrest)
              · exact ⟨[], List.nil_prefix, rfl⟩
              · exact hrest
            · exact Or.inr
        | false =>
            rw [List.filter_cons_of_pos (by simp [hidle])]
            constructor
            · rintro (rfl | ⟨before, hbefore, hlocation⟩)
              · exact ⟨[], List.nil_prefix, rfl⟩
              · exact ⟨segment :: before, List.cons_prefix_cons.mpr ⟨rfl, hbefore⟩, hlocation⟩
            · rintro ⟨before, hbefore, hlocation⟩
              rcases List.prefix_cons_iff.mp hbefore with rfl | ⟨others, rfl, hothers⟩
              · exact Or.inl hlocation
              · exact Or.inr ⟨others, hothers, hlocation⟩
  exact hfrom _ _

theorem place_mem_places (tree : Tree) (path : Path) : tree.place path ∈ tree.places path :=
  mem_places_iff.mpr ⟨_, List.prefix_refl _, rfl⟩

theorem base_congr
    (hworking : later.workingDirectory = tree.workingDirectory)
    (path : Path) :
    later.base path = tree.base path := by
  rw [base, base, hworking]

theorem place_congr
    (hworking : later.workingDirectory = tree.workingDirectory)
    (path : Path) :
    later.place path = tree.place path := by
  rw [place, place, base_congr hworking]

theorem places_congr
    (hworking : later.workingDirectory = tree.workingDirectory)
    (path : Path) :
    later.places path = tree.places path := by
  rw [places, places, base_congr hworking]

/-- A path that goes one step further leads one step further. -/
theorem place_of_continues
    {base : Path} {name : String}
    (h : Path.Continues path base name)
    (tree : Tree) :
    tree.place path = advance (tree.place base) name := by
  rw [place, base_eq_of_isAbsolute_eq h.isAbsolute_eq, h.steps_eq, follow, List.foldl_append]
  rfl

/-- There are no links in the tree. -/
def LinkFree (tree : Tree) : Prop :=
  ∀ location target, tree.get? location ≠ some (.link target)

theorem linkFree_of_forall_mem
    (h : ∀ placed ∈ tree.entries, ∀ target, placed.2 ≠ .link target) :
    tree.LinkFree := by
  intro location target hlink
  rw [get?] at hlink
  split at hlink
  · cases hlink
  · obtain ⟨before, after, hentries, -⟩ := List.lookup_eq_some_iff.mp hlink
    exact h (location, .link target) (by rw [hentries]; simp) target rfl

/-- Without links, segments lead where they seem to lead. -/
theorem Leads.eq_follow
    {followLast : Bool} {directory : Location} {name : String} {links : Nat}
    {segments : List String}
    (hlinks : tree.LinkFree)
    (h : Leads tree followLast directory name links location segments) :
    advance directory name = Tree.follow location segments := by
  induction h with
  | last => rfl
  | pass henter _ _ ih =>
      rw [ih, ← (enter_eq_ok_iff.mp henter).2.2.2]
      rfl
  | link _ hlink => exact absurd hlink (hlinks _ _)

/-- **Without links, a path leads to its place.** -/
theorem eq_place_of_locate_eq_ok
    (hlinks : tree.LinkFree)
    (h : tree.locate path = .ok location) :
    location = tree.place path := by
  obtain ⟨directory, segment, ⟨-, links, -, hleads⟩, rfl, -⟩ := locate_eq_ok_iff.mp h
  rw [hleads.eq_follow hlinks, place_eq]

/-- Without links, the last segment is the one that is found. -/
theorem StandsIn.lastSegment_eq
    {followLast : Bool} {directory : Location} {name : String}
    (hlinks : tree.LinkFree)
    (h : StandsIn tree followLast path directory name) :
    Path.lastSegment path = name := by
  obtain ⟨-, links, -, hleads⟩ := h
  rw [Path.lastSegment]
  generalize tree.base path = location, Path.segments path = segments at hleads
  induction hleads with
  | last => rfl
  | pass _ _ _ ih => rw [List.getLast?_cons_cons, ih]
  | link _ hlink => exact absurd hlink (hlinks _ _)

/-- **A name in a directory stands at the place of its path.** -/
theorem StandsIn.place_eq
    {followLast : Bool} {directory : Location} {name : String}
    (hlinks : tree.LinkFree)
    (h : StandsIn tree followLast path directory name)
    (hname : isName name = true) :
    tree.place path = directory ++ [name] := by
  obtain ⟨-, links, -, hleads⟩ := h
  rw [Tree.place_eq, ← hleads.eq_follow hlinks, advance_of_isName hname]

end Places

section Made

/-- What stands at the location is the same in the later tree, unless the location is on the way and
a directory was made there where nothing stood. -/
def KeptOn (way : List Location) (tree later : Tree) (location : Location) : Prop :=
  later.get? location = tree.get? location ∨
    location ∈ way ∧ tree.get? location = none ∧ later.get? location = some .directory

/-- The later tree has further directories on the way, and is the same but for them. -/
structure OnlyMakes (way : List Location) (tree later : Tree) : Prop where
  workingDirectory_eq : later.workingDirectory = tree.workingDirectory
  refuses_eq : later.refuses = tree.refuses
  keptOn : ∀ location, KeptOn way tree later location

variable {way : List Location}

theorem OnlyMakes.refl (way : List Location) (tree : Tree) : OnlyMakes way tree tree :=
  ⟨rfl, rfl, fun _ => Or.inl rfl⟩

theorem OnlyMakes.trans
    {last : Tree}
    (h : OnlyMakes way tree later)
    (hlast : OnlyMakes way later last) :
    OnlyMakes way tree last := by
  refine ⟨hlast.workingDirectory_eq.trans h.workingDirectory_eq,
    hlast.refuses_eq.trans h.refuses_eq, ?_⟩
  intro location
  rcases hlast.keptOn location with heq | ⟨hway, hnone, hmade⟩
  · rcases h.keptOn location with hkept | ⟨hway, hnone, hmade⟩
    · exact Or.inl (heq.trans hkept)
    · exact Or.inr ⟨hway, hnone, heq.trans hmade⟩
  · rcases h.keptOn location with hkept | ⟨-, -, hmade'⟩
    · exact Or.inr ⟨hway, hkept ▸ hnone, hmade⟩
    · rw [hnone] at hmade'
      cases hmade'

theorem OnlyMakes.mono
    {longer : List Location}
    (h : OnlyMakes way tree later)
    (hway : way ⊆ longer) :
    OnlyMakes longer tree later :=
  ⟨h.workingDirectory_eq, h.refuses_eq, fun location =>
    (h.keptOn location).imp_right fun hmade => ⟨hway hmade.1, hmade.2⟩⟩

theorem OnlyMakes.keepsWays
    (h : OnlyMakes way tree later) :
    KeepsWays tree later := by
  refine ⟨h.workingDirectory_eq, h.refuses_eq, ?_⟩
  intro location entry hentry _
  rcases h.keptOn location with hkept | ⟨-, hnone, -⟩
  · exact hkept.trans hentry
  · rw [hnone] at hentry
    cases hentry

theorem OnlyMakes.linkFree
    (h : OnlyMakes way tree later)
    (hlinks : tree.LinkFree) :
    later.LinkFree := by
  intro location target hlink
  rcases h.keptOn location with hkept | ⟨-, -, hmade⟩
  · exact hlinks location target (hkept.symm.trans hlink)
  · rw [hmade] at hlink
    cases hlink

/-- A path to a parent passes no other places. -/
theorem places_parent_subset
    {parent : Path}
    (h : Path.parent? path = some parent) :
    tree.places parent ⊆ tree.places path := by
  obtain ⟨hsteps, habsolute⟩ := Path.of_parent?_eq_some h
  intro location hlocation
  obtain ⟨before, hbefore, rfl⟩ := mem_places_iff.mp hlocation
  exact mem_places_iff.mpr ⟨before, hbefore.trans hsteps, by
    rw [base_eq_of_isAbsolute_eq habsolute]⟩

theorem onlyMakes_of_makeDirectory_eq_ok
    (hlinks : tree.LinkFree)
    (h : tree.makeDirectory path = .ok later) :
    OnlyMakes (tree.places path) tree later := by
  obtain ⟨⟨directory, name⟩, hlast, h⟩ := exists_of_bind_eq_ok h
  dsimp only at h
  split at h
  · cases h
  · next hname =>
    split at h
    · cases h
    · next hfree =>
      split at h
      · cases h
      · cases h
        have hplace : tree.place path = directory ++ [name] := by
          rw [← (lookUp_eq_ok_iff.mp hlast).place_eq hlinks (by simpa using hname), place, place,
            base_eq_of_isAbsolute_eq (Path.isAbsolute_trimmed path), Path.steps_trimmed]
        refine ⟨rfl, rfl, ?_⟩
        intro location
        by_cases hlocation : location = directory ++ [name]
        · refine Or.inr ⟨?_, ?_, ?_⟩
          · rw [hlocation, ← hplace]
            exact place_mem_places tree path
          · rw [hlocation]
            simpa using hfree
          · rw [hlocation, get?_put_self _ _ (by simp)]
        · exact Or.inl (get?_put_of_ne _ _ hlocation)

theorem onlyMakes_ensureDirectory
    (hlinks : tree.LinkFree)
    (path : Path) :
    OnlyMakes (tree.places path) tree (Effect.of tree (tree.ensureDirectory path)).tree := by
  unfold ensureDirectory
  cases hmade : tree.makeDirectory path with
  | ok later => exact onlyMakes_of_makeDirectory_eq_ok hlinks hmade
  | error error =>
      dsimp only
      split <;> exact OnlyMakes.refl _ _

/-- **Making directories** adds directories on the way of the path, and does no more. -/
theorem onlyMakes_makeDirectories
    (hlinks : tree.LinkFree)
    (path : Path) :
    OnlyMakes (tree.places path) tree (tree.makeDirectories path).tree := by
  have hwithin (count : Nat) (path : Path) :
      OnlyMakes (tree.places path) tree (tree.makeDirectoriesWithin count path).tree := by
    induction count generalizing path with
    | zero =>
        exact onlyMakes_ensureDirectory hlinks path
    | succ count ih =>
        unfold makeDirectoriesWithin
        split
        · split
          · next parent hparent =>
            have hbefore := (ih parent).mono (places_parent_subset hparent)
            split
            · exact OnlyMakes.refl _ _
            · dsimp only
              split
              · exact hbefore
              · have hlast := onlyMakes_ensureDirectory (hbefore.linkFree hlinks) path
                rw [places_congr hbefore.workingDirectory_eq] at hlast
                exact hbefore.trans hlast
          · exact OnlyMakes.refl _ _
        · exact onlyMakes_ensureDirectory hlinks path
  exact hwithin _ path

/-- The places on the way to the directory of a file. -/
def directoryWay (tree : Tree) (path : Path) : List Location :=
  (directoryOf? path).toList.flatMap tree.places

/-- **Making the directory of a file** adds directories on the way to it. -/
theorem onlyMakes_makeDirectoryOf
    (hlinks : tree.LinkFree)
    (path : Path) :
    OnlyMakes (tree.directoryWay path) tree (tree.makeDirectoryOf path).tree := by
  unfold makeDirectoryOf directoryWay
  cases directoryOf? path with
  | none =>
      exact OnlyMakes.refl _ _
  | some parent =>
      refine (onlyMakes_makeDirectories hlinks parent).mono ?_
      simp

end Made

end Tree
end Disk
end EpaperLayout
