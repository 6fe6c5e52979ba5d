import EpaperLayout.Disk.Replacement
import EpaperLayout.Proofs.Disk.FollowedLinks

/-!
# Filling and renaming a file

A file is replaced by filling a temporary file and renaming it.  Filling puts a file
where there is neither a directory nor a link, so all ways stay.  Renaming may take a
link away, or move one.

**Step.**
* `StandsIn`: where the last segment of a path stands.
* `StandsIn.locate_eq`, `StandsIn.readText_eq`: what the path then leads to.
* `writeText_cases`, `exists_of_rename_eq_ok`: what filling and renaming a file
  leave behind.

**Run.**
* `replaceFile_cases`: where a replacement may stop.
-/

namespace EpaperLayout
namespace Disk
namespace Tree

variable {tree later : Tree} {followLast : Bool} {location : Location} {path : Path}

section Files

variable {directory : Location} {name : String}

/-- The last segment of the path stands in a directory of the tree; a link there may be followed or
not. -/
structure StandsIn (tree : Tree) (followLast : Bool) (path : Path) (directory : Location)
    (name : String) : Prop where
  faultOf?_eq : faultOf? path = none
  leads : ∃ links ≤ linkLimit,
    Leads tree followLast directory name links (tree.base path) (Path.segments path)

/-- **Looking a path up** finds where its last segment stands. -/
theorem lookUp_eq_ok_iff :
    tree.lookUp followLast path = .ok (directory, name) ↔
      StandsIn tree followLast path directory name := by
  unfold lookUp
  cases hfault : faultOf? path with
  | some error =>
      exact ⟨nofun, fun h => nomatch hfault.symm.trans h.faultOf?_eq⟩
  | none =>
      exact trace_eq_ok_iff.trans ⟨fun h => ⟨hfault, h⟩, fun h => h.leads⟩

/-- It does so in one directory. -/
theorem StandsIn.eq
    {other : Location} {otherName : String}
    (h : StandsIn tree followLast path directory name)
    (hother : StandsIn tree followLast path other otherName) :
    other = directory ∧ otherName = name := by
  obtain ⟨-, links, -, hleads⟩ := h
  obtain ⟨-, otherLinks, -, hotherLeads⟩ := hother
  obtain ⟨hdirectory, hname, -⟩ := hleads.eq hotherLeads
  exact ⟨hdirectory, hname⟩

/-- It does so in the later tree, too. -/
theorem StandsIn.of_keepsWays
    (hkeeps : KeepsWays tree later)
    (hlast : followLast = true → ∀ target,
      later.get? (advance directory name) ≠ some (.link target))
    (h : StandsIn tree followLast path directory name) :
    StandsIn later followLast path directory name := by
  obtain ⟨hfault, links, hlinks, hleads⟩ := h
  refine ⟨hfault, links, hlinks, ?_⟩
  rw [hkeeps.base_eq]
  exact hleads.of_keepsWays hkeeps hlast

/-- A last segment that is no link stands where it leads. -/
theorem StandsIn.follow
    (h : StandsIn tree false path directory name)
    (hlast : ∀ target, tree.get? (advance directory name) ≠ some (.link target)) :
    StandsIn tree true path directory name := by
  obtain ⟨hfault, links, hlinks, hleads⟩ := h
  exact ⟨hfault, links, hlinks, hleads.follow hlast⟩

/-- A name leads one entry further. -/
theorem advance_of_isName
    (h : isName name = true)
    (location : Location) :
    advance location name = location ++ [name] := by
  have hdots : name ≠ ".." := by
    rintro rfl
    cases h
  rw [advance, if_neg hdots, if_pos h]

/-- **A path leads to what stands at its end.** -/
theorem locate_eq_ok_iff :
    tree.locate path = .ok location ↔
      ∃ directory name, StandsIn tree true path directory name ∧
        location = advance directory name ∧ (tree.get? location).isSome = true := by
  unfold locate
  rw [bind_eq_ok_iff]
  constructor
  · rintro ⟨⟨directory, name⟩, hlookUp, h⟩
    dsimp only at h
    split at h
    · next hsome =>
      cases h
      exact ⟨directory, name, lookUp_eq_ok_iff.mp hlookUp, rfl, hsome⟩
    · cases h
  · rintro ⟨directory, name, hstands, rfl, hsome⟩
    exact ⟨(directory, name), lookUp_eq_ok_iff.mpr hstands, if_pos hsome⟩

/-- A path to a name in a directory leads to what stands there. -/
theorem StandsIn.locate_eq
    (h : StandsIn tree true path directory name)
    (hname : isName name = true)
    (hsome : (tree.get? (directory ++ [name])).isSome = true) :
    tree.locate path = .ok (directory ++ [name]) := by
  rw [← advance_of_isName hname] at hsome ⊢
  exact locate_eq_ok_iff.mpr ⟨directory, name, h, rfl, hsome⟩

/-- **A text is read where it stands**, in a file that may be read. -/
theorem readText_eq_ok_iff
    {text : String} :
    tree.readText path = .ok text ↔
      ∃ content, Text.decode? content = some text.toList ∧
        ∃ location, tree.locate path = .ok location ∧
          tree.get? location = some (.file content true) := by
  unfold readText readBytes
  rw [bind_eq_ok_iff]
  constructor
  · rintro ⟨content, hbytes, htext⟩
    obtain ⟨location, hlocate, hbytes⟩ := exists_of_bind_eq_ok hbytes
    split at hbytes
    · next content' readable hfile =>
      split at hbytes
      · next hreadable =>
        cases hbytes
        split at htext
        · next text' hdecode =>
          cases htext
          exact ⟨content, by simpa using hdecode, location, hlocate, hreadable ▸ hfile⟩
        · cases htext
      · cases hbytes
    · cases hbytes
    · cases hbytes
  · rintro ⟨content, hdecode, location, hlocate, hfile⟩
    refine ⟨content, ?_, ?_⟩
    · rw [hlocate]
      simp only [bind, Except.bind, hfile, if_true]
      rfl
    · rw [hdecode]
      simp only [String.ofList_toList]
      rfl

/-- A text that stands at a path is read back. -/
theorem StandsIn.readText_eq
    {text : String}
    (h : StandsIn tree true path directory name)
    (hname : isName name = true)
    (hfile : tree.get? (directory ++ [name]) = some (.file (Text.encode text.toList) true)) :
    tree.readText path = .ok text :=
  readText_eq_ok_iff.mpr ⟨_, Text.decode?_encode _, _, h.locate_eq hname (by rw [hfile]; rfl), hfile⟩

/-- There is neither a directory nor a link at the location. -/
def IsFree (tree : Tree) (location : Location) : Prop :=
  ∀ entry, tree.get? location = some entry → entry.isWay = false

/-- Putting a file where there is no way keeps all ways. -/
theorem KeepsWays.put_file
    (h : IsFree tree location)
    (content : List UInt8)
    (readable : Bool) :
    KeepsWays tree (tree.put location (.file content readable)) := by
  refine ⟨rfl, rfl, ?_⟩
  intro other entry hother hway
  rw [get?_put_of_ne, hother]
  rintro rfl
  rw [h entry hother] at hway
  cases hway

theorem exists_of_fileLocation_eq_ok
    (h : tree.fileLocation path = .ok location) :
    ∃ directory name, StandsIn tree true path directory name ∧ isName name = true ∧
      location = directory ++ [name] ∧ IsFree tree location := by
  obtain ⟨⟨directory, name⟩, hlookUp, h⟩ := exists_of_bind_eq_ok h
  dsimp only at h
  split at h
  · cases h
  · next hname =>
    rw [Bool.not_eq_true, Bool.not_eq_false'] at hname
    split at h
    · cases h
    · next hdirectory =>
      split at h
      · cases h
      · cases h
        have hstands := lookUp_eq_ok_iff.mp hlookUp
        refine ⟨directory, name, hstands, hname, rfl, ?_⟩
        obtain ⟨-, links, -, hleads⟩ := hstands
        intro entry hentry
        cases entry with
        | directory => exact absurd hentry hdirectory
        | file => rfl
        | link target =>
            rw [← advance_of_isName hname] at hentry
            exact absurd hentry (hleads.get?_ne_link target)

/-- **Writing a file** fails without a trace, or puts a file where there is no way; if it does not
fail, the file holds what was to be written. -/
theorem writeText_cases (tree : Tree) (path : Path) (text : String) :
    ((tree.writeText path text).error ≠ none ∧ (tree.writeText path text).tree = tree) ∨
      ∃ directory name content, StandsIn tree true path directory name ∧ isName name = true ∧
        IsFree tree (directory ++ [name]) ∧
        (tree.writeText path text).tree = tree.put (directory ++ [name])
          (.file content (tree.readableAt (directory ++ [name]))) ∧
        ((tree.writeText path text).error = none → content = Text.encode text.toList) := by
  rw [writeText, writeBytes]
  cases hlocation : tree.fileLocation path with
  | error error =>
      exact Or.inl ⟨nofun, rfl⟩
  | ok location =>
      obtain ⟨directory, name, hstands, hname, rfl, hfree⟩ :=
        exists_of_fileLocation_eq_ok hlocation
      dsimp only
      split
      · exact Or.inr ⟨directory, name, [], hstands, hname, hfree, rfl, nofun⟩
      · exact Or.inr ⟨directory, name, _, hstands, hname, hfree, rfl, fun _ => rfl⟩

/-- **What is renamed is moved to where there is no directory.** -/
theorem exists_of_rename_eq_ok
    {source target : Path}
    (h : tree.rename source target = .ok later) :
    ∃ sourceDirectory sourceName targetDirectory targetName entry,
      StandsIn tree false source sourceDirectory sourceName ∧
      tree.get? (sourceDirectory ++ [sourceName]) = some entry ∧ entry ≠ .directory ∧
      StandsIn tree false target targetDirectory targetName ∧
      isName targetName = true ∧
      tree.get? (targetDirectory ++ [targetName]) ≠ some .directory ∧
      later = (tree.erase (sourceDirectory ++ [sourceName])).put
        (targetDirectory ++ [targetName]) entry := by
  rw [rename] at h
  obtain ⟨⟨sourceDirectory, sourceName⟩, hsource, h⟩ := exists_of_bind_eq_ok h
  dsimp only at h
  split at h
  · cases h
  · obtain ⟨⟨targetDirectory, targetName⟩, htarget, h⟩ := exists_of_bind_eq_ok h
    dsimp only at h
    split at h
    · cases h
    · next hname =>
      split at h
      · cases h
      · cases h
      · next entry hentry hentryDirectory =>
        split at h
        · cases h
        · next hplace =>
          split at h
          · cases h
          · next hdirectory =>
            split at h
            · cases h
            · cases h
              rw [Decidable.not_not.mp hplace] at htarget
              refine ⟨sourceDirectory, sourceName, targetDirectory, targetName, entry,
                lookUp_eq_ok_iff.mp hsource, hentryDirectory, ?_, lookUp_eq_ok_iff.mp htarget,
                by simpa using hname, hdirectory, rfl⟩
              rintro rfl
              exact hentry rfl

/-- **Replacing a file** stops after its directory is made or after the temporary file is written,
or it goes through. -/
theorem replaceFile_cases (tree : Tree) (temporary path : Path) (text : String) :
    ((tree.replaceFile temporary path text).error ≠ none ∧
      (tree.replaceFile temporary path text).tree = (tree.makeDirectoryOf path).tree) ∨
    ((tree.replaceFile temporary path text).error ≠ none ∧
      (tree.replaceFile temporary path text).tree =
        ((tree.makeDirectoryOf path).tree.writeText temporary text).tree) ∨
    ((tree.makeDirectoryOf path).tree.writeText temporary text).error = none ∧
      ∃ later,
        ((tree.makeDirectoryOf path).tree.writeText temporary text).tree.rename temporary path =
          .ok later ∧
        tree.replaceFile temporary path text = { tree := later } := by
  unfold replaceFile
  cases hprepared : (tree.makeDirectoryOf path).error with
  | some error =>
      dsimp only
      rw [hprepared]
      exact Or.inl ⟨by simp [hprepared], rfl⟩
  | none =>
      dsimp only
      rw [hprepared]
      cases hwritten : ((tree.makeDirectoryOf path).tree.writeText temporary text).error with
      | some error =>
          exact Or.inr (Or.inl ⟨by simp, rfl⟩)
      | none =>
          dsimp only
          rw [finishReplacement]
          split
          · next later hrename =>
            exact Or.inr (Or.inr ⟨rfl, later, hrename, rfl⟩)
          · exact Or.inr (Or.inl ⟨by simp, rfl⟩)

end Files

end Tree
end Disk
end EpaperLayout
