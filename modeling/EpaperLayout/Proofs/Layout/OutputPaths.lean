import EpaperLayout.Layout.Storage
import EpaperLayout.Proofs.Disk.MadeDirectories
import EpaperLayout.Proofs.Text.LowerCase

/-!
# Where a layout is written

A layout for which only a directory is given gets a file in it, named after its device.
The identifier of the device is free text: it may hold slashes, double dots or capitals
of any script.  The file still is one step from the directory.

**Names.**  The characters that separate paths are replaced, and the lower case brings none
of them back.  A name of what is left and an extension is one segment of a path, and no dots.

**Results.**
* `isSeparator_of_mem_fileNameOf`: no separator is in a file name.
* `fileNameOf_fileNameOf`: a file name as an identifier gives itself.
* `outputPath_staysInDirectory`: the file is in the directory, whatever the identifier is.
-/

namespace EpaperLayout

open Disk

section FileNames

variable {c : Char} {text : String}

/-- A character that separates paths, or words. -/
def isSeparator (c : Char) : Bool :=
  c = '/' || c = '\\' || c = ':' || c = ' '

theorem fileNameChar_eq (c : Char) : fileNameChar c = if isSeparator c then '_' else c :=
  rfl

theorem isSeparator_fileNameChar (c : Char) : isSeparator (fileNameChar c) = false := by
  rw [fileNameChar_eq]
  split
  · rfl
  · next h => exact Bool.eq_false_iff.mpr h

theorem fileNameChar_of_not_isSeparator
    (h : isSeparator c = false) :
    fileNameChar c = c := by
  rw [fileNameChar_eq, h]
  rfl

/-- The separators come before the letters, so lower-casing makes none of them. -/
theorem toNat_lt_of_isSeparator
    (h : isSeparator c = true) :
    c.toNat < 'a'.toNat := by
  simp only [isSeparator, Bool.or_eq_true, decide_eq_true_eq] at h
  rcases h with ((rfl | rfl) | rfl) | rfl <;> decide

/-- **No separator is in a file name.** -/
theorem isSeparator_of_mem_fileNameOf
    (h : c ∈ (fileNameOf text).toList) :
    isSeparator c = false := by
  rw [fileNameOf, String.toList_ofList] at h
  rw [Bool.eq_false_iff]
  intro hseparator
  have hmem := Text.mem_of_mem_lowercase h (toNat_lt_of_isSeparator hseparator)
  obtain ⟨d, -, rfl⟩ := List.mem_map.mp hmem
  rw [isSeparator_fileNameChar] at hseparator
  cases hseparator

/-- **A file name as an identifier gives itself.** -/
theorem fileNameOf_fileNameOf (text : String) :
    fileNameOf (fileNameOf text) = fileNameOf text := by
  have hkept : (fileNameOf text).toList.map fileNameChar = (fileNameOf text).toList := by
    rw [List.map_congr_left fun c hc =>
      fileNameChar_of_not_isSeparator (isSeparator_of_mem_fileNameOf hc), List.map_id']
  rw [fileNameOf, hkept, fileNameOf, String.toList_ofList, Text.lowercase_lowercase]

/-- A name of a layout file in a directory. -/
structure IsLayoutName (name : String) : Prop where
  extension : ".json".toList <:+ name.toList
  notSeparator : ∀ c ∈ name.toList, isSeparator c = false
  ne_dot : name ≠ "."
  ne_dots : name ≠ ".."

theorem IsLayoutName.isName
    {name : String}
    (h : IsLayoutName name) :
    Tree.isName name = true := by
  have hne : name ≠ "" := by
    rintro rfl
    exact absurd (List.eq_nil_of_suffix_nil h.extension) (by decide)
  simp [Tree.isName, hne, h.ne_dot, h.ne_dots]

/-- A name that is long enough is neither a dot nor two, and is not empty. -/
theorem isLayoutName_fileNameOf (text : String) : IsLayoutName (fileNameOf text ++ ".json") := by
  have hlist : (fileNameOf text ++ ".json").toList = (fileNameOf text).toList ++ ".json".toList :=
    String.toList_append
  have hlength : 5 ≤ (fileNameOf text ++ ".json").toList.length := by
    rw [hlist, List.length_append]
    exact Nat.le_add_left 5 _
  refine ⟨?_, ?_, ?_, ?_⟩
  · rw [hlist]
    exact List.suffix_append _ _
  · intro c hc
    rw [hlist, List.mem_append] at hc
    rcases hc with hstem | hextension
    · exact isSeparator_of_mem_fileNameOf hstem
    · have hplain : ∀ c ∈ ".json".toList, isSeparator c = false := by decide
      exact hplain c hextension
  · intro heq
    rw [heq] at hlength
    exact absurd hlength (by decide)
  · intro heq
    rw [heq] at hlength
    exact absurd hlength (by decide)

end FileNames

section Directories

variable {tree : Tree} {target path : Path} {name : String}

/-- The path is that of a directory continued by one name, and leads to this name in it. -/
structure IsInDirectory (tree : Tree) (target path : Path) (name : String) : Prop where
  path_eq : path = Path.join target name
  continues : Path.Continues path target name
  /-- If the path leads anywhere at all, it does so from the directory, whatever links there are. -/
  directory : ∃ directory, tree.locate target = .ok directory ∧
    tree.get? directory = some .directory ∧
    (tree.LinkFree → directory = tree.place target) ∧
    ∀ other last, Tree.StandsIn tree false path other last → other = directory ∧ last = name
  place_eq : tree.place path = tree.place target ++ [name]

/-- A path that is continued by a name leads on from where it leads. -/
theorem eq_of_standsIn_join
    {location other : Location} {last : String}
    (hslash : '/' ∉ name.toList)
    (hname : Tree.isName name = true)
    (hlocate : tree.locate target = .ok location)
    (h : Tree.StandsIn tree false (Path.join target name) other last) :
    other = location ∧ last = name := by
  have hidle := Tree.isIdle_of_isName hname
  have hcontinues := Path.continues_join target hslash hidle
  obtain ⟨directory, segment, ⟨-, links, -, hleads⟩, rfl, -⟩ := Tree.locate_eq_ok_iff.mp hlocate
  obtain ⟨-, allLinks, -, hall⟩ := h
  have hsteps : Path.steps target ++ [name] =
      (Path.segments target ++ [name]).filter fun segment => !Path.isIdle segment := by
    rw [List.filter_append, List.filter_cons_of_pos (by rw [hidle]; rfl), List.filter_nil]
    rfl
  rw [Tree.leads_segments_iff (Path.getLast?_segments_join target hslash) hname,
    hcontinues.steps_eq, hsteps, ← Tree.leads_filter_iff hidle,
    Tree.base_eq_of_isAbsolute_eq hcontinues.isAbsolute_eq] at hall
  obtain ⟨-, count, -, hlast⟩ := hleads.of_append (List.cons_ne_nil _ _) hall
  cases hlast with
  | last => exact ⟨rfl, rfl⟩
  | link _ _ _ hgoes => exact absurd rfl (hgoes.resolve_right nofun)

theorem isInDirectory_join
    (h : tree.isDirectory target = true)
    (hname : IsLayoutName name) :
    IsInDirectory tree target (Path.join target name) name := by
  have hslash : '/' ∉ name.toList := by
    intro hmem
    have := hname.notSeparator '/' hmem
    cases this
  have hcontinues := Path.continues_join target hslash (Tree.isIdle_of_isName hname.isName)
  refine ⟨rfl, hcontinues, ?_, ?_⟩
  · rw [Tree.isDirectory] at h
    cases hlocate : tree.locate target with
    | error error =>
        rw [hlocate] at h
        cases h
    | ok location =>
        rw [hlocate] at h
        exact ⟨location, rfl, of_decide_eq_true h,
          fun hlinks => Tree.eq_place_of_locate_eq_ok hlinks hlocate,
          fun _ _ => eq_of_standsIn_join hslash hname.isName hlocate⟩
  · rw [Tree.place_of_continues hcontinues, Tree.advance_of_isName hname.isName]

end Directories

/-- **The file of a layout stays in the directory that is given,** whatever the identifier of the
device is: its path is that of the directory and one name.  And the part of the name that comes from
the identifier is settled. -/
theorem outputPath_staysInDirectory :
    (∀ (tree : Tree) (target : Path) (device : Device), tree.isDirectory target = true →
      ∃ name, IsLayoutName name ∧
        IsInDirectory tree target (tree.outputPath target device) name) ∧
    ∀ text, fileNameOf (fileNameOf text) = fileNameOf text := by
  refine ⟨?_, fileNameOf_fileNameOf⟩
  intro tree target device h
  refine ⟨fileNameOf device.id ++ ".json", isLayoutName_fileNameOf device.id, ?_⟩
  rw [Tree.outputPath, if_pos h]
  exact isInDirectory_join h (isLayoutName_fileNameOf device.id)

/-- A device whose identifier looks like a path to somewhere else, and ends with a sigma. -/
def strayDevice : Device where
  id := "/../C:\\Temp/ ΟΔΟΣ"
  name := "Stray"

/-- A disk with a directory for layouts. -/
def layoutsTree : Disk.Tree where
  entries := [(["layouts"], .directory)]

/-- Its file is in the directory. -/
theorem outputPath_staysInDirectory_strayDevice :
    layoutsTree.isDirectory "/layouts/" = true ∧
      layoutsTree.outputPath "/layouts/" strayDevice = "/layouts/_.._c__temp__οδος.json" ∧
      ∃ name, IsLayoutName name ∧
        IsInDirectory layoutsTree "/layouts/" (layoutsTree.outputPath "/layouts/" strayDevice)
          name := by
  have hdirectory : layoutsTree.isDirectory "/layouts/" = true := by decide +kernel
  exact ⟨hdirectory, by decide +kernel,
    outputPath_staysInDirectory.1 layoutsTree "/layouts/" strayDevice hdirectory⟩

end EpaperLayout
