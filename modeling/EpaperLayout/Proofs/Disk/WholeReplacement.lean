import EpaperLayout.Layout.Storage
import EpaperLayout.Proofs.Disk.MadeDirectories
import EpaperLayout.Proofs.Disk.ReadBack
import EpaperLayout.Settings.Storage

/-!
# A file is replaced as a whole or not at all

A file is replaced in three stages: its directory is made, a temporary file is written,
and the temporary file is renamed.  Each stage may fail, and a stage that fails leaves
behind what the earlier ones have done.  This module follows what that means for the
places of the disk.

**Places apart.**  All rests on the temporary file not being the file itself.  Where a
path has a file name, the temporary file has another one in the same directory; where
it has none, the temporary file of a layout is an entry of the directory, and that of
settings has the same path, to which nothing can be written.

**Limit.**  Directories that were made stay.  If the way to the directory of a file
passes the place of the file itself, as in `a/../a`, a directory is made in its place
and no file can be put there.

**Results.**
* `place_temporaryPath_ne`, `place_temporarySettingsPath_ne`: the places are apart.
* `replacesWhole_replaceFile`: what a replacement leaves, whichever stage fails.
* `keepsWays_replaceFile`: no directory is lost.
* `readsApart_iff`: when the file is read back.
* `replacesWhole_writeFile_saveSettings`: what files and settings come to.
-/

namespace EpaperLayout
namespace Disk
namespace Tree

section Apart

theorem isName_of_length
    {name : String}
    (h : 2 < name.toList.length) :
    isName name = true := by
  have hne : name ≠ "" ∧ name ≠ "." ∧ name ≠ ".." := by
    refine ⟨?_, ?_, ?_⟩ <;>
      · rintro rfl
        exact absurd h (by decide)
  simp [isName, hne.1, hne.2.1, hne.2.2]

theorem isName_of_fileName?
    {path : Path} {name : String}
    (h : Path.fileName? path = some name) :
    isName name = true := by
  obtain ⟨-, hempty, hdot, hdots⟩ := Path.splitLast_of_fileName?_eq_some h
  simp [isName, hempty, hdot, hdots]

theorem slash_notMem_of_fileName?
    {path : Path} {name : String}
    (h : Path.fileName? path = some name) :
    '/' ∉ name.toList := by
  rw [← (Path.splitLast_of_fileName?_eq_some h).1]
  exact Path.slash_notMem_splitLast path

/-- A path with another file name is next to the path. -/
theorem siblings_withFileName
    {path : Path} {name other : String}
    (h : Path.fileName? path = some name)
    (hslash : '/' ∉ other.toList)
    (hother : isName other = true)
    (hne : other ≠ name) :
    Siblings (Path.withFileName path other) path ((Path.parent? path).getD "") other name where
  continues := Path.continues_withFileName h hslash (isIdle_of_isName hother)
  pathContinues := Path.continues_of_fileName?_eq_some h
  getLast?_eq := by
    rw [Path.withFileName, h]
    exact Path.getLast?_segments_join _ hslash
  isName := hother
  source_ne := hne

/-- **The temporary file of a layout is next to its file.** -/
theorem isNextTo_temporaryPath (path : Path) : IsNextTo (temporaryPath path) path := by
  intro name h
  rw [temporaryPath, h, Option.getD_some]
  refine ⟨_, _, siblings_withFileName h ?_ (isName_of_length ?_) ?_⟩
  · simpa using slash_notMem_of_fileName? h
  · simp
  · intro heq
    simpa using congrArg (fun text : String => text.toList.length) heq

/-- **The temporary file of settings is next to their file.** -/
theorem isNextTo_temporarySettingsPath (path : Path) :
    IsNextTo (temporarySettingsPath path) path := by
  intro name h
  rw [temporarySettingsPath, Path.withExtension_of_some h]
  refine ⟨_, _, siblings_withFileName h ?_ (isName_of_length ?_) ?_⟩
  · have hstem : '/' ∉ (Path.stem name).toList := by
      intro hmem
      exact slash_notMem_of_fileName? h (Path.mem_of_mem_stem hmem)
    simpa using hstem
  · simp
  · exact Path.stem_append_ne (by decide) name

/-- Different names in one directory are different places. -/
theorem Siblings.place_ne
    {temporary path base : Path} {source name : String}
    (h : Siblings temporary path base source name)
    (hname : Tree.isName name = true)
    (tree : Tree) :
    tree.place temporary ≠ tree.place path := by
  rw [place_of_continues h.continues, place_of_continues h.pathContinues,
    advance_of_isName h.isName, advance_of_isName hname]
  intro heq
  exact h.source_ne (List.singleton_inj.mp (List.append_cancel_left heq))

/-- **The temporary file of a layout has a place of its own.** -/
theorem place_temporaryPath_ne (tree : Tree) (path : Path) :
    tree.place (temporaryPath path) ≠ tree.place path := by
  cases hname : Path.fileName? path with
  | some name =>
      obtain ⟨base, source, hsiblings⟩ := isNextTo_temporaryPath path name hname
      exact hsiblings.place_ne (isName_of_fileName? hname) tree
  | none =>
      have hslash : '/' ∉ (".tmp" : String).toList := by decide
      have hidle : Path.isIdle ".tmp" = false := by decide
      have hcontinues := Path.continues_join path hslash hidle
      have htemporary : temporaryPath path = Path.join path ".tmp" := by
        simp [temporaryPath, Path.withFileName, hname]
      rw [htemporary, place_of_continues hcontinues, advance_of_isName (by decide)]
      intro heq
      simpa using congrArg List.length heq

/-- **The temporary file of settings has a place of its own**, if it can be written at all. -/
theorem place_temporarySettingsPath_ne
    {path : Path}
    (h : isName (Path.lastSegment (temporarySettingsPath path)) = true)
    (tree : Tree) :
    tree.place (temporarySettingsPath path) ≠ tree.place path := by
  cases hname : Path.fileName? path with
  | some name =>
      obtain ⟨base, source, hsiblings⟩ := isNextTo_temporarySettingsPath path name hname
      exact hsiblings.place_ne (isName_of_fileName? hname) tree
  | none =>
      rw [temporarySettingsPath, Path.withExtension_of_none hname] at h
      have hdots : Path.lastSegment path ≠ ".." := by
        intro heq
        rw [heq] at h
        cases h
      rw [Path.fileName?_of_lastSegment (isIdle_of_isName h) hdots] at hname
      cases hname

end Apart

section Replacement

variable {tree later : Tree} {temporary path : Path} {text : String}

/-- What an attempt to replace a file leaves, when it fails and when it does not. -/
structure ReplacesWhole (tree later : Tree) (temporary path : Path) (text : String)
    (fails : Bool) : Prop where
  /-- A failure keeps the file, or its absence; at most a directory is made on the way. -/
  kept : fails = true → KeptOn (tree.directoryWay path) tree later (tree.place path)
  /-- Without a failure the file holds the text and is read so, if the temporary file may be read,
  and no temporary file is left. -/
  replaced : fails = false →
    later.get? (tree.place path) =
      some (.file (Text.encode text.toList) (tree.readableAt (tree.place temporary))) ∧
      (tree.readableAt (tree.place temporary) = true → later.readText path = .ok text) ∧
      later.get? (tree.place temporary) = none
  /-- Either way nothing else changes but for directories made on the way. -/
  others : ∀ location, location ≠ tree.place path → location ≠ tree.place temporary →
    KeptOn (tree.directoryWay path) tree later location

/-- Writing the temporary file keeps all other places, and its own if it cannot be written. -/
theorem keptOn_writeText
    {way : List Location} {prepared : Tree} {location : Location}
    (hlinks : tree.LinkFree)
    (h : OnlyMakes way tree prepared)
    (hlocation : isName (Path.lastSegment temporary) = true → location ≠ tree.place temporary) :
    KeptOn way tree (prepared.writeText temporary text).tree location := by
  rcases writeText_cases prepared temporary text with
    ⟨-, htree⟩ | ⟨directory, name, content, hstands, hname, -, htree, -⟩
  · rw [htree]
    exact h.keptOn location
  · have hprepared := h.linkFree hlinks
    have hlast : Path.lastSegment temporary = name := hstands.lastSegment_eq hprepared
    have hplace : tree.place temporary = directory ++ [name] := by
      rw [← hstands.place_eq hprepared hname, place_congr h.workingDirectory_eq]
    have hne : location ≠ directory ++ [name] := hplace ▸ hlocation (hlast.symm ▸ hname)
    rw [htree, KeptOn, get?_put_of_ne _ _ hne]
    exact h.keptOn location

theorem LinkFree.put_file
    {prepared : Tree}
    (h : prepared.LinkFree)
    (location : Location)
    (content : List UInt8)
    (readable : Bool) :
    (prepared.put location (.file content readable)).LinkFree := by
  intro other target hlink
  by_cases hother : other = location
  · by_cases hroot : location = []
    · rw [hother, hroot] at hlink
      cases hlink
    · rw [hother, get?_put_self _ _ hroot] at hlink
      cases hlink
  · rw [get?_put_of_ne _ _ hother] at hlink
    exact h other target hlink

theorem LinkFree.writeText
    {prepared : Tree}
    (h : prepared.LinkFree) :
    (prepared.writeText path text).tree.LinkFree := by
  rcases writeText_cases prepared path text with
    ⟨-, htree⟩ | ⟨directory, name, content, -, -, -, htree, -⟩
  · rw [htree]
    exact h
  · rw [htree]
    exact h.put_file _ _ _

/-- All ways stay when a file is written. -/
theorem keepsWays_writeText (prepared : Tree) (path : Path) (text : String) :
    KeepsWays prepared (prepared.writeText path text).tree := by
  rcases writeText_cases prepared path text with
    ⟨-, htree⟩ | ⟨directory, name, content, -, -, hfree, htree, -⟩
  · rw [htree]
    exact ⟨rfl, rfl, fun hget _ => hget⟩
  · rw [htree]
    exact KeepsWays.put_file hfree _ _

/-- Without links, all ways stay when a file is renamed. -/
theorem keepsWays_of_rename_eq_ok
    {written : Tree}
    (hlinks : written.LinkFree)
    (h : written.rename temporary path = .ok later) :
    KeepsWays written later := by
  obtain ⟨sourceDirectory, sourceName, targetDirectory, targetName, moved, -, hfile, hmoved, -, -,
    hfree, rfl⟩ := exists_of_rename_eq_ok h
  refine ⟨rfl, rfl, ?_⟩
  intro location entry hentry hway
  have hdirectory : entry = .directory := by
    cases entry with
    | directory => rfl
    | file => cases hway
    | link target => exact absurd hentry (hlinks location target)
  subst hdirectory
  rw [get?_put_of_ne, get?_erase_of_ne, hentry]
  · rintro rfl
    exact hmoved (Option.some.inj (hfile.symm.trans hentry))
  · rintro rfl
    exact hfree hentry

/-- Without links, a file that has been renamed is read. -/
theorem readText_of_rename_eq_ok
    {written : Tree}
    (hlinks : written.LinkFree)
    (h : written.rename temporary path = .ok later)
    (hfile : later.get? (written.place path) =
      some (.file (Text.encode text.toList) true)) :
    later.readText path = .ok text := by
  obtain ⟨-, -, directory, name, -, -, -, -, hstands, hname, -, -⟩ := exists_of_rename_eq_ok h
  rw [hstands.place_eq hlinks hname] at hfile
  have hlater : StandsIn later false path directory name :=
    hstands.of_keepsWays (keepsWays_of_rename_eq_ok hlinks h) nofun
  refine (hlater.follow ?_).readText_eq hname hfile
  rw [advance_of_isName hname, hfile]
  exact fun _ => nofun

/-- What writing and renaming the temporary file leave. -/
theorem exists_of_rename_written
    {prepared : Tree}
    (hlinks : prepared.LinkFree)
    (hwrite : (prepared.writeText temporary text).error = none)
    (hrename : (prepared.writeText temporary text).tree.rename temporary path = .ok later) :
    isName (Path.lastSegment temporary) = true ∧ IsFree prepared (prepared.place temporary) ∧
      prepared.place temporary ≠ [] ∧ prepared.place path ≠ [] ∧
      later = ((prepared.put (prepared.place temporary)
        (.file (Text.encode text.toList) (prepared.readableAt (prepared.place temporary)))).erase
          (prepared.place temporary)).put (prepared.place path)
            (.file (Text.encode text.toList)
              (prepared.readableAt (prepared.place temporary))) := by
  rcases writeText_cases prepared temporary text with
    ⟨hfails, -⟩ | ⟨directory, name, content, hstands, hname, hfree, htree, hcontent⟩
  · exact absurd hwrite hfails
  · rw [hcontent hwrite] at htree
    rw [htree] at hrename
    obtain ⟨sourceDirectory, sourceName, targetDirectory, targetName, moved, hsource, hfile, -,
      htarget, htargetName, -, rfl⟩ := exists_of_rename_eq_ok hrename
    have hwritten := hlinks.put_file (directory ++ [name]) (Text.encode text.toList)
      (prepared.readableAt (directory ++ [name]))
    have hplace := hstands.place_eq hlinks hname
    -- what is renamed is what was written
    have hlast : Path.lastSegment temporary = name := hstands.lastSegment_eq hlinks
    have hsourceName : sourceName = name := by
      rw [← hsource.lastSegment_eq hwritten, hlast]
    subst hsourceName
    have hsourcePlace := hsource.place_eq hwritten hname
    rw [show (prepared.put _ _).place temporary = prepared.place temporary from rfl, hplace]
      at hsourcePlace
    rw [← hsourcePlace, get?_put_self _ _ (by simp)] at hfile
    cases hfile
    have htargetPlace : prepared.place path = targetDirectory ++ [targetName] := by
      rw [← htarget.place_eq hwritten htargetName]
      rfl
    rw [hlast, hplace, htargetPlace, ← hsourcePlace]
    exact ⟨hname, hfree, by simp, by simp, rfl⟩

/-- Whether a file may be read does not change while directories are made. -/
theorem readableAt_eq_of_keptOn
    {way : List Location} {prepared : Tree} {location : Location}
    (hrefuses : prepared.refuses = tree.refuses)
    (hfree : IsFree prepared location)
    (h : KeptOn way tree prepared location) :
    prepared.readableAt location = tree.readableAt location := by
  rcases h with hkept | ⟨-, -, hmade⟩
  · rw [readableAt, readableAt, hkept, hrefuses]
  · exact absurd (hfree _ hmade) (by decide)

/-- **A file is replaced as a whole or not at all**, if the temporary file has a place of its own
whenever it can be written. -/
theorem replacesWhole_replaceFile
    (hlinks : tree.LinkFree)
    (hapart : isName (Path.lastSegment temporary) = true →
      tree.place temporary ≠ tree.place path)
    (text : String) :
    ReplacesWhole tree (tree.replaceFile temporary path text).tree temporary path text
      (tree.replaceFile temporary path text).error.isSome := by
  have hmakes := onlyMakes_makeDirectoryOf hlinks path
  rcases replaceFile_cases tree temporary path text with
    ⟨hfails, htree⟩ | ⟨hfails, htree⟩ | ⟨hwrite, later, hrename, hreplaced⟩
  · rw [htree, Option.isSome_iff_ne_none.mpr hfails]
    exact ⟨fun _ => hmakes.keptOn _, by rintro ⟨⟩, fun _ _ _ => hmakes.keptOn _⟩
  · rw [htree, Option.isSome_iff_ne_none.mpr hfails]
    exact ⟨fun _ => keptOn_writeText hlinks hmakes fun hname => (hapart hname).symm,
      by rintro ⟨⟩, fun _ _ hlocation => keptOn_writeText hlinks hmakes fun _ => hlocation⟩
  · obtain ⟨hname, hfree, htemporary, hpath, hlater⟩ :=
      exists_of_rename_written (hmakes.linkFree hlinks) hwrite hrename
    rw [place_congr hmakes.workingDirectory_eq] at hfree htemporary hpath hlater
    rw [place_congr hmakes.workingDirectory_eq,
      readableAt_eq_of_keptOn hmakes.refuses_eq hfree (hmakes.keptOn _)] at hlater
    rw [hreplaced]
    have hfile : later.get? (tree.place path) = some (.file (Text.encode text.toList)
        (tree.readableAt (tree.place temporary))) := by
      rw [hlater, get?_put_self _ _ hpath]
    refine ⟨by rintro ⟨⟩, fun _ => ⟨hfile, ?_, ?_⟩, ?_⟩
    · intro hreadable
      rw [hreadable] at hfile
      refine readText_of_rename_eq_ok (hmakes.linkFree hlinks).writeText hrename ?_
      rw [place_congr ((keepsWays_writeText _ _ _).workingDirectory_eq.trans
        hmakes.workingDirectory_eq), hfile]
    · rw [hlater, get?_put_of_ne _ _ (hapart hname), get?_erase_self _ htemporary]
    · intro location hlocation hother
      rw [hlater, KeptOn, get?_put_of_ne _ _ hlocation, get?_erase_of_ne _ hother,
        get?_put_of_ne _ _ hother]
      exact hmakes.keptOn location

/-- Without links, what is renamed is no link. -/
theorem LinkFree.of_rename_eq_ok
    {written : Tree}
    (hlinks : written.LinkFree)
    (h : written.rename temporary path = .ok later) :
    later.LinkFree := by
  obtain ⟨sourceDirectory, sourceName, targetDirectory, targetName, moved, -, hmoved, -, -, -,
    -, rfl⟩ := exists_of_rename_eq_ok h
  intro location target hlink
  by_cases hlocation : location = targetDirectory ++ [targetName]
  · rw [hlocation, get?_put_self _ _ (by simp)] at hlink
    cases hlink
    exact hlinks _ _ hmoved
  · rw [get?_put_of_ne _ _ hlocation] at hlink
    exact hlinks _ _ (get?_of_get?_erase hlink)

/-- **Without links, all ways stay**, whether or not a replacement fails. -/
theorem keepsWays_replaceFile
    (hlinks : tree.LinkFree)
    (temporary path : Path)
    (text : String) :
    KeepsWays tree (tree.replaceFile temporary path text).tree := by
  have hmade := onlyMakes_makeDirectoryOf hlinks path
  have hwritten : KeepsWays tree ((tree.makeDirectoryOf path).tree.writeText temporary text).tree :=
    hmade.keepsWays.trans (keepsWays_writeText _ _ _)
  rcases replaceFile_cases tree temporary path text with
    ⟨-, htree⟩ | ⟨-, htree⟩ | ⟨-, later, hrename, hreplaced⟩
  · rw [htree]
    exact hmade.keepsWays
  · rw [htree]
    exact hwritten
  · rw [hreplaced]
    exact hwritten.trans
      (keepsWays_of_rename_eq_ok (hmade.linkFree hlinks).writeText hrename)

/-- Without links, replacing a file makes none. -/
theorem LinkFree.replaceFile
    (hlinks : tree.LinkFree)
    (temporary path : Path)
    (text : String) :
    (tree.replaceFile temporary path text).tree.LinkFree := by
  have hmade := (onlyMakes_makeDirectoryOf hlinks path).linkFree hlinks
  rcases replaceFile_cases tree temporary path text with
    ⟨-, htree⟩ | ⟨-, htree⟩ | ⟨-, later, hrename, hreplaced⟩
  · rw [htree]
    exact hmade
  · rw [htree]
    exact hmade.writeText
  · rw [hreplaced]
    exact hmade.writeText.of_rename_eq_ok hrename

/-- **Without links, a replaced file is read back** exactly if its temporary file may be read. -/
theorem readsApart_iff
    (hlinks : tree.LinkFree)
    (hnext : IsNextTo temporary path)
    (hapart : isName (Path.lastSegment temporary) = true →
      tree.place temporary ≠ tree.place path)
    (h : (tree.replaceFile temporary path text).error = none) :
    tree.ReadsApart temporary path text ↔ tree.readableAt (tree.place temporary) = true := by
  have hwhole := replacesWhole_replaceFile hlinks hapart text
  obtain ⟨hfile, hreads, -⟩ := hwhole.replaced (by rw [h]; rfl)
  rw [ReadsApart, ← readText_replaceFile_iff hnext h]
  constructor
  · intro hread
    obtain ⟨content, -, location, hlocate, hlater⟩ := readText_eq_ok_iff.mp hread
    rw [eq_place_of_locate_eq_ok (hlinks.replaceFile temporary path text) hlocate,
      place_congr (keepsWays_replaceFile hlinks temporary path text).workingDirectory_eq, hfile]
      at hlater
    exact (Entry.file.inj (Option.some.inj hlater)).2
  · exact hreads

/-- **Files and settings are replaced as a whole or not at all** on a disk without links.  Settings
that do not pass their check leave the disk as it is. -/
theorem replacesWhole_writeFile_saveSettings
    (tree : Tree)
    (hlinks : tree.LinkFree)
    (path : Path) :
    (∀ text, ReplacesWhole tree (tree.writeFile path text).tree (temporaryPath path) path text
      (tree.writeFile path text).error.isSome) ∧
    (∀ settings, ReplacesWhole tree (tree.saveSettings settings path).tree
      (temporarySettingsPath path) path settings.toText
      (tree.saveSettings settings path).error.isSome) ∧
    ∀ settings error, tree.checkSettings settings = .error error →
      tree.saveSettings settings path = { tree, error := some error } := by
  refine ⟨?_, ?_, ?_⟩
  · intro text
    rw [writeFile]
    simp only [Option.isSome_map]
    exact replacesWhole_replaceFile hlinks (fun _ => place_temporaryPath_ne tree path) text
  · intro settings
    rw [saveSettings]
    cases tree.checkSettings settings with
    | error error =>
        exact ⟨fun _ => Or.inl rfl, by rintro ⟨⟩, fun _ _ _ => Or.inl rfl⟩
    | ok =>
        simp only [Option.isSome_map]
        exact replacesWhole_replaceFile hlinks
          (fun hname => place_temporarySettingsPath_ne hname tree) settings.toText
  · intro settings error herror
    rw [saveSettings, herror]

/-- A disk that lets no file take the place of the file `a`. -/
def busyDisk : Tree where
  entries := [(["a"], .file [111, 108, 100])]
  refuses access location := access = .rename && location = ["a"]

theorem linkFree_busyDisk : busyDisk.LinkFree :=
  linkFree_of_forall_mem (by simp [busyDisk])

/-- A file that cannot be renamed leaves the old one, and refused settings leave no trace. -/
theorem replacesWhole_busyDisk :
    busyDisk.LinkFree ∧ (busyDisk.writeFile "a" "new").error.isSome = true ∧
      (busyDisk.writeFile "a" "new").tree.get? ["a"] = some (.file [111, 108, 100]) ∧
      busyDisk.checkSettings { logLevel := "loud" } = .error (.logLevel "loud") ∧
      busyDisk.saveSettings { logLevel := "loud" } "a" =
        { tree := busyDisk, error := some (.logLevel "loud") } := by
  obtain ⟨hfile, -, hsettings⟩ :=
    replacesWhole_writeFile_saveSettings busyDisk linkFree_busyDisk "a"
  have hfails : (busyDisk.writeFile "a" "new").error.isSome = true := by decide +kernel
  have hrefused : busyDisk.checkSettings { logLevel := "loud" } = .error (.logLevel "loud") := by
    decide +kernel
  refine ⟨linkFree_busyDisk, hfails, ?_, hrefused, hsettings _ _ hrefused⟩
  have hplace : busyDisk.place "a" = ["a"] := by decide +kernel
  rcases (hfile "new").kept hfails with hkept | ⟨hway, -⟩
  · rw [hplace] at hkept
    exact hkept
  · exact absurd hway (by decide +kernel)

/-- Where the way to a file passes its own place, a failure leaves a directory in it. -/
theorem writeFile_throughItself :
    ({} : Tree).LinkFree ∧ (({} : Tree).writeFile "a/../a" "new").error.isSome = true ∧
      ({} : Tree).exists? "a/../a" = false ∧
      (({} : Tree).writeFile "a/../a" "new").tree.exists? "a/../a" = true ∧
      ({} : Tree).get? (({} : Tree).place "a/../a") = none ∧
      (({} : Tree).writeFile "a/../a" "new").tree.get? (({} : Tree).place "a/../a") =
        some .directory :=
  ⟨linkFree_of_forall_mem (by simp), by decide +kernel⟩

end Replacement

end Tree
end Disk
end EpaperLayout
