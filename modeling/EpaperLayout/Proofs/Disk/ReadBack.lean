import EpaperLayout.Proofs.Disk.ReplacedFile

/-!
# A replaced file is read back

A file is written next to its place and then renamed.  What is renamed may be a link,
and what it replaces may be a link, too.  So the path may lead elsewhere afterwards, or
nowhere: a link to the file that it replaces becomes a link to itself.

**Apart.**  All depends on whether the temporary file is found without the help of what
it is to replace.  If it is, then its content is read at the path afterwards.  If not,
nothing is read there.  The content of another file is never read.

**Results.**
* `leadsTo_file_iff`: the path leads to a file exactly if the temporary path leads to it
  while the path has nothing.
* `readText_replaceFile_iff`: exactly when a replaced file is read back.
* `eq_of_readText_replaceFile`: nothing else is ever read.
-/

namespace EpaperLayout
namespace Disk
namespace Tree

variable {tree later written : Tree} {path temporary : Path} {text : String}

/-- The path leads to the entry, all links being followed. -/
def LeadsTo (tree : Tree) (path : Path) (entry : Entry) : Prop :=
  ∃ directory name, StandsIn tree true path directory name ∧
    tree.get? (advance directory name) = some entry

theorem readText_eq_ok_iff_leadsTo :
    tree.readText path = .ok text ↔
      ∃ content, Text.decode? content = some text.toList ∧
        LeadsTo tree path (.file content true) := by
  rw [readText_eq_ok_iff]
  constructor
  · rintro ⟨content, hdecode, location, hlocate, hfile⟩
    obtain ⟨directory, name, hstands, rfl, -⟩ := locate_eq_ok_iff.mp hlocate
    exact ⟨content, hdecode, directory, name, hstands, hfile⟩
  · rintro ⟨content, hdecode, directory, name, hstands, hfile⟩
    exact ⟨content, hdecode, _,
      locate_eq_ok_iff.mpr ⟨directory, name, hstands, rfl, by rw [hfile]; rfl⟩, hfile⟩

section Siblings

/-- Both paths go one step further than one directory, by different names; the first one ends with
its name. -/
structure Siblings (temporary path base : Path) (source name : String) : Prop where
  continues : Path.Continues temporary base source
  pathContinues : Path.Continues path base name
  getLast?_eq : (Path.segments temporary).getLast? = some source
  isName : isName source = true
  source_ne : source ≠ name

/-- A path to a name stands where its steps lead. -/
theorem standsIn_iff_steps
    {followLast : Bool} {directory : Location} {name last : String}
    (hlast : (Path.segments path).getLast? = some last)
    (hname : isName last = true) :
    StandsIn tree followLast path directory name ↔
      faultOf? path = none ∧ ∃ links ≤ linkLimit,
        Leads tree followLast directory name links (tree.base path) (Path.steps path) := by
  constructor
  · rintro ⟨hfault, links, hlinks, hleads⟩
    exact ⟨hfault, links, hlinks, (leads_segments_iff hlast hname).mp hleads⟩
  · rintro ⟨hfault, links, hlinks, hleads⟩
    exact ⟨hfault, links, hlinks, (leads_segments_iff hlast hname).mpr hleads⟩

/-- The temporary path is next to the path, if that has a file name at all. -/
def IsNextTo (temporary path : Path) : Prop :=
  ∀ name, Path.fileName? path = some name → ∃ base source,
    Siblings temporary path base source name

theorem Siblings.base_eq
    {base : Path} {source name : String}
    (h : Siblings temporary path base source name)
    (tree : Tree) :
    tree.base temporary = tree.base path :=
  base_eq_of_isAbsolute_eq (h.continues.isAbsolute_eq.trans h.pathContinues.isAbsolute_eq.symm) tree

end Siblings

section Moves

variable {directory location : Location} {source name : String} {entry : Entry}
variable {before : List String} {links : Nat}

/-- An entry that stands elsewhere is still there when something is taken away. -/
theorem get?_of_get?_erase
    {place : Location}
    (h : (tree.erase place).get? location = some entry) :
    tree.get? location = some entry := by
  by_cases hplace : location = place
  · by_cases hroot : place = []
    · rw [hplace, hroot] at h ⊢
      exact h
    · rw [hplace, get?_erase_self _ hroot] at h
      cases h
  · rwa [get?_erase_of_ne _ hplace] at h

theorem keepsWays_erase (tree : Tree) (place : Location) : KeepsWays (tree.erase place) tree :=
  ⟨rfl, rfl, fun hget _ => get?_of_get?_erase hget⟩

/-- In the later tree, an entry of a directory has got another name, at which there was no
directory. -/
structure Moves (written later : Tree) (directory : Location) (source name : String)
    (entry : Entry) : Prop where
  source_ne : source ≠ name
  get?_source : written.get? (directory ++ [source]) = some entry
  entry_ne : entry ≠ .directory
  get?_name : written.get? (directory ++ [name]) ≠ some .directory
  later_eq : later = (written.erase (directory ++ [source])).put (directory ++ [name]) entry

theorem Moves.place_ne
    (h : Moves written later directory source name entry) :
    directory ++ [source] ≠ directory ++ [name] := by
  simpa using h.source_ne

theorem Moves.get?_later
    (h : Moves written later directory source name entry) :
    later.get? (directory ++ [name]) = some entry := by
  rw [h.later_eq, get?_put_self _ _ (by simp)]

theorem Moves.get?_later_source
    (h : Moves written later directory source name entry) :
    later.get? (directory ++ [source]) = none := by
  rw [h.later_eq, get?_put_of_ne _ _ h.place_ne, get?_erase_self _ (by simp)]

theorem Moves.get?_later_of_ne
    (h : Moves written later directory source name entry)
    (hsource : location ≠ directory ++ [source])
    (hname : location ≠ directory ++ [name]) :
    later.get? location = written.get? location := by
  rw [h.later_eq, get?_put_of_ne _ _ hname, get?_erase_of_ne _ hsource]

/-- What is at neither of the two names is in the later tree. -/
theorem Moves.keepsWays
    (h : Moves written later directory source name entry) :
    KeepsWays ((written.erase (directory ++ [name])).erase (directory ++ [source])) later := by
  refine ⟨by rw [h.later_eq]; rfl, by rw [h.later_eq]; rfl, ?_⟩
  intro location other hget _
  have hother := get?_of_get?_erase hget
  rw [h.get?_later_of_ne, get?_of_get?_erase hother]
  · rintro rfl
    rw [get?_erase_self _ (by simp)] at hget
    cases hget
  · rintro rfl
    rw [get?_erase_self _ (by simp)] at hother
    cases hother

/-- Nothing else is in the later tree, but at the new name. -/
theorem Moves.keepsWays_later
    (h : Moves written later directory source name entry) :
    KeepsWays (later.erase (directory ++ [name])) (written.erase (directory ++ [name])) := by
  refine ⟨by rw [h.later_eq]; rfl, by rw [h.later_eq]; rfl, ?_⟩
  intro location other hget _
  have hother := get?_of_get?_erase hget
  have hname : location ≠ directory ++ [name] := by
    rintro rfl
    rw [get?_erase_self _ (by simp)] at hget
    cases hget
  have hsource : location ≠ directory ++ [source] := by
    rintro rfl
    rw [h.get?_later_source] at hother
    cases hother
  rw [get?_erase_of_ne _ hname, ← h.get?_later_of_ne hsource hname, hother]

/-- Where a link is moved, a file is at neither of the two names, and so it stays. -/
theorem Moves.get?_later_file
    {target : Path} {content : List UInt8} {readable : Bool}
    (h : Moves written later directory source name (.link target))
    (hfile : (written.erase (directory ++ [name])).get? location = some (.file content readable)) :
    later.get? location = some (.file content readable) := by
  have hwritten := get?_of_get?_erase hfile
  rw [h.get?_later_of_ne, hwritten]
  · rintro rfl
    rw [h.get?_source] at hwritten
    cases hwritten
  · rintro rfl
    rw [get?_erase_self _ (by simp)] at hfile
    cases hfile

/-- And a file that is there later was there before. -/
theorem Moves.get?_written_file
    {target : Path} {content : List UInt8} {readable : Bool}
    (h : Moves written later directory source name (.link target))
    (hfile : later.get? location = some (.file content readable)) :
    (written.erase (directory ++ [name])).get? location = some (.file content readable) := by
  have hname : location ≠ directory ++ [name] := by
    rintro rfl
    rw [h.get?_later] at hfile
    cases hfile
  have hsource : location ≠ directory ++ [source] := by
    rintro rfl
    rw [h.get?_later_source] at hfile
    cases hfile
  rw [get?_erase_of_ne _ hname, ← h.get?_later_of_ne hsource hname, hfile]

/-- A way that goes on does not pass a link to a file. -/
theorem Leads.erase_of_link_file
    {place fileDirectory : Location} {fileName : String} {target : Path} {count : Nat}
    {content : List UInt8} {readable : Bool}
    (hlink : tree.get? place = some (.link target))
    (htarget : Leads tree true fileDirectory fileName count (start place.dropLast target)
      (Path.segments target))
    (hfile : tree.get? (advance fileDirectory fileName) = some (.file content readable))
    {segments : List String}
    (h : Leads tree false directory name links location segments) :
    Leads (tree.erase place) false directory name links location segments := by
  rcases h.erase_or (by rw [hlink]; nofun) with herase | ⟨target', rest, _, hlink', hrest, -, hbehind⟩
  · exact herase
  · rw [hlink] at hlink'
    cases hlink'
    have hdirectory := (htarget.of_append (hrest.resolve_right nofun)
      (hbehind.own_of_keepsWays (keepsWays_erase tree place))).1
    rw [hfile] at hdirectory
    cases hdirectory

/-- The way of a link to a file does not come back to the link. -/
theorem Leads.erase_own_link
    {place fileDirectory : Location} {fileName : String} {target : Path} {count : Nat}
    {content : List UInt8} {readable : Bool}
    (hlink : tree.get? place = some (.link target))
    (htarget : Leads tree true fileDirectory fileName count (start place.dropLast target)
      (Path.segments target))
    (hfile : tree.get? (advance fileDirectory fileName) = some (.file content readable)) :
    Leads (tree.erase place) true fileDirectory fileName count (start place.dropLast target)
      (Path.segments target) := by
  rcases htarget.erase_or (by rw [hlink]; nofun) with
    herase | ⟨target', rest, fewer, hlink', -, hfewer, hbehind⟩
  · exact herase
  · rw [hlink] at hlink'
    cases hlink'
    have hagain := hbehind.file_of_keepsWays (keepsWays_erase tree place) hfile
    cases rest with
    | nil =>
        -- the same way again, but with fewer links
        rw [List.append_nil] at hagain
        exact absurd (htarget.eq hagain).2.2 (Nat.ne_of_lt hfewer)
    | cons segment rest =>
        have hdirectory := (htarget.of_append (List.cons_ne_nil _ _) hagain).1
        rw [hfile] at hdirectory
        cases hdirectory

variable {fileDirectory : Location} {fileName : String} {content : List UInt8} {readable : Bool}

/-- **What the temporary path leads to apart from its target** is led to by the path later. -/
theorem Moves.exists_leads_later
    {own count : Nat}
    (h : Moves written later directory source name entry)
    (hsource : isName source = true)
    (hname : isName name = true)
    (hsize : name.utf8ByteSize ≤ nameLimit)
    (hown : Leads written false directory source own location (before ++ [source]))
    (hleads : Leads (written.erase (directory ++ [name])) true fileDirectory fileName count location
      (before ++ [source]))
    (hfile : (written.erase (directory ++ [name])).get? (advance fileDirectory fileName) =
      some (.file content readable)) :
    ∃ laterDirectory laterName,
      Leads later true laterDirectory laterName count location (before ++ [name]) ∧
        later.get? (advance laterDirectory laterName) = some (.file content readable) := by
  obtain ⟨sourceDirectory, sourceName, links, hstands, hcases⟩ := hleads.unfollowed
  obtain ⟨rfl, rfl, -⟩ := hown.eq (hstands.own_of_keepsWays (keepsWays_erase _ _))
  rw [advance_of_isName hsource] at hcases
  have hplace : advance sourceDirectory name = sourceDirectory ++ [name] := advance_of_isName hname _
  rcases hcases with ⟨rfl, rfl, rfl, -⟩ | ⟨target, others, hlink, htarget, rfl, hrest⟩
  · -- a file is moved, which no way passes
    rw [advance_of_isName hsource] at hfile
    have hentry := get?_of_get?_erase hfile
    rw [h.get?_source] at hentry
    cases hentry
    have herase : Leads ((written.erase (fileDirectory ++ [name])).erase
        (fileDirectory ++ [fileName])) false fileDirectory fileName count location
          (before ++ [fileName]) := by
      rcases hstands.erase_or (by rw [hfile]; nofun) with herase | ⟨_, _, _, hlink, -⟩
      · exact herase
      · rw [hfile] at hlink
        cases hlink
    have hlater := (herase.own_of_keepsWays h.keepsWays).withLast hsize
    rw [List.dropLast_concat] at hlater
    refine ⟨fileDirectory, name, hlater.follow ?_, ?_⟩
    · rw [hplace, h.get?_later]
      exact fun _ => nofun
    · rw [hplace, h.get?_later]
  · -- a link is moved, and what it leads to is neither of the two places
    have hentry := get?_of_get?_erase hlink
    rw [h.get?_source] at hentry
    cases hentry
    have hlaterFile := h.get?_later_file hfile
    have hlater :=
      ((Leads.erase_of_link_file hlink hrest hfile hstands).own_of_keepsWays h.keepsWays).withLast
        hsize
    have hlaterRest :=
      (Leads.erase_own_link hlink hrest hfile).file_of_keepsWays h.keepsWays hlaterFile
    rw [List.dropLast_concat] at hlater hlaterRest
    refine ⟨fileDirectory, fileName, hlater.followLink ?_ htarget ?_, hlaterFile⟩
    · rw [hplace, h.get?_later]
    · rw [hplace, List.dropLast_concat]
      exact hlaterRest

/-- A way to the path in the later tree does not pass the path itself, if the temporary path led to
a file. -/
theorem Moves.leads_erase_later
    {writtenDirectory nameDirectory : Location} {writtenName lastName : String} {count : Nat}
    {old : List UInt8} {oldReadable : Bool}
    (h : Moves written later directory source name entry)
    (hsource : isName source = true)
    (hown : Leads written false directory source links location (before ++ [source]))
    (hwritten : Leads written true writtenDirectory writtenName count location (before ++ [source]))
    (hold : written.get? (advance writtenDirectory writtenName) = some (.file old oldReadable))
    {segments : List String}
    {others : Nat}
    (hleads : Leads later false nameDirectory lastName others location segments) :
    Leads (later.erase (directory ++ [name])) false nameDirectory lastName others location
      segments := by
  have hentry : later.get? (directory ++ [name]) ≠ some .directory := by
    rw [h.get?_later]
    exact fun heq => h.entry_ne (Option.some.inj heq)
  rcases hleads.erase_or hentry with herase | ⟨target, rest, _, hlink, hrest, -, hbehind⟩
  · exact herase
  · rw [h.get?_later] at hlink
    cases hlink
    obtain ⟨sourceDirectory, sourceName, _, hstands, hcases⟩ := hwritten.unfollowed
    obtain ⟨rfl, rfl, -⟩ := hown.eq hstands
    rw [advance_of_isName hsource] at hcases
    have hsourceLink := h.get?_source
    rcases hcases with ⟨-, -, -, hlast⟩ | ⟨target', _, hlink', -, -, htarget⟩
    · exact absurd hsourceLink (hlast target)
    · rw [hsourceLink] at hlink'
      cases hlink'
      rw [List.dropLast_concat] at htarget hbehind
      have hwrittenBehind := (hbehind.own_of_keepsWays h.keepsWays_later).own_of_keepsWays
        (keepsWays_erase _ _)
      have hdirectory := (htarget.of_append (hrest.resolve_right nofun) hwrittenBehind).1
      rw [hold] at hdirectory
      cases hdirectory

/-- **What the path leads to later**, the temporary path leads to apart from its target. -/
theorem Moves.exists_leads_written
    {writtenDirectory : Location} {writtenName : String} {writtenLinks count : Nat}
    {old : List UInt8} {oldReadable : Bool}
    (h : Moves written later directory source name entry)
    (hsource : isName source = true)
    (hname : isName name = true)
    (hown : Leads written false directory source links location (before ++ [source]))
    (hwritten : Leads written true writtenDirectory writtenName writtenLinks location
      (before ++ [source]))
    (hold : written.get? (advance writtenDirectory writtenName) = some (.file old oldReadable))
    (hleads : Leads later true fileDirectory fileName count location (before ++ [name]))
    (hfile : later.get? (advance fileDirectory fileName) = some (.file content readable)) :
    ∃ sourceDirectory sourceName,
      Leads (written.erase (directory ++ [name])) true sourceDirectory sourceName count location
        (before ++ [source]) ∧
      (written.erase (directory ++ [name])).get? (advance sourceDirectory sourceName) =
        some (.file content readable) := by
  have hplaceSource : (written.erase (directory ++ [name])).get? (directory ++ [source]) =
      some entry := by
    rw [get?_erase_of_ne _ h.place_ne, h.get?_source]
  obtain ⟨nameDirectory, lastName, others, hstands, hcases⟩ := hleads.unfollowed
  have herase := (h.leads_erase_later hsource hown hwritten hold hstands).own_of_keepsWays
    h.keepsWays_later
  have hsourceErase := herase.withLast hown.size_le
  rw [List.dropLast_concat] at hsourceErase
  obtain ⟨rfl, -, rfl⟩ := hown.eq (hsourceErase.own_of_keepsWays (keepsWays_erase _ _))
  have hlastName : lastName = name := by
    have hlast := hstands.getLast?_eq
    rw [List.getLast?_concat] at hlast
    exact (Option.some.inj hlast).symm
  subst hlastName
  rw [advance_of_isName hname, h.get?_later] at hcases
  rcases hcases with ⟨rfl, rfl, rfl, -⟩ | ⟨target, others, hlink, htarget, rfl, hrest⟩
  · rw [advance_of_isName hname, h.get?_later] at hfile
    refine ⟨fileDirectory, source, hsourceErase.follow ?_, ?_⟩
    · rw [advance_of_isName hsource, hplaceSource, hfile]
      exact fun _ => nofun
    · rw [advance_of_isName hsource, hplaceSource, hfile]
  · cases hlink
    have hwrittenFile := h.get?_written_file hfile
    have hrestErase := (Leads.erase_own_link h.get?_later hrest hfile).file_of_keepsWays
      h.keepsWays_later hwrittenFile
    rw [List.dropLast_concat] at hrestErase
    refine ⟨fileDirectory, fileName, hsourceErase.followLink ?_ htarget ?_, hwrittenFile⟩
    · rw [advance_of_isName hsource, hplaceSource]
    · rw [advance_of_isName hsource, List.dropLast_concat]
      exact hrestErase

end Moves

section Replacement

/-- The tree without what stands at the path itself, be it a link. -/
def without (tree : Tree) (path : Path) : Tree :=
  match tree.lookUp false path with
  | .ok (directory, name) => tree.erase (directory ++ [name])
  | .error _ => tree

/-- A file that is found while a path has nothing is also found else. -/
theorem LeadsTo.of_without
    {content : List UInt8} {readable : Bool}
    (h : LeadsTo (tree.without path) temporary (.file content readable)) :
    LeadsTo tree temporary (.file content readable) := by
  unfold without at h
  split at h
  · next directory name _ =>
    obtain ⟨fileDirectory, fileName, hstands, hfile⟩ := h
    have hfile' := get?_of_get?_erase hfile
    refine ⟨fileDirectory, fileName, ?_, hfile'⟩
    exact hstands.of_keepsWays (keepsWays_erase tree _)
      fun _ _ hlink => nomatch hfile'.symm.trans hlink
  · exact h

/-- The tree when the temporary file is written and not yet renamed. -/
def beforeRename (tree : Tree) (temporary path : Path) (text : String) : Tree :=
  ((tree.makeDirectoryOf path).tree.writeText temporary text).tree

/-- The temporary file is read, once it is written, while the path has nothing: no link leads to it
by way of what it is to replace, and it may be read. -/
def ReadsApart (tree : Tree) (temporary path : Path) (text : String) : Prop :=
  ((tree.beforeRename temporary path text).without path).readText temporary = .ok text

/-- **A file that is renamed next to where it stands** gets another name in its directory. -/
theorem exists_moves
    (hrename : written.rename temporary path = .ok later)
    (hnext : IsNextTo temporary path) :
    ∃ base source directory name entry links,
      Siblings temporary path base source name ∧ isName name = true ∧
      (Path.segments path).getLast? = some name ∧
      Moves written later directory source name entry ∧
      StandsIn written false path directory name ∧
      Leads written false directory source links (written.base path)
        (Path.steps base ++ [source]) := by
  obtain ⟨sourceDirectory, sourceName, directory, name, entry, hsource, hget, hentry, htarget,
    hname, hfree, hlater⟩ := exists_of_rename_eq_ok hrename
  obtain ⟨hfault, links, hlinks, hleads⟩ := htarget
  obtain ⟨-, sourceLinks, -, hsourceLeads⟩ := hsource
  have hlast := hleads.getLast?_eq
  have hfileName : Path.fileName? path = some name := by
    have hlastSegment : Path.lastSegment path = name := by
      rw [Path.lastSegment, hlast, Option.getD_some]
    have hdots : name ≠ ".." := by
      rintro rfl
      cases hname
    rw [← hlastSegment] at hname hdots ⊢
    exact Path.fileName?_of_lastSegment (isIdle_of_isName hname) hdots
  obtain ⟨base, source, hsibling⟩ := hnext name hfileName
  have hsourceLast := hsourceLeads.getLast?_eq
  rw [hsibling.getLast?_eq] at hsourceLast
  cases hsourceLast
  rw [leads_segments_iff hsibling.getLast?_eq hsibling.isName, hsibling.continues.steps_eq,
    hsibling.base_eq] at hsourceLeads
  have hpathLeads := (leads_segments_iff hlast hname).mp hleads
  rw [hsibling.pathContinues.steps_eq] at hpathLeads
  -- both names are looked up in one directory
  have hboth := hsourceLeads.withLast hpathLeads.size_le
  rw [List.dropLast_concat] at hboth
  obtain ⟨rfl, -, -⟩ := hpathLeads.eq hboth
  exact ⟨base, sourceName, sourceDirectory, name, entry, sourceLinks, hsibling, hname, hlast,
    ⟨hsibling.source_ne, hget, hentry, hfree, hlater⟩, ⟨hfault, links, hlinks, hleads⟩,
    hsourceLeads⟩

/-- **The path leads to a file later** exactly if the temporary path leads to it while the path has
nothing. -/
theorem leadsTo_file_iff
    {fileDirectory : Location} {fileName : String} {old content : List UInt8}
    {oldReadable readable : Bool}
    (hwritten : StandsIn written true temporary fileDirectory fileName)
    (hold : written.get? (advance fileDirectory fileName) = some (.file old oldReadable))
    (hrename : written.rename temporary path = .ok later)
    (hnext : IsNextTo temporary path) :
    LeadsTo later path (.file content readable) ↔
      LeadsTo (written.without path) temporary (.file content readable) := by
  obtain ⟨base, source, directory, name, entry, links, hsibling, hname, hlast, hmoves, hstands,
    hown⟩ := exists_moves hrename hnext
  have hlaterBase : later.base path = written.base path := by
    rw [hmoves.later_eq]
    rfl
  have hwithout : written.without path = written.erase (directory ++ [name]) := by
    rw [without, lookUp_eq_ok_iff.mpr hstands]
  have herasedBase : (written.erase (directory ++ [name])).base temporary = written.base path :=
    hsibling.base_eq written
  have hsteps (tree : Tree) (directory : Location) (lastName : String) :
      StandsIn tree true temporary directory lastName ↔ _ :=
    standsIn_iff_steps hsibling.getLast?_eq hsibling.isName
  have hpathSteps (directory : Location) (lastName : String) :
      StandsIn later true path directory lastName ↔ _ :=
    standsIn_iff_steps hlast hname
  rw [hwithout]
  constructor
  · rintro ⟨laterDirectory, laterName, hlater, hfile⟩
    obtain ⟨-, count, hcount, hleads⟩ := (hpathSteps _ _).mp hlater
    obtain ⟨hfault, _, -, hwrittenLeads⟩ := (hsteps _ _ _).mp hwritten
    rw [hlaterBase, hsibling.pathContinues.steps_eq] at hleads
    rw [hsibling.base_eq, hsibling.continues.steps_eq] at hwrittenLeads
    obtain ⟨sourceDirectory, sourceName, hsource, hsourceFile⟩ :=
      hmoves.exists_leads_written hsibling.isName hname hown hwrittenLeads hold hleads hfile
    refine ⟨sourceDirectory, sourceName, (hsteps _ _ _).mpr ⟨hfault, count, hcount, ?_⟩,
      hsourceFile⟩
    rw [herasedBase, hsibling.continues.steps_eq]
    exact hsource
  · rintro ⟨sourceDirectory, sourceName, hsource, hfile⟩
    obtain ⟨-, count, hcount, hleads⟩ := (hsteps _ _ _).mp hsource
    rw [herasedBase, hsibling.continues.steps_eq] at hleads
    obtain ⟨hfault, _, _, hnameLeads⟩ := hstands
    obtain ⟨laterDirectory, laterName, hlater, hlaterFile⟩ :=
      hmoves.exists_leads_later hsibling.isName hname hnameLeads.size_le hown hleads hfile
    refine ⟨laterDirectory, laterName,
      (hpathSteps _ _).mpr ⟨hfault, count, hcount, ?_⟩, hlaterFile⟩
    rw [hlaterBase, hsibling.pathContinues.steps_eq]
    exact hlater

/-- A text that is written is where its path leads. -/
theorem exists_standsIn_writeText
    (h : (tree.writeText path text).error = none) :
    ∃ directory name readable, StandsIn (tree.writeText path text).tree true path directory name ∧
      (tree.writeText path text).tree.get? (advance directory name) =
        some (.file (Text.encode text.toList) readable) := by
  rcases writeText_cases tree path text with
    ⟨hfails, -⟩ | ⟨directory, name, content, hstands, hname, hfree, htree, hcontent⟩
  · exact absurd h hfails
  · rw [hcontent h] at htree
    have hfile : (tree.writeText path text).tree.get? (advance directory name) =
        some (.file (Text.encode text.toList) (tree.readableAt (directory ++ [name]))) := by
      rw [htree, advance_of_isName hname, get?_put_self _ _ (by simp)]
    refine ⟨directory, name, _, ?_, hfile⟩
    refine hstands.of_keepsWays ?_ fun _ target hlink => nomatch hfile.symm.trans hlink
    rw [htree]
    exact KeepsWays.put_file hfree _ _

section

variable (hnext : IsNextTo temporary path)
include hnext

/-- A replaced file is read as its temporary file is read while the path has nothing. -/
theorem readText_replaceFile_iff
    {other : String}
    (h : (tree.replaceFile temporary path text).error = none) :
    (tree.replaceFile temporary path text).tree.readText path = .ok other ↔
      ((tree.beforeRename temporary path text).without path).readText temporary = .ok other := by
  rcases replaceFile_cases tree temporary path text with
    ⟨hfails, -⟩ | ⟨hfails, -⟩ | ⟨hwrite, later, hrename, hreplaced⟩
  · exact absurd h hfails
  · exact absurd h hfails
  · obtain ⟨directory, name, readable, hstands, hfile⟩ := exists_standsIn_writeText hwrite
    rw [hreplaced, readText_eq_ok_iff_leadsTo, readText_eq_ok_iff_leadsTo]
    simp only [beforeRename, leadsTo_file_iff hstands hfile hrename hnext]

/-- **Nothing else is read** at the path of a replaced file. -/
theorem eq_of_readText_replaceFile
    {other : String}
    (h : (tree.replaceFile temporary path text).error = none)
    (hread : (tree.replaceFile temporary path text).tree.readText path = .ok other) :
    other = text := by
  rw [readText_replaceFile_iff hnext h] at hread
  rcases replaceFile_cases tree temporary path text with
    ⟨hfails, -⟩ | ⟨hfails, -⟩ | ⟨hwrite, later, hrename, hreplaced⟩
  · exact absurd h hfails
  · exact absurd h hfails
  · obtain ⟨directory, name, readable, hstands, hfile⟩ := exists_standsIn_writeText hwrite
    obtain ⟨content, hdecode, hleads⟩ := readText_eq_ok_iff_leadsTo.mp hread
    obtain ⟨otherDirectory, otherName, hother, hotherFile⟩ := hleads.of_without
    obtain ⟨rfl, rfl⟩ := hstands.eq hother
    have hsame := hfile.symm.trans hotherFile
    cases hsame
    rw [Text.decode?_encode] at hdecode
    exact (String.toList_inj.mp (Option.some.inj hdecode)).symm

/-- **A replaced file is read back** exactly if its temporary file is read apart; else it is not
read at all. -/
theorem readText_replaceFile_cases
    (h : (tree.replaceFile temporary path text).error = none) :
    (tree.ReadsApart temporary path text ∧
      (tree.replaceFile temporary path text).tree.readText path = .ok text) ∨
    ¬tree.ReadsApart temporary path text ∧
      ∃ error, (tree.replaceFile temporary path text).tree.readText path = .error error := by
  have hiff : (tree.replaceFile temporary path text).tree.readText path = .ok text ↔ _ :=
    readText_replaceFile_iff hnext h
  cases hread : (tree.replaceFile temporary path text).tree.readText path with
  | ok other =>
      have hother := eq_of_readText_replaceFile hnext h hread
      subst hother
      exact Or.inl ⟨hiff.mp hread, rfl⟩
  | error error =>
      refine Or.inr ⟨?_, error, rfl⟩
      intro hreads
      rw [hiff.mpr hreads] at hread
      cases hread

end

end Replacement

end Tree
end Disk
end EpaperLayout
