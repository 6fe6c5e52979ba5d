import EpaperLayout.Proofs.Disk.WholeReplacement
import EpaperLayout.Proofs.Settings.WrittenSettings

/-!
# Saved settings are loaded again

Settings are checked before they are written and after they are read.  If their file is
read back, all depends on the second check.  It asks the disk whether the directory
for layouts is anything but a directory, and saving the settings changes the disk.

**Limit.**  A directory for layouts that leads nowhere passes the first check.  After the
settings were saved it may lead somewhere: to the file with the settings itself, or,
through a directory that was made for that file, to a file that was there before.  Then
the settings are saved but not loaded.

**Results.**
* `leads_or_exists_made`, `exists_change_of_locate`: why a path leads somewhere only in
  the later tree.
* `checkSettings_eq_ok_iff`: when settings pass their check.
* `loadSettings_saveSettings`: saved settings are checked a second time.
* `loadSettings_saveSettings_iff`: exactly when saved settings are loaded again.
-/

namespace EpaperLayout
namespace Disk.Tree

variable {tree later : Tree} {settings : Settings} {path : Path}

/-- The path leads to something that is no directory. -/
def LeadsElsewhere (tree : Tree) (path : Path) : Prop :=
  tree.exists? path = true ∧ tree.isDirectory path = false

section Walks

/-- A path leads somewhere exactly if something stands at its end. -/
theorem exists?_eq_true_iff :
    tree.exists? path = true ↔ ∃ location, tree.locate path = .ok location := by
  rw [exists?]
  cases tree.locate path <;> simp

/-- A directory is still found while ways are kept. -/
theorem isDirectory_of_keepsWays
    (hkeeps : KeepsWays tree later)
    (h : tree.isDirectory path = true) :
    later.isDirectory path = true := by
  rw [isDirectory] at h ⊢
  split at h
  · next location hlocate =>
    rw [decide_eq_true_eq] at h
    obtain ⟨directory, name, hstands, rfl, -⟩ := locate_eq_ok_iff.mp hlocate
    have hlater := hkeeps.get?_eq h rfl
    have hstandsLater : StandsIn later true path directory name :=
      hstands.of_keepsWays hkeeps fun _ _ hlink => nomatch hlater.symm.trans hlink
    have hlocateLater : later.locate path = .ok (advance directory name) :=
      locate_eq_ok_iff.mpr ⟨directory, name, hstandsLater, rfl, by rw [hlater]; rfl⟩
    rw [hlocateLater]
    simpa using hlater
  · cases h

theorem start_mem_placesFrom (location : Location) (segments : List String) :
    location ∈ placesFrom location segments := by
  cases segments <;> exact List.mem_cons_self

/-- What stands at the places of the later tree stood there before, except for one file and for
directories that were made. -/
structure OnlyAdds (tree later : Tree) (file : Location) : Prop where
  workingDirectory_eq : later.workingDirectory = tree.workingDirectory
  refuses_eq : later.refuses = tree.refuses
  get?_cases : ∀ location, later.get? location = none ∨ later.get? location = tree.get? location ∨
    (∃ content readable, location = file ∧ later.get? location = some (.file content readable)) ∨
    (tree.get? location = none ∧ later.get? location = some .directory)

/-- A directory of the later tree was there before, or was made. -/
theorem OnlyAdds.get?_directory
    {file location : Location}
    (hadds : OnlyAdds tree later file)
    (h : later.get? location = some .directory) :
    tree.get? location = some .directory ∨ tree.get? location = none := by
  rcases hadds.get?_cases location with hnone | hkept | ⟨_, _, -, hfile⟩ | ⟨hnone, -⟩
  · rw [hnone] at h
    cases h
  · exact Or.inl (hkept.symm.trans h)
  · rw [hfile] at h
    cases h
  · exact Or.inr hnone

/-- **A way of the later tree** was one before, or passes a directory that was made. -/
theorem leads_or_exists_made
    {file location directory : Location} {name : String} {links : Nat} {segments : List String}
    (hlinks : later.LinkFree)
    (htreeLinks : tree.LinkFree)
    (hadds : OnlyAdds tree later file)
    (h : Leads later true directory name links location segments) :
    Leads tree true directory name links location segments ∨
      ∃ passed ∈ placesFrom location segments,
        tree.get? passed = none ∧ later.get? passed = some .directory := by
  have henters {location next : Location} {segment : String}
      (henter : later.enter location segment = .ok next) :
      tree.enter location segment = .ok next ∨
        tree.get? location = none ∧ later.get? location = some .directory := by
    rw [enter_eq_ok_iff] at henter ⊢
    rw [hadds.refuses_eq] at henter
    rcases hadds.get?_directory henter.1 with hdirectory | hnone
    · exact Or.inl ⟨hdirectory, henter.2⟩
    · exact Or.inr ⟨hnone, henter.1⟩
  induction h with
  | last henter _ =>
      rcases henters henter with htree | hmade
      · exact Or.inl (.last htree fun _ => htreeLinks _)
      · exact Or.inr ⟨_, start_mem_placesFrom _ _, hmade⟩
  | @pass links location next segment other rest henter hdirectory _ ih =>
      have hplaces : placesFrom location (segment :: other :: rest) =
          location :: placesFrom next (other :: rest) := by
        rw [placesFrom, (enter_eq_ok_iff.mp henter).2.2.2]
      rw [hplaces]
      rcases henters henter with htree | hmade
      · rcases hadds.get?_directory hdirectory with hnext | hnone
        · rcases ih with hleads | ⟨passed, hpassed, hmade⟩
          · exact Or.inl (.pass htree hnext hleads)
          · exact Or.inr ⟨passed, List.mem_cons_of_mem _ hpassed, hmade⟩
        · exact Or.inr ⟨next, List.mem_cons_of_mem _ (start_mem_placesFrom _ _), hnone,
            hdirectory⟩
      · exact Or.inr ⟨location, List.mem_cons_self, hmade⟩
  | link _ hlink => exact absurd hlink (hlinks _ _)

/-- **A path that leads somewhere only in the later tree** leads to the new file or passes a
directory that was made. -/
theorem exists_change_of_locate
    {file location : Location}
    (hlinks : later.LinkFree)
    (htreeLinks : tree.LinkFree)
    (hadds : OnlyAdds tree later file)
    (hlater : later.locate path = .ok location)
    (hfails : tree.exists? path = false) :
    location = file ∨ ∃ passed ∈ tree.places path,
      tree.get? passed = none ∧ later.get? passed = some .directory := by
  have hplace : location = tree.place path := by
    rw [eq_place_of_locate_eq_ok hlinks hlater, place_congr hadds.workingDirectory_eq]
  obtain ⟨directory, name, ⟨hfault, links, hcount, hleads⟩, hlocation, hsome⟩ :=
    locate_eq_ok_iff.mp hlater
  rw [base_congr hadds.workingDirectory_eq] at hleads
  rcases leads_or_exists_made hlinks htreeLinks hadds hleads with hbefore | hmade
  · have hnone : tree.get? location = none := by
      by_contra hthere
      have hlocate : tree.locate path = .ok location :=
        locate_eq_ok_iff.mpr ⟨directory, name, ⟨hfault, links, hcount, hbefore⟩, hlocation,
          Option.isSome_iff_ne_none.mpr hthere⟩
      rw [exists?_eq_true_iff.mpr ⟨location, hlocate⟩] at hfails
      cases hfails
    rcases hadds.get?_cases location with hlost | hkept | ⟨_, _, hfile, -⟩ | hmade
    · rw [hlost] at hsome
      cases hsome
    · rw [hkept, hnone] at hsome
      cases hsome
    · exact Or.inl hfile
    · refine Or.inr ⟨location, ?_, hmade⟩
      rw [hplace]
      exact place_mem_places tree path
  · exact Or.inr hmade

/-- A file that is replaced is the only one that is added. -/
theorem ReplacesWhole.onlyAdds
    {temporary : Path} {text : String}
    (hkeeps : KeepsWays tree later)
    (h : ReplacesWhole tree later temporary path text false) :
    OnlyAdds tree later (tree.place path) := by
  obtain ⟨hfile, -, hgone⟩ := h.replaced rfl
  refine ⟨hkeeps.workingDirectory_eq, hkeeps.refuses_eq, ?_⟩
  intro location
  by_cases hpath : location = tree.place path
  · rw [hpath]
    exact Or.inr (Or.inr (Or.inl ⟨_, _, rfl, hfile⟩))
  · by_cases htemporary : location = tree.place temporary
    · rw [htemporary]
      exact Or.inl hgone
    · rcases h.others location hpath htemporary with hkept | ⟨-, hmade⟩
      · exact Or.inr (Or.inl hkept)
      · exact Or.inr (Or.inr (Or.inr hmade))

end Walks

section Settings

/-- **Settings pass their check** exactly if the log level is known, no blank identifier is set, and
the directory for layouts leads to nothing but a directory. -/
theorem checkSettings_eq_ok_iff :
    tree.checkSettings settings = .ok () ↔
      logLevels.contains settings.logLevel = true ∧
        settings.deviceId.any Text.isBlankText = false ∧
        ∀ directory, settings.layoutsDir = some directory → ¬tree.LeadsElsewhere directory := by
  rw [checkSettings]
  cases hlevel : logLevels.contains settings.logLevel with
  | false =>
      simp [throw, throwThe, MonadExceptOf.throw, bind, Except.bind]
  | true =>
      cases hblank : settings.deviceId.any Text.isBlankText with
      | true =>
          simp [throw, throwThe, MonadExceptOf.throw, bind, Except.bind]
      | false =>
          cases hlayouts : settings.layoutsDir with
          | none =>
              simp [pure, Except.pure]
          | some directory =>
              cases hexists : tree.exists? directory <;>
                cases hdirectory : tree.isDirectory directory <;>
                simp [throw, throwThe, MonadExceptOf.throw, pure, Except.pure, LeadsElsewhere,
                  hexists, hdirectory]

/-- Settings that are read back are loaded if they pass their check. -/
theorem loadSettings_of_readText
    (h : tree.readText path = .ok settings.toText) :
    tree.loadSettings path = (tree.checkSettings settings).map fun _ => settings := by
  have hexists : tree.exists? path = true := by
    obtain ⟨-, -, location, hlocate, -⟩ := readText_eq_ok_iff.mp h
    exact exists?_eq_true_iff.mpr ⟨location, hlocate⟩
  rw [loadSettings, hexists, h]
  simp only [Settings.ofText?_toText]
  cases tree.checkSettings settings <;> rfl

/-- Where nothing is read, the settings are the default ones or are not loaded. -/
theorem loadSettings_of_readText_error
    {error : AccessError}
    (h : tree.readText path = .error error) :
    tree.loadSettings path =
      if tree.exists? path = true then .error (.read path error) else .ok {} := by
  rw [loadSettings, h]
  cases tree.exists? path <;> rfl

/-- Settings that were saved have passed their check, and their file was replaced. -/
theorem replaceFile_of_saveSettings
    (h : (tree.saveSettings settings path).error = none) :
    tree.checkSettings settings = .ok () ∧
      (tree.replaceFile (temporarySettingsPath path) path settings.toText).error = none ∧
      (tree.saveSettings settings path).tree =
        (tree.replaceFile (temporarySettingsPath path) path settings.toText).tree := by
  rw [saveSettings] at h ⊢
  cases hcheck : tree.checkSettings settings with
  | error error =>
      rw [hcheck] at h
      cases h
  | ok =>
      simp only [hcheck, Option.map_eq_none_iff] at h ⊢
      exact ⟨trivial, h, trivial⟩

/-- **What leads elsewhere afterwards** led nowhere before, and is the new file or lies behind a
directory that was made. -/
theorem of_leadsElsewhere
    {file : Location}
    (hlinks : later.LinkFree)
    (htreeLinks : tree.LinkFree)
    (hkeeps : KeepsWays tree later)
    (hadds : OnlyAdds tree later file)
    (hbefore : ¬tree.LeadsElsewhere path)
    (h : later.LeadsElsewhere path) :
    tree.exists? path = false ∧
      (tree.place path = file ∨
        ∃ passed ∈ tree.places path, tree.get? passed = none ∧
          later.get? passed = some .directory) := by
  obtain ⟨hexists, hdirectory⟩ := h
  have hmissing : tree.exists? path = false := by
    by_contra hthere
    rw [Bool.not_eq_false] at hthere
    cases hwas : tree.isDirectory path with
    | true =>
        rw [isDirectory_of_keepsWays hkeeps hwas] at hdirectory
        cases hdirectory
    | false => exact hbefore ⟨hthere, hwas⟩
  refine ⟨hmissing, ?_⟩
  obtain ⟨location, hlocate⟩ := exists?_eq_true_iff.mp hexists
  have hplace := eq_place_of_locate_eq_ok hlinks hlocate
  rw [place_congr hkeeps.workingDirectory_eq] at hplace
  rw [← hplace]
  exact exists_change_of_locate hlinks htreeLinks hadds hlocate hmissing

/-- **Saved settings are read back** and checked once more, on the disk with their file, if the
temporary file is read apart. -/
theorem loadSettings_saveSettings
    (h : (tree.saveSettings settings path).error = none)
    (hreads : tree.ReadsApart (temporarySettingsPath path) path settings.toText) :
    (tree.saveSettings settings path).tree.loadSettings path =
      ((tree.saveSettings settings path).tree.checkSettings settings).map fun _ => settings := by
  obtain ⟨-, hreplaced, htree⟩ := replaceFile_of_saveSettings h
  rw [htree]
  exact loadSettings_of_readText
    ((readText_replaceFile_iff (isNextTo_temporarySettingsPath path) hreplaced).mpr hreads)

/-- **Saved settings are loaded again** exactly if the temporary file is read while the path has
nothing, and their directory for layouts leads to nothing but a directory afterwards; else only if
they are the default ones and their path leads nowhere.  Without links the file is read exactly if
the temporary file may be read; and a directory for layouts that leads elsewhere led nowhere before,
and is the place of the settings themselves or lies behind a directory that was made for them. -/
theorem loadSettings_saveSettings_iff
    (h : (tree.saveSettings settings path).error = none) :
    ((tree.saveSettings settings path).tree.loadSettings path = .ok settings ↔
      (tree.ReadsApart (temporarySettingsPath path) path settings.toText ∧
        ∀ directory, settings.layoutsDir = some directory →
          ¬(tree.saveSettings settings path).tree.LeadsElsewhere directory) ∨
      (tree.saveSettings settings path).tree.exists? path = false ∧ settings = {}) ∧
    (tree.LinkFree →
      (tree.ReadsApart (temporarySettingsPath path) path settings.toText ↔
        tree.readableAt (tree.place (temporarySettingsPath path)) = true) ∧
      ∀ directory, settings.layoutsDir = some directory →
        (tree.saveSettings settings path).tree.LeadsElsewhere directory →
        tree.exists? directory = false ∧
          (tree.place directory = tree.place path ∨
            ∃ passed ∈ tree.places directory, tree.get? passed = none ∧
              (tree.saveSettings settings path).tree.get? passed = some .directory)) := by
  obtain ⟨hcheck, hreplaced, htree⟩ := replaceFile_of_saveSettings h
  obtain ⟨hlevel, hblank, hlayouts⟩ := checkSettings_eq_ok_iff.mp hcheck
  have hnext := isNextTo_temporarySettingsPath path
  constructor
  · rcases readText_replaceFile_cases hnext hreplaced with
      ⟨hreads, hread⟩ | ⟨hreads, error, hread⟩
    · rw [loadSettings_saveSettings h hreads, map_eq_ok_iff]
      constructor
      · rintro ⟨⟨⟩, hchecked, -⟩
        exact Or.inl ⟨hreads, (checkSettings_eq_ok_iff.mp hchecked).2.2⟩
      · rintro (⟨-, hdirectory⟩ | ⟨-, rfl⟩)
        · exact ⟨(), checkSettings_eq_ok_iff.mpr ⟨hlevel, hblank, hdirectory⟩, rfl⟩
        · exact ⟨(), checkSettings_eq_ok_iff.mpr ⟨hlevel, hblank, nofun⟩, rfl⟩
    · rw [htree, loadSettings_of_readText_error hread]
      split
      · next hexists => simp [hreads, hexists]
      · next hexists => simp [hreads, hexists, eq_comm]
  · intro hlinks
    refine ⟨readsApart_iff hlinks hnext (place_temporarySettingsPath_ne · tree) hreplaced, ?_⟩
    intro directory hdirectory helsewhere
    have hreplaces : ReplacesWhole tree _ (temporarySettingsPath path) path _ _ :=
      replacesWhole_replaceFile hlinks (place_temporarySettingsPath_ne · tree) settings.toText
    have hkeeps := keepsWays_replaceFile hlinks (temporarySettingsPath path) path settings.toText
    rw [hreplaced] at hreplaces
    rw [htree] at helsewhere ⊢
    exact of_leadsElsewhere (hlinks.replaceFile _ _ _) hlinks hkeeps (hreplaces.onlyAdds hkeeps)
      (hlayouts directory hdirectory) helsewhere

/-- Settings that name a directory which is not made yet are loaded again. -/
theorem loadSettings_saveSettings_newDirectory :
    (({} : Tree).saveSettings { layoutsDir := some "layouts" } "conf/config.toml").error = none ∧
      (({} : Tree).saveSettings { layoutsDir := some "layouts" }
        "conf/config.toml").tree.loadSettings "conf/config.toml" =
          .ok { layoutsDir := some "layouts" } := by
  have hsaved :
      (({} : Tree).saveSettings { layoutsDir := some "layouts" } "conf/config.toml").error =
        none := by
    decide +kernel
  have hlinks : ({} : Tree).LinkFree := linkFree_of_forall_mem (by simp)
  refine ⟨hsaved, (loadSettings_saveSettings_iff hsaved).1.mpr (Or.inl ⟨?_, ?_⟩)⟩
  · exact ((loadSettings_saveSettings_iff hsaved).2 hlinks).1.mpr (by decide +kernel)
  · rintro directory ⟨⟩ ⟨hexists, -⟩
    have hmissing :
        (({} : Tree).saveSettings { layoutsDir := some "layouts" }
          "conf/config.toml").tree.exists? "layouts" = false := by
      decide +kernel
    rw [hmissing] at hexists
    cases hexists

/-- Settings whose directory for layouts is the file with the settings are saved but not loaded. -/
theorem loadSettings_saveSettings_ownFile :
    (({} : Tree).saveSettings { layoutsDir := some "config.toml" } "config.toml").error = none ∧
      (({} : Tree).saveSettings { layoutsDir := some "config.toml" }
        "config.toml").tree.loadSettings "config.toml" =
          .error (.notDirectory "config.toml") := by
  have hsaved :
      (({} : Tree).saveSettings { layoutsDir := some "config.toml" } "config.toml").error =
        none := by
    decide +kernel
  have hcheck :
      (({} : Tree).saveSettings { layoutsDir := some "config.toml" }
        "config.toml").tree.checkSettings { layoutsDir := some "config.toml" } =
          .error (.notDirectory "config.toml") := by
    decide +kernel
  have hreads : ({} : Tree).ReadsApart (temporarySettingsPath "config.toml") "config.toml"
      (Settings.toText { layoutsDir := some "config.toml" }) := by
    obtain ⟨-, hreplaced, -⟩ := replaceFile_of_saveSettings hsaved
    exact (readsApart_iff (linkFree_of_forall_mem (by simp)) (isNextTo_temporarySettingsPath _)
      (place_temporarySettingsPath_ne · {}) hreplaced).mpr (by decide +kernel)
  refine ⟨hsaved, ?_⟩
  rw [loadSettings_saveSettings hsaved hreads, hcheck]
  rfl

end Settings

end Disk.Tree
end EpaperLayout
