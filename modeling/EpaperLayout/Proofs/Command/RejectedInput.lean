import EpaperLayout.Command.Program
import EpaperLayout.Proofs.Disk.ReplacedFile
import EpaperLayout.Proofs.Snippet.Tolerance

/-!
# Rejected input leaves no trace

The exit code tells whether the input was rejected or the command broke off.  Every
command rejects input before it writes anything, so a rejected run leaves the disk as it
is: no file and no directory is made, whatever the arguments ask for.

**Reading snippets.**  The only error of a snippet that counts as a failure of the program
itself is a layout that breaks a rule.  With an identifier that is not blank no text leads
to it, so once the snippet is read as a text the command breaks off for one reason only: the
layout cannot be written.

**Results.**
* `tree_run_of_exitCode_eq_one`: a rejected run of the program leaves the disk as it is.
* `isInputError_of_importSnippet`: a text that is refused is itself at fault.
* `run_leavesNoTrace_importLayout_classified`: what is rejected and what breaks off.
-/

namespace EpaperLayout
namespace Command

open Snippet

section Traces

/-- If the outcome is a rejection the disk is as it was. -/
def LeavesNoTrace (tree : Disk.Tree) (outcome : Outcome) : Prop :=
  outcome.exitCode = 1 → outcome.tree = tree

theorem leavesNoTrace_of_tree_eq
    {tree : Disk.Tree} {outcome : Outcome}
    (h : outcome.tree = tree) :
    LeavesNoTrace tree outcome :=
  fun _ => h

/-- What does not end in a rejection may change the disk. -/
theorem leavesNoTrace_of_exitCode_ne_one
    {tree : Disk.Tree} {outcome : Outcome}
    (h : outcome.exitCode ≠ 1) :
    LeavesNoTrace tree outcome :=
  fun hcode => absurd hcode h

end Traces

section Commands

variable (settings : Settings) (tree : Disk.Tree)

theorem leavesNoTrace_generate (args : GenerateArgs) :
    LeavesNoTrace tree (generate settings args tree) := by
  delta generate
  split
  · exact leavesNoTrace_of_tree_eq rfl
  · split
    · exact leavesNoTrace_of_tree_eq rfl
    · split
      · exact leavesNoTrace_of_tree_eq rfl
      · dsimp only
        -- the snippet is written, and only its file can be in the way
        split <;> refine leavesNoTrace_of_exitCode_ne_one ?_ <;>
          simp [Outcome.exitCode, Outcome.failed, FailureKind.exitCode]

/-- Writing a layout that was read is never a rejection. -/
theorem exitCode_writeImported_ne_one (args : ImportArgs) (imported : Imported) (notes : String) :
    (writeImported args imported notes tree).exitCode ≠ 1 := by
  delta writeImported
  split
  · simp [Outcome.exitCode]
  · dsimp only
    split <;> simp [Outcome.exitCode, Outcome.failed, FailureKind.exitCode]

theorem leavesNoTrace_importLayout (args : ImportArgs) :
    LeavesNoTrace tree (importLayout settings args tree) := by
  delta importLayout
  split
  · exact leavesNoTrace_of_tree_eq rfl
  · split
    · exact leavesNoTrace_of_tree_eq rfl
    · split
      · exact leavesNoTrace_of_tree_eq rfl
      · dsimp only
        split
        · exact leavesNoTrace_of_tree_eq rfl
        · exact leavesNoTrace_of_exitCode_ne_one (exitCode_writeImported_ne_one tree args _ _)

theorem leavesNoTrace_validate (args : ValidateArgs) :
    LeavesNoTrace tree (validate settings args tree) := by
  delta validate
  split <;> exact leavesNoTrace_of_tree_eq rfl

theorem leavesNoTrace_run (request : Request) :
    LeavesNoTrace tree (request.run settings tree) := by
  cases request with
  | generate args => exact leavesNoTrace_generate settings tree args
  | importLayout args => exact leavesNoTrace_importLayout settings tree args
  | validate args => exact leavesNoTrace_validate settings tree args

/-- **A rejected run of the program** leaves the disk as it is. -/
theorem tree_run_of_exitCode_eq_one
    {environment : Environment} {arguments : List String}
    (h : (run environment arguments tree).exitCode = 1) :
    (run environment arguments tree).tree = tree := by
  rw [run] at h ⊢
  split at h
  · exact leavesNoTrace_run _ tree _ h
  · next stop _ =>
    cases stop <;> rfl

end Commands

section Imports

variable {settings : Settings} {args : ImportArgs} {tree : Disk.Tree} {deviceId text : String}

/-- An identifier is given, by the argument or else by the settings, and the snippet is read as a
text. -/
structure ReadsText (settings : Settings) (args : ImportArgs) (tree : Disk.Tree)
    (deviceId text : String) : Prop where
  deviceId_eq : args.deviceId.or settings.deviceId = some deviceId
  notBlank : Text.isBlankText deviceId = false
  text_eq : tree.readText args.snippet = .ok text

/-- **A text that is refused is itself at fault**, unless the identifier is blank. -/
theorem isInputError_of_importSnippet
    {error : SnippetError}
    (hid : Text.isBlankText deviceId = false)
    (h : importSnippet text deviceId = .error error) :
    error.isInputError = true := by
  cases error with
  | invalidLayout report =>
      obtain ⟨document⟩ : Nonempty (UsableDocument text) := by
        refine nonempty_usableDocument deviceId ?_
        rw [h]
        exact True.intro
      rw [document.importSnippet_eq_ok hid] at h
      cases h
  | _ => rfl

theorem ReadsText.importDeviceId?_eq
    (h : ReadsText settings args tree deviceId text) :
    importDeviceId? settings args = some deviceId := by
  simp [importDeviceId?, h.deviceId_eq, h.notBlank]

/-- A refused text ends the command. -/
theorem ReadsText.importLayout_of_error
    {error : SnippetError}
    (h : ReadsText settings args tree deviceId text)
    (hrefused : importSnippet text deviceId = .error error) :
    importLayout settings args tree = { tree, failure := some (snippetFailure error) } := by
  delta importLayout
  rw [h.importDeviceId?_eq]
  dsimp only
  rw [h.text_eq]
  dsimp only
  rw [hrefused]

/-- The notes name every warning, in a line of its own and in their order. -/
theorem warningNotes_append (before after : List Warning) (warning : Warning) :
    warningNotes (before ++ warning :: after) =
      warningNotes before ++ ("⚠ " ++ warning.text ++ "\n") ++ warningNotes after := by
  rw [warningNotes, List.map_append, List.map_cons, String.join_append, String.join_cons,
    String.append_assoc]
  rfl

/-- What is noted of a layout that was read. -/
def notesOn (args : ImportArgs) (imported : Imported) : String :=
  if args.json then "" else warningNotes imported.warnings

/-- A layout that was read is written, unless strict mode stops its warnings. -/
theorem ReadsText.importLayout_of_ok
    {imported : Imported}
    (h : ReadsText settings args tree deviceId text)
    (hread : importSnippet text deviceId = .ok imported) :
    importLayout settings args tree =
      if isStrict settings args && imported.warnings.length ≠ 0 then
        { Outcome.failed tree .rejected
            s!"{imported.warnings.length} import warnings found in strict mode" with
          notes := notesOn args imported }
      else writeImported args imported (notesOn args imported) tree := by
  delta importLayout
  rw [h.importDeviceId?_eq]
  dsimp only
  rw [h.text_eq]
  dsimp only
  rw [hread]
  rfl

theorem ReadsText.importLayout_of_strict
    {imported : Imported}
    (h : ReadsText settings args tree deviceId text)
    (hread : importSnippet text deviceId = .ok imported)
    (hstrict : isStrict settings args = true)
    (hwarnings : imported.warnings ≠ []) :
    (importLayout settings args tree).exitCode = 1 ∧
      (importLayout settings args tree).notes = notesOn args imported := by
  rw [h.importLayout_of_ok hread, if_pos (by simp [hstrict, hwarnings])]
  exact ⟨rfl, rfl⟩

theorem ReadsText.importLayout_of_lenient
    {imported : Imported}
    (h : ReadsText settings args tree deviceId text)
    (hread : importSnippet text deviceId = .ok imported)
    (hlenient : isStrict settings args = true → imported.warnings = []) :
    importLayout settings args tree = writeImported args imported (notesOn args imported) tree := by
  rw [h.importLayout_of_ok hread, if_neg (by simpa using hlenient)]

/-- Writing a layout breaks off exactly if its file cannot be replaced. -/
theorem exitCode_writeImported_eq_two_iff
    (args : ImportArgs) (imported : Imported) (notes : String) (tree : Disk.Tree) :
    (writeImported args imported notes tree).exitCode = 2 ↔
      ∃ target, args.out = some target ∧
        (tree.saveDevice imported.device
          (tree.outputPath target imported.device)).error ≠ none := by
  delta writeImported
  cases hout : args.out with
  | none =>
      simp [Outcome.exitCode]
  | some target =>
      dsimp only
      split
      · next error herror =>
        simp [Outcome.exitCode, Outcome.failed, FailureKind.exitCode, herror]
      · next herror =>
        simp [Outcome.exitCode, herror]

/-- Writing a layout reports what it was read with: among the notes, or with the layout. -/
theorem writeImported_reports
    (args : ImportArgs) (imported : Imported) (notes : String) (tree : Disk.Tree) :
    (writeImported args imported notes tree).notes = notes ∧
      (args.json = true → (writeImported args imported notes tree).exitCode = 0 →
        (writeImported args imported notes tree).output = line (importedJson imported).pretty) := by
  delta writeImported
  cases hout : args.out with
  | none =>
      refine ⟨rfl, fun hjson _ => ?_⟩
      simp only [hjson, if_true]
  | some target =>
      dsimp only
      split
      · refine ⟨rfl, fun _ hcode => ?_⟩
        cases hcode
      · refine ⟨rfl, fun hjson _ => ?_⟩
        simp only [hjson, if_true]

/-- What comes of a snippet that was read as a text. -/
structure ClassifiesImport (settings : Settings) (args : ImportArgs) (tree : Disk.Tree)
    (deviceId text : String) : Prop where
  /-- A text that is refused is itself at fault, and the failure says so. -/
  refused : ∀ error, importSnippet text deviceId = .error error →
    error.isInputError = true ∧
      (importLayout settings args tree).failure = some (snippetFailure error)
  /-- Rejected are refused texts and, in strict mode, texts with warnings. -/
  rejected : (importLayout settings args tree).exitCode = 1 ↔
    (∃ error, importSnippet text deviceId = .error error) ∨
      isStrict settings args = true ∧
        ∃ imported, importSnippet text deviceId = .ok imported ∧ imported.warnings ≠ []
  /-- The command breaks off only if the layout cannot be written where it was to be. -/
  brokenOff : (importLayout settings args tree).exitCode = 2 ↔
    ∃ imported target, importSnippet text deviceId = .ok imported ∧
      (isStrict settings args = true → imported.warnings = []) ∧
      args.out = some target ∧
      (tree.saveDevice imported.device (tree.outputPath target imported.device)).error ≠ none
  /-- Each warning about another text is noted, behind the earlier and before the later ones. -/
  noted : ∀ imported, importSnippet text deviceId = .ok imported → args.json = false →
    ∀ before warning after, imported.warnings = before ++ warning :: after →
      (importLayout settings args tree).notes =
        warningNotes before ++ ("⚠ " ++ warning.text ++ "\n") ++ warningNotes after
  /-- Programs get them with the layout. -/
  listed : ∀ imported, importSnippet text deviceId = .ok imported → args.json = true →
    (importLayout settings args tree).exitCode = 0 →
      (importLayout settings args tree).output = line (importedJson imported).pretty

/-- A refused text is rejected. -/
theorem ReadsText.classifiesImport_of_error
    {error : SnippetError}
    (h : ReadsText settings args tree deviceId text)
    (hrefused : importSnippet text deviceId = .error error) :
    ClassifiesImport settings args tree deviceId text := by
  have hrun := h.importLayout_of_error hrefused
  have hinput := isInputError_of_importSnippet h.notBlank hrefused
  have hcode : (importLayout settings args tree).exitCode = 1 := by
    rw [hrun]
    simp [Outcome.exitCode, snippetFailure, hinput, FailureKind.exitCode]
  refine ⟨?_, ?_, ?_, ?_, ?_⟩ <;> rw [hrefused]
  · rintro _ ⟨⟩
    exact ⟨hinput, by rw [hrun]⟩
  · exact ⟨fun _ => Or.inl ⟨error, rfl⟩, fun _ => hcode⟩
  · rw [hcode]
    simp
  · rintro _ ⟨⟩
  · rintro _ ⟨⟩

/-- A text with warnings is rejected in strict mode. -/
theorem ReadsText.classifiesImport_of_strict
    {imported : Imported}
    (h : ReadsText settings args tree deviceId text)
    (hread : importSnippet text deviceId = .ok imported)
    (hstrict : isStrict settings args = true)
    (hwarnings : imported.warnings ≠ []) :
    ClassifiesImport settings args tree deviceId text := by
  obtain ⟨hcode, hnotes⟩ := h.importLayout_of_strict hread hstrict hwarnings
  refine ⟨?_, ?_, ?_, ?_, ?_⟩ <;> rw [hread]
  · rintro _ ⟨⟩
  · exact ⟨fun _ => Or.inr ⟨hstrict, imported, rfl, hwarnings⟩, fun _ => hcode⟩
  · rw [hcode]
    refine ⟨fun htwo => absurd htwo (by decide), ?_⟩
    rintro ⟨_, _, ⟨⟩, hlenient, -⟩
    exact absurd (hlenient hstrict) hwarnings
  · rintro _ ⟨⟩ hjson before warning after hwarnings
    rw [hnotes, notesOn, hjson, hwarnings]
    exact warningNotes_append before after warning
  · rintro _ ⟨⟩ - hzero
    rw [hcode] at hzero
    exact absurd hzero (by decide)

/-- All other texts are not rejected, and only writing can fail. -/
theorem ReadsText.classifiesImport_of_lenient
    {imported : Imported}
    (h : ReadsText settings args tree deviceId text)
    (hread : importSnippet text deviceId = .ok imported)
    (hlenient : isStrict settings args = true → imported.warnings = []) :
    ClassifiesImport settings args tree deviceId text := by
  have hrun := h.importLayout_of_lenient hread hlenient
  obtain ⟨hnotes, houtput⟩ := writeImported_reports args imported (notesOn args imported) tree
  have hone := exitCode_writeImported_ne_one tree args imported (notesOn args imported)
  have htwo := exitCode_writeImported_eq_two_iff args imported (notesOn args imported) tree
  rw [← hrun] at hnotes houtput hone htwo
  refine ⟨?_, ?_, ?_, ?_, ?_⟩ <;> rw [hread]
  · rintro _ ⟨⟩
  · refine ⟨fun hcode => absurd hcode hone, ?_⟩
    rintro (⟨_, ⟨⟩⟩ | ⟨hstrict, _, ⟨⟩, hwarnings⟩)
    exact absurd (hlenient hstrict) hwarnings
  · rw [htwo]
    constructor
    · rintro ⟨target, hout, herror⟩
      exact ⟨imported, target, rfl, hlenient, hout, herror⟩
    · rintro ⟨_, target, ⟨⟩, -, hout, herror⟩
      exact ⟨target, hout, herror⟩
  · rintro _ ⟨⟩ hjson before warning after hwarnings
    rw [hnotes, notesOn, hjson, hwarnings]
    exact warningNotes_append before after warning
  · rintro _ ⟨⟩ hjson hzero
    exact houtput hjson hzero

/-- **What comes of a snippet** depends on whether it is refused and, in strict mode, on its
warnings. -/
theorem ReadsText.classifiesImport
    (h : ReadsText settings args tree deviceId text) :
    ClassifiesImport settings args tree deviceId text := by
  cases hread : importSnippet text deviceId with
  | error error =>
      exact h.classifiesImport_of_error hread
  | ok imported =>
      by_cases hstops : isStrict settings args = true ∧ imported.warnings ≠ []
      · exact h.classifiesImport_of_strict hread hstops.1 hstops.2
      · exact h.classifiesImport_of_lenient hread (by simpa using hstops)

/-- **Rejected input leaves no trace**, and only what stands in the way of writing makes the command
that reads snippets break off. -/
theorem run_leavesNoTrace_importLayout_classified (settings : Settings) (tree : Disk.Tree) :
    (∀ request : Request, LeavesNoTrace tree (request.run settings tree)) ∧
      ∀ args deviceId text, ReadsText settings args tree deviceId text →
        ClassifiesImport settings args tree deviceId text :=
  ⟨leavesNoTrace_run settings tree, fun _ _ _ => ReadsText.classifiesImport⟩

/-- A disk with a snippet that is read with warnings. -/
def clashingDisk : Disk.Tree where
  entries := [(["hall.yaml"], .file (Text.encode clashingPages.toList))]

/-- A request that reads this snippet and asks for files and directories. -/
def hallRequest : Request :=
  .importLayout { snippet := "hall.yaml", out := some "layouts/hall.json", json := true }

/-- In strict mode the snippet is rejected, and no directory is made for its layout. -/
theorem run_hallRequest :
    (hallRequest.run { strict := true, deviceId := some "panel" } clashingDisk).exitCode = 1 ∧
      (hallRequest.run { strict := true, deviceId := some "panel" } clashingDisk).tree =
        clashingDisk := by
  obtain ⟨htrace, himport⟩ :=
    run_leavesNoTrace_importLayout_classified { strict := true, deviceId := some "panel" }
      clashingDisk
  have htext : clashingDisk.readText "hall.yaml" = .ok clashingPages := by
    have hstands : Disk.Tree.StandsIn clashingDisk true "hall.yaml" [] "hall.yaml" :=
      Disk.Tree.lookUp_eq_ok_iff.mp (by decide +kernel)
    exact hstands.readText_eq (by decide) rfl
  have hclassified := himport
    { snippet := "hall.yaml", out := some "layouts/hall.json", json := true } "panel"
    clashingPages ⟨rfl, by decide, htext⟩
  have hcode := hclassified.rejected.mpr
    (Or.inr ⟨rfl, _, importSnippet_clashingPages_eq, List.cons_ne_nil _ _⟩)
  exact ⟨hcode, htrace hallRequest hcode⟩

end Imports

end Command
end EpaperLayout
