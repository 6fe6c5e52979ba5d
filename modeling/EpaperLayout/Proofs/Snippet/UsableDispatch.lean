import EpaperLayout.Proofs.Snippet.BranchOrder
import EpaperLayout.Proofs.Success
import EpaperLayout.Snippet.Import

/-!
# Documents from which pages can be read

A document has a *usable dispatch* if it is a mapping with a drawing routine, the
first of its routines that has a dispatch has one whose block is closed, and a
page label stands in that block with no inner block open.

**Input.**  A text, and the data that make its dispatch usable: `UsableDispatch`
for a routine, `UsableDocument` for a text.

**Results.**
* `importSnippet_cases`: a text is at fault, or what is read of it is read of the
  first of its routines that has a dispatch.
* `UsableDocument.importSnippet_eq`: what is read of a document with a usable
  dispatch, up to the rules for devices.
* `nonempty_usableDocument`: of every other text no layout is read, so that it is
  refused for another reason than these rules.
* `HasRoutine.importSnippet_eq`: what is read of a document with one routine.
-/

namespace EpaperLayout
namespace Snippet

/-- A routine from whose dispatch pages can be read. -/
structure UsableDispatch (lambda : Lambda) where
  dispatch : Dispatch
  closing : Nat
  found : lambda.dispatch? = some dispatch
  closed : lambda.matchingBrace? dispatch.opening = some closing
  /-- A page label stands in the block with no inner block open. -/
  pageLabel :
    ∃ label ∈ lambda.branchLabels (dispatch.opening + 1) closing, label.digits.isSome = true

namespace UsableDispatch

variable {lambda : Lambda} (usable : UsableDispatch lambda)

/-- All branches of the dispatch. -/
def branches : List Branch :=
  lambda.branches usable.dispatch usable.closing

/-- The branches with a page label. -/
def pageBranches : List Branch :=
  usable.branches.filter fun branch => branch.label.digits.isSome

/-- What is read of the branches. -/
def reading : PageReading :=
  PageReading.ofBranches lambda usable.branches

/-- The place of the first label. -/
def firstLabel : Nat :=
  (usable.branches.head?.map fun branch => branch.label.start).getD usable.closing

/-- What is read of the markers outside the branches. -/
def outside : IdentityReading :=
  IdentityReading.ofLambda lambda usable.firstLabel (usable.closing + 1)

/-- The device that is read, with the given identifier. -/
def device (deviceId : String) : Device where
  id := deviceId
  name := (usable.outside.identity.bind DeviceIdentity.name).getD deviceId
  pages := usable.reading.pages

/-- All warnings, after some earlier ones. -/
def warnings (earlier : List Warning) (deviceId : String) : List Warning :=
  earlier ++ usable.reading.warnings ++ usable.outside.warnings
    ++ (otherDevice? usable.outside.identity deviceId).toList

theorem exists_mem_branches :
    ∃ branch ∈ usable.branches, branch.label.digits.isSome = true := by
  obtain ⟨label, hlabel, hdigits⟩ := usable.pageLabel
  rw [← map_label_branchesOf usable.closing (lambda.branchLabels _ _), List.mem_map] at hlabel
  obtain ⟨branch, hbranch, rfl⟩ := hlabel
  exact ⟨branch, hbranch, hdigits⟩

/-- There is one branch for a page for each page label, in the same order. -/
theorem map_label_pageBranches :
    usable.pageBranches.map Branch.label =
      (lambda.branchLabels (usable.dispatch.opening + 1) usable.closing).filter
        fun label => label.digits.isSome := by
  rw [← map_label_branchesOf usable.closing (lambda.branchLabels _ _), List.filter_map]
  rfl

/-- Reading a usable dispatch leads to its device, if that keeps all rules. -/
theorem read_eq (earlier : List Warning) (deviceId : String) :
    Routine.read { lambda, dispatch := usable.dispatch } earlier deviceId =
      if (usable.device deviceId).validate.isValid then
        .ok { device := usable.device deviceId, warnings := usable.warnings earlier deviceId }
      else .error (.invalidLayout (usable.device deviceId).validate) := by
  obtain ⟨branch, hbranch, hdigits⟩ := usable.exists_mem_branches
  have hclosing :
      Routine.closing { lambda, dispatch := usable.dispatch } = .ok usable.closing := by
    simp [Routine.closing, usable.closed]
  have hbranches :
      Routine.branches { lambda, dispatch := usable.dispatch } usable.closing =
        .ok usable.branches := by
    have hany :
        usable.branches.any (fun branch => branch.label.digits.isSome) = true :=
      List.any_eq_true.mpr ⟨branch, hbranch, hdigits⟩
    exact if_pos hany
  rw [Routine.read, hclosing]
  change (Routine.branches { lambda, dispatch := usable.dispatch } usable.closing >>= _) = _
  rw [hbranches]
  change (if !(usable.device deviceId).validate.isValid then
    Except.error (SnippetError.invalidLayout (usable.device deviceId).validate)
    else Except.ok (Imported.mk (usable.device deviceId) (usable.warnings earlier deviceId)))
      = _
  cases (usable.device deviceId).validate.isValid with
  | true => rfl
  | false => rfl

end UsableDispatch

section Documents

variable {text : String} {document : Yaml.Value} {lambdas : List String} (deviceId : String)

/-- The layout of a document is that of the routine which is found. -/
theorem importDocument_of_some
    {routine : Routine}
    (hlambdas : displayLambdas document = .ok lambdas)
    (hroutine : findRoutine? text lambdas = some routine) :
    importDocument text document deviceId = routine.read (sectionWarnings document) deviceId := by
  simp only [importDocument, hlambdas, bind, Except.bind, hroutine]

/-- A document in which no routine is found is refused. -/
theorem exists_importDocument_of_none
    (hlambdas : displayLambdas document = .ok lambdas)
    (hroutine : findRoutine? text lambdas = none) :
    ∃ reason, importDocument text document deviceId = .error (.unrecognized reason) := by
  simp only [importDocument, hlambdas, bind, Except.bind, hroutine]
  exact ⟨_, rfl⟩

/-- **The layout of a document with one routine is that of the routine**, if it has a dispatch. -/
theorem importDocument_of_singleton
    {source : String}
    (hlambdas : displayLambdas document = .ok [source]) :
    importDocument text document deviceId =
      match (Lambda.ofText source).dispatch? with
      | none =>
        .error (.unrecognized s!"no display lambda contains a page dispatch on id({pageVariable})")
      | some dispatch =>
        Routine.read
          { lambda := (Lambda.ofText source).startingAt (firstLine text source), dispatch }
          (sectionWarnings document) deviceId := by
  have hroutine : findRoutine? text [source] = (Lambda.ofText source).dispatch?.map fun dispatch =>
      { lambda := (Lambda.ofText source).startingAt (firstLine text source), dispatch } :=
    List.findSome?_singleton
  cases hdispatch : (Lambda.ofText source).dispatch? with
  | none =>
      rw [hdispatch] at hroutine
      simp only [importDocument, hlambdas, bind, Except.bind, hroutine, Option.map_none]
      rfl
  | some dispatch =>
      rw [hdispatch] at hroutine
      exact importDocument_of_some deviceId hlambdas hroutine

end Documents

/-- The routine that is read from a text: the first of the document that has a dispatch. -/
structure FoundRoutine (text : String) where
  document : Yaml.Value
  before : List String
  source : String
  after : List String
  dispatch : Dispatch
  loaded : loadDocument text = .ok document
  routines : displayLambdas document = .ok (before ++ source :: after)
  first : ∀ other ∈ before, (Lambda.ofText other).dispatch? = none
  found : (Lambda.ofText source).dispatch? = some dispatch

namespace FoundRoutine

variable {text : String} (routine : FoundRoutine text)

/-- The routine as it is read. -/
def lambda : Lambda :=
  (Lambda.ofText routine.source).startingAt (firstLine text routine.source)

/-- The only routine of a document is the one that is read. -/
theorem source_eq
    {source : String}
    (h : loadDocument text >>= displayLambdas = .ok [source]) :
    routine.source = source := by
  rw [routine.loaded] at h
  have hroutines : routine.before ++ routine.source :: routine.after = [source] :=
    Except.ok.inj (routine.routines.symm.trans h)
  rcases List.append_eq_singleton_iff.mp hroutines with ⟨-, hsource⟩ | ⟨-, hsource⟩
  · exact (List.cons.inj hsource).1
  · cases hsource

end FoundRoutine

/-- A text whose document has a usable dispatch. -/
structure UsableDocument (text : String) where
  document : Yaml.Value
  /-- The routines before the one with the dispatch. -/
  before : List String
  source : String
  after : List String
  loaded : Yaml.Value.ofText text = .ok document
  isMapping : document.entries?.isSome = true
  routines : displayLambdas document = .ok (before ++ source :: after)
  first : ∀ other ∈ before, (Lambda.ofText other).dispatch? = none
  usable : UsableDispatch ((Lambda.ofText source).startingAt (firstLine text source))

namespace UsableDocument

variable {text : String} (doc : UsableDocument text)

/-- The routine with the dispatch. -/
def lambda : Lambda :=
  (Lambda.ofText doc.source).startingAt (firstLine text doc.source)

/-- The device that is read, with the given identifier. -/
def device (deviceId : String) : Device :=
  doc.usable.device deviceId

/-- All warnings. -/
def warnings (deviceId : String) : List Warning :=
  doc.usable.warnings (sectionWarnings doc.document) deviceId

/-- The routine that is read. -/
def routine : FoundRoutine text where
  document := doc.document
  before := doc.before
  source := doc.source
  after := doc.after
  dispatch := doc.usable.dispatch
  loaded := by simp [loadDocument, doc.loaded, doc.isMapping]
  routines := doc.routines
  first := doc.first
  found := doc.usable.found

/-- Reading a document with a usable dispatch leads to its device, if that keeps all rules. -/
theorem importSnippet_eq (deviceId : String) :
    importSnippet text deviceId =
      if (doc.device deviceId).validate.isValid then
        .ok { device := doc.device deviceId, warnings := doc.warnings deviceId }
      else .error (.invalidLayout (doc.device deviceId).validate) := by
  have hload : loadDocument text = .ok doc.document := doc.routine.loaded
  have hroutine :
      findRoutine? text (doc.before ++ doc.source :: doc.after) =
        some { lambda := doc.lambda, dispatch := doc.usable.dispatch } := by
    rw [findRoutine?, List.findSome?_append]
    have hbefore :
        doc.before.findSome? (fun source =>
          let lambda := (Lambda.ofText source).startingAt (firstLine text source)
          lambda.dispatch?.map fun dispatch => Routine.mk lambda dispatch) = none := by
      rw [List.findSome?_eq_none_iff]
      intro other hother
      have hnone := doc.first other hother
      change ((Lambda.ofText other).dispatch?.map _) = none
      rw [hnone, Option.map_none]
    rw [hbefore, Option.none_or, List.findSome?_cons]
    simp only [doc.usable.found, Option.map_some]
    rfl
  rw [importSnippet, hload]
  change importDocument text doc.document deviceId = _
  rw [importDocument_of_some deviceId doc.routines hroutine]
  exact doc.usable.read_eq _ deviceId

end UsableDocument

/-- A layout has been read, whether it keeps the rules for devices or not. -/
def ReadsLayout : Except SnippetError Imported → Prop
  | .ok _ => True
  | .error (.invalidLayout _) => True
  | .error _ => False

instance : DecidablePred ReadsLayout
  | .ok _ => .isTrue trivial
  | .error (.invalidLayout _) => .isTrue trivial
  | .error (.invalidYaml ..) => .isFalse id
  | .error (.unrecognized _) => .isFalse id
  | .error (.noPages _) => .isFalse id

/-- The text is no document in which a dispatch is found whose block is closed. -/
def SnippetError.IsTextFault : SnippetError → Prop
  | .invalidYaml .. => True
  | .unrecognized _ => True
  | .noPages _ => False
  | .invalidLayout _ => False

/-- A text at fault has no layout. -/
theorem not_readsLayout_of_isTextFault
    {error : SnippetError}
    (h : error.IsTextFault) :
    ¬ReadsLayout (.error error) := by
  cases error with
  | invalidYaml message line column => exact id
  | unrecognized reason => exact id
  | noPages line => exact h.elim
  | invalidLayout report => exact h.elim

/-- Reading a routine fails because its dispatch is never closed or has no pages, or else the
dispatch is usable. -/
theorem Routine.read_cases
    (routine : Routine)
    (hfound : routine.lambda.dispatch? = some routine.dispatch)
    (earlier : List Warning)
    (deviceId : String) :
    (∃ error : SnippetError, error.IsTextFault ∧ routine.read earlier deviceId = .error error) ∨
      routine.read earlier deviceId = .error (.noPages routine.dispatchLine) ∨
        ∃ usable : UsableDispatch routine.lambda, usable.dispatch = routine.dispatch := by
  rw [Routine.read]
  cases hmatching : routine.lambda.matchingBrace? routine.dispatch.opening with
  | none =>
      rw [Routine.closing, hmatching]
      exact Or.inl ⟨.unrecognized _, trivial, rfl⟩
  | some closing =>
      have hclosing : routine.closing = .ok closing := by
        simp [Routine.closing, hmatching]
      rw [hclosing]
      cases hany : (routine.lambda.branches routine.dispatch closing).any
          fun branch => branch.label.digits.isSome with
      | false =>
          have hbranches :
              routine.branches closing = .error (.noPages routine.dispatchLine) := by
            simp only [Routine.branches, hany, Bool.false_eq_true, if_false]
          refine Or.inr (Or.inl ?_)
          change (routine.branches closing >>= _) = _
          rw [hbranches]
          rfl
      | true =>
          rw [List.any_eq_true] at hany
          obtain ⟨branch, hbranch, hdigits⟩ := hany
          exact Or.inr (Or.inr ⟨{
            dispatch := routine.dispatch
            closing := closing
            found := hfound
            closed := hmatching
            pageLabel := ⟨branch.label, label_mem_of_mem_branchesOf hbranch, hdigits⟩ }, rfl⟩)

/-- A layout that is read of a routine comes from a usable dispatch. -/
theorem nonempty_usableDispatch
    {routine : Routine} {earlier : List Warning} {deviceId : String}
    (hfound : routine.lambda.dispatch? = some routine.dispatch)
    (h : ReadsLayout (routine.read earlier deviceId)) :
    Nonempty (UsableDispatch routine.lambda) := by
  rcases routine.read_cases hfound earlier deviceId with
    ⟨error, hfault, hrefused⟩ | hrefused | ⟨usable, -⟩
  · rw [hrefused] at h
    exact absurd h (not_readsLayout_of_isTextFault hfault)
  · rw [hrefused] at h
    exact h.elim
  · exact ⟨usable⟩

theorem isTextFault_of_loadDocument
    {text : String} {error : SnippetError}
    (h : loadDocument text = .error error) :
    error.IsTextFault := by
  unfold loadDocument at h
  split at h
  · cases h
    trivial
  · split at h
    · cases h
    · cases h
      trivial

theorem isTextFault_of_displayLambdas
    {document : Yaml.Value} {error : SnippetError}
    (h : displayLambdas document = .error error) :
    error.IsTextFault := by
  unfold displayLambdas at h
  cases hentries : displayEntries document with
  | error reason =>
      rw [hentries] at h
      cases h
      unfold displayEntries at hentries
      split at hentries
      · cases hentries
        trivial
      · split at hentries
        · cases hentries
        · cases hentries
        · cases hentries
          trivial
  | ok entries =>
      rw [hentries] at h
      change (if (entries.filterMap _).isEmpty then _ else _) = _ at h
      split at h
      · cases h
        trivial
      · cases h

/-- **A text is at fault, or what is read of it is read of its first routine with a dispatch.** -/
theorem importSnippet_cases (text deviceId : String) :
    (∃ error : SnippetError, error.IsTextFault ∧ importSnippet text deviceId = .error error) ∨
      ∃ found : FoundRoutine text, importSnippet text deviceId =
        Routine.read { lambda := found.lambda, dispatch := found.dispatch }
          (sectionWarnings found.document) deviceId := by
  rw [importSnippet]
  cases hdocument : loadDocument text with
  | error error =>
      exact Or.inl ⟨error, isTextFault_of_loadDocument hdocument, rfl⟩
  | ok document =>
      change (∃ error : SnippetError, error.IsTextFault ∧
          importDocument text document deviceId = _) ∨
        ∃ found : FoundRoutine text, importDocument text document deviceId = _
      cases hlambdas : displayLambdas document with
      | error error =>
          refine Or.inl ⟨error, isTextFault_of_displayLambdas hlambdas, ?_⟩
          rw [importDocument, hlambdas]
          rfl
      | ok lambdas =>
          cases hroutine : findRoutine? text lambdas with
          | none =>
              obtain ⟨reason, hrefused⟩ := exists_importDocument_of_none deviceId hlambdas hroutine
              exact Or.inl ⟨.unrecognized reason, trivial, hrefused⟩
          | some routine =>
              rw [importDocument_of_some deviceId hlambdas hroutine]
              rw [findRoutine?, List.findSome?_eq_some_iff] at hroutine
              obtain ⟨before, source, after, hsplit, hsource, hbefore⟩ := hroutine
              obtain ⟨dispatch, hdispatch, rfl⟩ := Option.map_eq_some_iff.mp hsource
              refine Or.inr ⟨{
                document, before, source, after, dispatch
                loaded := hdocument
                routines := by rw [hlambdas, hsplit]
                first := fun other hother => Option.map_eq_none_iff.mp (hbefore other hother)
                found := hdispatch }, rfl⟩

/-- A layout that is read of a text comes from a usable dispatch. -/
theorem nonempty_usableDocument
    {text : String}
    (deviceId : String)
    (h : ReadsLayout (importSnippet text deviceId)) :
    Nonempty (UsableDocument text) := by
  rcases importSnippet_cases text deviceId with ⟨error, hfault, hread⟩ | ⟨found, hread⟩
  · rw [hread] at h
    exact absurd h (not_readsLayout_of_isTextFault hfault)
  · rw [hread] at h
    obtain ⟨usable⟩ := nonempty_usableDispatch found.found h
    have hloaded := found.loaded
    unfold loadDocument at hloaded
    split at hloaded
    · cases hloaded
    · next document hdocument =>
      split at hloaded
      · next hmapping =>
        cases hloaded
        exact ⟨{
          usable
          document := found.document
          before := found.before
          source := found.source
          after := found.after
          loaded := hdocument
          isMapping := hmapping
          routines := found.routines
          first := found.first }⟩
      · cases hloaded

/-- The characters of two texts, one after the other. -/
theorem toList_append_eq
    {first second : String} {cs ds : List Char}
    (hfirst : first.toList = cs)
    (hsecond : second.toList = ds) :
    (first ++ second).toList = cs ++ ds := by
  rw [String.toList_append, hfirst, hsecond]

theorem Lambda.ofText_eq
    {text : String} {cs : List Char}
    (h : text.toList = cs) :
    Lambda.ofText text = { text := cs } := by
  rw [ofText, h]

/-- The text is a document with the source as its only drawing routine, and with no section to warn
of. -/
def HasRoutine (text source : String) : Prop :=
  (loadDocument text >>= fun document => (displayLambdas document).map fun lambdas =>
    (lambdas, sectionWarnings document)) = .ok ([source], [])

instance (text source : String) : Decidable (HasRoutine text source) :=
  inferInstanceAs (Decidable (_ = _))

namespace HasRoutine

variable {text source : String}

theorem exists_document
    (h : HasRoutine text source) :
    ∃ document, loadDocument text = .ok document ∧ displayLambdas document = .ok [source] ∧
      sectionWarnings document = [] := by
  obtain ⟨document, hdocument, hrest⟩ := exists_of_bind_eq_ok h
  obtain ⟨lambdas, hlambdas, heq⟩ := map_eq_ok_iff.mp hrest
  obtain ⟨rfl, hwarnings⟩ := Prod.mk.inj heq
  exact ⟨document, hdocument, hlambdas, hwarnings⟩

/-- The only routine of a document is the one that is read. -/
theorem source_eq
    (h : HasRoutine text source)
    (routine : FoundRoutine text) :
    routine.source = source := by
  obtain ⟨document, hdocument, hlambdas, -⟩ := h.exists_document
  refine routine.source_eq ?_
  rw [hdocument]
  exact hlambdas

/-- What is read of a text with one routine. -/
theorem importSnippet_eq
    (h : HasRoutine text source)
    (deviceId : String) :
    importSnippet text deviceId =
      match (Lambda.ofText source).dispatch? with
      | none =>
        .error (.unrecognized s!"no display lambda contains a page dispatch on id({pageVariable})")
      | some dispatch =>
        Routine.read
          { lambda := (Lambda.ofText source).startingAt (firstLine text source), dispatch }
          [] deviceId := by
  obtain ⟨document, hdocument, hlambdas, hwarnings⟩ := h.exists_document
  rw [importSnippet, hdocument, ← hwarnings]
  exact importDocument_of_singleton deviceId hlambdas

end HasRoutine

end Snippet
end EpaperLayout
