import EpaperLayout.Proofs.Snippet.GeneratedLines
import EpaperLayout.Proofs.Yaml.BlockContent
import EpaperLayout.Proofs.Yaml.BlockRows
import EpaperLayout.Snippet.Import

/-!
# Snippets are documents

The text of a snippet is a document with the page variable and one display,
whatever the lines of its drawing routine are: the routine of the display is
those lines without the indentation, joined by line feeds.

**Input.**  A device, which gives the banner, and the lines of a routine: none is
empty, the first does not begin with a blank, and all have only characters that a
document may hold on one line.

**Results.**
* `ofText_snippetWith`: the document that is loaded.
* `displayLambdas_snippetDocument`: its only routine.
-/

namespace EpaperLayout
namespace Snippet

section Definitions

/-- The snippet of a device with the given lines of its routine. -/
def snippetWith (device : Device) (routine : List String) : String :=
  joinLines (bannerLines device ++ globalsLines ++ displayLines ++
    routine.map (indented routineIndent))

/-- A text that may stand on one line of a document. -/
def Legible (cs : List Char) : Prop :=
  ∀ c ∈ cs, Yaml.isForbidden c = false ∧ Yaml.isBreak c = false

instance (cs : List Char) : Decidable (Legible cs) :=
  inferInstanceAs
    (Decidable (∀ c ∈ cs, Yaml.isForbidden c = false ∧ Yaml.isBreak c = false))

/-- Lines that may stand in a literal block. -/
structure IsLiteral (routine : List String) : Prop where
  /-- The first line gives the indentation of the block. -/
  begins : ∃ c cs others, routine = String.ofList (c :: cs) :: others ∧ Yaml.isBlank c = false
  nonempty : ∀ line ∈ routine, line.toList ≠ []
  legible : ∀ line ∈ routine, Legible line.toList

/-- The rows of a snippet from its first section up to the routine. -/
def frameRows : List Yaml.Row :=
  [{ column := 0, key := "globals", content := .below },
    { column := 4, opensItem := true, key := "id", content := .plain "display_page" },
    { column := 4, key := "type", content := .plain "int" },
    { column := 4, key := "restore_value", content := .plain "true" },
    { column := 4, key := "initial_value", content := .quoted "0", blankLines := 1 },
    { column := 0, key := "display", content := .below },
    { column := 4, opensItem := true, key := "platform", content := .plain "waveshare_epaper" },
    { column := 4, key := "id", content := .plain "epaper_display" },
    { column := 4, key := "model", content := .plain "7.50inv2" },
    { column := 4, key := "update_interval", content := .plain "never" }]

/-- A key with the text of a scalar. -/
def scalarMember (key text : String) (plain : Bool) (value : Yaml.Value) : Yaml.Member where
  key := key
  kinds := [.scalar text plain]
  value := value

/-- The declaration of the page variable. -/
def variableMembers : List Yaml.Member :=
  [scalarMember "id" "display_page" true (.string "display_page"),
    scalarMember "type" "int" true (.string "int"),
    scalarMember "restore_value" "true" true (.bool true),
    scalarMember "initial_value" "0" false (.string "0")]

/-- The settings of the display with the given routine. -/
def displayMembers (routine : String) : List Yaml.Member :=
  [scalarMember "platform" "waveshare_epaper" true (.string "waveshare_epaper"),
    scalarMember "id" "epaper_display" true (.string "epaper_display"),
    scalarMember "model" "7.50inv2" true (.string "7.50inv2"),
    scalarMember "update_interval" "never" true (.string "never"),
    scalarMember "lambda" routine false (.string routine)]

/-- A section with one item that is a mapping. -/
def itemSection (key : String) (members : List Yaml.Member) : Yaml.Member where
  key := key
  kinds := .blockSequenceStart :: .blockEntry ::
    (.blockMappingStart :: (members.flatMap Yaml.Member.tokenKinds ++ [.blockEnd])) ++ [.blockEnd]
  value := .sequence [.mapping (members.map Yaml.Member.entry)]

/-- The sections of a snippet with the given routine. -/
def sections (routine : String) : List Yaml.Member :=
  [itemSection "globals" variableMembers, itemSection "display" (displayMembers routine)]

/-- The document of a snippet with the given routine. -/
def snippetDocument (routine : String) : Yaml.Value :=
  .mapping ((sections routine).map Yaml.Member.entry)

end Definitions

section Content

/-- The keys of the collections of a snippet. -/
def frameKeys : List String :=
  ["globals", "id", "type", "restore_value", "initial_value", "display", "platform", "model",
    "update_interval", "lambda"]

theorem plainValue_of_mem_frameKeys :
    ∀ key ∈ frameKeys, Yaml.plainValue key = .ok (.string key) := by
  simp only [frameKeys, List.forall_mem_cons, List.not_mem_nil, false_implies, implies_true,
    and_true]
  exact ⟨rfl, rfl, rfl, rfl, rfl, rfl, rfl, rfl, rfl, rfl⟩

/-- A mapping with keys of the frame is read as its entries. -/
theorem isContent_mapping
    {height : Nat} {members : List Yaml.Member}
    (keys : List String)
    (hkeys : members.map Yaml.Member.key = keys)
    (hframe : ∀ key ∈ keys, key ∈ frameKeys)
    (hnodup : keys.Nodup)
    (hvalues : ∀ member ∈ members, Yaml.IsContent member.kinds height member.value) :
    Yaml.IsContent
      (.blockMappingStart :: (members.flatMap Yaml.Member.tokenKinds ++ [.blockEnd]))
      (height + 1) (.mapping (members.map Yaml.Member.entry)) := by
  subst hkeys
  refine Yaml.IsContent.mapping hvalues ?_ hnodup
  intro member hmember
  exact plainValue_of_mem_frameKeys _ (hframe _ (List.mem_map_of_mem hmember))

/-- A section with an item is read as its value. -/
theorem isContent_itemSection
    {key : String} {members : List Yaml.Member}
    (h : Yaml.IsContent
      (.blockMappingStart :: (members.flatMap Yaml.Member.tokenKinds ++ [.blockEnd])) 1
      (.mapping (members.map Yaml.Member.entry))) :
    Yaml.IsContent (itemSection key members).kinds 2 (itemSection key members).value := by
  have hitems : ∀ item ∈ [(Yaml.TokenKind.blockMappingStart ::
        (members.flatMap Yaml.Member.tokenKinds ++ [.blockEnd]),
      Yaml.Value.mapping (members.map Yaml.Member.entry))], Yaml.IsContent item.1 1 item.2 := by
    rw [List.forall_mem_singleton]
    exact h
  simpa [itemSection] using Yaml.IsContent.sequence hitems

theorem isContent_scalarMember
    {key text : String} {plain : Bool} {value : Yaml.Value}
    (h : Yaml.scalarValue none text plain = .ok value) :
    Yaml.IsContent (scalarMember key text plain value).kinds 0
      (scalarMember key text plain value).value :=
  Yaml.IsContent.scalar h

/-- **The tokens of a snippet are read as its document.** -/
theorem isContent_sections (routine : String) :
    Yaml.IsContent
      (.blockMappingStart :: ((sections routine).flatMap Yaml.Member.tokenKinds ++ [.blockEnd])) 3
      (snippetDocument routine) := by
  have hvariable : ∀ member ∈ variableMembers, Yaml.IsContent member.kinds 0 member.value := by
    simp only [variableMembers, List.forall_mem_cons, List.not_mem_nil, false_implies,
      implies_true, and_true]
    exact ⟨isContent_scalarMember rfl, isContent_scalarMember rfl, isContent_scalarMember rfl,
      isContent_scalarMember rfl⟩
  have hdisplay : ∀ member ∈ displayMembers routine,
      Yaml.IsContent member.kinds 0 member.value := by
    simp only [displayMembers, List.forall_mem_cons, List.not_mem_nil, false_implies,
      implies_true, and_true]
    exact ⟨isContent_scalarMember rfl, isContent_scalarMember rfl, isContent_scalarMember rfl,
      isContent_scalarMember rfl, isContent_scalarMember rfl⟩
  refine isContent_mapping ["globals", "display"] rfl (by decide) (by decide) ?_
  rw [sections, List.forall_mem_cons, List.forall_mem_singleton]
  constructor
  · exact isContent_itemSection (isContent_mapping
      ["id", "type", "restore_value", "initial_value"] rfl (by decide) (by decide) hvariable)
  · exact isContent_itemSection (isContent_mapping
      ["platform", "id", "model", "update_interval", "lambda"] rfl (by decide) (by decide)
      hdisplay)

end Content

section Scan

theorem legible_of_clean
    {cs : List Char}
    (h : Clean cs) :
    Legible cs := by
  intro c hc
  have hclean := h c hc
  simp only [needsOctal, Text.isControl, Bool.or_eq_false_iff, Bool.and_eq_false_iff,
    decide_eq_false_iff_not, beq_eq_false_iff_ne] at hclean
  have hvalid : c.toNat < 0xD800 ∨ 0xDFFF < c.toNat ∧ c.toNat < 0x110000 := c.valid
  constructor
  · simp only [Yaml.isForbidden, Bool.not_eq_false', Bool.or_eq_true, Bool.and_eq_true,
      decide_eq_true_eq]
    omega
  · have hfeed : c ≠ '\n' := by
      rintro rfl
      exact absurd hclean (by decide)
    have hreturn : c ≠ '\r' := by
      rintro rfl
      exact absurd hclean (by decide)
    simp only [Yaml.isBreak, Yaml.isSeparator, hfeed, hreturn, decide_false, Bool.false_or,
      Bool.or_eq_false_iff, decide_eq_false_iff_not]
    omega

/-- The text of a snippet from its first section on. -/
def frameText (routine : List String) : List Char :=
  Yaml.rowsText 4 frameRows
    ("lambda: |-\n".toList ++ Yaml.literalLines routineIndent (routine.map String.toList))

theorem toList_frame (routine : List String) :
    (globalsLines ++ displayLines ++ routine.map (indented routineIndent)).flatMap lineText =
      frameText routine := by
  have hroutine : (routine.map (indented routineIndent)).flatMap lineText =
      Yaml.literalLines routineIndent (routine.map String.toList) := by
    simp [Yaml.literalLines, List.flatMap_map, indented, lineText]
  have hframe : (globalsLines ++ displayLines).flatMap lineText =
      Yaml.rowsText 4 frameRows "lambda: |-\n".toList := by
    decide +kernel
  rw [List.flatMap_append, hroutine, hframe, frameText, Yaml.rowsText_append]

/-- The lines of the banner are passed over. -/
theorem exists_skipFiller_banner
    (device : Device)
    {c : Char}
    (hc : Yaml.startsToken c = true)
    (rest : List Char) :
    ∃ mark : Yaml.Mark, mark.column = 0 ∧
      Yaml.skipFiller false true false
          (Yaml.placesFrom {} ((bannerLines device).flatMap lineText ++ c :: rest)) =
        (true, Yaml.placesFrom mark (c :: rest)) := by
  have hcomment : ∀ (line : String) (mark : Yaml.Mark) (rest : List Char), Clean line.toList →
      line.toList.head? = some '#' →
        ∃ next : Yaml.Mark, next.column = 0 ∧
          Yaml.skipFiller false true false (Yaml.placesFrom mark (lineText line ++ rest)) =
            Yaml.skipFiller false true false (Yaml.placesFrom next rest) := by
    intro line mark rest hclean hhash
    obtain ⟨text, htext⟩ := List.head?_eq_some_iff.mp hhash
    have hlegible := legible_of_clean hclean
    rw [htext] at hlegible
    have hskip := Yaml.skipFiller_comment text
      (fun d hd => (hlegible d (List.mem_cons_of_mem _ hd)).2) true mark rest
    rw [lineText, htext, List.append_assoc, List.singleton_append, List.cons_append]
    exact hskip
  have hclean : ∀ line ∈ bannerLines device, Clean line.toList := by
    intro line hline
    refine clean_lines device line ?_
    rw [lines, List.append_assoc, List.append_assoc]
    exact List.mem_append_left _ hline
  rw [bannerLines, List.forall_mem_cons, List.forall_mem_cons, List.forall_mem_cons] at hclean
  obtain ⟨hfirst, hsecond, hthird, -⟩ := hclean
  rw [bannerLines]
  simp only [List.flatMap_cons, List.flatMap_nil, List.append_nil, List.append_assoc]
  obtain ⟨mark, -, hskip⟩ := hcomment _ {} _ hfirst (by rw [toList_bannerLine]; rfl)
  rw [hskip]
  obtain ⟨mark, -, hskip⟩ := hcomment _ mark _ hsecond (by decide)
  rw [hskip]
  obtain ⟨mark, -, hskip⟩ := hcomment _ mark _ hthird (by decide)
  rw [hskip]
  refine ⟨mark.nextLine 1, rfl, ?_⟩
  exact (Yaml.skipFiller_newline true false mark (c :: rest)).trans
    (Yaml.skipFiller_startsToken hc true (mark.nextLine 1) rest)

/-- The scanner gets from the first section to the routine. -/
theorem leads_frame (stop : Yaml.Mark) (body : List Char) :
    Yaml.Leads stop 32
      (({} : Yaml.Taken).before 0 (Yaml.rowsText 4 frameRows ("lambda: |-\n".toList ++ body)))
      { kinds := .blockMappingStart :: ((itemSection "globals" variableMembers).tokenKinds ++
          [.key, .scalar "display" true, .value, .blockSequenceStart, .blockEntry,
            .blockMappingStart] ++
          (displayMembers "").dropLast.flatMap Yaml.Member.tokenKinds ++
          [.key, .scalar "lambda" true, .value])
        indents := [4, 2, 0]
        keyAllowed := false
        column := 12
        chars := '|' :: '-' :: '\n' :: body } := by
  have hframe : Yaml.areWellFormed 4 frameRows = true := by decide
  have hword : Yaml.isWord "lambda".toList = true := by decide
  have hgap : ∀ mark : Yaml.Mark, mark.column = 4 + "lambda".toList.length + 1 →
      ∃ behind : Yaml.Mark, behind.column = 12 ∧
        Yaml.skipFiller false false false
            (Yaml.placesFrom mark (' ' :: '|' :: '-' :: '\n' :: body)) =
          (false, Yaml.placesFrom behind ('|' :: '-' :: '\n' :: body)) := by
    intro mark hmark
    exact ⟨mark.forward 1, by rw [Yaml.Mark.forward, hmark]; rfl,
      Yaml.skipFiller_blank (by decide) mark _⟩
  have hrows := Yaml.Leads.rows hframe (by decide : Yaml.startsToken 'l' = true) stop {}
    ("ambda: |-\n".toList ++ body)
  have hkey := Yaml.Leads.key (frameRows.foldl Yaml.Taken.addRow {}).kinds
    (frameRows.foldl Yaml.Taken.addRow {}).indents 4 hword (fun _ => rfl) hgap stop
  exact hrows.trans hkey

end Scan

section Document

variable {device : Device} {routine : List String}

theorem toList_snippetWith (device : Device) (routine : List String) :
    (snippetWith device routine).toList =
      (bannerLines device).flatMap lineText ++ frameText routine := by
  rw [snippetWith, toList_joinLines, List.append_assoc, List.append_assoc, List.flatMap_append,
    ← List.append_assoc, toList_frame]

/-- A snippet has only characters that a document may hold. -/
theorem any_isForbidden_snippetWith
    (device : Device)
    (h : ∀ line ∈ routine, Legible line.toList) :
    (snippetWith device routine).toList.any Yaml.isForbidden = false := by
  have hfeed : Yaml.isForbidden '\n' = false := by decide
  have hlines : ∀ line ∈ bannerLines device ++ globalsLines ++ displayLines ++
      routine.map (indented routineIndent), ∀ c ∈ line.toList, Yaml.isForbidden c = false := by
    rw [List.forall_mem_append, List.forall_mem_map]
    constructor
    · intro line hline c hc
      have hclean := clean_lines device line (List.mem_append_left _ hline)
      exact (legible_of_clean hclean c hc).1
    · intro line hline c hc
      rw [indented, String.toList_ofList, List.mem_append] at hc
      rcases hc with hc | hc
      · rw [List.eq_of_mem_replicate hc]
        decide
      · exact (h line hline c hc).1
  rw [snippetWith, toList_joinLines, List.any_eq_false]
  intro c hc
  obtain ⟨line, hline, hmem⟩ := List.mem_flatMap.mp hc
  rw [lineText, List.mem_append, List.mem_singleton] at hmem
  rcases hmem with hmem | rfl
  · rw [hlines line hline c hmem]
    exact Bool.false_ne_true
  · rw [hfeed]
    exact Bool.false_ne_true

/-- The tokens of a snippet. -/
theorem exists_ofText_snippetWith
    (device : Device)
    (h : IsLiteral routine) :
    ∃ tokens : List Yaml.Token,
      Yaml.TokenStream.ofText (snippetWith device routine) = { tokens, fault := none } ∧
        tokens.map Yaml.Token.kind =
          .blockMappingStart :: ((sections ("\n".intercalate routine)).flatMap
            Yaml.Member.tokenKinds ++ [.blockEnd]) ++ [.streamEnd] := by
  obtain ⟨c, cs, others, rfl, hblank⟩ := h.begins
  have hfirst : (String.ofList (c :: cs)).toList = c :: cs := String.toList_ofList
  let body := Yaml.literalLines routineIndent ((c :: cs) :: others.map String.toList)
  let frame := Yaml.rowsText 4 frameRows ("lambda: |-\n".toList ++ body)
  let text := (bannerLines device).flatMap lineText ++ frame
  have htext : (snippetWith device (String.ofList (c :: cs) :: others)).toList = text := by
    rw [toList_snippetWith, frameText, List.map_cons, hfirst]
  have hline : ∀ line ∈ String.ofList (c :: cs) :: others, Yaml.IsLine line.toList :=
    fun line hline => ⟨h.nonempty line hline, fun d hd => (h.legible line hline d hd).2⟩
  rw [List.forall_mem_cons, hfirst] at hline
  -- the scanner begins behind the banner
  have hstart : ({ rest := Yaml.placesFrom {} text } : Yaml.Scanner).At
      (({} : Yaml.Taken).before 0 frame) := by
    have hrows : Yaml.areWellFormed 4 frameRows = true := by decide
    obtain ⟨d, rest, hframe, hd⟩ := Yaml.exists_rowsText_eq hrows
      (by decide : Yaml.startsToken 'l' = true) ("ambda: |-\n".toList ++ body)
    obtain ⟨mark, hcolumn, hskip⟩ := exists_skipFiller_banner device hd rest
    have hlambda : 'l' :: ("ambda: |-\n".toList ++ body) = "lambda: |-\n".toList ++ body := rfl
    rw [← hframe, hlambda] at hskip
    exact Yaml.Scanner.at_before hcolumn hskip
  obtain ⟨opened, hopened, hat⟩ := leads_frame (Yaml.markAfter {} text) body _ hstart
  obtain ⟨tokens, htokens, hkinds⟩ := hat.exists_scan_literal (by decide) (by decide) hline.1 hblank
    (by rw [List.forall_mem_map]; exact hline.2) (Yaml.markAfter {} text) (text.length - 33)
  have hsteps : text.length + 1 = 32 + (text.length - 33 + 2) := by
    have hframe : 33 ≤ (Yaml.rowsText 4 frameRows "lambda: |-\n".toList).length := by
      decide +kernel
    have hlength : text.length = ((bannerLines device).flatMap lineText).length +
        ((Yaml.rowsText 4 frameRows "lambda: |-\n".toList).length + body.length) := by
      rw [← List.length_append, ← Yaml.rowsText_append, ← List.length_append]
    omega
  have hbegins : Yaml.TokenStream.dropByteOrderMark text = text := by
    obtain ⟨rest, hbanner⟩ : ∃ rest, (bannerLines device).flatMap lineText = '#' :: rest := by
      rw [bannerLines, List.flatMap_cons, lineText, toList_bannerLine]
      exact ⟨_, rfl⟩
    change Yaml.TokenStream.dropByteOrderMark ((bannerLines device).flatMap lineText ++ frame) =
      (bannerLines device).flatMap lineText ++ frame
    rw [hbanner]
    rfl
  refine ⟨tokens, ?_, ?_⟩
  · rw [Yaml.TokenStream.ofText, htext]
    have hallowed := any_isForbidden_snippetWith device h.legible
    rw [htext] at hallowed
    simp only [hbegins, hallowed, Bool.false_eq_true, if_false]
    rw [hsteps, hopened.scan_eq, htokens]
  · have hroutine : String.ofList (['\n'].intercalate ((c :: cs) :: others.map String.toList)) =
        "\n".intercalate (String.ofList (c :: cs) :: others) := by
      rw [← String.toList_inj, String.toList_intercalate, List.map_cons, hfirst,
        String.toList_ofList]
      rfl
    rw [hkinds, hroutine]
    rfl

/-- **A snippet is read as its document.** -/
theorem ofText_snippetWith
    (device : Device)
    (h : IsLiteral routine) :
    Yaml.Value.ofText (snippetWith device routine) =
      .ok (snippetDocument ("\n".intercalate routine)) := by
  obtain ⟨tokens, htokens, hkinds⟩ := exists_ofText_snippetWith device h
  exact Yaml.ofText_of_isContent (isContent_sections _) (by decide) htokens hkinds

theorem displayLambdas_snippetDocument (routine : String) :
    displayLambdas (snippetDocument routine) = .ok [routine] := by
  rfl

theorem sectionWarnings_snippetDocument (routine : String) :
    sectionWarnings (snippetDocument routine) = [] := by
  rfl

end Document

end Snippet
end EpaperLayout
