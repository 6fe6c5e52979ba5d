import EpaperLayout.Proofs.Yaml.ScannerSteps

/-!
# Block collections line by line

A document in block style is written in *rows*: lines with a key, of which some
begin an item of a sequence, and with a word or a collection behind the colon.

**Input.**  Rows with their columns, and the text behind the last of them.

**Results.**
* `Leads.row`: the scanner gets from one row to the next.
* `Leads.rows`: it gets to what follows all rows, with the tokens of the rows.
-/

namespace EpaperLayout
namespace Yaml

section Definitions

/-- What stands behind the colon of a key. -/
inductive RowContent where
  /-- A collection on the lines below. -/
  | below
  /-- A plain scalar. -/
  | plain (word : String)
  /-- A scalar in double quotes. -/
  | quoted (word : String)

/-- A line with a key. -/
structure Row where
  /-- Where the key stands; the dash of an item stands two columns before it. -/
  column : Nat
  opensItem : Bool := false
  key : String
  content : RowContent
  /-- The number of empty lines behind the row. -/
  blankLines : Nat := 0

namespace RowContent

/-- The text of what stands behind the colon. -/
def text : RowContent → List Char
  | below => []
  | plain word => ' ' :: word.toList
  | quoted word => ' ' :: '"' :: (word.toList ++ ['"'])

/-- The tokens of what stands behind the colon. -/
def kinds : RowContent → List TokenKind
  | below => []
  | plain word => [.scalar word true]
  | quoted word => [.scalar word false]

/-- The words are such as the scanner reads as they are. -/
def isWellFormed : RowContent → Bool
  | below => true
  | plain word => isWord word.toList
  | quoted word => word.toList.all Text.isIdentifierChar

/-- Whether what follows behind the content may stand at a column, for a key at another. -/
def allowsNext (key next : Nat) : RowContent → Bool
  | plain _ => next ≤ key
  | _ => true

end RowContent

/-- Tokens that have been taken, and the columns of the open blocks. -/
structure Taken where
  kinds : List TokenKind := []
  indents : List Nat := []

namespace Taken

/-- Takes tokens that belong to a collection at a column. -/
def member (taken : Taken) (kind : TokenKind) (column : Nat) (tokens : List TokenKind) :
    Taken where
  kinds := taken.kinds ++ blockEnds column taken.indents ++
    opening kind column (openAt column taken.indents) ++ tokens
  indents := withBlock column (openAt column taken.indents)

/-- The scanner before a text at a column where a key may begin. -/
def before (taken : Taken) (column : Nat) (chars : List Char) : Position where
  kinds := taken.kinds
  indents := taken.indents
  keyAllowed := true
  column := column
  chars := chars

/-- Takes the dash of an item, if the row has one. -/
def addDash (taken : Taken) (row : Row) : Taken :=
  if row.opensItem then
    taken.member .blockSequenceStart (row.column - 2) [.blockEntry]
  else taken

/-- Takes the tokens of a row. -/
def addRow (taken : Taken) (row : Row) : Taken :=
  (taken.addDash row).member .blockMappingStart row.column
    ([.key, .scalar row.key true, .value] ++ row.content.kinds)

end Taken

namespace Row

/-- The column at which a row begins. -/
def start (row : Row) : Nat :=
  if row.opensItem then row.column - 2 else row.column

/-- The text of a row up to its line feed. -/
def text (row : Row) : List Char :=
  (if row.opensItem then ['-', ' '] else []) ++ (row.key.toList ++ ':' :: row.content.text)

/-- The number of tokens that the scanner takes one by one. -/
def steps (row : Row) : Nat :=
  (if row.opensItem then 1 else 0) + (2 + row.content.kinds.length)

/-- The row is such as the scanner reads as it is. -/
def isWellFormed (row : Row) : Bool :=
  isWord row.key.toList && row.content.isWellFormed && (!row.opensItem || 2 ≤ row.column)

end Row

/-- The column at which some rows begin; what follows them begins at `next`. -/
def startOf (next : Nat) : List Row → Nat
  | [] => next
  | row :: _ => row.start

/-- The text of rows and of what follows them, which begins at the column `next`. -/
def rowsText (next : Nat) : List Row → List Char → List Char
  | [], rest => rest
  | row :: rows, rest =>
    row.text ++ (lineGap row.blankLines (startOf next rows) ++ rowsText next rows rest)

/-- All rows are such as the scanner reads as they are. -/
def areWellFormed (next : Nat) : List Row → Bool
  | [] => true
  | row :: rows =>
    row.isWellFormed && row.content.allowsNext row.column (startOf next rows) &&
      areWellFormed next rows

theorem rowsText_append (next : Nat) (rows : List Row) (first second : List Char) :
    rowsText next rows (first ++ second) = rowsText next rows first ++ second := by
  induction rows with
  | nil =>
      rfl
  | cons row rows ih =>
      rw [rowsText, rowsText, ih, List.append_assoc, List.append_assoc]

end Definitions

section Steps

variable {taken : Taken} {next : Nat} {c : Char} {rest : List Char}

/-- The scanner gets from a key and what stands behind it to the next row. -/
theorem Leads.keyed
    {column : Nat} {key : String} {content : RowContent}
    (hkey : isWord key.toList = true)
    (hcontent : content.isWellFormed = true)
    (hnext : content.allowsNext column next = true)
    (hc : startsToken c = true)
    (stop : Mark)
    (taken : Taken)
    (blankLines : Nat)
    (rest : List Char) :
    Leads stop (2 + content.kinds.length)
      (taken.before column
        (key.toList ++ ':' :: (content.text ++ (lineGap blankLines next ++ c :: rest))))
      ((taken.member .blockMappingStart column
        ([.key, .scalar key true, .value] ++ content.kinds)).before next (c :: rest)) := by
  cases content with
  | below =>
      have hread := Leads.key taken.kinds taken.indents column hkey (fun _ => rfl)
        (fun mark _ => skipFiller_lineGap hc false blankLines next mark rest) stop
      rw [String.ofList_toList] at hread
      simpa [Taken.before, Taken.member, RowContent.kinds, RowContent.text] using hread
  | plain word =>
      have hread := Leads.entry taken.kinds taken.indents hkey hcontent (of_decide_eq_true hnext) hc
        stop blankLines rest
      rw [String.ofList_toList, String.ofList_toList] at hread
      simpa [Taken.before, Taken.member, RowContent.kinds, RowContent.text] using hread
  | quoted word =>
      obtain ⟨outer, houter⟩ := exists_withBlock_eq column taken.indents
      have hdeep : column < column + key.toList.length + 2 := by omega
      have hread := Leads.quoted (taken.kinds ++ blockEnds column taken.indents ++
          opening .blockMappingStart column (openAt column taken.indents) ++
          [.key, .scalar key true, .value]) outer (List.all_eq_true.mp hcontent) hdeep hc stop
        blankLines next rest
      rw [← houter, String.ofList_toList] at hread
      have hgap : ∀ mark : Mark, mark.column = column + key.toList.length + 1 →
          ∃ behind : Mark, behind.column = column + key.toList.length + 2 ∧
            skipFiller false false false (placesFrom mark
                (' ' :: '"' :: (word.toList ++ '"' :: (lineGap blankLines next ++ c :: rest)))) =
              (false, placesFrom behind
                ('"' :: (word.toList ++ '"' :: (lineGap blankLines next ++ c :: rest)))) := by
        intro mark hmark
        exact ⟨mark.forward 1, by rw [Mark.forward, hmark], skipFiller_blank (by decide) mark _⟩
      have hopen := Leads.key taken.kinds taken.indents column hkey (fun _ => rfl) hgap stop
      rw [String.ofList_toList] at hopen
      simpa [Taken.before, Taken.member, RowContent.kinds, RowContent.text]
        using hopen.trans hread

/-- **The scanner gets from one row to the next.** -/
theorem Leads.row
    {row : Row}
    (hrow : row.isWellFormed = true)
    (hnext : row.content.allowsNext row.column next = true)
    (hc : startsToken c = true)
    (stop : Mark) :
    Leads stop row.steps
      (taken.before row.start (row.text ++ (lineGap row.blankLines next ++ c :: rest)))
      ((taken.addRow row).before next (c :: rest)) := by
  rw [Row.isWellFormed, Bool.and_eq_true, Bool.and_eq_true] at hrow
  obtain ⟨⟨hkey, hcontent⟩, hcolumn⟩ := hrow
  have hkeyed := Leads.keyed hkey hcontent hnext hc stop (taken.addDash row) row.blankLines rest
  cases hitem : row.opensItem with
  | false =>
      have htaken : taken.addDash row = taken := if_neg (by rw [hitem]; exact Bool.false_ne_true)
      rw [htaken] at hkeyed
      simpa [Row.steps, Row.start, Row.text, Taken.addRow, htaken, hitem] using hkeyed
  | true =>
      obtain ⟨first, others, hcons, hfirst, -⟩ := exists_cons_of_isWord hkey
      have htwo : row.column - 2 + 2 = row.column := by
        rw [hitem, Bool.not_true, Bool.false_or, decide_eq_true_eq] at hcolumn
        omega
      have hdash := Leads.dash taken.kinds taken.indents (row.column - 2)
        (startsToken_of_isIdentifierChar hfirst) stop
        (others ++ ':' :: (row.content.text ++ (lineGap row.blankLines next ++ c :: rest)))
      have htaken : taken.addDash row =
          taken.member .blockSequenceStart (row.column - 2) [.blockEntry] := if_pos hitem
      rw [htaken, hcons] at hkeyed
      rw [htwo] at hdash
      change Leads stop 1 (taken.before (row.column - 2) _) _ at hdash
      simpa [Row.steps, Row.start, Row.text, Taken.addRow, htaken, hitem, hcons] using
        hdash.trans hkeyed

/-- A row begins with a token. -/
theorem exists_text_eq
    {row : Row}
    (hrow : row.isWellFormed = true) :
    ∃ c cs, row.text = c :: cs ∧ startsToken c = true := by
  rw [Row.isWellFormed, Bool.and_eq_true, Bool.and_eq_true] at hrow
  obtain ⟨first, others, hcons, hfirst, -⟩ := exists_cons_of_isWord hrow.1.1
  cases hitem : row.opensItem with
  | false =>
      refine ⟨first, others ++ ':' :: row.content.text, ?_, startsToken_of_isIdentifierChar hfirst⟩
      simp [Row.text, hitem, hcons]
  | true =>
      refine ⟨'-', ' ' :: (row.key.toList ++ ':' :: row.content.text), ?_, by decide⟩
      simp [Row.text, hitem]

/-- Rows begin with a token if what follows them does. -/
theorem exists_rowsText_eq
    {rows : List Row}
    (hrows : areWellFormed next rows = true)
    (hc : startsToken c = true)
    (rest : List Char) :
    ∃ d ds, rowsText next rows (c :: rest) = d :: ds ∧ startsToken d = true := by
  cases rows with
  | nil =>
      exact ⟨c, rest, rfl, hc⟩
  | cons row rows =>
      rw [areWellFormed, Bool.and_eq_true, Bool.and_eq_true] at hrows
      obtain ⟨d, ds, htext, hd⟩ := exists_text_eq hrows.1.1
      exact ⟨d, ds ++ _, by rw [rowsText, htext, List.cons_append], hd⟩

/-- The scanner at the begin of a text stands before what follows the comments. -/
theorem Scanner.at_before
    {text chars : List Char} {mark : Mark}
    (hcolumn : mark.column = 0)
    (hskip : skipFiller false true false (placesFrom {} text) = (true, placesFrom mark chars)) :
    ({ rest := placesFrom {} text } : Scanner).At (({} : Taken).before 0 chars) :=
  ⟨⟨⟨rfl, rfl, rfl, rfl⟩, rfl⟩, mark, hcolumn, hskip⟩

/-- **The scanner gets to what follows all rows.** -/
theorem Leads.rows
    {rows : List Row}
    (hrows : areWellFormed next rows = true)
    (hc : startsToken c = true)
    (stop : Mark)
    (taken : Taken)
    (rest : List Char) :
    Leads stop (rows.map Row.steps).sum
      (taken.before (startOf next rows) (rowsText next rows (c :: rest)))
      ((rows.foldl Taken.addRow taken).before next (c :: rest)) := by
  induction rows generalizing taken with
  | nil =>
      exact Leads.refl stop _
  | cons row rows ih =>
      rw [areWellFormed, Bool.and_eq_true, Bool.and_eq_true] at hrows
      obtain ⟨⟨hrow, hnext⟩, hrest⟩ := hrows
      have hothers := ih hrest (taken.addRow row)
      obtain ⟨d, ds, hbegins, hd⟩ := exists_rowsText_eq hrest hc rest
      rw [hbegins] at hothers
      rw [List.map_cons, List.sum_cons, List.foldl_cons, rowsText, hbegins]
      exact (Leads.row hrow hnext hd stop).trans hothers

end Steps

end Yaml
end EpaperLayout
