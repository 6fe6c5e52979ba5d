import EpaperLayout.Proofs.Toml.WrittenStrings
import EpaperLayout.Settings.Basic

/-!
# Written settings are read back

The written form of settings is a sequence of headers and pairs, each on a line of its
own, with an empty line before a section.  This module reads such lines one by one,
whatever follows them, and then the whole text of any settings.

**Results.**
* `statements?_rows`: lines that are read as statements are read one after the other.
* `reads_header`, `reads_pair`: headers and pairs are such lines.
* `ofText?_toText`: the written form of settings is read as these settings.
-/

namespace EpaperLayout

namespace Toml

/-- The line is read as the statement, whatever follows it. -/
structure Reads (line : List Char) (statement : Statement) : Prop where
  exists_first : ∃ first rest, line = first :: rest ∧
    isBlank first = false ∧ first ≠ '#' ∧ first ≠ '\n' ∧ first ≠ '\r'
  statement?_eq : ∀ rest, statement? (line ++ '\n' :: rest) = some (statement, '\n' :: rest)

/-- A line with its statement, and whether an empty line stands before it. -/
structure Row where
  gap : Bool
  line : List Char
  statement : Statement

/-- The characters of a row with the line ends. -/
def Row.text (row : Row) : List Char :=
  (if row.gap then ['\n'] else []) ++ (row.line ++ ['\n'])

section Rows

theorem skipLines_of_first
    {first : Char}
    (hblank : isBlank first = false)
    (hcomment : first ≠ '#')
    (hnewline : first ≠ '\n')
    (hreturn : first ≠ '\r')
    (count : Nat)
    (cs : List Char) :
    skipLines count (first :: cs) = some (first :: cs) := by
  cases count with
  | zero =>
      rfl
  | succ count =>
      have hskip : skipBlanks (first :: cs) = first :: cs :=
        List.dropWhile_cons_of_neg (by simp [hblank])
      unfold skipLines
      rw [hskip]
      simp [hcomment, afterLineEnd?_eq_none hnewline hreturn]

theorem skipLines_newline (count : Nat) (cs : List Char) :
    skipLines (count + 1) ('\n' :: cs) = skipLines count cs := by
  rw [skipLines]
  rfl

/-- A row is read off the front of a text. -/
theorem statements?_row
    {row : Row}
    (h : Reads row.line row.statement)
    (count : Nat)
    (rest : List Char) :
    statements? (count + 1) (row.text ++ rest) =
      (statements? count rest).map fun statements => row.statement :: statements := by
  obtain ⟨first, tail, hline, hblank, hcomment, hnewline, hreturn⟩ := h.exists_first
  have hskip : skipLines (row.text ++ rest).length (row.text ++ rest) =
      some (first :: (tail ++ '\n' :: rest)) := by
    cases hgap : row.gap with
    | false =>
        have htext : row.text ++ rest = first :: (tail ++ '\n' :: rest) := by
          simp [Row.text, hgap, hline]
        rw [htext, skipLines_of_first hblank hcomment hnewline hreturn]
    | true =>
        have htext : row.text ++ rest = '\n' :: first :: (tail ++ '\n' :: rest) := by
          simp [Row.text, hgap, hline]
        rw [htext, List.length_cons, skipLines_newline,
          skipLines_of_first hblank hcomment hnewline hreturn]
  have hread := h.statement?_eq rest
  rw [hline, List.cons_append] at hread
  have hend : toLineEnd? ('\n' :: rest) = some ('\n' :: rest) := rfl
  have hdrop : dropLineEnd ('\n' :: rest) = rest := rfl
  rw [statements?, hskip]
  simp only [bind, Option.bind, hread, hend, hdrop]
  cases statements? count rest <;> rfl

/-- **Rows are read one after the other.** -/
theorem statements?_rows
    {rows : List Row} {count : Nat}
    (h : ∀ row ∈ rows, Reads row.line row.statement)
    (hcount : rows.length < count) :
    statements? count (rows.flatMap Row.text) = some (rows.map Row.statement) := by
  induction rows generalizing count with
  | nil =>
      obtain ⟨count, rfl⟩ := Nat.exists_eq_add_one_of_ne_zero (Nat.ne_of_gt hcount)
      rfl
  | cons row rows ih =>
      obtain ⟨count, rfl⟩ :=
        Nat.exists_eq_add_one_of_ne_zero (Nat.ne_of_gt (Nat.zero_lt_of_lt hcount))
      rw [List.flatMap_cons, statements?_row (h row List.mem_cons_self),
        ih (fun other hother => h other (List.mem_cons_of_mem _ hother))
          (Nat.lt_of_succ_lt_succ hcount)]
      rfl

end Rows

section Lines

/-- A key of a written line. -/
def IsKey (key : List Char) : Prop :=
  key ≠ [] ∧ ∀ c ∈ key, isKeyChar c = true

instance : DecidablePred IsKey := fun _ => inferInstanceAs (Decidable (_ ∧ _))

theorem ne_of_isKeyChar
    {c d : Char}
    (h : isKeyChar c = true)
    (hd : isKeyChar d = false) :
    c ≠ d := by
  rintro rfl
  exact Bool.false_ne_true (hd.symm.trans h)

theorem isBlank_of_isKeyChar
    {c : Char}
    (h : isKeyChar c = true) :
    isBlank c = false := by
  rw [isBlank, Bool.or_eq_false_iff, decide_eq_false_iff_not, decide_eq_false_iff_not]
  exact ⟨ne_of_isKeyChar h (by decide), ne_of_isKeyChar h (by decide)⟩

theorem simpleKey?_key
    {key : List Char} {next : Char}
    (h : IsKey key)
    (hnext : isKeyChar next = false)
    (rest : List Char) :
    simpleKey? (key ++ next :: rest) = some (String.ofList key, next :: rest) := by
  obtain ⟨hne, hkey⟩ := h
  have hspan : (key ++ next :: rest).takeWhile isKeyChar = key := by
    rw [List.takeWhile_append_of_pos hkey, List.takeWhile_cons_of_neg (by simp [hnext]),
      List.append_nil]
  have hdrop : (key ++ next :: rest).dropWhile isKeyChar = next :: rest := by
    rw [List.dropWhile_append_of_pos hkey, List.dropWhile_cons_of_neg (by simp [hnext])]
  obtain ⟨first, tail, rfl⟩ := List.exists_cons_of_ne_nil hne
  have hfirst := hkey first List.mem_cons_self
  have hempty : (first :: tail).isEmpty = false := rfl
  unfold simpleKey?
  split
  · next heq => exact absurd (List.cons.inj heq).1 (ne_of_isKeyChar hfirst (by decide))
  · next heq => exact absurd (List.cons.inj heq).1 (ne_of_isKeyChar hfirst (by decide))
  · simp only [hspan, hdrop, hempty]
    rfl

/-- A key is read up to what follows it, if this is no dot. -/
theorem dottedKey?_key
    {key : List Char} {next : Char} {rest after : List Char}
    (h : IsKey key)
    (hnext : isKeyChar next = false)
    (hafter : skipBlanks (next :: rest) = after)
    (hdot : after.head? ≠ some '.')
    (count : Nat) :
    dottedKey? (count + 1) (key ++ next :: rest) = some ([String.ofList key], after) := by
  have hskip : skipBlanks (key ++ next :: rest) = key ++ next :: rest := by
    obtain ⟨first, tail, rfl⟩ := List.exists_cons_of_ne_nil h.1
    exact List.dropWhile_cons_of_neg
      (by simp [isBlank_of_isKeyChar (h.2 first List.mem_cons_self)])
  rw [dottedKey?, hskip, simpleKey?_key h hnext]
  simp only [bind, Option.bind, hafter]
  split
  · next heq => exact absurd rfl hdot
  · rfl

/-- **The header of a section** is read as such. -/
theorem reads_header
    {key : List Char}
    (h : IsKey key) :
    Reads ('[' :: (key ++ [']'])) (.header [String.ofList key]) where
  exists_first := ⟨'[', _, rfl, by decide, by decide, by decide, by decide⟩
  statement?_eq := by
    intro rest
    have hline : '[' :: (key ++ [']']) ++ '\n' :: rest = '[' :: (key ++ ']' :: '\n' :: rest) := by
      simp
    have hskip : skipBlanks (']' :: '\n' :: rest) = ']' :: '\n' :: rest := rfl
    have hkey := dottedKey?_key h (by decide) hskip (by simp)
      (key ++ ']' :: '\n' :: rest).length
    have hheader : headerKey? [']'] (key ++ ']' :: '\n' :: rest) =
        some ([String.ofList key], '\n' :: rest) := by
      rw [headerKey?, hkey]
      rfl
    obtain ⟨first, tail, hfirst⟩ := List.exists_cons_of_ne_nil h.1
    have hbracket : first ≠ '[' :=
      ne_of_isKeyChar (h.2 first (hfirst ▸ List.mem_cons_self)) (by decide)
    rw [hline, statement?]
    · rw [hheader]
      rfl
    · intro after heq
      rw [hfirst] at heq
      exact hbracket (List.cons.inj heq).1

/-- **A key with its value** is read as a pair. -/
theorem reads_pair
    {key written : List Char} {value : Value}
    (h : IsKey key)
    (hfirst : ∃ first tail, written = first :: tail ∧ isBlank first = false)
    (hvalue : ∀ calls rest,
      value? 0 (calls + 1) (written ++ '\n' :: rest) = some (value, '\n' :: rest)) :
    Reads (key ++ ' ' :: '=' :: ' ' :: written) (.pair [String.ofList key] value) where
  exists_first := by
    obtain ⟨first, tail, rfl⟩ := List.exists_cons_of_ne_nil h.1
    have hkey := h.2 first List.mem_cons_self
    exact ⟨first, _, rfl, isBlank_of_isKeyChar hkey, ne_of_isKeyChar hkey (by decide),
      ne_of_isKeyChar hkey (by decide), ne_of_isKeyChar hkey (by decide)⟩
  statement?_eq := by
    intro rest
    obtain ⟨first, tail, hfirst, hblank⟩ := hfirst
    have hline : key ++ ' ' :: '=' :: ' ' :: written ++ '\n' :: rest =
        key ++ ' ' :: '=' :: ' ' :: (written ++ '\n' :: rest) := by
      simp
    have hequals : skipBlanks (' ' :: '=' :: ' ' :: (written ++ '\n' :: rest)) =
        '=' :: ' ' :: (written ++ '\n' :: rest) := rfl
    have hskip : skipBlanks (' ' :: (written ++ '\n' :: rest)) = written ++ '\n' :: rest := by
      have hspace : skipBlanks (' ' :: (written ++ '\n' :: rest)) =
          skipBlanks (written ++ '\n' :: rest) := rfl
      rw [hspace, hfirst]
      exact List.dropWhile_cons_of_neg (by simp [hblank])
    have hkey := dottedKey?_key h (by decide) hequals (by simp)
    obtain ⟨letter, others, hletter⟩ := List.exists_cons_of_ne_nil h.1
    have hbracket : letter ≠ '[' :=
      ne_of_isKeyChar (h.2 letter (hletter ▸ List.mem_cons_self)) (by decide)
    rw [hline]
    unfold statement?
    split
    · next heq =>
      rw [hletter] at heq
      exact absurd (List.cons.inj heq).1 hbracket
    · next heq =>
      rw [hletter] at heq
      exact absurd (List.cons.inj heq).1 hbracket
    · rw [hkey]
      simp only [bind, Option.bind, hskip, hvalue]
      rfl

end Lines

end Toml

namespace Settings

open Toml

section Text

/-- The row of a string, if it is given. -/
def stringRow? (key : String) (text : Option String) : List Row :=
  text.toList.map fun text =>
    { gap := false
      line := key.toList ++ ' ' :: '=' :: ' ' :: (writeString text).toList
      statement := .pair [key] (.string text) }

/-- The row of a header. -/
def headerRow (gap : Bool) (key : String) : Row where
  gap := gap
  line := '[' :: (key.toList ++ [']'])
  statement := .header [key]

/-- The rows of written settings. -/
def rows (settings : Settings) : List Row :=
  let strict := if settings.strict then "true" else "false"
  headerRow false "paths" :: stringRow? "layouts_dir" settings.layoutsDir ++
    (headerRow true "import" ::
      { gap := false
        line := "strict".toList ++ ' ' :: '=' :: ' ' :: strict.toList
        statement := .pair ["strict"] (.boolean settings.strict) } ::
      (stringRow? "device_id" settings.deviceId ++
        (headerRow true "logging" :: stringRow? "level" (some settings.logLevel))))

theorem toList_stringLine? (key : String) (text : Option String) :
    (stringLine? key text).flatMap String.toList = (stringRow? key text).flatMap Row.text := by
  cases text with
  | none => rfl
  | some text => simp [stringLine?, stringRow?, Row.text, toString]

theorem toList_toText (settings : Settings) :
    settings.toText.toList = settings.rows.flatMap Row.text := by
  have hstrict (word : String) : (s!"strict = {word}\n").toList =
      "strict = ".toList ++ (word.toList ++ ['\n']) := by
    simp [toString]
  have hlevel : (s!"level = {writeString settings.logLevel}\n").toList =
      (stringRow? "level" (some settings.logLevel)).flatMap Row.text := by
    simp [stringRow?, Row.text, toString]
  rw [toText, String.toList_join, rows]
  simp only [List.flatMap_append, List.flatMap_cons, List.flatMap_nil, toList_stringLine?, hstrict,
    hlevel]
  simp [Row.text, headerRow]

theorem reads_stringRow?
    {key : String}
    (h : IsKey key.toList)
    (text : Option String) :
    ∀ row ∈ stringRow? key text, Reads row.line row.statement := by
  intro row hrow
  rw [stringRow?, List.mem_map] at hrow
  obtain ⟨text, -, rfl⟩ := hrow
  have hkey : String.ofList key.toList = key := String.ofList_toList
  obtain ⟨quote, tail, hwritten, hquote⟩ := exists_quote_cons_writeString text
  have hblank : isBlank quote = false := by
    rcases hquote with rfl | rfl <;> rfl
  have hpair := reads_pair h ⟨quote, tail, hwritten, hblank⟩ fun calls rest =>
    value?_writeString 0 calls text rest
  rw [hkey] at hpair
  exact hpair

theorem reads_headerRow
    {key : String}
    (h : IsKey key.toList)
    (gap : Bool) :
    Reads (headerRow gap key).line (headerRow gap key).statement := by
  have hheader := reads_header h
  rw [String.ofList_toList] at hheader
  exact hheader

theorem reads_strictRow (value : Bool) :
    Reads ("strict".toList ++ ' ' :: '=' :: ' ' :: (if value then "true" else "false").toList)
      (.pair ["strict"] (.boolean value)) := by
  have hkey : IsKey "strict".toList := by decide
  have hfalse (calls : Nat) (rest : List Char) :
      value? 0 (calls + 1) ("false".toList ++ '\n' :: rest) =
        some (.boolean false, '\n' :: rest) := rfl
  have htrue (calls : Nat) (rest : List Char) :
      value? 0 (calls + 1) ("true".toList ++ '\n' :: rest) =
        some (.boolean true, '\n' :: rest) := rfl
  cases value with
  | false => exact reads_pair hkey ⟨'f', _, rfl, rfl⟩ hfalse
  | true => exact reads_pair hkey ⟨'t', _, rfl, rfl⟩ htrue

theorem reads_rows (settings : Settings) :
    ∀ row ∈ settings.rows, Reads row.line row.statement := by
  intro row hrow
  simp only [rows, List.cons_append, List.mem_cons, List.mem_append] at hrow
  rcases hrow with rfl | hrow | rfl | rfl | hrow | rfl | hrow
  · exact reads_headerRow (by decide) false
  · exact reads_stringRow? (by decide) _ row hrow
  · exact reads_headerRow (by decide) true
  · exact reads_strictRow settings.strict
  · exact reads_stringRow? (by decide) _ row hrow
  · exact reads_headerRow (by decide) true
  · exact reads_stringRow? (by decide) _ row hrow

theorem length_rows_le (rows : List Row) : rows.length ≤ (rows.flatMap Row.text).length := by
  induction rows with
  | nil =>
      exact Nat.le_refl _
  | cons row rows ih =>
      simp only [List.flatMap_cons, List.length_append, List.length_cons, Row.text]
      omega

/-- **Written settings are read back.** -/
theorem ofText?_toText (settings : Settings) :
    ofText? settings.toText = some settings := by
  have hmark : dropByteOrderMark settings.toText.toList = settings.rows.flatMap Row.text := by
    rw [toList_toText]
    rfl
  have hstatements : statements? ((settings.rows.flatMap Row.text).length + 1)
      (settings.rows.flatMap Row.text) = some (settings.rows.map Row.statement) :=
    statements?_rows (reads_rows settings) (Nat.lt_succ_of_le (length_rows_le settings.rows))
  have htable : readTable? settings.toText =
      Entries.ofStatements (settings.rows.map Row.statement) := by
    rw [readTable?]
    simp only [hmark, hstatements, bind, Option.bind]
  rw [ofText?, htable]
  obtain ⟨layoutsDir, strict, deviceId, logLevel⟩ := settings
  cases layoutsDir <;> cases deviceId <;> rfl

end Text

end Settings
end EpaperLayout
