import EpaperLayout.Proofs.Snippet.FieldGrammar

/-!
# Reading back the fields of a marker

A field is *sound* if its key is an identifier and a bare value is a word of
characters that need no quotes.  Sound fields are read back as they were written,
whatever the values between quotes hold.

**Results.**
* `writesFields_flatMap`: sound fields are written by the grammar.
* `readFieldsAfter_flatMap`: sound fields with different keys are read back.
* `ofComment_markerBody`: a marker line is read back as its marker.
* `clean_markerBody`: a marker stays on one line.
-/

namespace EpaperLayout
namespace Snippet

/-- The text of a marker line after its slashes. -/
def markerBody (tag : MarkerTag) (fields : List WrittenField) : List Char :=
  ' ' :: (tag.text.toList ++ fields.flatMap fun field => field.text.toList)

/-- A key that can be read: an identifier. -/
structure IsKey (key : String) : Prop where
  nonempty : key.toList ≠ []
  identifier : ∀ c ∈ key.toList, Text.isIdentifierChar c = true

/-- A value that needs no quotes: a name or a numeral. -/
structure IsBareValue (value : String) : Prop where
  nonempty : value.toList ≠ []
  plain : ∀ c ∈ value.toList, Text.isIdentifierChar c = true ∨ c = '-'

namespace WrittenField

/-- The key of a field with its value. -/
def pair : WrittenField → MarkerField
  | .bare key value => (key, value)
  | .escaped key value => (key, value)

/-- The field can be read back. -/
def Sound : WrittenField → Prop
  | .bare key value => IsKey key ∧ IsBareValue value
  | .escaped key _ => IsKey key

/-- The value of a field as it is written. -/
def valueText : WrittenField → List Char
  | .bare _ value => value.toList
  | .escaped _ value => '"' :: (escapeChars value.toList ++ ['"'])

theorem toList_text (field : WrittenField) :
    field.text.toList = ' ' :: (field.pair.1.toList ++ '=' :: field.valueText) := by
  cases field with
  | bare key value =>
      change ((" " ++ key ++ "=") ++ value).toList = _
      simp [pair, valueText]
  | escaped key value =>
      change ((" " ++ key ++ "=") ++ stringLiteral value).toList = _
      simp [pair, valueText, stringLiteral]

theorem Sound.isKey
    {field : WrittenField}
    (h : field.Sound) :
    IsKey field.pair.1 := by
  cases field with
  | bare key value =>
      exact h.1
  | escaped key value =>
      exact h

end WrittenField

section Characters

theorem isRefusedInBare_of_isIdentifierChar
    {c : Char}
    (h : Text.isIdentifierChar c = true ∨ c = '-') :
    isRefusedInBare c = false := by
  simp only [isRefusedInBare, Bool.or_eq_false_iff, decide_eq_false_iff_not]
  constructor
  · rintro rfl
    revert h
    decide
  · rintro rfl
    revert h
    decide

theorem clean_of_isIdentifierChar
    {cs : List Char}
    (h : ∀ c ∈ cs, Text.isIdentifierChar c = true ∨ c = '-') :
    Clean cs := by
  intro c hc
  obtain ⟨hlow, hhigh⟩ := printable_of_isIdentifierChar (h c hc)
  exact needsOctal_of_printable (by omega) (by omega)

/-- What can follow a field: the end of the marker or the next field. -/
def EndsField (rest : List Char) : Prop :=
  rest = [] ∨ ∃ after, rest = ' ' :: after

theorem EndsField.startsBlank
    {rest : List Char}
    (h : EndsField rest) :
    StartsBlank rest := by
  rcases h with rfl | ⟨after, rfl⟩
  · simp [StartsBlank]
  · simp [StartsBlank, Text.isBlank]

theorem endsField_flatMap (fields : List WrittenField) :
    EndsField (fields.flatMap fun field => field.text.toList) := by
  cases fields with
  | nil =>
      exact Or.inl rfl
  | cons field rest =>
      rw [List.flatMap_cons, WrittenField.toList_text, List.cons_append]
      exact Or.inr ⟨_, rfl⟩

end Characters

section Reading

/-- The value of a sound field is one that is read. -/
theorem WrittenField.Sound.valueText
    {field : WrittenField}
    (hsound : field.Sound) :
    ValueText field.valueText field.pair.2 := by
  cases field with
  | escaped key value =>
      refine ValueText.quoted ((unescapeChars_eq_ok_iff ?_).mp (unescapeChars_escapeChars _))
      exact (closed_escapeChars value.toList).sealed
  | bare key value =>
      obtain ⟨-, hvalue⟩ := hsound
      refine ValueText.bare hvalue.nonempty fun c hc => ?_
      have hrefused := isRefusedInBare_of_isIdentifierChar (hvalue.plain c hc)
      refine ⟨isBlank_of_isIdentifierChar (hvalue.plain c hc), ?_⟩
      simpa [isRefusedInBare] using hrefused

/-- A sound field is one that is read. -/
theorem WrittenField.Sound.fieldText
    {field : WrittenField}
    (hsound : field.Sound) :
    FieldText (field.pair.1.toList ++ '=' :: field.valueText) field.pair where
  key_ne_nil := hsound.isKey.nonempty
  isIdentifierChar := hsound.isKey.identifier
  exists_value := ⟨field.valueText, hsound.valueText, rfl⟩

/-- Sound fields are written by the grammar. -/
theorem writesFields_flatMap
    {fields : List WrittenField}
    (hsound : ∀ field ∈ fields, field.Sound) :
    WritesFields (fields.flatMap fun field => field.text.toList)
      (fields.map WrittenField.pair) := by
  induction fields with
  | nil =>
      exact writesFields_nil_iff.mpr (by simp [IsGap])
  | cons field rest ih =>
      obtain ⟨hfield, hrest⟩ := List.forall_mem_cons.mp hsound
      refine writesFields_cons_iff.mpr ⟨[' '], _, _, ?_, by simp [IsGap, Text.isBlank],
        hfield.fieldText, (endsField_flatMap rest).startsBlank, ih hrest⟩
      rw [List.flatMap_cons, WrittenField.toList_text, List.cons_append, List.singleton_append]

/-- **Sound fields with different keys are read back.** -/
theorem readFieldsAfter_flatMap
    (earlier : List MarkerField)
    {fields : List WrittenField}
    (hsound : ∀ field ∈ fields, field.Sound)
    (hkeys : ((earlier ++ fields.map WrittenField.pair).map Prod.fst).Nodup) :
    readFieldsAfter earlier (fields.flatMap fun field => field.text.toList) =
      .ok (fields.map WrittenField.pair) := by
  rw [List.map_append, List.nodup_append] at hkeys
  obtain ⟨-, hnodup, hdisjoint⟩ := hkeys
  exact readFieldsAfter_eq_ok_iff.mpr ⟨writesFields_flatMap hsound, hnodup,
    fun key hkey hknown => hdisjoint key hknown key hkey rfl⟩

end Reading

section Markers

/-- A marker holds no control characters and no line breaks. -/
theorem clean_markerBody
    {fields : List WrittenField}
    (tag : MarkerTag)
    (hsound : ∀ field ∈ fields, field.Sound) :
    Clean (markerBody tag fields) := by
  have htag : Clean (' ' :: tag.text.toList) := by
    cases tag <;> decide
  refine htag.append ?_
  intro c hc
  obtain ⟨field, hfield, hmem⟩ := List.mem_flatMap.mp hc
  have hequals : Clean ['='] := by decide
  have hquote : Clean ['"'] := by decide
  have hblank : Clean [' '] := by decide
  have hkey : Clean field.pair.1.toList :=
    clean_of_isIdentifierChar fun d hd => Or.inl ((hsound field hfield).isKey.identifier d hd)
  have hvalue : Clean field.valueText := by
    cases field with
    | bare key value =>
        exact clean_of_isIdentifierChar (hsound _ hfield).2.plain
    | escaped key value =>
        exact hquote.append ((clean_escapeChars value.toList).append hquote)
  rw [WrittenField.toList_text] at hmem
  exact (hblank.append (hkey.append (hequals.append hvalue))) c hmem

/-- A marker stays on one line. -/
theorem newline_notMem_markerBody
    {fields : List WrittenField}
    (tag : MarkerTag)
    (hsound : ∀ field ∈ fields, field.Sound) :
    '\n' ∉ markerBody tag fields := by
  intro hmem
  exact Bool.false_ne_true ((clean_markerBody tag hsound _ hmem).symm.trans (by decide))

/-- **A marker line is read back as its marker.** -/
theorem ofComment_markerBody
    {fields : List WrittenField}
    (tag : MarkerTag)
    (hsound : ∀ field ∈ fields, field.Sound)
    (hkeys : (fields.map fun field => field.pair.1).Nodup) :
    Marker.ofComment (markerBody tag fields) =
      some (.ok { tag, fields := fields.map WrittenField.pair }) := by
  have htrim : Text.trimLeft (markerBody tag fields) =
      '@' :: (tag.name.toList ++ fields.flatMap fun field => field.text.toList) := by
    cases tag <;> rfl
  have hends := endsField_flatMap fields
  have hsplit :
      Marker.splitTag? (tag.name.toList ++ fields.flatMap fun field => field.text.toList) =
        some (tag, fields.flatMap fun field => field.text.toList) := by
    have hword : Text.endsWord (fields.flatMap fun field => field.text.toList) = true := by
      rcases hends with hnil | ⟨after, hblank⟩
      · rw [hnil]
        rfl
      · rw [hblank]
        rfl
    cases tag <;> simp [Marker.splitTag?, MarkerTag.all, MarkerTag.name, hword]
  have hnewline :
      (fields.flatMap fun field => field.text.toList).contains '\n' = false := by
    have hnone := newline_notMem_markerBody tag hsound
    rw [markerBody, List.mem_cons, List.mem_append, not_or, not_or] at hnone
    rw [← Bool.not_eq_true, List.contains_iff_mem]
    exact hnone.2.2
  have hread := readFieldsAfter_flatMap [] hsound
    (by simpa [List.map_map, Function.comp_def] using hkeys)
  unfold Marker.ofComment
  simp only [htrim, hsplit, hnewline, Bool.false_eq_true, if_false, readFields, hread]
  rfl

end Markers

end Snippet
end EpaperLayout
