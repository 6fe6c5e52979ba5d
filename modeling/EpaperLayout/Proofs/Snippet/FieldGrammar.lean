import EpaperLayout.Proofs.Snippet.EscapeGrammar
import Mathlib.Data.List.TakeWhile

/-!
# The grammar of marker fields

The texts from which fields are read, and the fields that each of them writes, said
without a reader.

**Grammar.**  A field is a key, an equals sign and a value; a value is a bare word or
escaped text between quotes.  Fields are separated by blanks, and blanks may stand
before the first and behind the last of them.

**Argument.**  The reader takes one field after the other, each with the blanks in
front of it.  Whatever it takes is a field of the grammar, and what follows it is the
end or a blank; so the gap before the next field is not empty.  Conversely a field of
the grammar is taken whole, since neither its key nor a bare value goes on behind its
end, and the first quote behind escaped text closes it.

**Results.**
* `readField_eq_ok_iff`: one field, and what follows it.
* `readFieldsAfter_eq_cons_iff`: one step of the reader.
* `readFields_eq_ok_iff`: exactly the texts of fields with different keys are read, and
  what is read are their keys and values.
-/

namespace EpaperLayout
namespace Snippet

/-- A text of blanks. -/
def IsGap (cs : List Char) : Prop :=
  ∀ c ∈ cs, Text.isBlank c = true

/-- A value as it is written. -/
inductive ValueText : List Char → String → Prop
  | bare {value : String} :
      value.toList ≠ [] →
      (∀ c ∈ value.toList, Text.isBlank c = false ∧ c ≠ '"' ∧ c ≠ '\\') →
      ValueText value.toList value
  | quoted {raw : List Char} {value : String} :
      EscapedBytes raw (Text.encode value.toList) →
      ValueText ('"' :: (raw ++ ['"'])) value

/-- A field as it is written. -/
structure FieldText (text : List Char) (field : MarkerField) : Prop where
  key_ne_nil : field.1.toList ≠ []
  isIdentifierChar : ∀ c ∈ field.1.toList, Text.isIdentifierChar c = true
  exists_value : ∃ value, ValueText value field.2 ∧ text = field.1.toList ++ '=' :: value

/-- Fields as they are written, with blanks between them. -/
inductive SeparatedFields : List Char → List MarkerField → Prop
  | nil :
      SeparatedFields [] []
  | single {text : List Char} {field : MarkerField} :
      FieldText text field →
      SeparatedFields text [field]
  | cons {text gap rest : List Char} {field other : MarkerField} {others : List MarkerField} :
      FieldText text field →
      gap ≠ [] →
      IsGap gap →
      SeparatedFields rest (other :: others) →
      SeparatedFields (text ++ (gap ++ rest)) (field :: other :: others)

/-- A text of fields: blanks may stand before the first and behind the last of them. -/
structure WritesFields (cs : List Char) (fields : List MarkerField) : Prop where
  exists_parts : ∃ before inner after, cs = before ++ (inner ++ after) ∧
    IsGap before ∧ SeparatedFields inner fields ∧ IsGap after

/-- Nothing that goes on with a word follows: the end, or a blank. -/
def StartsBlank (cs : List Char) : Prop :=
  ∀ c ∈ cs.head?, Text.isBlank c = true

section Characters

/-- Identifier characters and minus signs are printable characters of ASCII. -/
theorem printable_of_isIdentifierChar
    {c : Char}
    (h : Text.isIdentifierChar c = true ∨ c = '-') :
    0x2D ≤ c.toNat ∧ c.toNat ≤ 0x7A := by
  simp only [Text.isIdentifierChar, Text.isAlphanumeric, Text.isDigit, Bool.or_eq_true,
    Bool.and_eq_true, decide_eq_true_eq, beq_iff_eq, Char.le_def, UInt32.le_iff_toNat_le] at h
  rcases h with (((⟨hlow, hhigh⟩ | ⟨hlow, hhigh⟩) | ⟨hlow, hhigh⟩) | rfl) | rfl
  · exact ⟨Nat.le_trans (by decide) hlow, Nat.le_trans hhigh (by decide)⟩
  · exact ⟨Nat.le_trans (by decide) hlow, hhigh⟩
  · exact ⟨Nat.le_trans (by decide) hlow, Nat.le_trans hhigh (by decide)⟩
  · exact ⟨by decide, by decide⟩
  · exact ⟨by decide, by decide⟩

theorem isBlank_of_isIdentifierChar
    {c : Char}
    (h : Text.isIdentifierChar c = true ∨ c = '-') :
    Text.isBlank c = false := by
  have hbounds := printable_of_isIdentifierChar h
  simp only [Text.isBlank, Bool.or_eq_false_iff, Bool.and_eq_false_iff, beq_eq_false_iff_ne,
    decide_eq_false_iff_not]
  omega

end Characters

section Spans

/-- A span of characters ends before the first that does not belong to it. -/
theorem span_append
    {p : Char → Bool} {text : List Char} (rest : List Char)
    (htext : ∀ c ∈ text, p c = true)
    (hrest : ∀ c ∈ rest.head?, p c = false) :
    (text ++ rest).takeWhile p = text ∧ (text ++ rest).dropWhile p = rest := by
  rw [List.takeWhile_append_of_pos htext, List.dropWhile_append_of_pos htext]
  cases rest with
  | nil =>
      simp
  | cons c rest =>
      have hc : p c = false := hrest c rfl
      simp [hc]

end Spans

section Values

variable {key value : String} {cs following : List Char}

/-- **What is read as a value is one.** -/
theorem exists_valueText_of_readValue
    (h : readValue key cs = .ok (value, following)) :
    ∃ text, cs = text ++ following ∧ ValueText text value := by
  unfold readValue at h
  split at h
  · next rest =>
    split at h
    · cases h
    · next raw after hsplit =>
      obtain ⟨rfl, hsealed⟩ := splitAtQuote?_eq_some_iff.mp hsplit
      split at h
      · cases h
      · next chars hchars =>
        cases h
        refine ⟨'"' :: (raw ++ ['"']), by simp, ValueText.quoted ?_⟩
        rw [String.toList_ofList]
        exact (unescapeChars_eq_ok_iff hsealed).mp hchars
  · next hquote =>
    dsimp only at h
    split at h
    · cases h
    · next hfind =>
      split at h
      · cases h
      · next hne =>
        cases h
        refine ⟨cs.takeWhile fun c => !Text.isBlank c, List.takeWhile_append_dropWhile.symm, ?_⟩
        generalize hword : (cs.takeWhile fun c => !Text.isBlank c) = word at hne hfind
        suffices hbare : ValueText (String.ofList word).toList (String.ofList word) by
          rwa [String.toList_ofList] at hbare
        refine ValueText.bare ?_ ?_
        · rw [String.toList_ofList]
          simpa using hne
        rw [String.toList_ofList]
        intro c hc
        have hvisible := List.mem_takeWhile_imp (hword ▸ hc)
        have hplain := List.find?_eq_none.mp hfind c hc
        simp only [isRefusedInBare, Bool.or_eq_true, decide_eq_true_eq, not_or] at hplain
        exact ⟨by simpa using hvisible, hplain⟩

/-- **A value is read whole**, if it ends where it cannot go on. -/
theorem readValue_valueText_append
    {text : List Char}
    (h : ValueText text value)
    (hfollowing : StartsBlank following) :
    readValue key (text ++ following) = .ok (value, following) := by
  cases h with
  | quoted hescaped =>
      rename_i raw
      have hread := (unescapeChars_eq_ok_iff hescaped.sealed).mpr hescaped
      rw [List.cons_append, List.append_assoc, List.singleton_append, readValue]
      simp only [hescaped.sealed.splitAtQuote?_eq following, hread, String.ofList_toList]
  | bare hne hplain =>
      obtain ⟨c, rest, hlist⟩ := List.exists_cons_of_ne_nil hne
      have hword : ∀ c ∈ value.toList, (!Text.isBlank c) = true :=
        fun c hc => by simp [(hplain c hc).1]
      have hspan := span_append (p := fun c => !Text.isBlank c) following hword
        (fun c hc => by simp [hfollowing c hc])
      have hfind : value.toList.find? isRefusedInBare = none := by
        rw [List.find?_eq_none]
        intro c hc
        simp [isRefusedInBare, (hplain c hc).2]
      have hempty : value.toList.isEmpty = false := by
        rw [List.isEmpty_eq_false_iff]
        exact hne
      unfold readValue
      split
      · next after heq =>
        rw [hlist] at heq
        have hquote := (hplain c (by rw [hlist]; exact List.mem_cons_self)).2.1
        exact absurd (List.cons.inj heq).1 hquote
      · simp only [hspan.1, hspan.2, hfind, hempty, Bool.false_eq_true, if_false,
          String.ofList_toList]

end Values

section Fields

variable {field : MarkerField} {cs following : List Char}

/-- A field begins with a character of its key. -/
theorem FieldText.exists_cons
    {text : List Char}
    (h : FieldText text field) :
    ∃ c rest, text = c :: rest ∧ Text.isIdentifierChar c = true := by
  obtain ⟨value, -, rfl⟩ := h.exists_value
  obtain ⟨c, rest, hkey⟩ := List.exists_cons_of_ne_nil h.key_ne_nil
  refine ⟨c, rest ++ '=' :: value, by rw [hkey, List.cons_append], ?_⟩
  exact h.isIdentifierChar c (by rw [hkey]; exact List.mem_cons_self)

/-- **One field, and what follows it.** -/
theorem readField_eq_ok_iff :
    readField cs = .ok (field, following) ↔
      StartsBlank following ∧ ∃ text, FieldText text field ∧ cs = text ++ following := by
  constructor
  · intro h
    unfold readField at h
    dsimp only at h
    split at h
    · cases h
    · next hname =>
      split at h
      · next rest hrest =>
        have htext (value : String) (after : List Char)
            (hvalue : readValue (String.ofList (cs.takeWhile Text.isIdentifierChar)) rest =
              .ok (value, after)) :
            ∃ text, FieldText text
              (String.ofList (cs.takeWhile Text.isIdentifierChar), value) ∧
                cs = text ++ after := by
          obtain ⟨written, rfl, hwritten⟩ := exists_valueText_of_readValue hvalue
          refine ⟨cs.takeWhile Text.isIdentifierChar ++ '=' :: written, ⟨?_, ?_, ?_⟩, ?_⟩
          · rw [String.toList_ofList]
            simpa using hname
          · rw [String.toList_ofList]
            exact fun c hc => List.mem_takeWhile_imp hc
          · exact ⟨written, hwritten, by rw [String.toList_ofList]⟩
          · rw [List.append_assoc, List.cons_append, ← hrest, List.takeWhile_append_dropWhile]
        split at h
        · cases h
        · next value hvalue =>
          cases h
          exact ⟨by simp [StartsBlank], htext value [] hvalue⟩
        · next value c after hvalue =>
          split at h
          · next hblank =>
            cases h
            exact ⟨by simpa [StartsBlank] using hblank, htext value _ hvalue⟩
          · cases h
      · cases h
  · rintro ⟨hfollowing, text, hfield, rfl⟩
    obtain ⟨value, hvalue, rfl⟩ := hfield.exists_value
    have hspan := span_append ('=' :: (value ++ following)) hfield.isIdentifierChar
      (fun c hc => by cases hc; decide)
    have hempty : field.1.toList.isEmpty = false := by
      rw [List.isEmpty_eq_false_iff]
      exact hfield.key_ne_nil
    rw [List.append_assoc, List.cons_append]
    unfold readField
    simp only [hspan.1, hspan.2, hempty, Bool.false_eq_true, if_false, String.ofList_toList,
      readValue_valueText_append hvalue hfollowing]
    cases following with
    | nil => rfl
    | cons c rest => exact if_pos (hfollowing c rfl)

end Fields

section Separation

variable {cs : List Char} {field : MarkerField} {others : List MarkerField}

theorem writesFields_nil_iff :
    WritesFields cs [] ↔ IsGap cs := by
  constructor
  · rintro ⟨before, inner, after, rfl, hbefore, hinner, hafter⟩
    cases hinner
    exact List.forall_mem_append.mpr ⟨hbefore, hafter⟩
  · intro h
    exact ⟨[], [], cs, rfl, by simp [IsGap], SeparatedFields.nil, h⟩

/-- A text of fields begins with the first of them. -/
theorem SeparatedFields.exists_append
    {inner : List Char}
    (h : SeparatedFields inner (field :: others)) :
    ∃ text following, inner = text ++ following ∧ FieldText text field := by
  cases h with
  | single hfield => exact ⟨_, [], (List.append_nil _).symm, hfield⟩
  | cons hfield _ _ _ => exact ⟨_, _, rfl, hfield⟩

/-- **The first of several fields.**  It ends at a blank, so there is a gap before the next. -/
theorem writesFields_cons_iff :
    WritesFields cs (field :: others) ↔
      ∃ gap text following, cs = gap ++ (text ++ following) ∧ IsGap gap ∧
        FieldText text field ∧ StartsBlank following ∧ WritesFields following others := by
  constructor
  · rintro ⟨before, inner, after, rfl, hbefore, hinner, hafter⟩
    have hstarts {gap : List Char} (rest : List Char) (hgap : IsGap gap)
        (hrest : gap = [] → rest = []) : StartsBlank (gap ++ rest) := by
      cases gap with
      | nil => simp [StartsBlank, hrest rfl]
      | cons c gap => simpa [StartsBlank] using hgap c List.mem_cons_self
    cases hinner with
    | single hfield =>
        refine ⟨before, inner, after, rfl, hbefore, hfield, ?_, writesFields_nil_iff.mpr hafter⟩
        simpa using hstarts [] hafter fun _ => rfl
    | @cons text gap rest _ _ _ hfield hgap hisGap hrest =>
        refine ⟨before, text, gap ++ (rest ++ after), by simp, hbefore, hfield,
          hstarts (rest ++ after) hisGap fun hnil => absurd hnil hgap, ?_⟩
        exact ⟨gap, rest, after, rfl, hisGap, hrest, hafter⟩
  · rintro ⟨gap, text, _, rfl, hgap, hfield, hstarts, before, inner, after, rfl, hbefore,
      hinner, hafter⟩
    cases others with
    | nil =>
        cases hinner
        exact ⟨gap, text, before ++ after, by simp, hgap, SeparatedFields.single hfield,
          List.forall_mem_append.mpr ⟨hbefore, hafter⟩⟩
    | cons other rest =>
        -- without a blank the next field would go on behind the end of this one
        have hne : before ≠ [] := by
          rintro rfl
          obtain ⟨next, following, rfl, hnext⟩ := hinner.exists_append
          obtain ⟨c, cs, rfl, hc⟩ := hnext.exists_cons
          have hblank : Text.isBlank c = true := hstarts c rfl
          rw [isBlank_of_isIdentifierChar (Or.inl hc)] at hblank
          exact Bool.false_ne_true hblank
        exact ⟨gap, text ++ (before ++ inner), after, by simp, hgap,
          SeparatedFields.cons hfield hne hbefore hinner, hafter⟩

end Separation

section Reading

variable {earlier others fields : List MarkerField} {field : MarkerField} {cs : List Char}

theorem readFieldsAfter_eq_nil_iff :
    readFieldsAfter earlier cs = .ok [] ↔ IsGap cs := by
  have hgap : IsGap cs ↔ Text.trimLeft cs = [] := List.dropWhile_eq_nil_iff.symm
  rw [hgap, readFieldsAfter]
  split
  · next hnil => simp [hnil]
  · next c rest hcons =>
    simp only [hcons, reduceCtorEq, iff_false]
    split
    · simp
    · split
      · simp
      · split <;> simp

/-- **One step of the reader**: the first field is one of the grammar, and its key is new. -/
theorem readFieldsAfter_eq_cons_iff :
    readFieldsAfter earlier cs = .ok (field :: others) ↔
      ∃ gap text following, cs = gap ++ (text ++ following) ∧ IsGap gap ∧
        FieldText text field ∧ StartsBlank following ∧ field.1 ∉ earlier.map Prod.fst ∧
        readFieldsAfter (earlier ++ [field]) following = .ok others := by
  constructor
  · intro h
    rw [readFieldsAfter] at h
    split at h
    · cases h
    · next c rest hcons =>
      split at h
      · cases h
      · next found following hread =>
        split at h
        · cases h
        · next hnew =>
          split at h
          · next others hothers =>
            cases h
            obtain ⟨hstarts, text, hfield, htext⟩ := readField_eq_ok_iff.mp hread
            refine ⟨cs.takeWhile Text.isBlank, text, following, ?_, ?_, hfield, hstarts, ?_,
              hothers⟩
            · rw [← htext, ← hcons]
              exact List.takeWhile_append_dropWhile.symm
            · exact fun c hc => List.mem_takeWhile_imp hc
            · simpa using hnew
          · cases h
  · rintro ⟨gap, text, following, rfl, hgap, hfield, hstarts, hnew, hothers⟩
    obtain ⟨c, rest, rfl, hc⟩ := hfield.exists_cons
    have htrim : Text.trimLeft (gap ++ (c :: rest ++ following)) = c :: (rest ++ following) := by
      refine (span_append (c :: rest ++ following) hgap ?_).2
      rintro _ ⟨⟩
      exact isBlank_of_isIdentifierChar (Or.inl hc)
    have hread : readField (c :: (rest ++ following)) = .ok (field, following) :=
      readField_eq_ok_iff.mpr ⟨hstarts, c :: rest, hfield, rfl⟩
    have hknown : (earlier.any fun known => known.1 == field.1) = false := by
      rw [List.any_eq_false]
      intro known hmem heq
      exact hnew (beq_iff_eq.mp heq ▸ List.mem_map_of_mem hmem)
    rw [readFieldsAfter]
    split
    · next hnil =>
      rw [htrim] at hnil
      cases hnil
    · next c' rest' hcons =>
      rw [htrim] at hcons
      cases hcons
      split
      · next error herror =>
        rw [hread] at herror
        cases herror
      · next found after hfound =>
        rw [hread] at hfound
        cases hfound
        simp only [hknown, Bool.false_eq_true, if_false, hothers]

/-- **What the reader takes** behind some fields: fields whose keys are new. -/
theorem readFieldsAfter_eq_ok_iff :
    readFieldsAfter earlier cs = .ok fields ↔
      WritesFields cs fields ∧ (fields.map Prod.fst).Nodup ∧
        ∀ key ∈ fields.map Prod.fst, key ∉ earlier.map Prod.fst := by
  induction fields generalizing earlier cs with
  | nil =>
      simp [readFieldsAfter_eq_nil_iff, writesFields_nil_iff]
  | cons field others ih =>
      simp only [readFieldsAfter_eq_cons_iff, writesFields_cons_iff, ih, List.map_cons,
        List.nodup_cons, List.forall_mem_cons, List.map_append, List.mem_append,
        List.map_nil, List.mem_singleton, not_or]
      constructor
      · rintro ⟨gap, text, following, hcs, hgap, hfield, hstarts, hnew, hwrites, hnodup, hkeys⟩
        exact ⟨⟨gap, text, following, hcs, hgap, hfield, hstarts, hwrites⟩,
          ⟨fun hmem => (hkeys _ hmem).2 rfl, hnodup⟩, hnew, fun key hkey => (hkeys key hkey).1⟩
      · rintro ⟨⟨gap, text, following, hcs, hgap, hfield, hstarts, hwrites⟩,
          ⟨hother, hnodup⟩, hnew, hkeys⟩
        refine ⟨gap, text, following, hcs, hgap, hfield, hstarts, hnew, hwrites, hnodup, ?_⟩
        intro key hkey
        exact ⟨hkeys key hkey, fun heq => hother (heq ▸ hkey)⟩

/-- **Exactly the texts of fields with different keys are read**, and what is read are
their keys with their values, in their order. -/
theorem readFields_eq_ok_iff :
    readFields cs = .ok fields ↔ WritesFields cs fields ∧ (fields.map Prod.fst).Nodup := by
  unfold readFields
  rw [readFieldsAfter_eq_ok_iff]
  simp

end Reading

end Snippet
end EpaperLayout
