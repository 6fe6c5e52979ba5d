import EpaperLayout.Proofs.Json.WrittenTokens

/-!
# The pretty form of a value is read back

Reading the pretty form of a JSON value gives the draft of that value and stops
where the form ends, at every nesting depth and whatever follows.

**Input.**  A value, the depth at which it is written, and the number that bounds
the recursion of the reader; twice the length of the text is enough.

**Step.**
* `IsReadBack`: the value is read back, at any depth and in front of any text that
  does not continue a numeral.
* `isReadBack_scalar`, `IsReadBack.array`, `IsReadBack.object`: one case for each
  kind of value.

**Run.**
* `isReadBack`: every value is read back, by induction on its tree.
* `ofText_pretty`: so is every written document.
-/

namespace EpaperLayout
namespace Json

mutual

/-- The draft of a value. -/
def draft : Json → Draft
  | .null => .null
  | .bool value => .bool value
  | .int value => .number (writtenNumeral value)
  | .string value => .string (some value)
  | .array items => .array (draftItems items) none
  | .object fields => .object (draftFields fields) none

/-- The drafts of the items of an array. -/
def draftItems : List Json → List Draft
  | [] => []
  | item :: rest => draft item :: draftItems rest

/-- The drafts of the fields of an object. -/
def draftFields : List (String × Json) → List (Option String × Draft)
  | [] => []
  | (key, value) :: rest => (some key, draft value) :: draftFields rest

end

/-- An induction over the tree of a value. -/
theorem inductionOn
    {motive : Json → Prop}
    (scalar : ∀ value : Json, (∀ items, value ≠ .array items) →
      (∀ fields, value ≠ .object fields) → motive value)
    (array : ∀ items : List Json, (∀ item ∈ items, motive item) → motive (.array items))
    (object : ∀ fields : List (String × Json), (∀ field ∈ fields, motive field.2) →
      motive (.object fields)) :
    ∀ value : Json, motive value
  | .null => scalar _ nofun nofun
  | .bool _ => scalar _ nofun nofun
  | .int _ => scalar _ nofun nofun
  | .string _ => scalar _ nofun nofun
  | .array items => array items fun item _ => inductionOn scalar array object item
  | .object fields => object fields fun (_, value) _ => inductionOn scalar array object value
termination_by value => sizeOf value
decreasing_by
  · have hlt := List.sizeOf_lt_of_mem ‹item ∈ items›
    simp only [Json.array.sizeOf_spec]
    omega
  · have hlt := List.sizeOf_lt_of_mem ‹(_, value) ∈ fields›
    simp only [Json.object.sizeOf_spec, Prod.mk.sizeOf_spec] at hlt ⊢
    omega

section Blanks

theorem skipBlanks_lineStart (depth : Nat) (cs : List Char) :
    skipBlanks (lineStart depth ++ cs) = skipBlanks cs := by
  have hblank : ∀ c ∈ lineStart depth, isBlank c = true := by
    intro c hc
    rcases List.mem_cons.mp hc with rfl | hc
    · decide
    · rw [List.eq_of_mem_replicate hc]
      decide
  exact List.dropWhile_append_of_pos hblank

theorem skipBlanks_of_not_isBlank
    {c : Char}
    (h : isBlank c = false)
    (cs : List Char) :
    skipBlanks (c :: cs) = c :: cs :=
  List.dropWhile_cons_of_neg (by rw [h]; exact Bool.false_ne_true)

theorem endsNumeral_lineStart (depth : Nat) (cs : List Char) :
    EndsNumeral (lineStart depth ++ cs) :=
  endsNumeral_cons (by decide) _

/-- A character that begins a value is no blank and separates no items. -/
def StartsValue (c : Char) : Prop :=
  isBlank c = false ∧ c ≠ ']' ∧ c ≠ ','

instance : DecidablePred StartsValue :=
  fun _ => inferInstanceAs (Decidable (_ ∧ _))

theorem startsValue_of_isDigit
    {c : Char}
    (h : Text.isDigit c = true) :
    StartsValue c := by
  refine ⟨?_, ?_, ?_⟩
  · by_contra hblank
    rw [Bool.not_eq_false, isBlank] at hblank
    simp only [Bool.or_eq_true, decide_eq_true_eq] at hblank
    rcases hblank with ((rfl | rfl) | rfl) | rfl <;> cases h
  · rintro rfl
    cases h
  · rintro rfl
    cases h

/-- The pretty form of a value begins with a character of its own. -/
theorem exists_prettyChars_eq_cons (depth : Nat) (value : Json) :
    ∃ c rest, value.prettyChars depth = c :: rest ∧ StartsValue c := by
  cases value with
  | null =>
      exact ⟨'n', "ull".toList, rfl, by decide⟩
  | bool value =>
      cases value with
      | true => exact ⟨'t', "rue".toList, rfl, by decide⟩
      | false => exact ⟨'f', "alse".toList, rfl, by decide⟩
  | int value =>
      change ∃ c rest, value.repr.toList = c :: rest ∧ StartsValue c
      rw [Text.toList_repr_int]
      split
      · obtain ⟨c, rest, heq, hc⟩ := Text.exists_digit_cons_eq_toDigits value.toNat
        exact ⟨c, rest, heq, startsValue_of_isDigit hc⟩
      · exact ⟨_, _, rfl, by decide⟩
  | string value =>
      exact ⟨_, _, rfl, by decide⟩
  | array items =>
      cases items with
      | nil => exact ⟨_, _, rfl, by decide⟩
      | cons item rest => exact ⟨_, _, rfl, by decide⟩
  | object fields =>
      cases fields with
      | nil => exact ⟨_, _, rfl, by decide⟩
      | cons field rest => exact ⟨_, _, rfl, by decide⟩

end Blanks

/-- The value is read back, at any depth and whatever follows. -/
def IsReadBack (value : Json) : Prop :=
  ∀ depth nesting rest, 2 * (value.prettyChars depth).length ≤ nesting → EndsNumeral rest →
    readValue nesting (value.prettyChars depth ++ rest) =
      { draft := value.draft, rest := some rest }

section Scalars

theorem readValue_string (nesting : Nat) (value : String) (rest : List Char) :
    readValue (nesting + 1) (stringChars value ++ rest) =
      { draft := .string (some value), rest := some rest } := by
  rw [stringChars, List.append_assoc, List.singleton_append, List.cons_append, readValue,
    skipBlanks_of_not_isBlank (by decide)]
  simp only
  rw [readString_flatMap]
  simp

theorem readValue_int
    {rest : List Char}
    (h : EndsNumeral rest)
    (nesting : Nat)
    (value : Int) :
    readValue (nesting + 1) (value.repr.toList ++ rest) =
      { draft := .number (writtenNumeral value), rest := some rest } := by
  obtain ⟨c, others, heq, hc⟩ : ∃ c others, value.repr.toList = c :: others ∧
      (c = '-' ∨ Text.isDigit c = true) := by
    rw [Text.toList_repr_int]
    split
    · obtain ⟨c, others, heq, hc⟩ := Text.exists_digit_cons_eq_toDigits value.toNat
      exact ⟨c, others, heq, Or.inr hc⟩
    · exact ⟨_, _, rfl, Or.inl rfl⟩
  have hread := readNumeral_repr h value
  have hblank : isBlank c = false := by
    rcases hc with rfl | hc
    · decide
    · exact (startsValue_of_isDigit hc).1
  -- no other value begins with a minus sign or a digit
  have hother : ∀ d : Char, d ≠ '-' → Text.isDigit d = false → c ≠ d := by
    rintro d hminus hdigit rfl
    rcases hc with hc | hc
    · exact hminus hc
    · rw [hdigit] at hc
      cases hc
  have hstart : (decide (c = '-') || Text.isDigit c) = true := by
    rcases hc with rfl | hc
    · rfl
    · rw [hc, Bool.or_true]
  rw [heq, List.cons_append] at hread ⊢
  rw [readValue, skipBlanks_of_not_isBlank hblank]
  split
  · next hnil => cases hnil
  · next heq => exact absurd (List.cons.inj heq).1 (hother _ (by decide) (by decide))
  · next heq => exact absurd (List.cons.inj heq).1 (hother _ (by decide) (by decide))
  · next heq => exact absurd (List.cons.inj heq).1 (hother _ (by decide) (by decide))
  · next heq => exact absurd (List.cons.inj heq).1 (hother _ (by decide) (by decide))
  · next heq => exact absurd (List.cons.inj heq).1 (hother _ (by decide) (by decide))
  · next heq => exact absurd (List.cons.inj heq).1 (hother _ (by decide) (by decide))
  · next d after _ _ _ _ _ _ heq =>
    obtain ⟨rfl, rfl⟩ := List.cons.inj heq
    rw [if_pos hstart, hread]

/-- **A value without members is read back.** -/
theorem isReadBack_scalar
    {value : Json}
    (harray : ∀ items, value ≠ .array items)
    (hobject : ∀ fields, value ≠ .object fields) :
    IsReadBack value := by
  intro depth nesting rest hnesting hrest
  obtain ⟨nesting, rfl⟩ : ∃ k, nesting = k + 1 := by
    obtain ⟨c, others, heq, -⟩ := exists_prettyChars_eq_cons depth value
    rw [heq, List.length_cons] at hnesting
    exact ⟨nesting - 1, by omega⟩
  cases value with
  | null =>
      rfl
  | bool value =>
      cases value with
      | true => rfl
      | false => rfl
  | int value =>
      exact readValue_int hrest nesting value
  | string value =>
      exact readValue_string nesting value rest
  | array items =>
      exact absurd rfl (harray items)
  | object fields =>
      exact absurd rfl (hobject fields)

end Scalars

section Arrays

/-- An item of an array behind another one. -/
def laterItem (depth : Nat) (item : Json) : List Char :=
  ',' :: (lineStart depth ++ item.prettyChars depth)

theorem prettyItems_cons (depth : Nat) (item : Json) (rest : List Json) :
    prettyItems depth (item :: rest) =
      lineStart depth ++ item.prettyChars depth ++ rest.flatMap (laterItem depth) := by
  induction rest generalizing item with
  | nil =>
      rw [prettyItems, List.flatMap_nil, List.append_nil]
  | cons second others ih =>
      rw [prettyItems, ih, List.flatMap_cons, laterItem]
      · simp only [List.append_assoc, List.cons_append]
      · exact List.cons_ne_nil _ _

theorem endsNumeral_laterItems
    (depth : Nat) (items : List Json) (outer : Nat) (rest : List Char) :
    EndsNumeral (items.flatMap (laterItem depth) ++ (lineStart outer ++ rest)) := by
  cases items with
  | nil => exact endsNumeral_lineStart _ _
  | cons item others => exact endsNumeral_cons (by decide) _

variable {depth nesting : Nat} {item : Json} {after : List Char}

/-- The first item of an array is read in front of the others. -/
theorem readItems_first
    (h : IsReadBack item)
    (hnesting : 2 * (item.prettyChars depth).length ≤ nesting)
    (hafter : EndsNumeral after) :
    readItems (nesting + 1) true (lineStart depth ++ (item.prettyChars depth ++ after)) =
      .cons item.draft (readItems nesting false after) := by
  have hread := h depth nesting after hnesting hafter
  obtain ⟨c, others, heq, hblank, hbracket, hcomma⟩ := exists_prettyChars_eq_cons depth item
  rw [heq, List.cons_append] at hread ⊢
  rw [readItems, skipBlanks_lineStart, skipBlanks_of_not_isBlank hblank]
  split
  · next hnil => cases hnil
  · next heq => exact absurd (List.cons.inj heq).1 hbracket
  · next heq => exact absurd (List.cons.inj heq).1 hcomma
  · rw [if_pos rfl]
    simp only [hread]

/-- So is a later item, with the comma before it. -/
theorem readItems_later
    (h : IsReadBack item)
    (hnesting : 2 * (item.prettyChars depth).length ≤ nesting)
    (hafter : EndsNumeral after) :
    readItems (nesting + 1) false (laterItem depth item ++ after) =
      .cons item.draft (readItems nesting false after) := by
  have hread := h depth nesting after hnesting hafter
  obtain ⟨c, others, heq, hblank, hbracket, -⟩ := exists_prettyChars_eq_cons depth item
  rw [heq, List.cons_append] at hread
  rw [laterItem, heq, List.cons_append, List.append_assoc, List.cons_append, readItems,
    skipBlanks_of_not_isBlank (by decide)]
  simp only [Bool.false_eq_true, if_false]
  rw [skipBlanks_lineStart, skipBlanks_of_not_isBlank hblank]
  split
  · next heq => exact absurd (List.cons.inj heq).1 hbracket
  · rw [hread]

/-- The items behind the first one are read up to the closing bracket. -/
theorem readItems_flatMap
    {items : List Json}
    (h : ∀ item ∈ items, IsReadBack item)
    (hnesting : 2 * (items.flatMap (laterItem depth)).length + 1 ≤ nesting)
    (outer : Nat)
    (rest : List Char) :
    readItems nesting false
        (items.flatMap (laterItem depth) ++ (lineStart outer ++ ']' :: rest)) =
      { members := draftItems items, ending := none, rest := some rest } := by
  induction items generalizing nesting with
  | nil =>
      obtain ⟨nesting, rfl⟩ : ∃ k, nesting = k + 1 := ⟨nesting - 1, by omega⟩
      rw [List.flatMap_nil, List.nil_append, readItems, skipBlanks_lineStart]
      rfl
  | cons item others ih =>
      rw [List.forall_mem_cons] at h
      rw [List.flatMap_cons, List.length_append, laterItem, List.length_cons,
        List.length_append] at hnesting
      obtain ⟨nesting, rfl⟩ : ∃ k, nesting = k + 1 := ⟨nesting - 1, by omega⟩
      rw [List.flatMap_cons, List.append_assoc,
        readItems_later h.1 (by omega) (endsNumeral_laterItems _ others _ _), ih h.2 (by omega)]
      rfl

/-- **An array of values that are read back is read back.** -/
theorem IsReadBack.array
    {items : List Json}
    (h : ∀ item ∈ items, IsReadBack item) :
    IsReadBack (.array items) := by
  intro depth nesting rest hnesting hrest
  cases items with
  | nil =>
      obtain ⟨nesting, rfl⟩ : ∃ k, nesting = k + 2 := by
        have hlength : (prettyChars depth (.array [])).length = 2 := rfl
        exact ⟨nesting - 2, by omega⟩
      rfl
  | cons item others =>
      rw [List.forall_mem_cons] at h
      have htext : prettyChars depth (.array (item :: others)) ++ rest =
          '[' :: (lineStart (depth + 1) ++ (item.prettyChars (depth + 1) ++
            (others.flatMap (laterItem (depth + 1)) ++ (lineStart depth ++ ']' :: rest)))) := by
        rw [prettyChars, prettyItems_cons]
        · simp only [List.cons_append, List.append_assoc, List.nil_append]
        · exact List.cons_ne_nil _ _
      have hlength := congrArg List.length htext
      simp only [List.length_append, List.length_cons] at hlength
      obtain ⟨nesting, rfl⟩ : ∃ k, nesting = k + 2 := ⟨nesting - 2, by omega⟩
      rw [htext, readValue, skipBlanks_of_not_isBlank (by decide)]
      simp only
      rw [readItems_first h.1 (by omega) (endsNumeral_laterItems _ others _ _),
        readItems_flatMap h.2 (by omega)]
      rfl

end Arrays

section Objects

/-- The key of a field and what stands between it and its value. -/
def fieldStart (depth : Nat) (key : String) : List Char :=
  lineStart depth ++ (stringChars key ++ [':', ' '])

/-- A field of an object behind another one. -/
def laterField (depth : Nat) (field : String × Json) : List Char :=
  ',' :: (fieldStart depth field.1 ++ field.2.prettyChars depth)

theorem prettyFields_cons (depth : Nat) (field : String × Json) (rest : List (String × Json)) :
    prettyFields depth (field :: rest) =
      fieldStart depth field.1 ++ field.2.prettyChars depth ++ rest.flatMap (laterField depth) := by
  induction rest generalizing field with
  | nil =>
      rw [prettyFields, List.flatMap_nil, List.append_nil, fieldStart]
      simp only [List.append_assoc, List.cons_append, List.nil_append]
  | cons second others ih =>
      rw [prettyFields, ih, List.flatMap_cons, laterField]
      · simp only [fieldStart, List.append_assoc, List.cons_append, List.nil_append]
      · exact List.cons_ne_nil _ _

theorem endsNumeral_laterFields
    (depth : Nat) (fields : List (String × Json)) (outer : Nat) (rest : List Char) :
    EndsNumeral (fields.flatMap (laterField depth) ++ (lineStart outer ++ rest)) := by
  cases fields with
  | nil => exact endsNumeral_lineStart _ _
  | cons field others => exact endsNumeral_cons (by decide) _

theorem readKey_flatMap (key : String) (after : List Char) :
    readKey (key.toList.flatMap escapeChar ++ '"' :: ':' :: after) = .ok (some key, after) := by
  rw [readKey, readString_flatMap]
  simp only
  rw [skipBlanks_of_not_isBlank (by decide)]
  simp

theorem readValue_blank (nesting : Nat) (cs : List Char) :
    readValue nesting (' ' :: cs) = readValue nesting cs := by
  cases nesting with
  | zero =>
      rfl
  | succ nesting =>
      have hskip : skipBlanks (' ' :: cs) = skipBlanks cs :=
        List.dropWhile_cons_of_pos (by decide)
      rw [readValue, readValue, hskip]

variable {depth nesting : Nat} {field : String × Json} {after : List Char}

/-- The first field of an object is read in front of the others. -/
theorem readFields_first
    (h : IsReadBack field.2)
    (hnesting : 2 * (field.2.prettyChars depth).length ≤ nesting)
    (hafter : EndsNumeral after) :
    readFields (nesting + 1) true
        (fieldStart depth field.1 ++ (field.2.prettyChars depth ++ after)) =
      .cons (some field.1, field.2.draft) (readFields nesting false after) := by
  rw [fieldStart, List.append_assoc, readFields, skipBlanks_lineStart, stringChars]
  simp only [List.append_assoc, List.cons_append, List.nil_append]
  rw [skipBlanks_of_not_isBlank (by decide)]
  simp only [if_true, readKey_flatMap, readValue_blank, h depth nesting after hnesting hafter]

/-- So is a later field, with the comma before it. -/
theorem readFields_later
    (h : IsReadBack field.2)
    (hnesting : 2 * (field.2.prettyChars depth).length ≤ nesting)
    (hafter : EndsNumeral after) :
    readFields (nesting + 1) false (laterField depth field ++ after) =
      .cons (some field.1, field.2.draft) (readFields nesting false after) := by
  rw [laterField, fieldStart, List.cons_append, readFields,
    skipBlanks_of_not_isBlank (by decide)]
  simp only [Bool.false_eq_true, if_false, stringChars, List.append_assoc, List.cons_append,
    List.nil_append]
  rw [skipBlanks_lineStart, skipBlanks_of_not_isBlank (by decide)]
  simp only [readKey_flatMap, readValue_blank, h depth nesting after hnesting hafter]

/-- The fields behind the first one are read up to the closing brace. -/
theorem readFields_flatMap
    {fields : List (String × Json)}
    (h : ∀ field ∈ fields, IsReadBack field.2)
    (hnesting : 2 * (fields.flatMap (laterField depth)).length + 1 ≤ nesting)
    (outer : Nat)
    (rest : List Char) :
    readFields nesting false
        (fields.flatMap (laterField depth) ++ (lineStart outer ++ '}' :: rest)) =
      { members := draftFields fields, ending := none, rest := some rest } := by
  induction fields generalizing nesting with
  | nil =>
      obtain ⟨nesting, rfl⟩ : ∃ k, nesting = k + 1 := ⟨nesting - 1, by omega⟩
      rw [List.flatMap_nil, List.nil_append, readFields, skipBlanks_lineStart]
      rfl
  | cons field others ih =>
      rw [List.forall_mem_cons] at h
      rw [List.flatMap_cons, List.length_append, laterField, List.length_cons,
        List.length_append] at hnesting
      obtain ⟨nesting, rfl⟩ : ∃ k, nesting = k + 1 := ⟨nesting - 1, by omega⟩
      rw [List.flatMap_cons, List.append_assoc,
        readFields_later h.1 (by omega) (endsNumeral_laterFields _ others _ _), ih h.2 (by omega)]
      rfl

/-- **An object of values that are read back is read back.** -/
theorem IsReadBack.object
    {fields : List (String × Json)}
    (h : ∀ field ∈ fields, IsReadBack field.2) :
    IsReadBack (.object fields) := by
  intro depth nesting rest hnesting hrest
  cases fields with
  | nil =>
      obtain ⟨nesting, rfl⟩ : ∃ k, nesting = k + 2 := by
        have hlength : (prettyChars depth (.object [])).length = 2 := rfl
        exact ⟨nesting - 2, by omega⟩
      rfl
  | cons field others =>
      rw [List.forall_mem_cons] at h
      have htext : prettyChars depth (.object (field :: others)) ++ rest =
          '{' :: (fieldStart (depth + 1) field.1 ++ (field.2.prettyChars (depth + 1) ++
            (others.flatMap (laterField (depth + 1)) ++ (lineStart depth ++ '}' :: rest)))) := by
        rw [prettyChars, prettyFields_cons]
        · simp only [List.cons_append, List.append_assoc, List.nil_append]
        · exact List.cons_ne_nil _ _
      have hlength := congrArg List.length htext
      simp only [List.length_append, List.length_cons] at hlength
      obtain ⟨nesting, rfl⟩ : ∃ k, nesting = k + 2 := ⟨nesting - 2, by omega⟩
      rw [htext, readValue, skipBlanks_of_not_isBlank (by decide)]
      simp only
      rw [readFields_first h.1 (by omega) (endsNumeral_laterFields _ others _ _),
        readFields_flatMap h.2 (by omega)]
      rfl

end Objects

/-- **Every value is read back from its pretty form.** -/
theorem isReadBack (value : Json) : IsReadBack value := by
  induction value using inductionOn with
  | scalar value harray hobject => exact isReadBack_scalar harray hobject
  | array items ih => exact IsReadBack.array ih
  | object fields ih => exact IsReadBack.object ih

/-- **A document that holds the pretty form of a value and a line feed is that value.** -/
theorem ofText_pretty (value : Json) :
    Document.ofText (value.pretty ++ "\n") = { root := value.draft, trailing := false } := by
  have htext : (value.pretty ++ "\n").toList = value.prettyChars 0 ++ ['\n'] := by
    rw [String.toList_append, pretty, String.toList_ofList]
    rfl
  have hread := isReadBack value 0 (2 * (value.prettyChars 0 ++ ['\n']).length + 2) ['\n']
    (by rw [List.length_append]; omega) (endsNumeral_cons (by decide) _)
  rw [Document.ofText, htext]
  simp only [hread]
  rfl

end Json
end EpaperLayout
