import EpaperLayout.Layout.Exchange
import EpaperLayout.Proofs.Json.PrettyText
import EpaperLayout.Proofs.Snippet.MarkerRoundTrip

/-!
# The exchange form is read back

A record is written as the list of its entries, without those that are left out,
and read by putting each entry into a blank record.  So a record is read back if
every entry is: the argument is made once for all shapes, and each record of a
layout only names its entries.

**Records.**
* `Json.Entry.Fits`: a field of the shape takes what is written for the entry.
* `Json.exists_readMembers_eq`: the members of an object are read entry by entry.
* `Json.Record.read_entries`: so is a whole record.

**Results.**
* `Style.read_draft`, `Widget.read_draft`, `Page.read_draft`, `Device.read_draft`:
  the records of a layout, from the innermost on.
* `Device.ofText_toText`: every device is read back from its text.
-/

namespace EpaperLayout
namespace Json

/-- A field of a record as it is written: its value, unless it is left out, and what reading it
changes. -/
structure Entry (α : Type) where
  key : String
  written : Option Json
  put : α → α

namespace Entry

variable {α β : Type}

/-- The field of the object that is written for the entry. -/
def members (entry : Entry α) : List (String × Json) :=
  field? entry.key entry.written

/-- The field takes what is written, which is left out only if it may be. -/
structure Fits (field : Field α) (entry : Entry α) : Prop where
  key_eq : entry.key = field.key
  required : field.required = true → entry.written.isSome = true
  put_eq : ∀ value, entry.written = some value → ∀ record,
    field.put value.draft record = .ok (entry.put record)

end Entry

section Records

variable {α : Type}

/-- The record after all entries that are written have been put into it. -/
def putAll (entries : List (Entry α)) (record : α) : α :=
  (entries.filter fun entry => entry.written.isSome).foldl (fun record entry => entry.put record)
    record

theorem putAll_cons (entry : Entry α) (rest : List (Entry α)) (record : α) :
    putAll (entry :: rest) record =
      putAll rest (if entry.written.isSome then entry.put record else record) := by
  rw [putAll, List.filter_cons]
  split
  · rfl
  · rfl

/-- A field is found by its key, if no other has the same. -/
theorem find?_key_eq
    {fields : List (Field α)}
    (hkeys : (fields.map Field.key).Nodup)
    {field : Field α}
    (h : field ∈ fields) :
    fields.find? (fun other => other.key == field.key) = some field := by
  induction fields with
  | nil =>
      cases h
  | cons first rest ih =>
      rw [List.map_cons, List.nodup_cons] at hkeys
      rcases List.mem_cons.mp h with rfl | hmem
      · exact List.find?_cons_of_pos (beq_self_eq_true _)
      · rw [List.find?_cons_of_neg, ih hkeys.2 hmem]
        intro heq
        rw [beq_iff_eq] at heq
        exact hkeys.1 (heq ▸ List.mem_map_of_mem hmem)

/-- The members of an object are read entry by entry; `all` are the keys that have been seen. -/
theorem exists_readMembers_eq
    {shape : Record α}
    (hkeys : (shape.fields.map Field.key).Nodup)
    {fields : List (Field α)} {entries : List (Entry α)}
    (hfits : List.Forall₂ Entry.Fits fields entries)
    (hfields : fields.Sublist shape.fields)
    {seen : List String}
    (hseen : ∀ field ∈ fields, field.key ∉ seen)
    (record : α) :
    ∃ all, shape.readMembers seen record (draftFields (entries.flatMap Entry.members)) =
        .ok (all, putAll entries record) ∧
      (∀ key ∈ seen, key ∈ all) ∧
      ∀ field ∈ fields, field.required = true → field.key ∈ all := by
  induction hfits generalizing seen record with
  | nil =>
      exact ⟨seen, rfl, fun _ hkey => hkey, nofun⟩
  | @cons field entry fields entries hfit _ ih =>
      have hrest : fields.Sublist shape.fields := (List.sublist_cons_self _ _).trans hfields
      have hdistinct := hkeys.sublist (hfields.map Field.key)
      rw [List.map_cons, List.nodup_cons] at hdistinct
      rw [List.forall_mem_cons] at hseen
      rw [List.flatMap_cons, Entry.members, putAll_cons]
      cases hwritten : entry.written with
      | none =>
          obtain ⟨all, hall, hseenAll, hkeysAll⟩ := ih hrest hseen.2 record
          refine ⟨all, hall, hseenAll, ?_⟩
          rw [List.forall_mem_cons]
          refine ⟨?_, hkeysAll⟩
          intro hrequired
          have hsome := hfit.required hrequired
          rw [hwritten] at hsome
          cases hsome
      | some value =>
          have hnew : ∀ other ∈ fields, other.key ∉ field.key :: seen := by
            intro other hother hmem
            rcases List.mem_cons.mp hmem with heq | hmem
            · exact hdistinct.1 (heq ▸ List.mem_map_of_mem hother)
            · exact hseen.2 other hother hmem
          obtain ⟨all, hall, hseenAll, hkeysAll⟩ := ih hrest hnew (entry.put record)
          have hfind := find?_key_eq hkeys (hfields.subset List.mem_cons_self)
          have hfresh : seen.contains field.key = false := by
            simpa using hseen.1
          refine ⟨all, ?_, fun key hkey => hseenAll key (List.mem_cons_of_mem _ hkey), ?_⟩
          · change shape.readMembers seen record
              ((some entry.key, value.draft) :: draftFields (entries.flatMap Entry.members)) = _
            rw [Record.readMembers, hfit.key_eq]
            simp only [hfind, hfresh, Bool.false_eq_true, if_false,
              hfit.put_eq value hwritten record]
            exact hall
          · rw [List.forall_mem_cons]
            exact ⟨fun _ => hseenAll _ List.mem_cons_self, hkeysAll⟩

/-- **A record is read back, if its entries fit the fields one by one.** -/
theorem Record.read_entries
    {shape : Record α} {entries : List (Entry α)}
    (hkeys : (shape.fields.map Field.key).Nodup)
    (hfits : List.Forall₂ Entry.Fits shape.fields entries) :
    shape.read (draft (.object (entries.flatMap Entry.members))) =
      .ok (putAll entries shape.blank) := by
  obtain ⟨all, hall, -, hkeysAll⟩ := exists_readMembers_eq hkeys hfits (List.Sublist.refl _)
    (fun _ _ => List.not_mem_nil) shape.blank
  have hnone : shape.fields.find? (fun field => field.required && !all.contains field.key) =
      none := by
    rw [List.find?_eq_none]
    intro field hfield hmissing
    rw [Bool.and_eq_true, Bool.not_eq_true'] at hmissing
    have hmem := hkeysAll field hfield hmissing.1
    rw [← List.contains_iff_mem, hmissing.2] at hmem
    exact Bool.false_ne_true hmem
  simp only [draft, Record.read, hall, hnone]

end Records

section Values

variable {α : Type}

/-- An array of values that are read back is read back. -/
theorem readArray_draft
    {reader : Reader α} {write : α → Json}
    (h : ∀ value, reader (write value).draft = .ok value)
    (values : List α) :
    readArray reader (draft (.array (values.map write))) = .ok values := by
  have hitems : (draftItems (values.map write)).mapM reader = .ok values := by
    induction values with
    | nil =>
        rfl
    | cons value rest ih =>
        rw [List.map_cons, draftItems, List.mapM_cons, h, ih]
        rfl
  rw [draft, readArray]
  simp only [hitems]

theorem readUInt32_draft (value : UInt32) : readUInt32 (draft (.int value.toNat)) = .ok value := by
  have hlt := value.toNat_lt
  rw [draft, readUInt32, readInt_writtenNumeral (by omega) (by omega) (by decide)]
  simp [Except.map]

theorem readUInt16_draft (value : UInt16) : readUInt16 (draft (.int value.toNat)) = .ok value := by
  have hlt := value.toNat_lt
  rw [draft, readUInt16, readInt_writtenNumeral (by omega) (by omega) (by decide)]
  simp [Except.map]

theorem readInt32_draft (value : Int32) : readInt32 (draft (.int value.toInt)) = .ok value := by
  have hlow := value.le_toInt
  have hhigh := value.toInt_lt
  rw [draft, readInt32, readInt_writtenNumeral (by omega) (by omega) (by decide)]
  simp [Except.map]

end Values

section Fields

variable {α β : Type} {key : String} {reader : Reader β}

/-- An entry that is always written fits its field, if its value is read back. -/
theorem Entry.fits_always
    (required : Bool)
    {set : β → α → α} {json : Json} {value : β}
    (h : reader json.draft = .ok value) :
    Entry.Fits (.of key required reader set)
      { key, written := some json, put := set value } := by
  refine ⟨rfl, fun _ => rfl, ?_⟩
  intro other hother record
  rw [← Option.some.inj hother, Field.of]
  simp only [h]
  rfl

/-- So does one that may be left out, if its value is never written as null. -/
theorem Entry.fits_optional
    {set : Option β → α → α} {write : β → Json} {value : Option β}
    (h : ∀ present, reader (write present).draft = .ok present)
    (hnull : ∀ present, (write present).draft ≠ .null) :
    Entry.Fits (.of key false (readOptional reader) set)
      { key, written := value.map write, put := set value } := by
  refine ⟨rfl, nofun, ?_⟩
  intro json hjson record
  obtain ⟨present, rfl, rfl⟩ := Option.map_eq_some_iff.mp hjson
  rw [Field.of]
  simp only [readOptional.eq_2 _ _ (hnull present), h]
  rfl

end Fields

end Json

open Json

theorem Color.read_draft (color : Color) :
    Color.read (draft (.string color.toHex)) = .ok color := by
  have htext : readText (draft (.string color.toHex)) = .ok color.toHex := rfl
  rw [Color.read, htext]
  simp only [bind, Except.bind, Color.ofHex_toHex]
  rfl

theorem WidgetKind.read_draft (kind : WidgetKind) :
    WidgetKind.read (draft (.string kind.name)) = .ok kind := by
  cases kind <;> rfl

/-- The entries of a style. -/
def Style.entries (style : Style) : List (Entry Style) :=
  [{ key := "text", written := style.text.map .string
     put := fun record => { record with text := style.text } },
    { key := "format", written := style.format.map .string
      put := fun record => { record with format := style.format } },
    { key := "icon", written := style.icon.map .string
      put := fun record => { record with icon := style.icon } },
    { key := "font_size", written := style.fontSize.map fun size => .int size.toNat
      put := fun record => { record with fontSize := style.fontSize } },
    { key := "color", written := style.color.map fun color => .string color.toHex
      put := fun record => { record with color := style.color } },
    { key := "min", written := style.min.map fun bound => .int bound.toInt
      put := fun record => { record with min := style.min } },
    { key := "max", written := style.max.map fun bound => .int bound.toInt
      put := fun record => { record with max := style.max } }]

/-- **Styles are read back.** -/
theorem Style.read_draft (style : Style) : Style.shape.read style.toJson.draft = .ok style := by
  have hentries : style.toJson = .object (style.entries.flatMap Entry.members) := by
    simp only [toJson, entries, List.flatMap_cons, List.flatMap_nil, Entry.members,
      List.append_assoc, List.append_nil]
  have hfits : List.Forall₂ Entry.Fits Style.shape.fields style.entries :=
    .cons (Entry.fits_optional (fun _ => rfl) nofun) <|
      .cons (Entry.fits_optional (fun _ => rfl) nofun) <|
      .cons (Entry.fits_optional (fun _ => rfl) nofun) <|
      .cons (Entry.fits_optional readUInt16_draft nofun) <|
      .cons (Entry.fits_optional Color.read_draft nofun) <|
      .cons (Entry.fits_optional readInt32_draft nofun) <|
      .cons (Entry.fits_optional readInt32_draft nofun) .nil
  have hall : putAll style.entries Style.shape.blank = style := by
    obtain ⟨text, format, icon, fontSize, color, min, max⟩ := style
    cases text <;> cases format <;> cases icon <;> cases fontSize <;> cases color <;>
      cases min <;> cases max <;> rfl
  rw [hentries, Record.read_entries (by decide) hfits, hall]

/-- The entries of a widget. -/
def Widget.entries (widget : Widget) : List (Entry Widget) :=
  [{ key := "id", written := some (.string widget.id)
     put := fun record => { record with id := widget.id } },
    { key := "kind", written := some (.string widget.kind.name)
      put := fun record => { record with kind := widget.kind } },
    { key := "dataPoint", written := widget.dataPoint.map .string
      put := fun record => { record with dataPoint := widget.dataPoint } },
    { key := "x", written := some (.int widget.x.toNat)
      put := fun record => { record with x := widget.x } },
    { key := "y", written := some (.int widget.y.toNat)
      put := fun record => { record with y := widget.y } },
    { key := "width", written := some (.int widget.width.toNat)
      put := fun record => { record with width := widget.width } },
    { key := "height", written := some (.int widget.height.toNat)
      put := fun record => { record with height := widget.height } },
    { key := "style", written := some widget.style.toJson
      put := fun record => { record with style := widget.style } }]

/-- **Widgets are read back.** -/
theorem Widget.read_draft (widget : Widget) :
    Widget.shape.read widget.toJson.draft = .ok widget := by
  have hentries : widget.toJson = .object (widget.entries.flatMap Entry.members) := by
    simp only [toJson, entries, List.flatMap_cons, List.flatMap_nil, Entry.members,
      List.append_assoc, List.append_nil]
    rfl
  have hfits : List.Forall₂ Entry.Fits Widget.shape.fields widget.entries :=
    .cons (Entry.fits_always true rfl) <|
      .cons (Entry.fits_always true (WidgetKind.read_draft _)) <|
      .cons (Entry.fits_optional (fun _ => rfl) nofun) <|
      .cons (Entry.fits_always true (readUInt32_draft _)) <|
      .cons (Entry.fits_always true (readUInt32_draft _)) <|
      .cons (Entry.fits_always true (readUInt32_draft _)) <|
      .cons (Entry.fits_always true (readUInt32_draft _)) <|
      .cons (Entry.fits_always false (Style.read_draft _)) .nil
  have hall : putAll widget.entries Widget.shape.blank = widget := by
    obtain ⟨id, kind, dataPoint, x, y, width, height, style⟩ := widget
    cases dataPoint <;> rfl
  rw [hentries, Record.read_entries (by decide) hfits, hall]

/-- The entries of a page. -/
def Page.entries (page : Page) : List (Entry Page) :=
  [{ key := "id", written := some (.string page.id)
     put := fun record => { record with id := page.id } },
    { key := "title", written := some (.string page.title)
      put := fun record => { record with title := page.title } },
    { key := "ordinal", written := some (.int page.ordinal.toNat)
      put := fun record => { record with ordinal := page.ordinal } },
    { key := "widgets", written := some (.array (page.widgets.map Widget.toJson))
      put := fun record => { record with widgets := page.widgets } }]

/-- **Pages are read back.** -/
theorem Page.read_draft (page : Page) : Page.shape.read page.toJson.draft = .ok page := by
  have hfits : List.Forall₂ Entry.Fits Page.shape.fields page.entries :=
    .cons (Entry.fits_always true rfl) <|
      .cons (Entry.fits_always true rfl) <|
      .cons (Entry.fits_always true (readUInt32_draft _)) <|
      .cons (Entry.fits_always false (readArray_draft Widget.read_draft _)) .nil
  exact Record.read_entries (by decide) hfits

/-- The entries of a device. -/
def Device.entries (device : Device) : List (Entry Device) :=
  [{ key := "id", written := some (.string device.id)
     put := fun record => { record with id := device.id } },
    { key := "name", written := some (.string device.name)
      put := fun record => { record with name := device.name } },
    { key := "pages", written := some (.array (device.pages.map Page.toJson))
      put := fun record => { record with pages := device.pages } }]

/-- **Devices are read back.** -/
theorem Device.read_draft (device : Device) :
    Device.shape.read device.toJson.draft = .ok device := by
  have hfits : List.Forall₂ Entry.Fits Device.shape.fields device.entries :=
    .cons (Entry.fits_always true rfl) <|
      .cons (Entry.fits_always true rfl) <|
      .cons (Entry.fits_always false (readArray_draft Page.read_draft _)) .nil
  exact Record.read_entries (by decide) hfits

/-- **Every device is read back from its text.** -/
theorem Device.ofText_toText (device : Device) :
    Device.ofText (device.toText ++ "\n") = .ok device := by
  rw [ofText, toText, readDocument, ofText_pretty]
  simp only [Device.read_draft]
  rfl

end EpaperLayout
