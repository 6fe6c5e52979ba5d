import EpaperLayout.Proofs.Snippet.WidgetMarkers
import EpaperLayout.Proofs.Snippet.WrittenFields
import EpaperLayout.Proofs.Text.Numerals

/-!
# Layout data through markers

A device, page or widget that is written as the fields of a marker is read back
unchanged.  Strings may hold any characters, and of the style settings any may be
set.

**Results.**
* `sound_widgetFields`, `nodup_widgetFields`: the fields of a widget can be read
  back one by one.
* `ofHex_toHex`: colours are read back from their written form.
* `settingsOf_markerOfWidget`: the settings of a style are read back.
* `widget_markerOfWidget`, `page_markerOfPage`, `device_markerOfDevice`: the data of a
  marker are read back.
-/

namespace EpaperLayout

namespace Color

/-- The digits of a byte are two characters of a colour, and none of them is cut off. -/
theorem exists_hexByte_eq (byte : UInt8) :
    ∃ a b, Text.hexByte byte = [a, b] ∧ channelValue? a b = some byte ∧
      (Text.isBlank a = false ∧ Text.isBlank b = false) ∧
      (a.toNat < 0x80 ∧ b.toNat < 0x80) := by
  have hall : ∀ n : Fin 256,
      (Text.hexByte (UInt8.ofNat n)).length = 2 ∧
        channelValue? ((Text.hexByte (UInt8.ofNat n)).getD 0 '0')
          ((Text.hexByte (UInt8.ofNat n)).getD 1 '0') = some (UInt8.ofNat n) ∧
        (Text.hexByte (UInt8.ofNat n)).all
          (fun c => !Text.isBlank c && decide (c.toNat < 0x80)) = true := by
    decide +kernel
  have hbyte := hall ⟨byte.toNat, byte.toNat_lt⟩
  rw [UInt8.ofNat_toNat] at hbyte
  obtain ⟨hlength, hvalue, hdigits⟩ := hbyte
  obtain ⟨a, b, heq⟩ := List.length_eq_two.mp hlength
  rw [heq] at hvalue hdigits
  simp only [List.all_cons, List.all_nil, Bool.and_true, Bool.and_eq_true, Bool.not_eq_true',
    decide_eq_true_eq] at hdigits
  exact ⟨a, b, heq, hvalue, ⟨hdigits.1.1, hdigits.2.1⟩, hdigits.1.2, hdigits.2.2⟩

/-- **Colours are read back.** -/
theorem ofHex_toHex (color : Color) : ofHex color.toHex = .ok color := by
  obtain ⟨r₁, r₂, hred, hredValue, ⟨-, -⟩, hredAscii⟩ := exists_hexByte_eq color.red
  obtain ⟨g₁, g₂, hgreen, hgreenValue, -, hgreenAscii⟩ := exists_hexByte_eq color.green
  obtain ⟨b₁, b₂, hblue, hblueValue, ⟨-, hlast⟩, hblueAscii⟩ := exists_hexByte_eq color.blue
  have htext : color.toHex.toList = ['#', r₁, r₂, g₁, g₂, b₁, b₂] := by
    simp [toHex, hred, hgreen, hblue]
  have htrim : Text.trim color.toHex.toList = ['#', r₁, r₂, g₁, g₂, b₁, b₂] := by
    have hfirst : Text.isBlank '#' = false := by decide
    simp [htext, Text.trim, Text.trimLeft, Text.trimRight, hfirst, hlast]
  unfold ofHex
  simp only [htrim, dropNumberSign]
  simp [hredAscii, hgreenAscii, hblueAscii, ofSixChars, hredValue, hgreenValue, hblueValue]

end Color

namespace Snippet

section Fields

theorem isKey_styleKey_name (key : StyleKey) : IsKey key.name := by
  cases key <;> exact ⟨by decide, by decide⟩

theorem isBareValue_kind_name (kind : WidgetKind) : IsBareValue kind.name := by
  cases kind <;> exact ⟨by decide, by decide⟩

theorem isIdentifierChar_of_isDigit
    {c : Char}
    (h : Text.isDigit c = true) :
    Text.isIdentifierChar c = true := by
  simp [Text.isIdentifierChar, Text.isAlphanumeric, h]

/-- The digits of a whole number need no quotes. -/
theorem isBareValue_toString (i : Int) : IsBareValue (toString i) := by
  refine ⟨Text.toList_repr_int_ne_nil i, ?_⟩
  intro c hc
  rcases Text.isDigit_or_minus_of_mem_repr hc with hdigit | hminus
  · exact Or.inl (isIdentifierChar_of_isDigit hdigit)
  · exact Or.inr hminus

theorem sound_numberField
    {key : String}
    (h : IsKey key)
    (value : Int) :
    (numberField key value).Sound :=
  ⟨h, isBareValue_toString value⟩

/-- The field of a setting has the name of its key. -/
theorem pair_fst_settingField?
    {style : Style} {key : StyleKey} {field : WrittenField}
    (h : settingField? style key = some field) :
    field.pair.1 = key.name ∧ field.Sound := by
  have hkey := isKey_styleKey_name key
  cases key
  all_goals
    obtain ⟨value, -, rfl⟩ := Option.map_eq_some_iff.mp h
    first
      | exact ⟨rfl, hkey⟩
      | exact ⟨rfl, sound_numberField hkey _⟩

/-- The fields of the settings. -/
def settingFields (style : Style) : List WrittenField :=
  StyleKey.all.filterMap (settingField? style)

theorem sound_widgetFields (widget : Widget) :
    ∀ field ∈ widgetFields widget, field.Sound := by
  have hkeys : ∀ key ∈ ["id", "kind", "data_point", "x", "y", "width", "height"], IsKey key := by
    intro key hkey
    simp only [List.mem_cons, List.not_mem_nil, or_false] at hkey
    rcases hkey with rfl | rfl | rfl | rfl | rfl | rfl | rfl
    all_goals exact ⟨by decide, by decide⟩
  have hpoint : ∀ field ∈ (widget.dataPoint.map (WrittenField.escaped "data_point")).toList,
      field.Sound := by
    intro field hfield
    obtain ⟨point, -, rfl⟩ := Option.map_eq_some_iff.mp (Option.mem_toList.mp hfield)
    exact hkeys "data_point" (by simp)
  have hsettings : ∀ field ∈ settingFields widget.style, field.Sound := by
    intro field hfield
    obtain ⟨key, -, hkey⟩ := List.mem_filterMap.mp hfield
    exact (pair_fst_settingField? hkey).2
  simp only [widgetFields, List.forall_mem_append, List.forall_mem_cons]
  refine ⟨⟨⟨⟨?_, ?_, ?_⟩, hpoint⟩, ?_, ?_, ?_, ?_, ?_⟩, hsettings⟩
  · exact hkeys "id" (by simp)
  · exact ⟨hkeys "kind" (by simp), isBareValue_kind_name widget.kind⟩
  · simp
  · exact sound_numberField (hkeys "x" (by simp)) _
  · exact sound_numberField (hkeys "y" (by simp)) _
  · exact sound_numberField (hkeys "width" (by simp)) _
  · exact sound_numberField (hkeys "height" (by simp)) _
  · simp

theorem map_key_settingFields_sublist (style : Style) (keys : List StyleKey) :
    ((keys.filterMap (settingField? style)).map fun field => field.pair.1).Sublist
      (keys.map StyleKey.name) := by
  induction keys with
  | nil =>
      exact List.Sublist.slnil
  | cons key rest ih =>
      cases hfield : settingField? style key with
      | none =>
          rw [List.filterMap_cons_none hfield, List.map_cons]
          exact ih.cons _
      | some field =>
          rw [List.filterMap_cons_some hfield, List.map_cons, List.map_cons,
            (pair_fst_settingField? hfield).1]
          exact ih.cons_cons _

/-- The keys of a widget's fields are those that a widget marker may have, in their order. -/
theorem map_key_widgetFields_sublist (widget : Widget) :
    ((widgetFields widget).map fun field => field.pair.1).Sublist widgetKeys := by
  have hpoint :
      (((widget.dataPoint.map (WrittenField.escaped "data_point")).toList).map
        fun field => field.pair.1).Sublist ["data_point"] := by
    cases widget.dataPoint with
    | none => exact List.nil_sublist _
    | some point => exact List.Sublist.refl _
  have hsettings := map_key_settingFields_sublist widget.style StyleKey.all
  simp only [widgetFields, List.map_append]
  refine List.Sublist.append ?_ hsettings
  exact ((List.Sublist.refl ["id", "kind"]).append hpoint).append
    (List.Sublist.refl ["x", "y", "width", "height"])

theorem nodup_widgetFields (widget : Widget) :
    ((widgetFields widget).map fun field => field.pair.1).Nodup :=
  (map_key_widgetFields_sublist widget).nodup (by decide)

end Fields

section Reading

/-- The written value of a setting. -/
def settingValue? (style : Style) (key : StyleKey) : Option String :=
  (settingField? style key).map fun field => field.pair.2

theorem styleKey_name_injective : Function.Injective StyleKey.name := by
  intro a b h
  have hread := congrArg StyleKey.ofName h
  rw [StyleKey.ofName_name, StyleKey.ofName_name, Except.ok.injEq] at hread
  exact hread

/-- A setting is found among the fields of some keys if its key is one of them. -/
theorem lookup_settings
    (style : Style)
    {keys : List StyleKey}
    (hkeys : keys.Nodup)
    (key : StyleKey) :
    ((keys.filterMap (settingField? style)).map WrittenField.pair).lookup key.name =
      if key ∈ keys then settingValue? style key else none := by
  induction keys with
  | nil =>
      rfl
  | cons first rest ih =>
      obtain ⟨hfirst, hrest⟩ := List.nodup_cons.mp hkeys
      have ih := ih hrest
      cases hfield : settingField? style first with
      | none =>
          rw [List.filterMap_cons_none hfield, ih]
          by_cases heq : key = first
          · rw [heq, if_neg hfirst, if_pos List.mem_cons_self, settingValue?, hfield]
            rfl
          · simp [heq]
      | some field =>
          rw [List.filterMap_cons_some hfield, List.map_cons]
          obtain ⟨hname, -⟩ := pair_fst_settingField? hfield
          by_cases heq : key = first
          · rw [heq, ← hname, List.lookup_cons_self, if_pos List.mem_cons_self, settingValue?,
              hfield]
            rfl
          · have hne : (key.name == field.pair.1) = false := by
              rw [hname, beq_eq_false_iff_ne]
              exact fun h => heq (styleKey_name_injective h)
            rw [List.lookup_cons, hne]
            simp [ih, heq]

theorem lookup_settings_of_ne
    {style : Style} {name : String}
    (h : ∀ key : StyleKey, key.name ≠ name) :
    ((settingFields style).map WrittenField.pair).lookup name = none := by
  rw [List.lookup_eq_none_iff]
  intro pair hpair
  obtain ⟨field, hfield, rfl⟩ := List.mem_map.mp hpair
  obtain ⟨key, -, hkey⟩ := List.mem_filterMap.mp hfield
  rw [(pair_fst_settingField? hkey).1, bne_iff_ne]
  exact (h key).symm

/-- The target with the setting of a key from the source, if the source has one. -/
def copySetting (source target : Style) : StyleKey → Style
  | .text => { target with text := source.text.or target.text }
  | .format => { target with format := source.format.or target.format }
  | .icon => { target with icon := source.icon.or target.icon }
  | .fontSize => { target with fontSize := source.fontSize.or target.fontSize }
  | .color => { target with color := source.color.or target.color }
  | .min => { target with min := source.min.or target.min }
  | .max => { target with max := source.max.or target.max }

theorem copySetting_of_none
    {source : Style} {key : StyleKey}
    (h : settingValue? source key = none)
    (target : Style) :
    copySetting source target key = target := by
  rw [settingValue?, Option.map_eq_none_iff] at h
  cases key
  all_goals
    have hnone := Option.map_eq_none_iff.mp h
    simp [copySetting, hnone]

/-- The written value of a setting is read back. -/
theorem readSetting_settingValue?
    {source : Style} {key : StyleKey} {raw : String}
    (h : settingValue? source key = some raw)
    (target : Style) :
    Marker.readSetting target key raw = .ok (copySetting source target key) := by
  obtain ⟨field, hfield, rfl⟩ := Option.map_eq_some_iff.mp h
  cases key
  all_goals
    obtain ⟨value, hvalue, rfl⟩ := Option.map_eq_some_iff.mp hfield
  case text =>
    simp [Marker.readSetting, copySetting, hvalue, WrittenField.pair]
  case format =>
    simp [Marker.readSetting, copySetting, hvalue, WrittenField.pair]
  case icon =>
    simp [Marker.readSetting, copySetting, hvalue, WrittenField.pair]
  case fontSize =>
    have hread : Text.uint16? (toString (value.toNat : Int)).toList = some value := by
      simp [Text.uint16?_toDigits]
    simp only [Marker.readSetting, Marker.numberOf, numberField, WrittenField.pair, hread]
    simp [copySetting, hvalue, Except.map]
  case color =>
    simp [Marker.readSetting, copySetting, hvalue, WrittenField.pair, Color.ofHex_toHex]
  case min =>
    have hread : Text.int32? (toString value.toInt).toList = some value :=
      Text.int32?_repr value
    simp only [Marker.readSetting, Marker.numberOf, numberField, WrittenField.pair, hread]
    simp [copySetting, hvalue, Except.map]
  case max =>
    have hread : Text.int32? (toString value.toInt).toList = some value :=
      Text.int32?_repr value
    simp only [Marker.readSetting, Marker.numberOf, numberField, WrittenField.pair, hread]
    simp [copySetting, hvalue, Except.map]

/-- Reading settings copies them, key by key. -/
theorem settingsOf_eq_foldl
    {value? : String → Option String} {keys : List StyleKey}
    (source : Style)
    (h : ∀ key ∈ keys, value? key.name = settingValue? source key)
    (target : Style) :
    settingsOf value? target keys = .ok (keys.foldl (copySetting source) target) := by
  induction keys generalizing target with
  | nil =>
      rfl
  | cons key rest ih =>
      have hrest : ∀ other ∈ rest, value? other.name = settingValue? source other := by
        intro other hother
        exact h other (List.mem_cons_of_mem _ hother)
      have hset : Marker.withSetting target key (settingValue? source key) =
          .ok (copySetting source target key) := by
        cases hvalue : settingValue? source key with
        | none => rw [copySetting_of_none hvalue, Marker.withSetting]
        | some raw => exact readSetting_settingValue? hvalue target
      rw [settingsOf, h key List.mem_cons_self, hset, List.foldl_cons]
      exact ih hrest _

theorem foldl_copySetting_all (source : Style) :
    StyleKey.all.foldl (copySetting source) {} = source := by
  cases source
  simp [StyleKey.all, copySetting]

end Reading

section Data

/-- The marker of a widget. -/
def markerOfWidget (widget : Widget) : Marker where
  tag := .widget
  fields := (widgetFields widget).map WrittenField.pair

/-- The marker of a page. -/
def markerOfPage (page : Page) : Marker where
  tag := .page
  fields := [("id", page.id), ("title", page.title)]

/-- The marker of a device. -/
def markerOfDevice (device : Device) : Marker where
  tag := .device
  fields := [("id", device.id), ("name", device.name)]

theorem get?_markerOfWidget (widget : Widget) (key : String) :
    (markerOfWidget widget).get? key =
      ((((([("id", widget.id), ("kind", widget.kind.name)].lookup key).or
        ((widget.dataPoint.map fun point => ("data_point", point)).toList.lookup key)).or
        ([("x", toString (widget.x.toNat : Int)), ("y", toString (widget.y.toNat : Int)),
          ("width", toString (widget.width.toNat : Int)),
          ("height", toString (widget.height.toNat : Int))].lookup key))).or
        (((settingFields widget.style).map WrittenField.pair).lookup key)) := by
  have hpoint :
      ((widget.dataPoint.map (WrittenField.escaped "data_point")).toList).map WrittenField.pair =
        (widget.dataPoint.map fun point => ("data_point", point)).toList := by
    cases widget.dataPoint <;> rfl
  rw [Marker.get?, markerOfWidget, widgetFields, List.map_append, List.map_append,
    List.map_append, List.lookup_append, List.lookup_append, List.lookup_append, hpoint]
  rfl

theorem mem_widgetKeys_of_mem_markerOfWidget
    (widget : Widget)
    {key : String}
    (h : key ∈ (markerOfWidget widget).fields.map Prod.fst) :
    key ∈ widgetKeys := by
  refine (map_key_widgetFields_sublist widget).subset ?_
  obtain ⟨_, hpair, rfl⟩ := List.mem_map.mp h
  obtain ⟨field, hfield, rfl⟩ := List.mem_map.mp hpair
  exact List.mem_map_of_mem hfield

theorem settingsOf_markerOfWidget (widget : Widget) :
    settingsOf (markerOfWidget widget).get? {} StyleKey.all = .ok widget.style := by
  rw [settingsOf_eq_foldl widget.style, foldl_copySetting_all]
  intro key hkey
  have hbase : ∀ name ∈ ["id", "kind", "data_point", "x", "y", "width", "height"],
      (key.name == name) = false := by
    cases key <;> decide
  have hkeys : StyleKey.all.Nodup := by decide
  have hsettings := lookup_settings widget.style hkeys key
  rw [if_pos hkey] at hsettings
  rw [get?_markerOfWidget, settingFields, hsettings]
  have hpoint :
      (widget.dataPoint.map fun point => ("data_point", point)).toList.lookup key.name = none := by
    cases widget.dataPoint with
    | none => rfl
    | some point => simp [List.lookup_cons, hbase "data_point" (by simp)]
  rw [hpoint]
  simp [List.lookup_cons, hbase "id" (by simp), hbase "kind" (by simp), hbase "x" (by simp),
    hbase "y" (by simp), hbase "width" (by simp), hbase "height" (by simp)]

/-- **Widgets are read back.** -/
theorem widget_markerOfWidget (widget : Widget) :
    (markerOfWidget widget).widget = .ok widget := by
  have hnone : ∀ name ∈ ["id", "kind", "data_point", "x", "y", "width", "height"],
      ((settingFields widget.style).map WrittenField.pair).lookup name = none := by
    intro name hname
    refine lookup_settings_of_ne ?_
    intro key heq
    rw [← heq] at hname
    revert hname
    cases key <;> decide
  have hkeys : ((markerOfWidget widget).fields.map Prod.fst).Nodup := by
    rw [markerOfWidget, List.map_map]
    exact nodup_widgetFields widget
  refine (widget_eq_ok_iff hkeys).mpr ⟨?_, ?_, ?_, ?_, settingsOf_markerOfWidget widget,
    fun key => mem_widgetKeys_of_mem_markerOfWidget widget⟩
  · rw [get?_markerOfWidget]
    rfl
  · rw [get?_markerOfWidget]
    rfl
  · rw [get?_markerOfWidget, hnone _ (by simp)]
    cases widget.dataPoint <;> rfl
  · intro pair hpair
    refine ⟨toString (pair.2.toNat : Int), ?_, by simp [Text.uint32?_toDigits]⟩
    rw [get?_markerOfWidget]
    simp only [List.mem_cons, List.not_mem_nil, or_false] at hpair
    rcases hpair with rfl | rfl | rfl | rfl
    all_goals cases widget.dataPoint <;> rfl

/-- The identifier of a page is read back unless it is blank. -/
theorem page_markerOfPage_eq (page : Page) :
    (markerOfPage page).page =
      if Text.isBlankText page.id then .error .blankPageId
      else .ok { id := page.id, title := page.title } := by
  change Except.map Prod.fst
    ((if Text.isBlankText page.id then _ else _ : Marker.Reader PageIdentity) _) = _
  split <;> rfl

/-- **Pages are read back.** -/
theorem page_markerOfPage
    {page : Page}
    (h : Text.isBlankText page.id = false) :
    (markerOfPage page).page = .ok { id := page.id, title := page.title } := by
  rw [page_markerOfPage_eq, h]
  rfl

/-- **Devices are read back.** -/
theorem device_markerOfDevice (device : Device) :
    (markerOfDevice device).device = .ok { id := some device.id, name := some device.name } :=
  rfl

end Data

end Snippet
end EpaperLayout
