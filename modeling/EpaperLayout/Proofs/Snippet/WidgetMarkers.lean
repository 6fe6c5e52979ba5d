import EpaperLayout.Proofs.Success
import EpaperLayout.Snippet.MarkerData
import Mathlib.Tactic

/-!
# Which fields describe a widget

A widget is read from a list of fields by taking out one after the other; what is left
over at last is an error.

**Input.**  Fields with pairwise different keys, in any order.

**Condition.**  `DescribesWidget` asks for six keys, refuses keys that no widget has,
and asks of some values that they can be read.  It speaks of the fields as a set.

**Argument.**  With different keys the fields that are left are those whose keys were
not taken, so a reader sees what it would see in the whole marker: `Takes` says this of
a reader, and it goes from the parts of a reader to the reader.  A value is found by
its key exactly if the two are one of the fields, so what is read depends on the set
of fields only.  Each setting of the style is read on its own; whether its value can be
read does not depend on the settings read before.

**Results.**
* `get?_eq_some_iff`: looking up a key finds the field with the key.
* `takes_take?`, `Takes.bind`: what taking out leaves behind, one field and then more.
* `exists_settingsOf_iff`: the settings are read if each value can be.
* `widget_eq_ok_iff`: what is read as a widget, field by field.
* `describesWidget_iff_and_widget_perm`: exactly the fields that describe a widget are
  read as one, and their order does not matter.
-/

namespace EpaperLayout

theorem WidgetKind.ofName_eq_ok_iff
    {s : String} {kind : WidgetKind} :
    ofName s = .ok kind ↔ s = kind.name := by
  constructor
  · intro h
    unfold ofName at h
    split at h
    · next found hfound =>
      cases h
      have hname := List.find?_some hfound
      exact (beq_iff_eq.mp hname).symm
    · cases h
  · rintro rfl
    exact ofName_name kind

namespace Snippet

/-- The values that a setting can have. -/
def IsSettingValue (raw : String) : StyleKey → Prop
  | .text => True
  | .format => True
  | .icon => True
  | .fontSize => ∃ size, Text.uint16? raw.toList = some size
  | .color => ∃ color, Color.ofHex raw = .ok color
  | .min => ∃ bound, Text.int32? raw.toList = some bound
  | .max => ∃ bound, Text.int32? raw.toList = some bound

/-- Fields that say what a widget is, and nothing else. -/
structure DescribesWidget (fields : List MarkerField) : Prop where
  present : ∀ key ∈ ["id", "kind", "x", "y", "width", "height"], key ∈ fields.map Prod.fst
  known : ∀ key ∈ fields.map Prod.fst,
    key ∈ ["id", "kind", "x", "y", "width", "height", "data_point"] ∨
      ∃ style : StyleKey, key = style.name
  kind : ∀ value, ("kind", value) ∈ fields → ∃ kind : WidgetKind, value = kind.name
  geometry : ∀ key ∈ ["x", "y", "width", "height"], ∀ value, (key, value) ∈ fields →
    ∃ number, Text.uint32? value.toList = some number
  setting : ∀ (key : StyleKey) (value : String), (key.name, value) ∈ fields →
    IsSettingValue value key

section Lookup

variable {marker : Marker}

/-- **Looking up a key finds the field with the key.** -/
theorem get?_eq_some_iff
    (hkeys : (marker.fields.map Prod.fst).Nodup)
    {key value : String} :
    marker.get? key = some value ↔ (key, value) ∈ marker.fields := by
  rw [Marker.get?, List.lookup_eq_some_iff]
  constructor
  · rintro ⟨before, after, hfields, -⟩
    rw [hfields]
    exact List.mem_append_right _ List.mem_cons_self
  · intro hmem
    obtain ⟨before, after, hfields⟩ := List.append_of_mem hmem
    refine ⟨before, after, hfields, ?_⟩
    intro pair hpair
    rw [hfields, List.map_append, List.nodup_append] at hkeys
    rw [bne_iff_ne]
    rintro rfl
    have hbehind : pair.1 ∈ ((pair.1, value) :: after).map Prod.fst := by simp
    exact hkeys.2.2 pair.1 (List.mem_map_of_mem hpair) pair.1 hbehind rfl

/-- A key that some field has is found. -/
theorem exists_get?_of_mem
    (hkeys : (marker.fields.map Prod.fst).Nodup)
    {key : String}
    (h : key ∈ marker.fields.map Prod.fst) :
    ∃ value, marker.get? key = some value ∧ (key, value) ∈ marker.fields := by
  obtain ⟨⟨_, value⟩, hmem, rfl⟩ := List.mem_map.mp h
  exact ⟨value, (get?_eq_some_iff hkeys).mpr hmem, hmem⟩

/-- **What is looked up does not depend on the order of the fields.** -/
theorem get?_of_perm
    (tag : MarkerTag)
    {fields other : List MarkerField}
    (hkeys : (fields.map Prod.fst).Nodup)
    (hperm : other.Perm fields)
    (key : String) :
    Marker.get? { tag, fields := other } key = Marker.get? { tag, fields } key := by
  have hother : (other.map Prod.fst).Nodup := (hperm.map Prod.fst).nodup_iff.mpr hkeys
  refine Option.ext fun value => ?_
  rw [get?_eq_some_iff hother, get?_eq_some_iff hkeys]
  exact hperm.mem_iff

end Lookup

section Taking

variable {α β : Type} {marker : Marker} {key : String} {taken now : List String}

/-- What is left of a marker when all fields with some keys were taken. -/
def Marker.left (marker : Marker) (taken : List String) : Marker :=
  { marker with fields := marker.fields.filter fun field => field.1 ∉ taken }

theorem left_nil (marker : Marker) : marker.left [] = marker := by
  simp [Marker.left]

theorem nodup_left
    (hkeys : (marker.fields.map Prod.fst).Nodup)
    (taken : List String) :
    ((marker.left taken).fields.map Prod.fst).Nodup :=
  hkeys.sublist (List.filter_sublist.map Prod.fst)

/-- A key that was not taken is found as before. -/
theorem get?_left
    (hkeys : (marker.fields.map Prod.fst).Nodup)
    (hkey : key ∉ taken) :
    (marker.left taken).get? key = marker.get? key := by
  refine Option.ext fun value => ?_
  rw [get?_eq_some_iff (nodup_left hkeys taken), get?_eq_some_iff hkeys]
  simp [Marker.left, hkey]

/-- With different keys, taking one field out takes out all with its key. -/
theorem eraseP_eq_filter
    {fields : List MarkerField}
    (hkeys : (fields.map Prod.fst).Nodup) :
    fields.eraseP (fun field => field.1 == key) = fields.filter fun field => field.1 != key := by
  induction fields with
  | nil =>
      rfl
  | cons field rest ih =>
      rw [List.map_cons, List.nodup_cons] at hkeys
      by_cases hfield : field.1 = key
      · have hrest : ∀ other ∈ rest, (other.1 != key) = true := by
          intro other hother
          rw [bne_iff_ne, ← hfield]
          intro heq
          exact hkeys.1 (heq ▸ List.mem_map_of_mem hother)
        rw [List.eraseP_cons_of_pos (by simpa using hfield),
          List.filter_cons_of_neg (by simpa using hfield), List.filter_eq_self.mpr hrest]
      · rw [List.eraseP_cons_of_neg (by simpa using hfield),
          List.filter_cons_of_pos (by simpa using hfield), ih hkeys.2]

theorem without_left
    (hkeys : (marker.fields.map Prod.fst).Nodup) :
    (marker.left taken).without key = marker.left (taken ++ [key]) := by
  rw [Marker.without, eraseP_eq_filter (nodup_left hkeys taken)]
  simp only [Marker.left, List.filter_filter]
  congr 1
  refine List.filter_congr fun field _ => ?_
  by_cases hfield : field.1 = key <;> simp [hfield]

/-- From what is left the reader takes more, and it yields exactly the possible values. -/
def Takes (reader : Marker.Reader α) (marker : Marker) (taken now : List String)
    (Possible : α → Prop) : Prop :=
  ∀ value later, reader (marker.left taken) = .ok (value, later) ↔
    Possible value ∧ later = marker.left now

theorem takes_pure (value : α) (marker : Marker) (taken : List String) :
    Takes (pure value) marker taken taken (· = value) := by
  intro result later
  change Except.ok (value, marker.left taken) = _ ↔ _
  rw [Except.ok.injEq, Prod.mk.injEq, eq_comm, @eq_comm _ later]

/-- **Readers one after the other** take what the first one takes, and then what the rest takes. -/
theorem Takes.bind
    {between : List String} {first : Marker.Reader α} {rest : α → Marker.Reader β}
    {Possible : α → Prop} {Then : α → β → Prop}
    (hfirst : Takes first marker taken between Possible)
    (hrest : ∀ value, Takes (rest value) marker between now (Then value)) :
    Takes (first >>= rest) marker taken now fun result =>
      ∃ value, Possible value ∧ Then value result := by
  intro result later
  change (first (marker.left taken) >>= fun pair => rest pair.1 pair.2) = _ ↔ _
  rw [bind_eq_ok_iff]
  constructor
  · rintro ⟨⟨value, between⟩, hvalue, hresult⟩
    obtain ⟨hpossible, rfl⟩ := (hfirst value between).mp hvalue
    obtain ⟨hthen, hlater⟩ := (hrest value result later).mp hresult
    exact ⟨⟨value, hpossible, hthen⟩, hlater⟩
  · rintro ⟨⟨value, hpossible, hthen⟩, hlater⟩
    exact ⟨_, (hfirst value _).mpr ⟨hpossible, rfl⟩, (hrest value result later).mpr ⟨hthen, hlater⟩⟩

/-- What the values are may be said in another way. -/
theorem Takes.congr
    {reader : Marker.Reader α} {Possible Other : α → Prop}
    (h : Takes reader marker taken now Possible)
    (hiff : ∀ value, Possible value ↔ Other value) :
    Takes reader marker taken now Other :=
  fun value later => (h value later).trans (and_congr_left' (hiff value))

/-- **Taking one field out** yields what is found in the whole marker. -/
theorem takes_take?
    (hkeys : (marker.fields.map Prod.fst).Nodup)
    (hkey : key ∉ taken) :
    Takes (Marker.take? key) marker taken (taken ++ [key]) (· = marker.get? key) := by
  intro value later
  rw [Marker.take?, get?_left hkeys hkey, without_left hkeys, Except.ok.injEq, Prod.mk.injEq,
    eq_comm, @eq_comm _ later]

/-- A value that is made of what was read takes nothing more. -/
theorem takes_lift
    {made : Except DataError α}
    (marker : Marker)
    (taken : List String) :
    Takes (liftM made) marker taken taken fun value => made = .ok value := by
  intro value later
  cases made with
  | error error => exact ⟨nofun, fun h => nomatch h.1⟩
  | ok found =>
      change Except.ok (found, marker.left taken) = _ ↔ Except.ok found = _ ∧ _
      rw [Except.ok.injEq, Except.ok.injEq, Prod.mk.injEq, @eq_comm _ later]

theorem takes_present (value? : Option String) (marker : Marker) (taken : List String) :
    Takes (Marker.present key value?) marker taken taken (value? = some ·) := by
  cases value? with
  | some value => exact (takes_pure value _ _).congr fun _ => by rw [Option.some.injEq, eq_comm]
  | none => exact fun _ _ => ⟨nofun, fun h => nomatch h.1⟩

theorem takes_require
    (hkeys : (marker.fields.map Prod.fst).Nodup)
    (hkey : key ∉ taken) :
    Takes (Marker.require key) marker taken (taken ++ [key]) (marker.get? key = some ·) := by
  refine ((takes_take? hkeys hkey).bind fun value? => takes_present value? _ _).congr fun _ => ?_
  rw [exists_eq_left]

theorem numberOf_eq_ok_iff
    {read? : List Char → Option α} {raw : String} {number : α} :
    Marker.numberOf read? key raw = .ok number ↔ read? raw.toList = some number := by
  unfold Marker.numberOf
  split
  · next found hfound => rw [hfound, Except.ok.injEq, Option.some.injEq]
  · next hnone => simp [hnone]

theorem takes_requireNumber
    (hkeys : (marker.fields.map Prod.fst).Nodup)
    (hkey : key ∉ taken) :
    Takes (Marker.requireNumber key) marker taken (taken ++ [key]) fun number =>
      ∃ raw, marker.get? key = some raw ∧ Text.uint32? raw.toList = some number := by
  refine ((takes_require hkeys hkey).bind fun raw => takes_lift _ _).congr fun number => ?_
  simp only [numberOf_eq_ok_iff]

theorem kindOf_eq_ok_iff
    {raw : String} {kind : WidgetKind} :
    Marker.kindOf raw = .ok kind ↔ raw = kind.name := by
  rw [← WidgetKind.ofName_eq_ok_iff]
  unfold Marker.kindOf
  split
  · next found hfound => rw [hfound, Except.ok.injEq, Except.ok.injEq]
  · next unknown hunknown => simp [hunknown]

theorem takes_requireKind
    (hkeys : (marker.fields.map Prod.fst).Nodup)
    (hkey : "kind" ∉ taken) :
    Takes Marker.requireKind marker taken (taken ++ ["kind"]) fun kind =>
      marker.get? "kind" = some kind.name := by
  refine ((takes_require hkeys hkey).bind fun raw => takes_lift _ _).congr fun kind => ?_
  simp only [kindOf_eq_ok_iff, exists_eq_right]

/-- Nothing is left exactly if all keys were taken. -/
theorem takes_finish (marker : Marker) (taken : List String) :
    Takes Marker.finish marker taken taken fun _ =>
      ∀ key ∈ marker.fields.map Prod.fst, key ∈ taken := by
  have hleft : (marker.left taken).fields = [] ↔
      ∀ key ∈ marker.fields.map Prod.fst, key ∈ taken := by
    simp [Marker.left, List.filter_eq_nil_iff]
  intro value later
  rw [← hleft, Marker.finish]
  split
  · next hnone => simp [hnone, eq_comm]
  · next hsome => simp [hsome]

/-- What a reader yields of the whole marker. -/
theorem Takes.run'_eq_ok_iff
    {reader : Marker.Reader α} {Possible : α → Prop} {value : α}
    (h : Takes reader marker [] now Possible) :
    reader.run' marker = .ok value ↔ Possible value := by
  change (reader marker).map Prod.fst = _ ↔ _
  rw [map_eq_ok_iff, ← left_nil marker]
  constructor
  · rintro ⟨⟨_, later⟩, hread, rfl⟩
    exact ((h _ later).mp hread).1
  · exact fun hpossible => ⟨_, (h value _).mpr ⟨hpossible, rfl⟩, rfl⟩

end Taking

section Settings

variable {marker : Marker}

/-- Whether a setting can be read is a matter of its value. -/
theorem exists_readSetting_iff
    (style : Style)
    {key : StyleKey} {raw : String} :
    (∃ updated, Marker.readSetting style key raw = .ok updated) ↔ IsSettingValue raw key := by
  cases key with
  | text => simp [Marker.readSetting, IsSettingValue]
  | format => simp [Marker.readSetting, IsSettingValue]
  | icon => simp [Marker.readSetting, IsSettingValue]
  | fontSize => simp [Marker.readSetting, IsSettingValue, map_eq_ok_iff, numberOf_eq_ok_iff]
  | min => simp [Marker.readSetting, IsSettingValue, map_eq_ok_iff, numberOf_eq_ok_iff]
  | max => simp [Marker.readSetting, IsSettingValue, map_eq_ok_iff, numberOf_eq_ok_iff]
  | color =>
      unfold Marker.readSetting IsSettingValue
      cases Color.ofHex raw <;> simp

/-- The settings that are read of values, which are given for the names of the style keys. -/
def settingsOf (value? : String → Option String) (style : Style) :
    List StyleKey → Except DataError Style
  | [] => .ok style
  | key :: rest => do
    settingsOf value? (← Marker.withSetting style key (value? key.name)) rest

/-- **The settings are read if each value can be.** -/
theorem exists_settingsOf_iff
    {value? : String → Option String} {keys : List StyleKey} {style : Style} :
    (∃ updated, settingsOf value? style keys = .ok updated) ↔
      ∀ key ∈ keys, ∀ raw, value? key.name = some raw → IsSettingValue raw key := by
  induction keys generalizing style with
  | nil =>
      simp [settingsOf]
  | cons key rest ih =>
      have hset : (∃ updated, Marker.withSetting style key (value? key.name) = .ok updated) ↔
          ∀ raw, value? key.name = some raw → IsSettingValue raw key := by
        cases value? key.name with
        | none => simp [Marker.withSetting]
        | some raw => simpa [Marker.withSetting] using exists_readSetting_iff style
      rw [List.forall_mem_cons, ← hset]
      simp only [settingsOf, bind_eq_ok_iff]
      constructor
      · rintro ⟨last, updated, hupdated, hlast⟩
        exact ⟨⟨updated, hupdated⟩, ih.mp ⟨last, hlast⟩⟩
      · rintro ⟨⟨updated, hupdated⟩, hrest⟩
        obtain ⟨last, hlast⟩ := ih.mpr hrest
        exact ⟨last, updated, hupdated, hlast⟩

/-- The settings are those of the values in the whole marker. -/
theorem takes_readSettings
    {marker : Marker} {keys : List StyleKey} {taken : List String}
    (hkeys : (marker.fields.map Prod.fst).Nodup)
    (hnames : (taken ++ keys.map StyleKey.name).Nodup)
    (style : Style) :
    Takes (Marker.readSettings style keys) marker taken (taken ++ keys.map StyleKey.name)
      fun updated => settingsOf marker.get? style keys = .ok updated := by
  induction keys generalizing style taken with
  | nil =>
      rw [List.map_nil, List.append_nil]
      exact (takes_pure style marker taken).congr fun updated => by
        rw [settingsOf, Except.ok.injEq, eq_comm]
  | cons key rest ih =>
      rw [List.map_cons, List.append_cons] at hnames ⊢
      have hkey : key.name ∉ taken := by
        rw [List.nodup_append, List.nodup_append] at hnames
        exact fun hmem => hnames.1.2.2 _ hmem _ List.mem_cons_self rfl
      refine ((takes_take? hkeys hkey).bind fun value? =>
        (takes_lift _ _).bind fun updated => ih hnames updated).congr fun last => ?_
      rw [exists_eq_left, settingsOf, bind_eq_ok_iff]

end Settings

section Widgets

/-- The keys that a widget marker may have, in the order of reading. -/
def widgetKeys : List String :=
  ["id", "kind", "data_point", "x", "y", "width", "height"] ++ StyleKey.all.map StyleKey.name

/-- What is read as a widget, field by field. -/
structure ReadsWidget (marker : Marker) (widget : Widget) : Prop where
  id : marker.get? "id" = some widget.id
  kind : marker.get? "kind" = some widget.kind.name
  dataPoint : marker.get? "data_point" = widget.dataPoint
  numbers : ∀ pair ∈ [("x", widget.x), ("y", widget.y), ("width", widget.width),
    ("height", widget.height)],
    ∃ raw, marker.get? pair.1 = some raw ∧ Text.uint32? raw.toList = some pair.2
  style : settingsOf marker.get? {} StyleKey.all = .ok widget.style
  known : ∀ key ∈ marker.fields.map Prod.fst, key ∈ widgetKeys

/-- **What is read as a widget** takes all the keys of a widget. -/
theorem takes_readWidget
    {marker : Marker}
    (hkeys : (marker.fields.map Prod.fst).Nodup) :
    Takes Marker.readWidget marker [] widgetKeys (ReadsWidget marker) := by
  refine ((takes_require hkeys (by decide)).bind fun id =>
    (takes_requireKind hkeys (by decide)).bind fun kind =>
    (takes_take? hkeys (by decide)).bind fun dataPoint =>
    (takes_requireNumber hkeys (by decide)).bind fun x =>
    (takes_requireNumber hkeys (by decide)).bind fun y =>
    (takes_requireNumber hkeys (by decide)).bind fun width =>
    (takes_requireNumber hkeys (by decide)).bind fun height =>
    (takes_readSettings hkeys (by decide) {}).bind fun style =>
    (takes_finish marker widgetKeys).bind fun _ => takes_pure _ _ _).congr fun widget => ?_
  constructor
  · rintro ⟨id, hid, kind, hkind, dataPoint, hdataPoint, x, hx, y, hy, width, hwidth, height,
      hheight, style, hstyle, -, hknown, rfl⟩
    refine ⟨hid, hkind, hdataPoint.symm, ?_, hstyle, hknown⟩
    simp only [List.forall_mem_cons]
    exact ⟨hx, hy, hwidth, hheight, by simp⟩
  · intro h
    have hnumbers := h.numbers
    simp only [List.forall_mem_cons] at hnumbers
    obtain ⟨hx, hy, hwidth, hheight, -⟩ := hnumbers
    exact ⟨_, h.id, _, h.kind, _, h.dataPoint.symm, _, hx, _, hy, _, hwidth, _, hheight, _, h.style,
      (), h.known, rfl⟩

theorem widget_eq_ok_iff
    {marker : Marker} {widget : Widget}
    (hkeys : (marker.fields.map Prod.fst).Nodup) :
    marker.widget = .ok widget ↔ ReadsWidget marker widget :=
  (takes_readWidget hkeys).run'_eq_ok_iff

/-- The keys of a widget, as they are listed. -/
theorem mem_widgetKeys_iff
    {key : String} :
    key ∈ widgetKeys ↔
      key ∈ ["id", "kind", "x", "y", "width", "height", "data_point"] ∨
        ∃ style : StyleKey, key = style.name := by
  have hstyle : key ∈ StyleKey.all.map StyleKey.name ↔ ∃ style : StyleKey, key = style.name := by
    simp [StyleKey.mem_all, eq_comm]
  rw [widgetKeys, List.mem_append, hstyle]
  exact or_congr_left (List.Perm.mem_iff (by decide))

variable {marker : Marker} {widget : Widget}

/-- What is read as a widget describes one. -/
theorem ReadsWidget.describesWidget
    (h : ReadsWidget marker widget)
    (hkeys : (marker.fields.map Prod.fst).Nodup) :
    DescribesWidget marker.fields := by
  have hnumbers : ∀ key ∈ ["x", "y", "width", "height"], ∃ raw number,
      marker.get? key = some raw ∧ Text.uint32? raw.toList = some number := by
    have hall := h.numbers
    simp only [List.forall_mem_cons] at hall ⊢
    obtain ⟨⟨x, hx⟩, ⟨y, hy⟩, ⟨width, hwidth⟩, ⟨height, hheight⟩, -⟩ := hall
    exact ⟨⟨x, _, hx⟩, ⟨y, _, hy⟩, ⟨width, _, hwidth⟩, ⟨height, _, hheight⟩, by simp⟩
  have hmem {key value : String} (hget : marker.get? key = some value) :
      key ∈ marker.fields.map Prod.fst :=
    List.mem_map_of_mem ((get?_eq_some_iff hkeys).mp hget)
  refine ⟨?_, fun key hkey => mem_widgetKeys_iff.mp (h.known key hkey), ?_, ?_, ?_⟩
  · rw [List.forall_mem_cons, List.forall_mem_cons]
    refine ⟨hmem h.id, hmem h.kind, ?_⟩
    intro key hkey
    obtain ⟨raw, number, hget, -⟩ := hnumbers key hkey
    exact hmem hget
  · intro value hvalue
    rw [← get?_eq_some_iff hkeys, h.kind, Option.some.injEq] at hvalue
    exact ⟨widget.kind, hvalue.symm⟩
  · intro key hkey value hvalue
    obtain ⟨raw, number, hget, hread⟩ := hnumbers key hkey
    rw [← get?_eq_some_iff hkeys, hget, Option.some.injEq] at hvalue
    exact ⟨number, hvalue ▸ hread⟩
  · intro key value hvalue
    rw [← get?_eq_some_iff hkeys] at hvalue
    exact exists_settingsOf_iff.mp ⟨_, h.style⟩ key key.mem_all value hvalue

/-- What describes a widget is read as one. -/
theorem DescribesWidget.exists_readsWidget
    (hkeys : (marker.fields.map Prod.fst).Nodup)
    (h : DescribesWidget marker.fields) :
    ∃ widget, ReadsWidget marker widget := by
  have hnumber (key : String) (hkey : key ∈ ["x", "y", "width", "height"]) :
      ∃ number raw, marker.get? key = some raw ∧ Text.uint32? raw.toList = some number := by
    have hpresent := h.present key (List.mem_cons_of_mem _ (List.mem_cons_of_mem _ hkey))
    obtain ⟨raw, hget, hmem⟩ := exists_get?_of_mem hkeys hpresent
    obtain ⟨number, hread⟩ := h.geometry key hkey raw hmem
    exact ⟨number, raw, hget, hread⟩
  obtain ⟨id, hid, -⟩ := exists_get?_of_mem hkeys (h.present "id" (by simp))
  obtain ⟨raw, hraw, hmem⟩ := exists_get?_of_mem hkeys (h.present "kind" (by simp))
  obtain ⟨kind, rfl⟩ := h.kind raw hmem
  obtain ⟨x, hx⟩ := hnumber "x" (by simp)
  obtain ⟨y, hy⟩ := hnumber "y" (by simp)
  obtain ⟨width, hwidth⟩ := hnumber "width" (by simp)
  obtain ⟨height, hheight⟩ := hnumber "height" (by simp)
  obtain ⟨style, hstyle⟩ := exists_settingsOf_iff.mpr fun key _ raw hget =>
    h.setting key raw ((get?_eq_some_iff hkeys).mp hget)
  refine ⟨{ id, kind, dataPoint := marker.get? "data_point", x, y, width, height, style },
    hid, hraw, rfl, ?_, hstyle, fun key hkey => mem_widgetKeys_iff.mpr (h.known key hkey)⟩
  simp only [List.forall_mem_cons]
  exact ⟨hx, hy, hwidth, hheight, by simp⟩

/-- What is read as a widget is read as the same one in any order. -/
theorem ReadsWidget.perm
    {tag : MarkerTag} {fields other : List MarkerField}
    (hkeys : (fields.map Prod.fst).Nodup)
    (hperm : other.Perm fields)
    (h : ReadsWidget { tag, fields } widget) :
    ReadsWidget { tag, fields := other } widget := by
  have hget := get?_of_perm tag hkeys hperm
  refine ⟨hget _ ▸ h.id, hget _ ▸ h.kind, hget _ ▸ h.dataPoint, ?_, ?_, ?_⟩
  · simpa only [hget] using h.numbers
  · rw [funext hget]
    exact h.style
  · exact fun key hkey => h.known key ((hperm.map Prod.fst).mem_iff.mp hkey)

/-- **Exactly the fields that describe a widget are read as one, and their order does not
matter.** -/
theorem describesWidget_iff_and_widget_perm
    {fields : List MarkerField}
    (hkeys : (fields.map Prod.fst).Nodup)
    (tag : MarkerTag) :
    ((∃ widget, Marker.widget { tag, fields } = .ok widget) ↔ DescribesWidget fields) ∧
      ∀ widget, Marker.widget { tag, fields } = .ok widget →
        ∀ other : List MarkerField, other.Perm fields →
          Marker.widget { tag, fields := other } = .ok widget := by
  refine ⟨⟨?_, ?_⟩, ?_⟩
  · rintro ⟨widget, h⟩
    exact ((widget_eq_ok_iff hkeys).mp h).describesWidget hkeys
  · intro h
    obtain ⟨widget, hreads⟩ : ∃ widget, ReadsWidget { tag, fields } widget :=
      DescribesWidget.exists_readsWidget hkeys h
    exact ⟨widget, (widget_eq_ok_iff hkeys).mpr hreads⟩
  · intro widget h other hperm
    have hother : (other.map Prod.fst).Nodup := (hperm.map Prod.fst).nodup_iff.mpr hkeys
    exact (widget_eq_ok_iff hother).mpr (((widget_eq_ok_iff hkeys).mp h).perm hkeys hperm)

/-- A widget is read from its fields in no order of importance, and from the fields backwards. -/
theorem widget_reverse_eq :
    let fields := [("height", "40"), ("font_size", "12"), ("id", "label"), ("x", "1"),
      ("kind", "text"), ("text", "Now"), ("y", "2"), ("width", "30")]
    DescribesWidget fields ∧
      Marker.widget { tag := .widget, fields := fields.reverse } =
        .ok {
          id := "label", kind := .text, x := 1, y := 2, width := 30, height := 40,
          style := { text := some "Now", fontSize := some 12 } } := by
  intro fields
  have hkeys : (fields.map Prod.fst).Nodup := by decide
  obtain ⟨hdescribes, hperm⟩ := describesWidget_iff_and_widget_perm hkeys .widget
  have hread : Marker.widget { tag := .widget, fields } =
      .ok {
        id := "label", kind := .text, x := 1, y := 2, width := 30, height := 40,
        style := { text := some "Now", fontSize := some 12 } } := by
    decide +kernel
  exact ⟨hdescribes.mp ⟨_, hread⟩, hperm _ hread _ fields.reverse_perm⟩

end Widgets

end Snippet
end EpaperLayout
