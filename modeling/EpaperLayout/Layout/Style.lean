import EpaperLayout.Layout.Color

/-!
# Widget styles

A style is a set of optional settings with a closed set of keys.  The canonical
order of the keys is the order in which they are declared; every listing of a
style follows it.
-/

namespace EpaperLayout

/-- Why a name is not known. -/
structure UnknownName where
  /-- What the name should have named. -/
  noun : String
  /-- The name that was given. -/
  name : String
deriving DecidableEq, Repr

/-- The message for a name that is not known. -/
def UnknownName.message (unknown : UnknownName) : String :=
  s!"Unknown {unknown.noun} '{unknown.name}'"

/-- The keys of a style. -/
inductive StyleKey where
  | text
  | format
  | icon
  | fontSize
  | color
  | min
  | max
deriving DecidableEq, Repr

namespace StyleKey

/-- All keys in canonical order. -/
def all : List StyleKey :=
  [.text, .format, .icon, .fontSize, .color, .min, .max]

/-- The written name of a key. -/
def name : StyleKey → String
  | .text => "text"
  | .format => "format"
  | .icon => "icon"
  | .fontSize => "font_size"
  | .color => "color"
  | .min => "min"
  | .max => "max"

/-- The key with the given name. -/
def ofName (s : String) : Except UnknownName StyleKey :=
  match all.find? fun key => key.name == s with
  | some key => .ok key
  | none => .error { noun := "style key", name := s }

/-- Every key is listed. -/
theorem mem_all (key : StyleKey) : key ∈ all := by
  cases key <;> decide

/-- Every key is found by its name. -/
theorem ofName_name (key : StyleKey) : ofName key.name = .ok key := by
  cases key <;> rfl

end StyleKey

/-- The settings of a widget; a key that is absent has no setting. -/
structure Style where
  /-- Label text. -/
  text : Option String := none
  /-- Format of a number or a time. -/
  format : Option String := none
  /-- Icon glyph. -/
  icon : Option String := none
  /-- Font size in pixels. -/
  fontSize : Option UInt16 := none
  /-- Foreground colour. -/
  color : Option Color := none
  /-- Lower bound of a gauge. -/
  min : Option Int32 := none
  /-- Upper bound of a gauge. -/
  max : Option Int32 := none
deriving DecidableEq, Repr, Inhabited

namespace Style

/-- The smallest font size a widget may ask for. -/
def minFontSize : UInt16 := 6

/-- The largest font size a widget may ask for. -/
def maxFontSize : UInt16 := 200

/-- Lower bound of a gauge without a setting of its own. -/
def defaultGaugeMin : Int32 := 0

/-- Upper bound of a gauge without a setting of its own. -/
def defaultGaugeMax : Int32 := 100

/-- Whether the key has a setting. -/
def has (style : Style) : StyleKey → Bool
  | .text => style.text.isSome
  | .format => style.format.isSome
  | .icon => style.icon.isSome
  | .fontSize => style.fontSize.isSome
  | .color => style.color.isSome
  | .min => style.min.isSome
  | .max => style.max.isSome

/-- The keys with a setting, in canonical order. -/
def keys (style : Style) : List StyleKey :=
  StyleKey.all.filter style.has

/-- Whether no key has a setting. -/
def isEmpty (style : Style) : Bool :=
  style.keys.isEmpty

/-- The lower bound that a gauge of this style draws with. -/
def gaugeMin (style : Style) : Int32 :=
  style.min.getD defaultGaugeMin

/-- The upper bound that a gauge of this style draws with. -/
def gaugeMax (style : Style) : Int32 :=
  style.max.getD defaultGaugeMax

end Style
end EpaperLayout
