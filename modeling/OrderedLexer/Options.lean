/-
  Options of a tokenizer run.

  Options are named values.  Only `captureLocations` has a meaning here: whether tokens carry
  locations.  It may be unset, which differs from being set to false when options are merged
  (`Options.merge`); every other option is kept as it is.
-/
import OrderedLexer.Json.Reader

namespace OrderedLexer

open Json (Members Value)

/-- Options. -/
@[ext]
structure Options where
  /-- Whether tokens carry locations, if set. -/
  captureLocations : Option Bool := none
  /-- The other options. -/
  extra : Members := []
  /-- Their names are in order. -/
  sorted : extra.Sorted := by exact OrderedLexer.Json.Members.sorted_nil

namespace Options

/-- The name of the option that is understood. -/
def captureName : String := "captureLocations"

/-- Options that only switch locations on or off. -/
def withLocations (capture : Bool) : Options := { captureLocations := some capture }

/-- Whether tokens carry locations; unset means not. -/
def captures (o : Options) : Bool := o.captureLocations.getD false

/-- What is set in `b` wins over `a`. -/
def merge (a b : Options) : Options where
  captureLocations := b.captureLocations.or a.captureLocations
  extra := a.extra.merge b.extra
  sorted := a.sorted.merge b.extra

/-- The options that an object holds; a null `captureLocations` is unset. -/
def ofValue : Value → Except Json.Error Options
  | .obj ms =>
    let extra := Members.ofList (Members.erase captureName ms)
    match Members.get? captureName ms with
    | none | some .null => .ok { extra, sorted := Members.sorted_ofList _ }
    | some (.bool b) => .ok { captureLocations := some b, extra, sorted := Members.sorted_ofList _ }
    | some v => .error (.wrongType v "a boolean")
  | v => .error (.wrongType v "struct Options")

/-- The object that holds the options. -/
def toValue (o : Options) : Value :=
  match o.captureLocations with
  | some b => .obj (o.extra.insert captureName (.bool b))
  | none => .obj o.extra

/-- The options that a JSON text holds. -/
def read (text : String) : Except Json.Error Options :=
  match Json.read text with
  | .ok v => ofValue v
  | .error e => .error e

/-- The JSON text of options. -/
def write (o : Options) : String := o.toValue.compact

@[simp]
theorem merge_empty (a : Options) : a.merge {} = a := by
  cases a with
  | mk c e _ => cases c <;> rfl

end Options

end OrderedLexer
