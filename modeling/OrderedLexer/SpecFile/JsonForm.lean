/-
  Specs in JSON.

  A spec is an array of `[pattern, handler]` pairs, or an object with such an array under `rules`
  and an object under `options`.  `Draft.ofJson` reads a text, and `Spec.toValue` writes a spec as
  an object with its anchored patterns.  Every handler needs a source to be written.
-/
import OrderedLexer.SpecFile.Error

namespace OrderedLexer

open Json (Members Value)
open SpecFile (Error)

namespace SpecFile

/-! ## Reading -/

/-- The rule that an item at an index stands for. -/
def ruleOfValue (index : Nat) : Value → Except Error DraftRule
  | .arr [.str pattern, .str body] =>
    match Handler.compile body with
    | .ok handler => .ok ⟨pattern, handler⟩
    | .error e => .error (.handler index e)
  | .arr [_, _] => .error (.shape (.ruleNotStrings index))
  | .arr _ => .error (.shape (.ruleLength index))
  | _ => .error (.shape (.ruleNotPair index))

/-- The rules that items stand for; the first of them has the given index. -/
def rulesOfValues (index : Nat) : List Value → Except Error (List DraftRule)
  | [] => .ok []
  | v :: vs =>
    match ruleOfValue index v with
    | .error e => .error e
    | .ok r =>
      match rulesOfValues (index + 1) vs with
      | .error e => .error e
      | .ok rs => .ok (r :: rs)

/-- The options of a spec object. -/
def optionsOfMember : Option Value → Except Error Options
  | none | some .null => .ok {}
  | some (.obj ms) =>
    match Options.ofValue (.obj ms) with
    | .ok o => .ok o
    | .error e => .error (.json e)
  | some _ => .error (.shape .optionsNotObject)

/-- The draft that a value stands for. -/
def draftOfValue : Value → Except Error Draft
  | .arr items =>
    match rulesOfValues 0 items with
    | .ok rules => .ok (.bare rules)
    | .error e => .error e
  | .obj ms =>
    match Members.get? "rules" ms with
    | some (.arr items) =>
      match rulesOfValues 0 items with
      | .error e => .error e
      | .ok rules =>
        match optionsOfMember (Members.get? "options" ms) with
        | .ok options => .ok (.record rules options)
        | .error e => .error e
    | some _ => .error (.shape .rulesNotArray)
    | none => .error (.shape .noRules)
  | _ => .error (.shape .notSpec)

end SpecFile

/-- The draft that a JSON text stands for. -/
def Draft.ofJson (text : String) : Except Error Draft :=
  match Json.read text with
  | .ok v => SpecFile.draftOfValue v
  | .error e => .error (.json e)

/-! ## Writing -/

namespace SpecFile

/-- The items of rules; the first of them has the given index. -/
def valuesOfRules (index : Nat) : List Rule → Except Error (List Value)
  | [] => .ok []
  | r :: rs =>
    match r.handler.source with
    | none => .error (.noSource index)
    | some source =>
      match valuesOfRules (index + 1) rs with
      | .error e => .error e
      | .ok vs => .ok (.arr [.str r.regex.pattern, .str source] :: vs)

end SpecFile

namespace Spec

/-- The object that holds a spec. -/
def toValue (s : Spec) : Except Error Value :=
  match SpecFile.valuesOfRules 0 s.rules with
  | .ok rules => .ok (.obj [("options", s.options.toValue), ("rules", .arr rules)])
  | .error e => .error e

/-- The text of a spec, an item a line. -/
def toText (s : Spec) : Except Error String := s.toValue.map Value.pretty

end Spec

end OrderedLexer
