import ScriptSandbox.Proofs.Json.Outcomes
import ScriptSandbox.Proofs.Text.Units
import ScriptSandbox.Script.Program

/-!
# Values that JSON can represent

A script shows such a value in two ways. Where a string is wanted, it turns into one; and
`JSON.stringify` writes it as a JSON text. Both are given here for all of these values.
-/
namespace ScriptSandbox.Script

open Json (quote)
open Json.Reader (itemsText listText fieldsText objectText)
open ScriptSandbox.Units (ofText ofText_append ofText_nil ofText_intercalate)

/-- A value that JSON can represent. An object has its properties in the order in which they are
enumerated. -/
inductive Datum where
  | null
  | boolean (truth : Bool)
  /-- The number ± `units` · 2⁻¹⁰⁷⁴. -/
  | number (negative : Bool) (units : Nat)
  | string (text : List Char)
  | array (items : List Datum)
  | object (fields : List (List Char × Datum))

namespace Datum

mutual

def value : Datum → Value
  | null => .null
  | boolean truth => .boolean truth
  | number negative units => .number (.finite negative units)
  | string text => .string (ofText text)
  | array items => .array (values items)
  | object fields => .object .object (properties fields)

def values : List Datum → List Value
  | [] => []
  | item :: rest => item.value :: values rest

def properties : List (List Char × Datum) → List Property
  | [] => []
  | (name, field) :: rest => .data (ofText name) true field.value :: properties rest

end

/-- A number as scripts write it. -/
def numeral (negative : Bool) (units : Nat) : List Char :=
  Decimal.Layout.script.render (.finite negative units)

/-! ### JSON texts -/

mutual

def text : Datum → List Char
  | null => "null".toList
  | boolean truth => (if truth then "true" else "false").toList
  | number negative units => numeral negative units
  | string text => quote text
  | array items => listText (texts items)
  | object fields => objectText (fieldTexts fields)

def texts : List Datum → List (List Char)
  | [] => []
  | item :: rest => item.text :: texts rest

def fieldTexts : List (List Char × Datum) → List (List Char × List Char)
  | [] => []
  | (name, field) :: rest => (name, field.text) :: fieldTexts rest

end

theorem quoted_ofText (text : List Char) : quoted (ofText text) = ofText (quote text) := by
  have escapes : text.flatMap (fun c => ofText (Json.escape c)) =
      ofText (text.flatMap Json.escape) := List.flatMap_assoc.symm
  have marked : quote text = ['"'] ++ text.flatMap Json.escape ++ ['"'] := rfl
  rw [quoted, Units.pieces_ofText, List.flatMap_map, escapes, marked, ofText_append, ofText_append]
  rfl

theorem itemsText_eq (text : List Char) (more : List (List Char)) :
    text ++ itemsText more = [','].intercalate (text :: more) ++ [']'] := by
  induction more generalizing text with
  | nil => simp [itemsText]
  | cons next more ih => rw [itemsText, ih, List.intercalate_cons_cons]; simp

theorem bracketed_list (texts : List (List Char)) :
    bracketed "[" "]" (texts.map ofText) = ofText (listText texts) := by
  have written : listText texts = ['['] ++ [','].intercalate texts ++ [']'] := by
    cases texts with
    | nil => rfl
    | cons text more => rw [listText, itemsText_eq]; rfl
  rw [written, ofText_append, ofText_append, ← ofText_intercalate]
  rfl

theorem fieldsText_eq (name text : List Char) (more : List (List Char × List Char)) :
    quote name ++ ':' :: (text ++ fieldsText more) =
      [','].intercalate (((name, text) :: more).map fun entry => quote entry.1 ++ ':' :: entry.2) ++
        ['\x7d'] := by
  induction more generalizing name text with
  | nil => simp [fieldsText]
  | cons next more ih =>
    rw [fieldsText, ih]
    simp only [List.map_cons, List.intercalate_cons_cons]
    simp

theorem bracketed_object (entries : List (List Char × List Char)) :
    bracketed "\x7b" "\x7d" (entries.map fun entry => fieldText (ofText entry.1) (ofText entry.2)) =
      ofText (objectText entries) := by
  have fields : entries.map (fun entry => fieldText (ofText entry.1) (ofText entry.2)) =
      (entries.map fun entry => quote entry.1 ++ ':' :: entry.2).map ofText := by
    rw [List.map_map]
    refine List.map_congr_left fun entry _ => ?_
    rw [fieldText, quoted_ofText]
    have split : quote entry.1 ++ ':' :: entry.2 = quote entry.1 ++ [':'] ++ entry.2 := by simp
    rw [Function.comp, split, ofText_append, ofText_append]
    rfl
  have written : objectText entries =
      ['\x7b'] ++ [','].intercalate (entries.map fun entry => quote entry.1 ++ ':' :: entry.2) ++
        ['\x7d'] := by
    cases entries with
    | nil => rfl
    | cons entry more => rw [objectText, fieldsText_eq]; rfl
  rw [fields, written, ofText_append, ofText_append, ← ofText_intercalate]
  rfl

/-- The properties of a value that JSON can represent are no functions. -/
theorem substituteBy_value (datum : Datum) (name : Units) :
    Value.substituteBy name datum.value = pure none := by
  cases datum <;> (rw [value, Value.substituteBy]; all_goals simp)

theorem substitute_properties (name : Units) (fields : List (List Char × Datum)) :
    Value.substitute name (properties fields) = pure none := by
  induction fields with
  | nil => rfl
  | cons field rest ih =>
    rw [properties, Value.substitute, substituteBy_value, ih, ite_self]

mutual

/-- `JSON.stringify` writes the text of the value, wherever it stands. -/
theorem encodeAs_value : (datum : Datum) → (name : Units) →
    Value.encodeAs name true datum.value = pure (some (ofText datum.text))
  | null, _ => by
    rw [value, Value.encodeAs]
    rfl
  | boolean truth, _ => by
    rw [value, Value.encodeAs]
    cases truth <;> rfl
  | number negative units, _ => by
    rw [value, Value.encodeAs, text, numeral]
    simp [numberText, Script.units, Decimal.Layout.text]
  | string text, _ => by rw [value, Value.encodeAs, quoted_ofText, Datum.text]
  | array items, _ => by
    rw [value, Value.encodeAs, encodeItems_values items 0, pure_bind, bracketed_list, text]
  | object fields, name => by
    rw [value, Value.encodeAs, if_pos rfl, substitute_properties, pure_bind]
    dsimp only
    rw [encodeFields_properties fields, pure_bind, bracketed_object, text]

theorem encodeItems_values : (items : List Datum) → (index : Nat) →
    Value.encodeItems index (values items) = pure ((texts items).map ofText)
  | [], _ => rfl
  | item :: rest, index => by
    rw [values, Value.encodeItems, encodeAs_value item, pure_bind, encodeItems_values rest, pure_bind]
    rfl

theorem encodeFields_properties : (fields : List (List Char × Datum)) →
    Value.encodeFields (properties fields) =
      pure ((fieldTexts fields).map fun entry => fieldText (ofText entry.1) (ofText entry.2))
  | [] => rfl
  | (name, field) :: rest => by
    rw [properties, Value.encodeFields, if_pos rfl, encodeAs_value field, pure_bind]
    dsimp only
    rw [encodeFields_properties rest, pure_bind]
    rfl

end

/-! ### Strings -/

def isNull : Datum → Bool
  | null => true
  | _ => false

mutual

/-- The string that a value turns into; none where this throws, as for an object that stands in its
own `toString` with a value that is no function. -/
def shown? : Datum → Option (List Char)
  | null => some "null".toList
  | boolean truth => some (if truth then "true" else "false").toList
  | number negative units => some (numeral negative units)
  | string text => some text
  | array items => (itemsShown? items).map [','].intercalate
  | object fields =>
    if fields.any (·.1 = "toString".toList) then none else some "[object Object]".toList

/-- The strings of items. A null item is shown by nothing. -/
def itemsShown? : List Datum → Option (List (List Char))
  | [] => some []
  | item :: rest =>
    (if item.isNull then some [] else item.shown?).bind fun first =>
      (itemsShown? rest).map (first :: ·)

end

/-- A computation that comes to a value, or throws where there is none. -/
def Comes {α : Type} (run : Run α) : (outcome : Option α) → Prop
  | some found => run = pure found
  | none => ∃ thrown, run = throw thrown

theorem Comes.bind {α β : Type} {run : Run α} {next : α → Run β} {first : Option α}
    {second : α → Option β} (comes : Comes run first)
    (further : ∀ found ∈ first, Comes (next found) (second found)) :
    Comes (run >>= next) (first.bind second) := by
  cases first with
  | none =>
    obtain ⟨thrown, rfl⟩ := comes
    exact ⟨thrown, rfl⟩
  | some found =>
    obtain rfl : run = pure found := comes
    rw [pure_bind]
    exact further found rfl

theorem Comes.map {α β : Type} {run : Run α} {outcome : Option α} (comes : Comes run outcome)
    (f : α → β) : Comes (do return f (← run)) (outcome.map f) := by
  have mapped : Comes (do return f (← run)) (outcome.bind fun found => some (f found)) :=
    comes.bind fun found _ => rfl
  cases outcome <;> exact mapped

theorem isVoid_value (datum : Datum) : datum.value.isVoid = datum.isNull := by
  cases datum <;> (rw [value]; rfl)

theorem call?_value (datum : Datum) : datum.value.call? = none := by
  cases datum <;> (rw [value]; rfl)

theorem eq_data_of_mem (fields : List (List Char × Datum)) :
    ∀ property ∈ properties fields, ∃ name field, property = .data name true (value field) := by
  induction fields with
  | nil => simp [properties]
  | cons field rest ih =>
    rw [properties, List.forall_mem_cons]
    exact ⟨⟨_, field.2, rfl⟩, ih⟩

/-- No property is a method, so none of them turns an object into a string. -/
theorem fromMethod?_properties (fields : List (List Char × Datum)) (name : String) :
    Value.fromMethod? (.object .object (properties fields)) name = pure none := by
  unfold Value.fromMethod? Value.get?
  rw [Value.properties]
  cases found : (properties fields).find? (·.name = units name) with
  | none => rfl
  | some property =>
    obtain ⟨own, field, rfl⟩ := eq_data_of_mem fields property (List.mem_of_find?_eq_some found)
    dsimp only
    rw [pure_bind, Option.bind_some, call?_value]

theorem has_properties (fields : List (List Char × Datum)) (name : String) :
    Value.has (.object .object (properties fields)) name = fields.any (·.1 = name.toList) := by
  unfold Value.has
  rw [Value.properties]
  induction fields with
  | nil => rfl
  | cons field rest ih =>
    have same : (ofText field.1 = units name) = (field.1 = name.toList) :=
      propext Units.ofText_injective.eq_iff
    rw [properties, List.any_cons, List.any_cons, ih, Property.name]
    simp only [same]

mutual

theorem toUnits_value : (datum : Datum) → Comes datum.value.toUnits (datum.shown?.map ofText)
  | null => by
    rw [value, Value.toUnits]
    rfl
  | boolean truth => by
    rw [value, Value.toUnits]
    cases truth <;> rfl
  | number negative units => by
    rw [value, Value.toUnits]
    simp [Value.primitiveUnits, Comes, shown?, numeral, Script.units, Decimal.Layout.text]
  | string text => by
    rw [value, Value.toUnits]
    rfl
  | array items => by
    -- An array turns into a string where each of its items does.
    have joined := (itemUnits_values items).map (units ",").intercalate
    rw [value, Value.toUnits, shown?]
    cases shown : itemsShown? items with
    | none =>
      rw [shown] at joined
      exact joined
    | some texts =>
      rw [shown] at joined
      exact joined.trans (congrArg pure (ofText_intercalate [','] texts))
  | object fields => by
    -- A property `toString` hides the inherited one, and neither it nor `valueOf` is a method: such
    -- an object turns into no string.
    rw [value, Value.toUnits, Value.objectUnits, has_properties, fromMethod?_properties,
      fromMethod?_properties, shown?]
    cases fields.any (·.1 = "toString".toList) with
    | true => exact ⟨_, rfl⟩
    | false => rfl

theorem itemUnits_values : (items : List Datum) →
    Comes (Value.itemUnits (values items)) ((itemsShown? items).map (·.map ofText))
  | [] => rfl
  | item :: rest => by
    -- A null item is shown by nothing and any other by its string, but both go on the same way.
    have behind {run : Run Units} {first : Option (List Char)} (comes : Comes run (first.map ofText)) :
        Comes (do
          let first ← run
          return first :: (← Value.itemUnits (values rest)))
          ((first.bind fun first => (itemsShown? rest).map (first :: ·)).map (·.map ofText)) := by
      have whole := comes.bind fun found _ => (itemUnits_values rest).map (found :: ·)
      cases first with
      | none => exact whole
      | some first => cases shown : itemsShown? rest <;> (rw [shown] at whole; exact whole)
    rw [values, Value.itemUnits, isVoid_value, itemsShown?]
    cases item.isNull with
    | true => exact @behind (pure []) (some []) rfl
    | false => exact behind (toUnits_value item)

end

/-! ### Lines of the console -/

theorem toText_value (datum : Datum) :
    Comes datum.value.toText (datum.shown?.map String.ofList) := by
  have whole : Comes datum.value.toText ((datum.shown?.map ofText).bind fun text =>
      (ScriptSandbox.Units.toText? text).map String.ofList) := by
    refine (toUnits_value datum).bind fun text shown => ?_
    obtain ⟨characters, _, rfl⟩ := Option.map_eq_some_iff.mp shown
    rw [Units.toText?_ofText]
    rfl
  cases shown : datum.shown? with
  | none =>
    rw [shown] at whole
    exact whole
  | some text =>
    rw [shown, Option.map_some, Option.bind_some, Units.toText?_ofText] at whole
    exact whole

theorem consoleLine_values (args : List Datum) :
    Comes (consoleLine (values args))
      ((args.mapM shown?).map fun texts => String.intercalate " " (texts.map String.ofList)) := by
  have texts : Comes ((values args).mapM Value.toText)
      ((args.mapM shown?).map (·.map String.ofList)) := by
    induction args with
    | nil => rfl
    | cons arg rest ih =>
      have whole := (toText_value arg).bind fun found _ => ih.map (found :: ·)
      rw [values, List.mapM_cons, List.mapM_cons]
      cases shown : arg.shown? with
      | none =>
        rw [shown] at whole
        exact whole
      | some text =>
        rw [shown] at whole
        cases others : rest.mapM shown? <;> (rw [others] at whole; exact whole)
  have line := texts.map (String.intercalate " ")
  rw [Option.map_map] at line
  exact line

end Datum

end ScriptSandbox.Script
