import ScriptSandbox.Proofs.Json.Outcomes
import Mathlib.Data.String.Basic

/-!
# Reading JSON texts back

The text of a value, read, is the value again, as long as its numbers are integers of 64 bits and it
is not nested too deep.
-/
namespace ScriptSandbox.Json

open Utf8 (encode)

/-- Values that a text keeps: lists and objects are nested at most `depth` deep, numbers are
integers of 64 bits with or without a sign, and fields are listed by name, as in every object. -/
inductive Exact : (depth : Nat) → Json → Prop where
  | null {depth : Nat} : Exact depth .null
  | boolean {depth : Nat} (value : Bool) : Exact depth (.boolean value)
  | integer {depth : Nat} {value : Int} (low : Int64.minValue.toInt ≤ value)
      (high : value < UInt64.size) : Exact depth (.number (.integer value))
  | string {depth : Nat} (text : String) : Exact depth (.string text)
  | array {depth : Nat} {items : List Json} (inner : ∀ item ∈ items, Exact depth item) :
      Exact (depth + 1) (.array items)
  | object {depth : Nat} {fields : List (String × Json)}
      (ordered : (fields.map Prod.fst).Pairwise (· < ·))
      (inner : ∀ field ∈ fields, Exact depth field.2) : Exact (depth + 1) (.object fields)

open Reader (Reads listText objectText itemsText fieldsText value value_eq)

/-! ### Texts of lists and objects -/

theorem renderItems_eq (items : List Json) : renderItems items = itemsText (items.map render) := by
  induction items with
  | nil => rfl
  | cons item items ih => rw [renderItems, ih, List.map_cons, itemsText]

theorem render_array (items : List Json) : render (.array items) = listText (items.map render) := by
  cases items with
  | nil => rfl
  | cons item items => rw [render, renderItems_eq, List.map_cons, listText]

/-- The name of a field and the text of its value. -/
def entry (field : String × Json) : List Char × List Char := (field.1.toList, field.2.render)

theorem renderFields_eq (fields : List (String × Json)) :
    renderFields fields = fieldsText (fields.map entry) := by
  induction fields with
  | nil => rfl
  | cons field fields ih => rw [renderFields, ih, List.map_cons, entry, fieldsText]

theorem render_object (fields : List (String × Json)) :
    render (.object fields) = objectText (fields.map entry) := by
  cases fields with
  | nil => rfl
  | cons field fields => rw [render, renderFields_eq, List.map_cons, entry, objectText]

/-! ### Fields in order -/

theorem setField_append {name : String} {found : List (String × Json)}
    (before : ∀ field ∈ found, field.1 < name) (value : Json) :
    setField name value found = found ++ [(name, value)] := by
  induction found with
  | nil => rfl
  | cons field found ih =>
    have earlier := before field List.mem_cons_self
    have later := ih fun other member => before other (List.mem_cons_of_mem _ member)
    rw [setField, if_neg (lt_asymm earlier), if_neg (ne_of_gt earlier), later, List.cons_append]

/-- A field of a value changes the fields before it. -/
def update (field : String × Json) (found : List (String × Json)) : Option (List (String × Json)) :=
  (some field.2).map (setField (String.ofList field.1.toList) · found)

/-- Fields that come by name are put one behind the other. -/
theorem foldlM_update {found fields : List (String × Json)}
    (ordered : ((found ++ fields).map Prod.fst).Pairwise (· < ·)) :
    (fields.map update).foldlM (fun found (update : _ → Option _) => update found) found =
      some (found ++ fields) := by
  induction fields generalizing found with
  | nil => rw [List.append_nil]; rfl
  | cons field fields ih =>
    have before : ∀ other ∈ found, other.1 < field.1 := by
      intro other member
      rw [List.map_append, List.pairwise_append] at ordered
      exact ordered.2.2 _ (List.mem_map_of_mem member) _ List.mem_cons_self
    have put : update field found = some (found ++ [field]) := by
      rw [update, String.ofList_toList, Option.map_some, setField_append before]
    have later := @ih (found ++ [field]) (by simpa using ordered)
    rw [List.append_assoc] at later
    rw [List.map_cons, List.foldlM_cons, put]
    exact later

/-! ### Values -/

theorem mapM_some {α : Type} (items : List α) : (items.map some).mapM id = some items := by
  induction items with
  | nil => rfl
  | cons item items ih => rw [List.map_cons, List.mapM_cons, ih]; rfl

/-- By induction on the value. A list or an object has a byte at least for each of its items, so the
length of the text leaves turns enough for the readers of all of them. -/
theorem Exact.reads {depth : Nat} {json : Json} (exact : Exact depth json) {steps : Nat}
    (enough : (encode json.render).length ≤ steps) :
    Reads (value steps depth) json.render (some json) := by
  induction exact generalizing steps with
  -- Values that hold no others are read the same at every depth.
  | @null depth =>
    obtain ⟨container, scalar⟩ := value_eq steps depth
    exact ⟨⟨'n', rfl, by decide⟩, fun rest _ => by rw [scalar]; rfl⟩
  | @boolean depth truth =>
    obtain ⟨container, scalar⟩ := value_eq steps depth
    cases truth with
    | true => exact ⟨⟨'t', rfl, by decide⟩, fun rest _ => by rw [scalar]; rfl⟩
    | false => exact ⟨⟨'f', rfl, by decide⟩, fun rest _ => by rw [scalar]; rfl⟩
  | @integer depth integer low high =>
    obtain ⟨container, scalar⟩ := value_eq steps depth
    refine ⟨Reader.opens_integerText integer, fun rest ended => ?_⟩
    rw [scalar]
    exact congrArg Except.toOption (Reader.scalarOr_integer low high steps container ended)
  | @string depth text =>
    obtain ⟨container, scalar⟩ := value_eq steps depth
    refine ⟨⟨'"', rfl, by decide⟩, fun rest ended => ?_⟩
    have read := congrArg Except.toOption (Reader.scalarOr_string enough container rest)
    rw [String.ofList_toList] at read
    rw [scalar, render]
    exact read
  | @array depth items inner ih =>
    rw [render_array] at enough ⊢
    obtain ⟨count, lengths⟩ := Reader.length_listText (items.map render)
    have reads : List.Forall₂ (Reads (value steps depth)) (items.map render) (items.map some) := by
      rw [List.forall₂_map_left_iff, List.forall₂_map_right_iff, List.forall₂_same]
      intro item member
      exact ih item member (Nat.le_trans (lengths _ (List.mem_map_of_mem member)) enough)
    have read := Reader.value_listText reads (Nat.le_trans count enough)
    rwa [mapM_some] at read
  | @object depth fields ordered inner ih =>
    rw [render_object] at enough ⊢
    obtain ⟨count, lengths⟩ := Reader.length_objectText (fields.map entry)
    have short := fun entry member => Nat.le_trans (lengths entry member).1 enough
    have reads : List.Forall₂
        (fun entry => Reader.ReadsField (Reader.fieldOf (value steps depth)) entry.1 entry.2)
        (fields.map entry) (fields.map update) := by
      rw [List.forall₂_map_left_iff, List.forall₂_map_right_iff, List.forall₂_same]
      intro field member
      have text := Nat.le_trans (lengths _ (List.mem_map_of_mem member)).2 enough
      exact Reader.readsField_fieldOf (ih field member text) _
    have read := Reader.value_objectText reads short (Nat.le_trans count enough)
    -- A field that comes later by name is put behind those before it, so none is replaced or moved.
    rwa [@foldlM_update [] _ ordered] at read

/-- Reading the text of a value gives the value. -/
theorem parse_toBytes {json : Json} (exact : Exact Reader.maxDepth json) :
    parse json.toBytes = .ok json :=
  Reader.run_eq_ok (exact.reads (Nat.le_refl _)).whole

end ScriptSandbox.Json
