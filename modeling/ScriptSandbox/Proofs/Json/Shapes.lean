import ScriptSandbox.Json.Shape
import ScriptSandbox.Proofs.Json.RoundTrip

/-!
# Shapes that take what was written

The text of a JSON value, read in a shape, gives a value of the shape's type. For each way to build
shapes there is a rule for what a shape built so makes of a text, given what its parts make of the
parts of the text. From these come the rules for what it takes; an object is taken by a record whose
fields take its values one after the other.
-/
namespace ScriptSandbox.Json

open Utf8 (encode)
open Reader (Reads Opens Ended ReadsField result? result?_bind result?_bind_ok listText objectText)

namespace Shape

variable {α β ρ : Type}

/-! ### What shapes make of texts -/

section Reads

variable {shape : Shape α} {steps depth : Nat} {texts : List (List Char)}
  {entries : List (List Char × List Char)} {fields : List (Field ρ)} {field : Field ρ}

theorem reads_map {text : List Char} {outcome : Option α}
    (read : Reads (shape.ofText steps depth) text outcome) (f : α → β) :
    Reads ((shape.map f).ofText steps depth) text (outcome.map f) := by
  refine ⟨read.opens, fun rest ended => ?_⟩
  show result? (do return f (← shape.ofText steps depth)) _ = _
  rw [result?_bind, read.read rest ended]
  cases outcome <;> rfl

theorem reads_quote {text : List Char} (enough : (encode (quote text)).length ≤ steps)
    (expected : String) (depth : Nat) :
    Reads ((Shape.text expected).ofText steps depth) (quote text) (some (String.ofList text)) := by
  refine ⟨⟨'"', rfl, by decide⟩, fun rest _ => ?_⟩
  have branch : (Shape.text expected).ofText steps depth (encode (quote text) ++ rest) =
      Reader.string steps (encode (quote text) ++ rest) := rfl
  rw [result?, branch, Reader.string_quote enough rest]
  rfl

theorem reads_orNull {text : List Char} {outcome : Option α}
    (read : Reads (shape.ofText steps depth) (quote text) outcome) :
    Reads (shape.orNull.ofText steps depth) (quote text) (outcome.map some) := by
  refine ⟨read.opens, fun rest ended => ?_⟩
  have branch : result? (shape.orNull.ofText steps depth) (encode (quote text) ++ rest) =
      result? (do return some (← shape.ofText steps depth) : Reader (Option α))
        (encode (quote text) ++ rest) := rfl
  rw [branch, result?_bind, read.read rest ended]
  cases outcome <;> rfl

theorem reads_list {outcomes : List (Option α)}
    (reads : List.Forall₂ (Reads (shape.ofText steps depth)) texts outcomes)
    (enough : texts.length ≤ steps) :
    Reads (shape.list.ofText steps (depth + 1)) (listText texts) (outcomes.mapM id) := by
  refine ⟨Reader.opens_listText texts, fun rest _ => ?_⟩
  have listed := Reader.result?_listText reads enough id rest
  rw [Option.map_id] at listed
  refine Eq.trans ?_ listed
  obtain ⟨more, text⟩ := Reader.encode_listText texts rest
  rw [text]
  rfl

/-- What a field makes of the names that were seen and of the record. -/
def Field.update (field : Field ρ) (set : ρ → ρ) (state : List String × ρ) :
    Option (List String × ρ) :=
  if state.1.contains field.name then none else some (field.name :: state.1, set state.2)

/-- A field of a record is read once, by its own shape. -/
theorem readsField_readField {name : String} {text : List Char} {outcome : Option (ρ → ρ)}
    (found : fields.find? (·.name == name) = some field)
    (read : Reads (field.shape.ofText steps depth) text outcome) :
    ReadsField (readField fields steps depth) name.toList text
      (fun state => outcome.bind (field.update · state)) := by
  obtain rfl : field.name = name := by simpa using List.find?_some found
  intro state rest ended
  have mark : Reader.colon (0x3A :: (encode text ++ rest)) = .ok ((), encode text ++ rest) := rfl
  rw [String.ofList_toList, readField, found]
  dsimp only [Field.update]
  split
  next => cases outcome <;> rfl
  next =>
    rw [result?_bind_ok mark, result?_bind, read.read rest ended]
    cases outcome <;> rfl

/-- What is left to do once the fields of an object were read. -/
def completed (fields : List (Field ρ)) (state : List String × ρ) : Reader ρ :=
  match missingInObject fields state.1 with
  | some fault => Reader.fail fault
  | none => do
    Reader.endObject
    pure state.2

/-- The fields of a record are read before one is missed. -/
theorem result?_record {updates : List (List String × ρ → Option (List String × ρ))}
    (reads : List.Forall₂ (fun entry => ReadsField (readField fields steps depth) entry.1 entry.2)
      entries updates)
    (short : ∀ entry ∈ entries, (encode (quote entry.1)).length ≤ steps)
    (enough : entries.length ≤ steps) (typeName : String) (default : ρ) (rest : Bytes) :
    result? ((Shape.record typeName fields default).ofText steps (depth + 1))
        (encode (objectText entries) ++ rest) =
      (updates.foldlM (fun state (update : _ → Option _) => update state) ([], default)).bind
        fun state => result? (completed fields state) (0x7D :: rest) := by
  have branch : result? ((Shape.record typeName fields default).ofText steps (depth + 1))
      (encode (objectText entries) ++ rest) =
      result? (do
        let state ← Reader.fields steps (readField fields steps depth) true ([], default) (steps + 1)
        completed fields state : Reader ρ)
          (encode (objectText entries) ++ rest).tail := by
    obtain ⟨more, text⟩ := Reader.encode_objectText entries rest
    rw [text]
    rfl
  rw [branch, result?_bind, Reader.fields_objectText reads short _ enough, Option.bind_map]
  rfl

end Reads

/-! ### What shapes take -/

/-- The text of a JSON value is read as a value of the type, with lists and objects that may be nested
`depth` deep. -/
def Takes (shape : Shape α) (depth : Nat) (json : Json) (value : α) : Prop :=
  ∀ steps, (encode json.render).length ≤ steps →
    Reads (shape.ofText steps depth) json.render (some value)

/-- What becomes of a number that has to lie in a range. -/
def ranged (low high : Int) (expected : String) (found : Number) : Reader Int :=
  match inRange low high expected found with
  | .ok value => pure value
  | .error fault => Reader.fail fault

/-- The value that goes with a name. -/
def chosen (known : List (String × α)) (name : String) : Reader α :=
  match known.lookup name with
  | some value => pure value
  | none => Reader.fail (.unknownVariant name (known.map Prod.fst))

namespace Takes

variable {shape : Shape α} {depth : Nat} {json : Json} {value : α}

theorem map (takes : shape.Takes depth json value) (f : α → β) :
    (shape.map f).Takes depth json (f value) :=
  fun steps enough => reads_map (takes steps enough) f

/-- What is taken is the outcome of reading the whole text. -/
theorem parse (takes : shape.Takes Reader.maxDepth json value) :
    shape.parse json.toBytes = .ok value :=
  Reader.run_eq_ok (takes _ (Nat.le_refl _)).whole

/-! ### Values that hold no others -/

theorem text (expected text : String) (depth : Nat) :
    (Shape.text expected).Takes depth (.string text) text := by
  intro steps enough
  have read := reads_quote enough expected depth
  rwa [String.ofList_toList] at read

theorem boolean (value : Bool) (depth : Nat) :
    Shape.boolean.Takes depth (.boolean value) value := by
  intro steps enough
  cases value with
  | true => exact ⟨⟨'t', rfl, by decide⟩, fun rest _ => rfl⟩
  | false => exact ⟨⟨'f', rfl, by decide⟩, fun rest _ => rfl⟩

theorem integer_negative (low high : Int) (expected : String) (steps depth : Nat) (text : List Char)
    (rest : Bytes) :
    (Shape.integer low high expected).ofText steps depth (encode ('-' :: text) ++ rest) =
      (do ranged low high expected (← Reader.number true) : Reader Int) (encode text ++ rest) := rfl

theorem integer_digit {c : Char} (digit : '0' ≤ c ∧ c ≤ '9') (low high : Int) (expected : String)
    (steps depth : Nat) (text : List Char) (rest : Bytes) :
    (Shape.integer low high expected).ofText steps depth (encode (c :: text) ++ rest) =
      (do ranged low high expected (← Reader.number false) : Reader Int)
        (encode (c :: text) ++ rest) := by
  have code := Digits.code_of_le digit
  rw [Shape.integer]
  dsimp only
  rw [Reader.bind_ok (Reader.look_visible (by omega) (by omega) text rest)]
  generalize first : some c = c?
  split
  next =>
    obtain rfl := Option.some.inj first
    exact absurd digit (by decide)
  next =>
    obtain rfl := Option.some.inj first
    rw [if_pos digit]
    rfl
  next => exact absurd first (by simp)

theorem ranged_ok {low high value : Int} (expected : String) (above : low ≤ value)
    (below : value ≤ high) :
    ranged low high expected (.integer value) = pure value := by
  rw [ranged, inRange, if_pos ⟨above, below⟩]

theorem integer {low high value : Int} (expected : String) (above : low ≤ value) (below : value ≤ high)
    (least : Int64.minValue.toInt ≤ value) (most : value < UInt64.size) (depth : Nat) :
    (Shape.integer low high expected).Takes depth (.int value) value := by
  intro steps _
  refine ⟨Reader.opens_integerText value, fun rest ended => ?_⟩
  show ((Shape.integer low high expected).ofText steps depth
    (encode (integerText value) ++ rest)).toOption = _
  rcases Reader.number_integerText least most ended with
    ⟨digits, written, read⟩ | ⟨c, text, written, digit, read⟩
  · rw [written, integer_negative, Reader.bind_ok read, ranged_ok expected above below]
    rfl
  · rw [written, integer_digit digit, Reader.bind_ok read, ranged_ok expected above below]
    rfl

theorem null (shape : Shape α) (depth : Nat) : shape.orNull.Takes depth .null none := by
  intro steps enough
  exact ⟨⟨'n', rfl, by decide⟩, fun rest _ => rfl⟩

theorem present {text : String} (takes : shape.Takes depth (.string text) value) :
    shape.orNull.Takes depth (.string text) (some value) :=
  fun steps enough => reads_orNull (takes steps enough)

theorem optional {shape : Shape String}
    (takes : ∀ text depth, shape.Takes depth (.string text) text) (text? : Option String)
    (depth : Nat) :
    shape.orNull.Takes depth (match text? with | some text => .string text | none => .null) text? := by
  cases text? with
  | none => exact null shape depth
  | some text => exact (takes text depth).present

theorem variant {known : List (String × α)} {name : String} (among : known.lookup name = some value)
    (depth : Nat) : (Shape.variant known).Takes depth (.string name) value := by
  intro steps enough
  refine ⟨⟨'"', rfl, by decide⟩, fun rest ended => ?_⟩
  rw [render] at enough ⊢
  have branch : (Shape.variant known).ofText steps depth (encode (quote name.toList) ++ rest) =
      (do chosen known (← Reader.string steps) : Reader α) (encode (quote name.toList) ++ rest) := rfl
  rw [result?, branch, Reader.bind_ok (Reader.string_quote enough rest), String.ofList_toList, chosen,
    among]
  rfl

/-! ### Lists -/

theorem forall₂_reads {items : List Json} {values : List α} {steps : Nat}
    (takes : List.Forall₂ (shape.Takes depth) items values)
    (short : ∀ text ∈ items.map render, (encode text).length ≤ steps) :
    List.Forall₂ (Reads (shape.ofText steps depth)) (items.map render) (values.map some) := by
  induction takes with
  | nil => exact .nil
  | cons take _ ih =>
    rw [List.map_cons, List.forall_mem_cons] at short
    exact .cons (take steps short.1) (ih short.2)

theorem list {items : List Json} {values : List α}
    (takes : List.Forall₂ (shape.Takes depth) items values) :
    shape.list.Takes (depth + 1) (.array items) values := by
  intro steps enough
  rw [render_array] at enough ⊢
  obtain ⟨count, lengths⟩ := Reader.length_listText (items.map render)
  have reads := forall₂_reads takes fun text among => Nat.le_trans (lengths text among) enough
  have listed := reads_list reads (Nat.le_trans count enough)
  rwa [mapM_some] at listed

theorem strings (values : List String) (depth : Nat) :
    Shape.string.list.Takes (depth + 1) (.array (values.map .string)) values := by
  apply list
  rw [List.forall₂_map_left_iff, List.forall₂_same]
  exact fun value _ => text _ value depth

end Takes

/-! ### Records -/

/-- The values of an object are taken by the fields of a record, in their order, which lead from one
record to another. -/
inductive Fills (depth : Nat) : List (Field ρ) → List (String × Json) → ρ → ρ → Prop where
  | nil {record : ρ} : Fills depth [] [] record record
  | cons {field : Field ρ} {fields : List (Field ρ)} {json : Json} {given : List (String × Json)}
      {set : ρ → ρ} {record final : ρ} (takes : field.shape.Takes depth json set)
      (later : Fills depth fields given (set record) final) :
      Fills depth (field :: fields) ((field.name, json) :: given) record final

/-- Where no two fields have one name, each is found by its own. -/
theorem find?_name {fields : List (Field ρ)} {field : Field ρ}
    (distinct : (fields.map Field.name).Nodup) (among : field ∈ fields) :
    fields.find? (·.name == field.name) = some field := by
  induction fields with
  | nil => cases among
  | cons first rest ih =>
    rw [List.map_cons, List.nodup_cons] at distinct
    rcases List.mem_cons.mp among with rfl | later
    · simp
    · have differ : first.name ≠ field.name := fun same =>
        distinct.1 (same ▸ List.mem_map_of_mem later)
      rw [List.find?_cons_of_neg (by simpa using differ), ih distinct.2 later]

namespace Fills

variable {fields all : List (Field ρ)} {given : List (String × Json)} {depth steps : Nat}
  {record final : ρ}

/-- Fields that are all among a record's, each once, are read one after the other. -/
theorem reads (fills : Fills depth fields given record final)
    (found : ∀ field ∈ fields, all.find? (·.name == field.name) = some field)
    (short : ∀ field ∈ given, (encode field.2.render).length ≤ steps) {seen : List String}
    (fresh : (seen ++ fields.map Field.name).Nodup) :
    ∃ updates, List.Forall₂ (fun entry => ReadsField (readField all steps depth) entry.1 entry.2)
        (given.map entry) updates ∧
      updates.foldlM (fun state (update : _ → Option _) => update state) (seen.reverse, record) =
        some ((seen ++ fields.map Field.name).reverse, final) := by
  induction fills generalizing seen with
  | nil => exact ⟨[], .nil, by simp⟩
  | @cons field fields json given set record final takes later ih =>
    rw [List.forall_mem_cons] at found short
    have rest : (seen ++ [field.name] ++ fields.map Field.name).Nodup := by simpa using fresh
    obtain ⟨updates, others, folded⟩ := ih found.2 short.2 rest
    have unseen : seen.reverse.contains field.name = false := by
      rw [List.map_cons, List.nodup_append] at fresh
      simpa using fun member => fresh.2.2 _ member _ List.mem_cons_self rfl
    refine ⟨field.update set :: updates, .cons ?_ others, ?_⟩
    · exact readsField_readField found.1 (takes steps short.1)
    · rw [List.foldlM_cons, Field.update, unseen]
      simpa using folded

end Fills

theorem missingInObject_all (fields : List (Field ρ)) :
    missingInObject fields (fields.map Field.name).reverse = none := by
  simp only [missingInObject, Option.map_eq_none_iff, List.find?_eq_none]
  intro field among
  have seen : field.name ∈ fields.map Field.name := List.mem_map_of_mem among
  simp [seen]

/-- An object with all fields of a record, in their order, is taken. -/
theorem Takes.record {fields : List (Field ρ)} {given : List (String × Json)} {depth : Nat}
    {default final : ρ} (typeName : String) (distinct : (fields.map Field.name).Nodup)
    (fills : Fills depth fields given default final) :
    (Shape.record typeName fields default).Takes (depth + 1) (.object given) final := by
  intro steps enough
  rw [render_object] at enough ⊢
  obtain ⟨count, lengths⟩ := Reader.length_objectText (given.map entry)
  have short : ∀ field ∈ given, (encode field.2.render).length ≤ steps := fun field among =>
    Nat.le_trans (lengths _ (List.mem_map_of_mem among)).2 enough
  have fresh : ([] ++ fields.map Field.name).Nodup := distinct
  obtain ⟨updates, read, folded⟩ := fills.reads (fun _ => find?_name distinct) short fresh
  refine ⟨Reader.opens_objectText _, fun rest _ => ?_⟩
  have names := fun written among => Nat.le_trans (lengths written among).1 enough
  have closed : Reader.endObject (0x7D :: rest) = .ok ((), rest) := rfl
  rw [List.reverse_nil, List.nil_append] at folded
  rw [result?_record read names (Nat.le_trans count enough), folded, Option.bind_some, completed,
    missingInObject_all]
  dsimp only
  rw [result?_bind_ok closed]
  rfl

end Shape

end ScriptSandbox.Json
