import ScriptSandbox.Json.Skipping

/-!
# Shapes of JSON values

A shape says which JSON values stand for a value of a type. It is read in two ways: from a text,
where faults of the text and of the shape are met in the order of the text and a field may not be
repeated, and from a value that has been read already. A record is written as an object, or as a
list of its fields in the order of their declaration.
-/
namespace ScriptSandbox.Json

/-- How values of a type are read. -/
structure Shape (α : Type) where
  /-- From the front of a text, within a number of steps and a depth. -/
  ofText : (steps depth : Nat) → Reader α
  /-- From a value. -/
  ofValue : Json → Except Fault α

namespace Shape

variable {α β : Type}

/-- Reads another type through a function. -/
def map (f : α → β) (shape : Shape α) : Shape β where
  ofText steps depth := do return f (← shape.ofText steps depth)
  ofValue value := match shape.ofValue value with
    | .ok found => .ok (f found)
    | .error fault => .error fault

/-- Stops at a value that is not what was expected. Its text up to the first bracket is still
read. -/
def refuse (steps : Nat) (expected : String) : Reader α := do
  match ← Reader.look with
  | none => Reader.fail (.endOfText .value)
  | some '[' => Reader.fail (.invalidType .sequence expected)
  | some '\x7b' => Reader.fail (.invalidType .map expected)
  | some _ =>
    let found ← Reader.scalarOr steps fun _ => Reader.fail .expectedValue
    Reader.fail (.invalidType (.ofJson found) expected)

def mismatch (expected : String) (value : Json) : Except Fault α :=
  .error (.invalidType (.ofJson value) expected)

def any : Shape Json := ⟨Reader.value, .ok⟩

/-- A string, named in messages as `expected`. -/
def text (expected : String) : Shape String where
  ofText steps _ := do
    match ← Reader.look with
    | some '"' => Reader.string steps
    | _ => refuse steps expected
  ofValue
    | .string text => .ok text
    | value => mismatch expected value

def string : Shape String := text "a string"

def path : Shape String := text "path string"

def boolean : Shape Bool where
  ofText steps _ := do
    match ← Reader.look with
    | some 't' => do Reader.skip; Reader.literal ['r', 'u', 'e']; pure true
    | some 'f' => do Reader.skip; Reader.literal ['a', 'l', 's', 'e']; pure false
    | _ => refuse steps "a boolean"
  ofValue
    | .boolean value => .ok value
    | value => mismatch "a boolean" value

/-- A number as an integer of a range. -/
def inRange (low high : Int) (expected : String) : Number → Except Fault Int
  | .integer value =>
    if low ≤ value ∧ value ≤ high then .ok value
    else .error (.invalidValue (.number (.integer value)) expected)
  | found => .error (.invalidType (.number found) expected)

/-- An integer of a range, named in messages as `expected`. -/
def integer (low high : Int) (expected : String) : Shape Int where
  ofText steps _ := do
    let found ← match ← Reader.look with
      | some '-' => do Reader.skip; Reader.number true
      | some c => if '0' ≤ c ∧ c ≤ '9' then Reader.number false else refuse steps expected
      | none => refuse steps expected
    match inRange low high expected found with
    | .ok value => pure value
    | .error fault => Reader.fail fault
  ofValue
    | .number found => inRange low high expected found
    | value => mismatch expected value

def orNull (shape : Shape α) : Shape (Option α) where
  ofText steps depth := do
    match ← Reader.look with
    | some 'n' => do Reader.skip; Reader.literal ['u', 'l', 'l']; pure none
    | _ => return some (← shape.ofText steps depth)
  ofValue
    | .null => .ok none
    | value => (shape.map some).ofValue value

def list (shape : Shape α) : Shape (List α) where
  ofText steps depth := do
    match ← Reader.look with
    | some '[' =>
      match depth with
      | 0 => Reader.fail .tooDeep
      | depth + 1 =>
        Reader.skip
        let found ← Reader.items (shape.ofText steps depth) true [] (steps + 1)
        Reader.endList
        return found.reverse
    | _ => refuse steps "a sequence"
  ofValue
    | .array items => items.mapM shape.ofValue
    | value => mismatch "a sequence" value

/-- The fields of an object, all of one shape, by increasing name. -/
def table (shape : Shape α) : Shape (List (String × α)) where
  ofText steps depth := do
    match ← Reader.look with
    | some '\x7b' =>
      match depth with
      | 0 => Reader.fail .tooDeep
      | depth + 1 =>
        Reader.skip
        let found ← Reader.fields steps
          (fun name found => do Reader.colon; return (name, ← shape.ofText steps depth) :: found)
          true [] (steps + 1)
        Reader.endObject
        return found.reverse
    | _ => refuse steps "a map"
  ofValue
    | .object fields => fields.mapM fun (name, value) => do return (name, ← shape.ofValue value)
    | value => mismatch "a map" value

/-- One of some names, as a string or as an object with this one name and the value null. -/
def variant (known : List (String × α)) : Shape α where
  ofText steps depth := do
    let choose (name : String) : Reader α :=
      match known.lookup name with
      | some value => pure value
      | none => Reader.fail (.unknownVariant name (known.map Prod.fst))
    match ← Reader.look with
    | none => Reader.fail (.endOfText .value)
    | some '"' => choose (← Reader.string steps)
    | some '\x7b' =>
      match depth with
      | 0 => Reader.fail .tooDeep
      | _ + 1 =>
        Reader.skip
        let value ← choose (← (text "variant identifier").ofText steps 0)
        Reader.colon
        match ← Reader.look with
        | some 'n' => do Reader.skip; Reader.literal ['u', 'l', 'l']
        | _ => refuse steps "unit"
        match ← Reader.look with
        | none => Reader.fail (.endOfText .object)
        | some '\x7d' => do Reader.skip; pure value
        | some _ => Reader.fail .expectedValue
    | some _ => Reader.fail .expectedValue
  ofValue value :=
    let choose (name : String) : Except Fault α :=
      match known.lookup name with
      | some value => .ok value
      | none => .error (.unknownVariant name (known.map Prod.fst))
    match value with
    | .string name => choose name
    | .object [(name, inner)] =>
      match choose name, inner with
      | .ok value, .null => .ok value
      | .ok _, inner => mismatch "unit" inner
      | .error fault, _ => .error fault
    | .object _ => .error (.invalidValue .map "map with a single key")
    | value => mismatch "string or map" value

/-! ### Records -/

/-- What a field stands for where it is left out. -/
inductive Absence where
  /-- It may not be left out. -/
  | required
  /-- It may be left out of an object, but not of a list. -/
  | optionalByName
  /-- It may be left out everywhere. -/
  | optional
  deriving DecidableEq, Repr

structure Field (ρ : Type) where
  name : String
  absence : Absence
  shape : Shape (ρ → ρ)

/-- A field from its shape and the function that sets it. -/
def Field.of {ρ : Type} (name : String) (absence : Absence) (shape : Shape α) (set : α → ρ → ρ) :
    Field ρ :=
  ⟨name, absence, shape.map set⟩

variable {ρ : Type}

/-- What is expected in place of a record's list form. -/
def elements (typeName : String) (fields : List (Field ρ)) : String :=
  "struct " ++ typeName ++ " with " ++ Nat.repr fields.length ++
    (if fields.length = 1 then " element" else " elements")

/-- The fault of a list that ends before some fields, if it is one. -/
def missingInList (typeName : String) (all : List (Field ρ)) (count : Nat) (left : List (Field ρ)) :
    Option Fault :=
  match left.findIdx? (·.absence != .optional) with
  | some extra => some (.invalidLength (count + extra) (elements typeName all))
  | none => none

/-- The fault of an object that lacks some fields, if it is one. -/
def missingInObject (fields : List (Field ρ)) (seen : List String) : Option Fault :=
  (fields.find? fun field => field.absence == .required && !seen.contains field.name).map
    fun field => .missingField field.name

/-- Reads the list form of a record from a text. -/
def readElements (typeName : String) (all : List (Field ρ)) (steps depth : Nat) :
    (first : Bool) → (count : Nat) → List (Field ρ) → ρ → Reader ρ
  | _, _, [], record => pure record
  | first, count, field :: rest, record => do
    if ← Reader.moreItems first then
      let set ← field.shape.ofText steps depth
      readElements typeName all steps depth false (count + 1) rest (set record)
    else
      match missingInList typeName all count (field :: rest) with
      | some fault => Reader.fail fault
      | none => pure record

/-- Reads one field of the object form of a record from a text. -/
def readField (fields : List (Field ρ)) (steps depth : Nat) (name : String)
    (state : List String × ρ) : Reader (List String × ρ) :=
  match fields.find? (·.name == name) with
  -- What no field is for is passed over, whatever it holds.
  | none => do Reader.colon; Reader.skipValue steps; pure state
  | some field => do
    if state.1.contains name then Reader.fail (.duplicateField name)
    else
      Reader.colon
      let set ← field.shape.ofText steps depth
      return (name :: state.1, set state.2)

/-- Takes the list form of a record from items. -/
def takeElements (typeName : String) (all : List (Field ρ)) (length : Nat) :
    List (Field ρ) → List Json → ρ → Except Fault ρ
  | [], [], record => .ok record
  | [], _ :: _, _ => .error (.invalidLength length "fewer elements in array")
  | field :: rest, [], record =>
    match missingInList typeName all length (field :: rest) with
    | some fault => .error fault
    | none => .ok record
  | field :: rest, item :: items, record => do
    let set ← field.shape.ofValue item
    takeElements typeName all length rest items (set record)

/-- Takes the fields of an object one after the other. -/
def takeFields (fields : List (Field ρ)) :
    List (String × Json) → List String × ρ → Except Fault (List String × ρ)
  | [], state => .ok state
  | (name, value) :: rest, (seen, record) =>
    match fields.find? (·.name == name) with
    | none => takeFields fields rest (seen, record)
    | some field => do
      let set ← field.shape.ofValue value
      takeFields fields rest (name :: seen, set record)

/-- A record of some fields, starting from their defaults. -/
def record (typeName : String) (fields : List (Field ρ)) (default : ρ) : Shape ρ where
  ofText steps depth := do
    let expected := "struct " ++ typeName
    match ← Reader.look with
    | none => Reader.fail (.endOfText .value)
    | some '[' =>
      match depth with
      | 0 => Reader.fail .tooDeep
      | depth + 1 =>
        Reader.skip
        let found ← readElements typeName fields steps depth true 0 fields default
        Reader.endList
        pure found
    | some '\x7b' =>
      match depth with
      | 0 => Reader.fail .tooDeep
      | depth + 1 =>
        Reader.skip
        let (seen, found) ←
          Reader.fields steps (readField fields steps depth) true ([], default) (steps + 1)
        -- A missing field is noticed before the closing bracket is taken.
        match missingInObject fields seen with
        | some fault => Reader.fail fault
        | none =>
          Reader.endObject
          pure found
    | some _ => refuse steps expected
  ofValue
    | .array items => takeElements typeName fields items.length fields items default
    | .object given => do
      let (seen, found) ← takeFields fields given ([], default)
      match missingInObject fields seen with
      | some fault => .error fault
      | none => .ok found
    | value => mismatch ("struct " ++ typeName) value

def parse (shape : Shape α) (text : Bytes) : Except Fault α :=
  Reader.run (fun steps => shape.ofText steps Reader.maxDepth) text

end Shape

end ScriptSandbox.Json
