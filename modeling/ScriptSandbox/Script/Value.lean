import ScriptSandbox.Decimal.Layout
import ScriptSandbox.Text.Units

/-!
# Values of scripts

The values that a script computes with, as far as their texts depend on them. A function of a script
is known by what a call of it does: it completes with a value or throws one, and it may set global
variables on the way. Of a global variable only the type of its value is kept.
-/
namespace ScriptSandbox.Script

/-- The text of a string value, in UTF-16 units. -/
abbrev Units := List UInt16

def units (text : String) : Units := ScriptSandbox.Units.ofText text.toList

/-- What `typeof` tells values apart by. -/
inductive TypeName where
  | undefined | object | boolean | number | bigint | string | symbol | function
  deriving DecidableEq, Repr

def TypeName.text : TypeName → String
  | undefined => "undefined"
  | object => "object"
  | boolean => "boolean"
  | number => "number"
  | bigint => "bigint"
  | string => "string"
  | symbol => "symbol"
  | function => "function"

/-- The global variables that a script has set, the latest first. -/
abbrev Globals := List (String × TypeName)

inductive Prototype where
  | object
  | error
  | none
  deriving DecidableEq, Repr

mutual

inductive Value where
  | undefined
  | null
  | boolean (value : Bool)
  | number (value : Binary64)
  | bigint (value : Int)
  | symbol (description : Units)
  | string (text : Units)
  /-- The function that gives back its first argument. -/
  | echo
  /-- A function that looks at no argument. -/
  | method (call : Globals → Completion)
  | array (items : List Value)
  /-- An object with its own properties, in the order in which they are enumerated. -/
  | object (prototype : Prototype) (properties : List Property)
  /-- An object that has itself as a property. -/
  | cycle

inductive Property where
  | data (name : Units) (enumerable : Bool) (value : Value)
  | getter (name : Units) (call : Globals → Completion)

/-- How a call ends. -/
inductive Completion where
  | normal (value : Value) (globals : Globals)
  | thrown (value : Value) (globals : Globals)

end

/-- A computation that may throw and set global variables. -/
abbrev Run := ExceptT Value (StateM Globals)

def Completion.run : Completion → Run Value
  | normal value globals => fun _ => (.ok value, globals)
  | thrown value globals => fun _ => (.error value, globals)

def completion (run : Run Value) (globals : Globals) : Completion :=
  match run globals with
  | (.ok value, globals) => .normal value globals
  | (.error value, globals) => .thrown value globals

namespace Property

def name : Property → Units
  | data name _ _ => name
  | getter name _ => name

/-- The number that orders a property before those with other names. -/
def index? (property : Property) : Option Nat :=
  match ScriptSandbox.Units.toText? property.name with
  | some ['0'] => some 0
  | some ('0' :: _) | some [] | none => none
  | some digits =>
    if digits.length ≤ 10 ∧ digits.all Char.isDigit then
      let value := digits.foldl (fun value c => 10 * value + (c.toNat - 48)) 0
      if value < UInt32.size - 1 then some value else none
    else none

/-- Puts a property into a list: in the place of one with its name, or at the end. -/
def put (property : Property) : List Property → List Property
  | [] => [property]
  | other :: rest => if other.name = property.name then property :: rest else other :: put property rest

/-- Properties in the order of enumeration: names that are numbers first, by value, then the others
as they were added. -/
def enumerated (added : List Property) : List Property :=
  let unique := added.foldl (fun found property => property.put found) []
  let numbered := unique.filterMap fun property => property.index?.map (·, property)
  (numbered.mergeSort fun a b => decide (a.1 ≤ b.1)).map Prod.snd ++ unique.filter (·.index?.isNone)

end Property

namespace Value

def ofString (text : String) : Value := .string (units text)

/-- An error that the engine throws. -/
def error (name message : String) : Value :=
  .object .error [
    .data (units "name") false (.ofString name), .data (units "message") false (.ofString message)]

def ofProperties (prototype : Prototype) (added : List Property) : Value :=
  .object prototype (Property.enumerated added)

def typeName : Value → TypeName
  | undefined => .undefined
  | null => .object
  | boolean _ => .boolean
  | number _ => .number
  | bigint _ => .bigint
  | symbol _ => .symbol
  | string _ => .string
  | echo | method _ => .function
  | array _ | object .. | cycle => .object

/-- Whether a value is no primitive one. -/
def isObject : Value → Bool
  | echo | method _ | array _ | object .. | cycle => true
  | _ => false

def isTruthy : Value → Bool
  | undefined | null => false
  | boolean value => value
  | number value => value != .nan && !value.isZero
  | bigint value => value != 0
  | string text => !text.isEmpty
  | _ => true

def isVoid : Value → Bool
  | undefined | null => true
  | _ => false

/-- Calls a value without arguments, if it is a function. -/
def call? : Value → Option (Run Value)
  | echo => some (pure .undefined)
  | method call => some fun globals => (call globals).run globals
  | _ => none

def properties : Value → List Property
  | object _ properties => properties
  | _ => []

def has (value : Value) (name : String) : Bool := value.properties.any (·.name = units name)

/-- The own property with a name, none when there is none. -/
def get? (value : Value) (name : String) : Run (Option Value) :=
  match value.properties.find? (·.name = units name) with
  | some (.data _ _ found) => pure (some found)
  | some (.getter _ call) => fun globals => (some <$> (call globals).run) globals
  | none => pure none

end Value

end ScriptSandbox.Script
