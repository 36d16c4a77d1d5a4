import ScriptSandbox.Json.Printer
import ScriptSandbox.Script.Value

/-!
# Values as strings

`Value.toUnits` is the string that a value turns into where a string is wanted. An object turns into
what its `toString` gives, or its `valueOf` where that gives an object again; an array joins its
items by commas. A string with a lone surrogate is a string for scripts, but cannot leave the
engine.
-/
namespace ScriptSandbox.Script

def raise {α : Type} (name message : String) : Run α := throw (Value.error name message)

def functionText : String := "function f(a) \x7b return a; \x7d"

namespace Value

def primitiveUnits : Value → Run Units
  | undefined => pure (units "undefined")
  | null => pure (units "null")
  | boolean value => pure (units (if value then "true" else "false"))
  | number value => pure (units (Decimal.Layout.script.text value))
  | bigint value => pure (units (String.ofList (Json.integerText value)))
  | string text => pure text
  | symbol _ => raise "TypeError" "cannot convert symbol to string"
  | _ => raise "TypeError" "toPrimitive"

/-- The string of what a method of an object gives, none when it is no function or gives an
object. -/
def fromMethod? (value : Value) (name : String) : Run (Option Units) := do
  match (← value.get? name).bind call? with
  | none => return none
  | some call =>
    let given ← call
    if given.isObject then return none else return some (← given.primitiveUnits)

/-- The string of a property that is a string or absent. -/
def stringField (value : Value) (name default : String) : Run Units := do
  match ← value.get? name with
  | none | some undefined => return units default
  | some given => given.primitiveUnits

def errorUnits (value : Value) : Run Units := do
  let name ← value.stringField "name" "Error"
  let message ← value.stringField "message" ""
  if name.isEmpty then return message
  else if message.isEmpty then return name
  else return name ++ units ": " ++ message

/-- The string of an object: of its own method, or of the one that it inherits. -/
def objectUnits (prototype : Prototype) (value : Value) : Run Units := do
  if value.has "toString" || prototype = .none then
    -- A method of its own that gives no primitive value leaves the turn to `valueOf`.
    match ← value.fromMethod? "toString" with
    | some text => return text
    | none =>
      match ← value.fromMethod? "valueOf" with
      | some text => return text
      | none => raise "TypeError" "toPrimitive"
  else if prototype = .error then value.errorUnits
  else return units "[object Object]"

mutual

def toUnits : Value → Run Units
  | array items => do return (units ",").intercalate (← itemUnits items)
  | object prototype properties => objectUnits prototype (.object prototype properties)
  | cycle => pure (units "[object Object]")
  | echo | method _ => pure (units functionText)
  | undefined => primitiveUnits undefined
  | null => primitiveUnits null
  | boolean value => primitiveUnits (boolean value)
  | number value => primitiveUnits (number value)
  | bigint value => primitiveUnits (bigint value)
  | string text => pure text
  | symbol description => primitiveUnits (symbol description)

/-- The strings of items; those of undefined and null items are empty. -/
def itemUnits : List Value → Run (List Units)
  | [] => pure []
  | item :: rest => do
    let first ← if item.isVoid then pure [] else toUnits item
    return first :: (← itemUnits rest)

end

/-- How many bytes of a string's text come before its first lone surrogate. -/
def bytesBeforeSurrogate (text : Units) : Nat :=
  let whole := (ScriptSandbox.Units.pieces text).takeWhile Sum.isRight
  (Utf8.encode (whole.filterMap Sum.getRight?)).length

/-- The text that leaves the engine for a value. -/
def toText (value : Value) : Run String := do
  let text ← value.toUnits
  match ScriptSandbox.Units.toText? text with
  | some characters => return String.ofList characters
  | none =>
    raise "TypeError"
      ("Conversion from string failed: invalid utf-8 sequence of 1 bytes from index " ++
        Nat.repr (bytesBeforeSurrogate text))

end Value

end ScriptSandbox.Script
