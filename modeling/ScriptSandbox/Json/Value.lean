import ScriptSandbox.Decimal.Binary64

/-!
# JSON values

Numbers are kept as integers where they were written as integers and fit 64 bits, and as doubles
otherwise. The fields of an object are listed by increasing name, each name once; `setField` keeps
that order, and a later value replaces an earlier one.
-/
namespace ScriptSandbox

inductive Json.Number where
  | integer (value : Int)
  | float (value : Binary64)
  deriving DecidableEq, Repr, Inhabited

inductive Json where
  | null
  | boolean (value : Bool)
  | number (value : Json.Number)
  | string (text : String)
  | array (items : List Json)
  | object (fields : List (String × Json))
  deriving Repr, Inhabited

namespace Json

def int (value : Int) : Json := .number (.integer value)

def Number.toBinary64 : Number → Binary64
  | .integer value => .ofInt value
  | .float value => value

/-- Puts a field into a list of fields ordered by name. -/
def setField (name : String) (value : Json) : List (String × Json) → List (String × Json)
  | [] => [(name, value)]
  | (other, old) :: rest =>
    if name < other then (name, value) :: (other, old) :: rest
    else if name = other then (name, value) :: rest
    else (other, old) :: setField name value rest

def asString? : Json → Option String
  | string text => some text
  | _ => none

def asNumber? : Json → Option Binary64
  | number value => some value.toBinary64
  | _ => none

end Json

end ScriptSandbox
