import ScriptSandbox.Script.Conversion

/-!
# Expressions and their evaluation

The expressions of scripts, and what they evaluate to against a host that answers bridge calls. The
functions of an object are evaluated when they are called, each time anew.
-/
namespace ScriptSandbox.Script

mutual

inductive Expression where
  | undefined
  | null
  | boolean (value : Bool)
  | number (value : Binary64)
  | bigint (value : Int)
  | symbol (description : Units)
  | string (text : Units)
  /-- The function that gives back its first argument. -/
  | function
  | array (items : List Expression)
  | object (prototype : Prototype) (members : List Member)
  /-- An error with a name, a message and a stack. -/
  | error (name message : Units) (stack : Expression)
  /-- An object that has itself as a property. -/
  | cycle
  | bridge (args : List Expression)
  /-- An expression; when it throws, the string of what it throws, behind a word. -/
  | caught (attempt : Expression)
  /-- The type of a global variable, or of a property of one. -/
  | typeOf (path : String)
  | typeOfValue (operand : Expression)
  | assign (name : String) (value : Expression)
  | strict

inductive Member where
  | field (name : Units) (value : Expression)
  | method (name : Units) (throws : Bool) (result : Expression)
  | getter (name : Units) (throws : Bool) (result : Expression)

end

/-! ### Global variables -/

def globalFunctions : List String :=
  ["Object", "Function", "Error", "EvalError", "RangeError", "ReferenceError", "SyntaxError", "TypeError",
   "URIError", "InternalError", "AggregateError", "Array", "parseInt", "parseFloat", "isNaN", "isFinite",
   "decodeURI", "decodeURIComponent", "encodeURI", "encodeURIComponent", "escape", "unescape", "Number",
   "Boolean", "String", "Symbol", "BigInt", "eval", "Date", "RegExp", "Proxy", "Map", "Set", "WeakMap",
   "WeakSet", "WeakRef", "FinalizationRegistry", "Promise", "ArrayBuffer", "SharedArrayBuffer", "DataView",
   "Uint8ClampedArray", "Int8Array", "Uint8Array", "Int16Array", "Uint16Array", "Int32Array", "Uint32Array",
   "BigInt64Array", "BigUint64Array", "Float32Array", "Float64Array", "__host.bridge", "console.log",
   "console.info", "console.warn", "console.error", "console.debug", "JSON.parse", "JSON.stringify"]

def globalObjects : List String := ["__host", "console", "globalThis", "Math", "JSON", "Reflect", "Atomics"]

/-- The type under a path, where every variable on the way exists. -/
def typeAt (globals : Globals) (path : String) : TypeName :=
  match globals.lookup path with
  | some found => found
  | none =>
    if globalFunctions.contains path then .function
    else if globalObjects.contains path then .object
    else if path = "NaN" || path = "Infinity" then .number
    else .undefined

/-! ### Calls of the host -/

def replyRoom : Nat := 64 * 1024

/-- What the host does with a call: it writes bytes to the front of the room and returns a code. -/
structure HostReply where
  written : Bytes
  code : Int32

/-- A host as scripts reach it. -/
abbrev Transport := Bytes → HostReply

/-- The host that sends back as much of a request as there is room for. -/
def loopback : Transport := fun request =>
  let written := request.take replyRoom
  ⟨written, Int32.ofNat written.length⟩

def faulty (code : Int32) : Transport := fun _ => ⟨[], code⟩

/-- What a script gets for a reply: an error for a negative code, nothing for zero, and otherwise as
many bytes of the room as the code says. -/
def HostReply.value (reply : HostReply) : Run Value :=
  if reply.code < 0 then
    raise "InternalError" ("Host call failed with error code " ++
      String.ofList (Json.integerText reply.code.toInt))
  else if reply.code = 0 then pure .undefined
  else
    let room := reply.written ++ List.replicate (replyRoom - reply.written.length) 0
    pure (.ofString (Utf8.toStringLossy (room.take reply.code.toInt.toNat)))

/-- Calls the host with the string of the first argument. -/
def callHost (transport : Transport) : List Value → Run Value
  | [] => raise "TypeError" "Error calling function with 0 argument(s) while 1 where expected"
  | request :: _ => do (transport (Utf8.ofString (← request.toText))).value

/-! ### Evaluation -/

/-- The properties of an error: its name shows, its message and its stack do not. -/
def errorProperties (name message : Units) (stack : Value) : List Property :=
  [.data (units "message") false (.string message), .data (units "stack") false stack,
   .data (units "name") true (.string name)]

/-- Runs a computation; when it throws, the string of what it throws is the value, behind a word. -/
def catching (attempt : Run Value) : Run Value :=
  tryCatch attempt fun thrown => do return .string (units "caught " ++ (← thrown.toUnits))

/-- What a function does with its result: it gives it back or throws it. -/
def concluded (throws : Bool) (result : Run Value) : Run Value := do
  let value ← result
  if throws then throw value else return value

mutual

def Expression.eval (transport : Transport) : Expression → Run Value
  | .undefined => pure .undefined
  | .null => pure .null
  | .boolean value => pure (.boolean value)
  | .number value => pure (.number value)
  | .bigint value => pure (.bigint value)
  | .symbol description => pure (.symbol description)
  | .string text => pure (.string text)
  | .function => pure .echo
  | .array items => do return .array (← evalItems transport items)
  | .object prototype members => do return .ofProperties prototype (← evalMembers transport members)
  | .error name message stack => do
    return .ofProperties .error (errorProperties name message (← stack.eval transport))
  | .cycle => pure .cycle
  | .bridge args => do callHost transport (← evalItems transport args)
  | .caught attempt => catching (attempt.eval transport)
  | .typeOf path => do return .ofString (typeAt (← get) path).text
  | .typeOfValue operand => do return .ofString (← operand.eval transport).typeName.text
  | .assign name value => do
    let value ← value.eval transport
    modify ((name, value.typeName) :: ·)
    return value
  | .strict => pure (.boolean false)

def evalItems (transport : Transport) : List Expression → Run (List Value)
  | [] => pure []
  | item :: rest => do
    let value ← item.eval transport
    return value :: (← evalItems transport rest)

def evalMembers (transport : Transport) : List Member → Run (List Property)
  | [] => pure []
  | .field name value :: rest => do
    let value ← value.eval transport
    return .data name true value :: (← evalMembers transport rest)
  | .method name throws result :: rest => do
    let call := completion (concluded throws (result.eval transport))
    return .data name true (.method call) :: (← evalMembers transport rest)
  | .getter name throws result :: rest => do
    return .getter name (completion (concluded throws (result.eval transport))) ::
      (← evalMembers transport rest)

end

end ScriptSandbox.Script
