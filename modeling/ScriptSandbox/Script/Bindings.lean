import ScriptSandbox.Bridge.Prelude
import ScriptSandbox.Script.Decoding
import ScriptSandbox.Script.Encoding

/-!
# Calls through the bindings

What the functions of the prelude do when a script calls them: the method and its arguments go to
the host as one JSON text, and the reply, again a JSON text, holds an error to throw or a result to
give back.
-/
namespace ScriptSandbox.Script

/-- How the host answers a request: with a text, or with null. -/
abbrev Responder := Units → Option (List Char)

/-- A call with the requests that it sent. -/
structure BoundCall where
  sent : List Units
  outcome : Except Value Value

def replyField (reply : Value) (name : String) : Run Value := do
  if reply.isVoid then
    raise "TypeError" ("cannot read property '" ++ name ++ "' of " ++
      (match reply with | .null => "null" | _ => "undefined"))
  else return (← reply.get? name).getD .undefined

/-- What the text of a reply comes to for a script. -/
def receive (text : List Char) : Run Value := do
  match Value.decode? text with
  | none => raise "SyntaxError" "unexpected token in JSON"
  | some reply =>
    match ← replyField reply "error" with
    | .undefined => replyField reply "result"
    | error => throw (.object .error [.data (units "message") false (.string (← error.toUnits))])

/-- The request for a method with arguments. -/
def requestText (method : Value) (args : List Value) : Run Units := do
  let request := Value.object .object
    [.data (units "method") true method, .data (units "args") true (.array args)]
  return (← request.encode).getD []

def callMethod (responder : Responder) (method : Value) (args : List Value) : BoundCall :=
  match requestText method args [] with
  | (.error thrown, _) => ⟨[], .error thrown⟩
  | (.ok request, globals) =>
    match responder request with
    | none => ⟨[request], .ok .null⟩
    | some text => ⟨[request], (receive text globals).1⟩

/-- The argument for a tool; a false one is an empty list. -/
def toolArgs : List Value → Value
  | _ :: args :: _ => if args.isTruthy then args else .array []
  | _ => .array []

/-- The paths of the functions that only name their method. -/
def boundPaths : List String :=
  "log" :: Bridge.methodGroups.flatMap fun (group, methods) =>
    methods.map fun method => group ++ "." ++ method

def callBound (responder : Responder) (path : String) (args : List Value) : BoundCall :=
  if path = "call" then callMethod responder (args.head?.getD .undefined) args.tail
  else if path = "tools.invoke" then
    callMethod responder (.ofString path) [.object .object
      [.data (units "toolId") true (args.head?.getD .undefined), .data (units "args") true (toolArgs args)]]
  else if boundPaths.contains path then callMethod responder (.ofString path) args
  else ⟨[], .error (.error "TypeError" "not a function")⟩

end ScriptSandbox.Script
