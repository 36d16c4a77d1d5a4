/-!
# The script bindings

Scripts reach the host through an object `scriptbox` with a function for each method, by group. The
functions are bound by a script that runs before everything else, the prelude.
-/
namespace ScriptSandbox.Bridge

def methodGroups : List (String × List String) :=
  [("math", ["add", "subtract", "multiply", "divide"]),
   ("fs", ["readText", "writeText", "listDirectory", "exists", "delete", "createDirectory"]),
   ("http", ["get", "postJson", "request"])]

/-- Puts a comma after every line but the last. -/
def commaSeparated : List String → List String
  | [] => []
  | [line] => [line]
  | line :: rest => (line ++ ",") :: commaSeparated rest

def groupLines (group : String × List String) : List String :=
  let (name, methods) := group
  ["    " ++ name ++ ": \x7b"] ++
    commaSeparated (methods.map fun method =>
      "      " ++ method ++ ": bind(\"" ++ name ++ "." ++ method ++ "\")") ++
    ["    \x7d,"]

/-- The lines before the groups: how a method is called. -/
def callLines : List String :=
  ["var scriptbox = (function () \x7b",
   "  function call(method) \x7b",
   "    var args = Array.prototype.slice.call(arguments, 1);",
   "    var raw = __host.bridge(JSON.stringify(\x7b method: method, args: args \x7d));",
   "    if (raw === null) \x7b",
   "      return null;",
   "    \x7d",
   "    var response = JSON.parse(raw);",
   "    if (response.error !== undefined) \x7b",
   "      throw new Error(response.error);",
   "    \x7d",
   "    return response.result;",
   "  \x7d",
   "",
   "  function bind(method) \x7b",
   "    return function () \x7b",
   "      return call.apply(null, [method].concat(Array.prototype.slice.call(arguments)));",
   "    \x7d;",
   "  \x7d",
   "",
   "  return \x7b",
   "    call: call,",
   "    log: bind(\"log\"),"]

/-- The lines after the groups: the tools. -/
def toolLines : List String :=
  ["    tools: \x7b",
   "      invoke: function (toolId, args) \x7b",
   "        return call(\"tools.invoke\", \x7b toolId: toolId, args: args || [] \x7d);",
   "      \x7d",
   "    \x7d",
   "  \x7d;",
   "\x7d)();"]

def preludeScript : String :=
  String.join ((callLines ++ methodGroups.flatMap groupLines ++ toolLines).map (· ++ "\n"))

end ScriptSandbox.Bridge
