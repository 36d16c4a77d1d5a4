import ScriptSandbox.Bridge.Call
import ScriptSandbox.Text.Ascii

/-!
# Registered handlers

Methods and tools are registered by name and found without regard to the case of the letters A to Z.
A name registered again replaces the earlier handler.
-/
namespace ScriptSandbox.Bridge

/-- The handlers of an embedder. Names are kept in lower case, each once. -/
structure Handlers where
  methods : List (String × Handler) := []
  tools : List (String × Handler) := []
  /-- A script that installs the embedder's bindings. -/
  bootstrap : Option String := none

namespace Handlers

/-- Puts a handler under a name that is in lower case already. -/
def put (name : String) (handler : Handler) (table : List (String × Handler)) : List (String × Handler) :=
  (name, handler) :: table.filter (·.1 != name)

def register (handlers : Handlers) (method : String) (handler : Handler) : Handlers :=
  { handlers with methods := put (Ascii.lowerString method) handler handlers.methods }

def registerTool (handlers : Handlers) (id : String) (handler : Handler) : Handlers :=
  { handlers with tools := put (Ascii.lowerString id) handler handlers.tools }

def method? (handlers : Handlers) (name : String) : Option Handler :=
  handlers.methods.lookup (Ascii.lowerString name)

def tool? (handlers : Handlers) (id : String) : Option Handler :=
  handlers.tools.lookup (Ascii.lowerString id)

def methodNames (handlers : Handlers) : List String := handlers.methods.map Prod.fst

def size (handlers : Handlers) : Nat := handlers.methods.length

end Handlers

end ScriptSandbox.Bridge
