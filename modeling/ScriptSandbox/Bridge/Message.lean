import ScriptSandbox.Bridge.Call

/-!
# Messages of the bridge

A guest sends a request, an object with a method and a list of arguments, and gets a reply, an
object with either a result or an error.
-/
namespace ScriptSandbox.Bridge

structure Request where
  method : Option String
  args : List Json

def Request.shape : Json.Shape Request :=
  .record "HostCallRequest" [
      .of "method" .optional (.orNull .string) (fun method request => { request with method }),
      .of "args" .optional (.list .any) (fun args request => { request with args })]
    ⟨none, []⟩

/-- Which tool a request is for, and its arguments. -/
structure ToolRequest where
  tool : String
  args : List Json

def ToolRequest.shape : Json.Shape ToolRequest :=
  .record "ToolInvocation" [
      .of "toolId" .required .string (fun tool request => { request with tool }),
      .of "args" .optional (.list .any) (fun args request => { request with args })]
    ⟨"", []⟩

inductive Reply where
  | result (value : Json)
  | error (message : String)

namespace Reply

def toJson : Reply → Json
  | result value => .object [("result", value)]
  | error message => .object [("error", .string message)]

def toBytes (reply : Reply) : Bytes := reply.toJson.toBytes

def isError : Reply → Bool
  | result _ => false
  | error _ => true

end Reply

end ScriptSandbox.Bridge
