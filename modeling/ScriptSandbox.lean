import ScriptSandbox.Bridge.Builtin
import ScriptSandbox.Bridge.Call
import ScriptSandbox.Bridge.Dispatch
import ScriptSandbox.Bridge.Handlers
import ScriptSandbox.Bridge.Message
import ScriptSandbox.Bridge.Prelude
import ScriptSandbox.Deadline
import ScriptSandbox.Decimal.Binary64
import ScriptSandbox.Decimal.Layout
import ScriptSandbox.Decimal.Shortest
import ScriptSandbox.Fault
import ScriptSandbox.Files.Boundary
import ScriptSandbox.Files.Fault
import ScriptSandbox.Files.Operations
import ScriptSandbox.Files.Path
import ScriptSandbox.Files.System
import ScriptSandbox.Files.Tree
import ScriptSandbox.Files.Walk
import ScriptSandbox.Guest.Activity
import ScriptSandbox.Guest.Core
import ScriptSandbox.Guest.Engine
import ScriptSandbox.Guest.EngineConfig
import ScriptSandbox.Guest.Exchange
import ScriptSandbox.Guest.Image
import ScriptSandbox.Guest.Memory
import ScriptSandbox.Guest.Program
import ScriptSandbox.Guest.Status
import ScriptSandbox.Guest.TextRegion
import ScriptSandbox.Http.Exchange
import ScriptSandbox.Http.Request
import ScriptSandbox.Http.Rules
import ScriptSandbox.Json.Fault
import ScriptSandbox.Json.Printer
import ScriptSandbox.Json.Reader
import ScriptSandbox.Json.Shape
import ScriptSandbox.Json.Skipping
import ScriptSandbox.Json.Value
import ScriptSandbox.Policy.Basic
import ScriptSandbox.Proofs.Bridge.Arguments
import ScriptSandbox.Proofs.Bridge.Delivery
import ScriptSandbox.Proofs.Bridge.Interleaving
import ScriptSandbox.Proofs.Bridge.LogLines
import ScriptSandbox.Proofs.Bridge.Refusals
import ScriptSandbox.Proofs.Bridge.Routing
import ScriptSandbox.Proofs.Bridge.Serving
import ScriptSandbox.Proofs.Bridge.Wording
import ScriptSandbox.Proofs.Deadline
import ScriptSandbox.Proofs.Decimal.Integers
import ScriptSandbox.Proofs.Decimal.Numerals
import ScriptSandbox.Proofs.Files.Calls
import ScriptSandbox.Proofs.Files.Change
import ScriptSandbox.Proofs.Files.Confinement
import ScriptSandbox.Proofs.Files.Failure
import ScriptSandbox.Proofs.Files.Reaching
import ScriptSandbox.Proofs.Files.Folding
import ScriptSandbox.Proofs.Files.Listing
import ScriptSandbox.Proofs.Files.Resolution
import ScriptSandbox.Proofs.Files.Root
import ScriptSandbox.Proofs.Files.Search
import ScriptSandbox.Proofs.Files.Secrecy
import ScriptSandbox.Proofs.Guest.Blame
import ScriptSandbox.Proofs.Guest.ErrorText
import ScriptSandbox.Proofs.Guest.Evaluation
import ScriptSandbox.Proofs.Guest.Exceptions
import ScriptSandbox.Proofs.Guest.History
import ScriptSandbox.Proofs.Guest.HostCall
import ScriptSandbox.Proofs.Guest.Logging
import ScriptSandbox.Proofs.Guest.Memory
import ScriptSandbox.Proofs.Guest.Record
import ScriptSandbox.Proofs.Guest.Running
import ScriptSandbox.Proofs.Guest.Session
import ScriptSandbox.Proofs.Guest.Stops
import ScriptSandbox.Proofs.Guest.TextRegion
import ScriptSandbox.Proofs.Guest.Uncaught
import ScriptSandbox.Proofs.Guest.Validation
import ScriptSandbox.Proofs.Http.Allowlist
import ScriptSandbox.Proofs.Http.Bodies
import ScriptSandbox.Proofs.Http.Chains
import ScriptSandbox.Proofs.Http.Labels
import ScriptSandbox.Proofs.Http.Policy
import ScriptSandbox.Proofs.Http.Redirects
import ScriptSandbox.Proofs.Json.Nesting
import ScriptSandbox.Proofs.Json.Outcomes
import ScriptSandbox.Proofs.Json.RoundTrip
import ScriptSandbox.Proofs.Json.Tokens
import ScriptSandbox.Proofs.Script.Data
import ScriptSandbox.Proofs.Script.Decoding
import ScriptSandbox.Proofs.Script.RoundTrip
import ScriptSandbox.Proofs.Text.Digits
import ScriptSandbox.Proofs.Text.Search
import ScriptSandbox.Proofs.Text.Units
import ScriptSandbox.Proofs.Text.Utf8
import ScriptSandbox.Sandbox
import ScriptSandbox.Script.Bindings
import ScriptSandbox.Script.Conversion
import ScriptSandbox.Script.Decoding
import ScriptSandbox.Script.Encoding
import ScriptSandbox.Script.Expression
import ScriptSandbox.Script.Failure
import ScriptSandbox.Script.Interpreter
import ScriptSandbox.Script.Numeral
import ScriptSandbox.Script.Program
import ScriptSandbox.Script.Value
import ScriptSandbox.Text.Ascii
import ScriptSandbox.Text.Blank
import ScriptSandbox.Text.Bytes
import ScriptSandbox.Text.Escaped
import ScriptSandbox.Text.Ranges
import ScriptSandbox.Text.Search
import ScriptSandbox.Text.Units
import ScriptSandbox.Text.Utf8
import ScriptSandbox.Url.Address
import ScriptSandbox.Url.Basic
import ScriptSandbox.Url.Fault
import ScriptSandbox.Url.Host
import ScriptSandbox.Url.Idna
import ScriptSandbox.Url.Idna.Composition
import ScriptSandbox.Url.Idna.Direction
import ScriptSandbox.Url.Idna.Joining
import ScriptSandbox.Url.Idna.Mapping
import ScriptSandbox.Url.Parser
import ScriptSandbox.Url.Percent
import ScriptSandbox.Url.Punycode
import ScriptSandbox.Proofs.Files.Agreement
import ScriptSandbox.Proofs.Files.Normal
import ScriptSandbox.Proofs.Guest.Transport
import ScriptSandbox.Proofs.Http.Headers
import ScriptSandbox.Proofs.Settings
