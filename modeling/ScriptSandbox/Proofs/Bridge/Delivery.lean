import ScriptSandbox.Bridge.Message
import ScriptSandbox.Proofs.Script.Decoding
import ScriptSandbox.Proofs.Script.RoundTrip
import ScriptSandbox.Script.Bindings
import ScriptSandbox.Script.Expression

/-!
# Replies on their way to a script

A guest has room for so many bytes of a reply. A reply that fits arrives as it was sent. Of one that
does not, the script hears a text that is no JSON text, so that it is never taken for another reply.
-/
namespace ScriptSandbox.Bridge

open Script (Property Value units)

namespace Reply

/-- What the host writes of a reply where there is room for so many bytes, and the code that it
returns. -/
def sent (reply : Reply) (room : Nat) : Script.HostReply :=
  let written := reply.toBytes.take room
  ⟨written, Int32.ofNat written.length⟩

/-- The text that a script hears of a reply for which there is room for so many bytes. -/
def heard (reply : Reply) (room : Nat) : List Char := Utf8.decodeLossy (reply.toBytes.take room)

/-- What a call of a binding comes to: a result is given back, and an error is thrown. -/
def outcome : Reply → Except Value Value
  | result value => .ok (.ofJson value)
  | error message => .error (.object .error [.data (units "message") false (.ofString message)])

/-- Replies whose text is read back as it was, which every error is. -/
def Exact : Reply → Prop
  | result value => Json.Exact (Json.Reader.maxDepth - 1) value
  | error _ => True

variable {reply : Reply} {room count : Nat}

theorem Exact.toJson (exact : reply.Exact) : Json.Exact Json.Reader.maxDepth reply.toJson := by
  cases reply with
  | result value =>
    refine .object (List.pairwise_singleton _ _) fun field member => ?_
    obtain rfl := List.mem_singleton.mp member
    exact exact
  | error message =>
    refine .object (List.pairwise_singleton _ _) fun field member => ?_
    obtain rfl := List.mem_singleton.mp member
    exact .string message

/-! ### Replies that fit -/

theorem heard_whole (fits : reply.toBytes.length ≤ room) :
    reply.heard room = reply.toJson.render := by
  rw [heard, List.take_of_length_le fits]
  exact Utf8.decodeLossy_encode _

private theorem enumerated_singleton {property : Property} (named : property.index? = none) :
    Property.enumerated [property] = [property] := by
  simp [Property.enumerated, Property.put, named]

/-- A script finds the one field of a reply, and acts on it. -/
theorem receive_of_decode? {text : List Char}
    (decoded : Value.decode? text = some (.ofJson reply.toJson)) (globals : Script.Globals) :
    Script.receive text globals = (reply.outcome, globals) := by
  cases reply with
  | result value =>
    have only : Value.ofJson (toJson (.result value)) =
        .object .object [.data (units "result") true (.ofJson value)] :=
      congrArg (Value.object .object) (enumerated_singleton rfl)
    rw [Script.receive, decoded, only]
    rfl
  | error message =>
    have only : Value.ofJson (toJson (.error message)) =
        .object .object [.data (units "error") true (.ofString message)] :=
      congrArg (Value.object .object) (enumerated_singleton rfl)
    rw [Script.receive, decoded, only]
    rfl

/-! ### Replies that do not fit -/

theorem decode?_heard (cut : count < reply.toBytes.length) :
    Value.decode? (reply.heard count) = none := by
  cases reply with
  | result value => exact Script.decode?_of_cut cut
  | error message => exact Script.decode?_of_cut cut

theorem receive_of_decode?_none {text : List Char} (broken : Value.decode? text = none)
    (globals : Script.Globals) :
    Script.receive text globals =
      (.error (.error "SyntaxError" "unexpected token in JSON"), globals) := by
  rw [Script.receive, broken]
  rfl

/-! ### Replies in the room of a binding -/

theorem toBytes_ne_nil (reply : Reply) : reply.toBytes ≠ [] := by
  have start : reply.toJson.render ≠ [] := by cases reply <;> simp [toJson, Json.render]
  intro nothing
  have text := Utf8.decodeLossy_encode reply.toJson.render
  rw [show Utf8.encode reply.toJson.render = [] from nothing] at text
  exact start text.symm

/-- The function that calls the host gives a script the text that it hears. -/
theorem value_sent (reply : Reply) (positive : 0 < room) (within : room ≤ Script.replyRoom) :
    (reply.sent room).value = pure (.ofString (String.ofList (reply.heard room))) := by
  have long := List.length_pos_iff.mpr reply.toBytes_ne_nil
  have length : (reply.toBytes.take room).length = min room reply.toBytes.length := List.length_take
  have bound : Script.replyRoom = 65536 := rfl
  -- A room this small leaves the code of a number of bytes positive.
  have code : (reply.sent room).code.toInt = (reply.toBytes.take room).length :=
    Int32.toInt_ofNat_of_lt (by omega)
  have zero : (0 : Int32).toInt = 0 := rfl
  have notNegative : ¬(reply.sent room).code < 0 := by
    rw [Int32.lt_iff_toInt_lt, code, zero]
    omega
  have notZero : ¬(reply.sent room).code = 0 := by
    rw [← Int32.toInt_inj, code, zero]
    omega
  have written : (reply.sent room).written = reply.toBytes.take room := rfl
  rw [Script.HostReply.value, if_neg notNegative, if_neg notZero, code, written, Int.toNat_natCast]
  dsimp only
  rw [List.take_left]
  rfl

end Reply

/-- A reply that fits the room is read back as it was sent, by any reader of JSON texts and by the
script that called. Of any other reply a script hears no JSON text, wherever the reply is cut: it
can only throw. -/
theorem replies_arrive_whole_or_broken (reply : Reply) (room : Nat) :
    (reply.toBytes.length ≤ room → reply.Exact →
      Json.parse (Utf8.encode (reply.heard room)) = .ok reply.toJson ∧
        ∀ globals, Script.receive (reply.heard room) globals = (reply.outcome, globals)) ∧
    (∀ count < reply.toBytes.length, Value.decode? (reply.heard count) = none ∧
      ∀ globals, Script.receive (reply.heard count) globals =
        (.error (.error "SyntaxError" "unexpected token in JSON"), globals)) ∧
    (0 < room → room ≤ Script.replyRoom →
      (reply.sent room).value = pure (.ofString (String.ofList (reply.heard room)))) := by
  refine ⟨fun fits exact => ?_, fun count cut => ?_, reply.value_sent⟩
  · have whole := exact.toJson
    rw [Reply.heard_whole fits]
    exact ⟨Json.parse_toBytes whole, Reply.receive_of_decode? (Script.decode?_render whole)⟩
  · have broken := Reply.decode?_heard cut
    exact ⟨broken, Reply.receive_of_decode?_none broken⟩

end ScriptSandbox.Bridge
