import ScriptSandbox.Proofs.Guest.Logging
import ScriptSandbox.Proofs.Json.Shapes
import ScriptSandbox.Proofs.Script.Data
import ScriptSandbox.Script.Bindings

/-!
# Arguments on their way to the host

A binding writes its method and its arguments as one JSON text. What the host reads from it is given
here for all arguments that JSON can represent: a number may be read as another one or not at all,
an object may lose repeated names, and what is nested too deep is refused.
-/
namespace ScriptSandbox.Script.Datum

open Json (quote setField)
open Json.Reader (Reads ReadsField result? value_listText value_objectText)
open ScriptSandbox.Units (ofText)
open Utf8 (encode)

mutual

/-- What the host reads a value as, where lists and objects may be nested to a depth. -/
def read? (depth : Nat) : Datum → Option Json
  | null => some .null
  | boolean truth => some (.boolean truth)
  | number negative units => (Json.parse (encode (numeral negative units))).toOption
  | string text => some (.string (String.ofList text))
  | array items =>
    match depth with
    | 0 => none
    | depth + 1 => ((readItems depth items).mapM id).map .array
  | object fields =>
    match depth with
    | 0 => none
    | depth + 1 =>
      ((readFields depth fields).foldlM (fun found (update : _ → Option _) => update found) []).map
        .object

def readItems (depth : Nat) : List Datum → List (Option Json)
  | [] => []
  | item :: rest => item.read? depth :: readItems depth rest

/-- How the fields of an object change what was read before them. -/
def readFields (depth : Nat) : List (List Char × Datum) →
    List (List (String × Json) → Option (List (String × Json)))
  | [] => []
  | (name, field) :: rest =>
    (fun found => (field.read? depth).map (setField (String.ofList name) · found)) ::
      readFields depth rest

end

theorem numeral_written (negative : Bool) (units : Nat) :
    Decimal.Numeral (numeral negative units) :=
  Decimal.Layout.script.numeral_finite negative units

mutual

/-- By induction on the value. A list or an object has a byte at least for each of its items, so the
length of the text leaves turns enough for the readers of all of them. -/
theorem reads_text : (datum : Datum) → (steps depth : Nat) →
    (encode datum.text).length ≤ steps →
    Reads (Json.Reader.value steps depth) datum.text (datum.read? depth)
  | null, steps, depth, _ => by
    obtain ⟨container, scalar⟩ := Json.Reader.value_eq steps depth
    rw [scalar, text, read?]
    exact ⟨⟨'n', rfl, by decide⟩, fun rest _ => rfl⟩
  | boolean truth, steps, depth, _ => by
    obtain ⟨container, scalar⟩ := Json.Reader.value_eq steps depth
    rw [scalar, text, read?]
    cases truth with
    | true => exact ⟨⟨'t', rfl, by decide⟩, fun rest _ => rfl⟩
    | false => exact ⟨⟨'f', rfl, by decide⟩, fun rest _ => rfl⟩
  | number negative units, steps, depth, _ => by
    obtain ⟨outcome, parsed, reads⟩ := Json.Reader.reads_numeral (numeral_written negative units)
    rw [text, read?, parsed]
    exact reads steps depth
  | string text, steps, depth, enough => by
    obtain ⟨container, scalar⟩ := Json.Reader.value_eq steps depth
    rw [scalar, Datum.text, read?]
    refine ⟨⟨'"', rfl, by decide⟩, fun rest _ => ?_⟩
    exact congrArg Except.toOption (Json.Reader.scalarOr_string enough container rest)
  | array items, steps, depth, enough => by
    rw [text] at enough ⊢
    obtain ⟨count, lengths⟩ := Json.Reader.length_listText (texts items)
    -- The reader refuses a bracket at the depth that is left over for none.
    cases depth with
    | zero => exact Json.Reader.value_zero_listText steps _
    | succ depth =>
      rw [read?]
      refine value_listText (reads_texts items steps depth fun text member => ?_) (by omega)
      exact Nat.le_trans (lengths text member) enough
  | object fields, steps, depth, enough => by
    rw [text] at enough ⊢
    obtain ⟨count, lengths⟩ := Json.Reader.length_objectText (fieldTexts fields)
    cases depth with
    | zero => exact Json.Reader.value_zero_objectText steps _
    | succ depth =>
      rw [read?]
      refine value_objectText (reads_fieldTexts fields steps depth fun entry member => ?_)
        (fun entry member => ?_) (by omega)
      · exact Nat.le_trans (lengths entry member).2 enough
      · exact Nat.le_trans (lengths entry member).1 enough

theorem reads_texts : (items : List Datum) → (steps depth : Nat) →
    (∀ text ∈ texts items, (encode text).length ≤ steps) →
    List.Forall₂ (Reads (Json.Reader.value steps depth)) (texts items) (readItems depth items)
  | [], _, _, _ => .nil
  | item :: rest, steps, depth, enough => by
    rw [texts, List.forall_mem_cons] at enough
    rw [texts, readItems]
    exact .cons (reads_text item steps depth enough.1) (reads_texts rest steps depth enough.2)

theorem reads_fieldTexts : (fields : List (List Char × Datum)) → (steps depth : Nat) →
    (∀ entry ∈ fieldTexts fields, (encode entry.2).length ≤ steps) →
    List.Forall₂ (fun entry =>
        ReadsField (Json.Reader.fieldOf (Json.Reader.value steps depth)) entry.1 entry.2)
      (fieldTexts fields) (readFields depth fields)
  | [], _, _, _ => .nil
  | (name, field) :: rest, steps, depth, enough => by
    rw [fieldTexts, List.forall_mem_cons] at enough
    rw [fieldTexts, readFields]
    refine .cons ?_ (reads_fieldTexts rest steps depth enough.2)
    exact Json.Reader.readsField_fieldOf (reads_text field steps depth enough.1) name

end

/-! ### Requests -/

/-- The object that a binding sends. -/
def request (method : List Char) (args : List Datum) : Datum :=
  .object [("method".toList, .string method), ("args".toList, .array args)]

theorem value_request (method : String) (args : List Datum) :
    (request method.toList args).value = .object .object
      [.data (units "method") true (.ofString method), .data (units "args") true (.array (values args))] := by
  simp only [request, value, properties]
  rfl

/-- A binding that only names its method sends the text of this object. -/
theorem callBound_sent (responder : Responder) {path : String} (bound : boundPaths.contains path)
    (noCall : path ≠ "call") (noTool : path ≠ "tools.invoke") (args : List Datum) :
    (callBound responder path (values args)).sent = [ofText (request path.toList args).text] := by
  have written : requestText (.ofString path) (values args) =
      pure (ofText (request path.toList args).text) := by
    rw [requestText, ← value_request, Value.encode, encodeAs_value, pure_bind]
    rfl
  have sent : (callMethod responder (.ofString path) (values args)).sent =
      [ofText (request path.toList args).text] := by
    unfold callMethod
    rw [written]
    dsimp only [pure, ExceptT.pure, ExceptT.mk, StateT.pure]
    cases responder (ofText (request path.toList args).text) <;> rfl
  rw [callBound, if_neg noCall, if_neg noTool, if_pos bound, sent]

end ScriptSandbox.Script.Datum

namespace ScriptSandbox.Bridge

open Json.Reader (ReadsField)
open Json.Shape (reads_list reads_map reads_orNull reads_quote readsField_readField)
open Script (Datum)
open Utf8 (encode)

/-- The fields of a request, as they are read. -/
def requestFields : List (Json.Shape.Field Request) :=
  [.of "method" .optional (.orNull .string) (fun method request => { request with method }),
   .of "args" .optional (.list .any) (fun args request => { request with args })]

/-- What the host reads a request as. -/
theorem parse_request (method : List Char) (args : List Datum) :
    (Request.shape.parse (encode (Datum.request method args).text)).toOption =
      ((Datum.readItems (Json.Reader.maxDepth - 2) args).mapM id).map fun items =>
        ⟨some (String.ofList method), items⟩ := by
  let entries := [("method".toList, Json.quote method),
    ("args".toList, Json.Reader.listText (Datum.texts args))]
  have text : (Datum.request method args).text = Json.Reader.objectText entries := rfl
  rw [text]
  apply Json.Reader.run_toOption
  obtain ⟨count, lengths⟩ := Json.Reader.length_objectText entries
  obtain ⟨argsCount, argsLengths⟩ := Json.Reader.length_listText (Datum.texts args)
  -- The reader takes as many turns as the text has bytes; only that these are enough counts below.
  have methodShort := (lengths _ (List.mem_cons_self)).2
  have argsShort := (lengths _ (List.mem_cons_of_mem _ List.mem_cons_self)).2
  generalize (encode (Json.Reader.objectText entries)).length = steps at *
  have readArgs := Datum.reads_texts args steps (Json.Reader.maxDepth - 2) fun text member =>
    Nat.le_trans (argsLengths text member) argsShort
  have reads : List.Forall₂ (fun entry =>
      ReadsField (Json.Shape.readField requestFields steps (Json.Reader.maxDepth - 1)) entry.1 entry.2)
      entries _ :=
    .cons (readsField_readField rfl
      (reads_map (reads_orNull (reads_quote methodShort "a string" _)) _)) <|
    .cons (readsField_readField rfl
      (reads_map (reads_list readArgs (Nat.le_trans argsCount argsShort)) _)) <|
    .nil
  have found := Json.Shape.result?_record reads (fun entry member => (lengths entry member).1) count
    "HostCallRequest" ⟨none, []⟩ []
  rw [List.append_nil] at found
  have shaped : Request.shape.ofText steps Json.Reader.maxDepth =
      (Json.Shape.record "HostCallRequest" requestFields ⟨none, []⟩).ofText steps
        (Json.Reader.maxDepth - 1 + 1) := rfl
  rw [shaped, found]
  cases (Datum.readItems (Json.Reader.maxDepth - 2) args).mapM id <;> rfl

theorem route?_log {host : Host} (free : host.handlers.method? "log" = none) :
    host.route? "log" = some .log := by
  have key : Ascii.lowerString "log" = "log" := by decide
  unfold Host.route?
  rw [free]
  dsimp only
  rw [key, if_pos rfl]

/-- The line that a call of `log` adds, where no handler stands in its place. -/
theorem line?_request {host : Host} (free : host.handlers.method? "log" = none)
    (args : List Datum) :
    host.line? (encode (Datum.request "log".toList args).text) =
      ((Datum.readItems (Json.Reader.maxDepth - 2) args).mapM id).map logLine := by
  have parsed := parse_request "log".toList args
  have trimmed : Blank.trim ((some (String.ofList "log".toList)).getD "") = "log" := by decide
  unfold Host.line? Host.read
  -- Whether the request can be read depends on its arguments alone.
  cases outcome : (Datum.readItems (Json.Reader.maxDepth - 2) args).mapM id with
  | none =>
    rw [outcome] at parsed
    cases refused : Request.shape.parse (encode (Datum.request "log".toList args).text) with
    | error fault => rfl
    | ok request =>
      rw [refused] at parsed
      cases parsed
  | some items =>
    rw [outcome] at parsed
    cases read : Request.shape.parse (encode (Datum.request "log".toList args).text) with
    | error fault =>
      rw [read] at parsed
      cases parsed
    | ok request =>
      rw [read] at parsed
      obtain rfl := Option.some.inj parsed
      dsimp only
      rw [trimmed, route?_log free]
      rfl

end ScriptSandbox.Bridge
