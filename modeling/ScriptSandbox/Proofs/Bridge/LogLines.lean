import ScriptSandbox.Proofs.Bridge.Arguments
import ScriptSandbox.Proofs.Decimal.Integers
import ScriptSandbox.Proofs.Json.RoundTrip

/-!
# Two ways to the log

A script adds a line to the log by a function of the console, which joins the strings of its
arguments, or by the binding of `log`, which sends the arguments as JSON and lets the host join what
it reads. The two lines are the same where every argument is a string, a boolean, null, or a number
that the host writes as it was sent. An array or an object never comes out the same, whatever stands
around it.
-/
namespace ScriptSandbox

/-! ### Words of a line -/

namespace Bridge.LogLines

/-- Texts behind a first one, each after a mark. -/
def behind (mark : Char) : List (List Char) → List Char
  | [] => []
  | text :: more => mark :: (text ++ behind mark more)

theorem intercalate_cons (mark : Char) (text : List Char) (more : List (List Char)) :
    [mark].intercalate (text :: more) = text ++ behind mark more := by
  induction more generalizing text with
  | nil => simp [behind]
  | cons next more ih => simp [List.intercalate_cons_cons, ih, behind]

theorem eq_mark_of_head {mark : Char} (texts : List (List Char)) :
    ∀ c ∈ (behind mark texts).head?, c = mark := by
  cases texts <;> simp [behind]

/-- What may follow the text of an argument, or of an item in it. -/
def Ends (rest : List Char) : Prop := ∀ c ∈ rest.head?, c = ' ' ∨ c = ','

/-- What may follow the text of an argument. -/
def EndsWord (rest : List Char) : Prop := ∀ c ∈ rest.head?, c = ' '

theorem EndsWord.ends {rest : List Char} (ends : EndsWord rest) : Ends rest :=
  fun c first => .inl (ends c first)

theorem takeWhile_word {word rest : List Char} (plain : ' ' ∉ word) (ends : EndsWord rest) :
    (word ++ rest).takeWhile (· != ' ') = word := by
  have inside : ∀ c ∈ word, (c != ' ') = true := by
    intro c member
    rw [bne_iff_ne]
    rintro rfl
    exact plain member
  have outside : rest.takeWhile (· != ' ') = [] := by
    cases rest with
    | nil => rfl
    | cons c rest =>
      obtain rfl := ends c rfl
      rfl
  rw [List.takeWhile_append_of_pos inside, outside, List.append_nil]

/-- Two words without a blank in them are the same when texts that start with them are. -/
theorem word_eq {first second rest other : List Char} (plain : ' ' ∉ first) (plain' : ' ' ∉ second)
    (ends : EndsWord rest) (ends' : EndsWord other) (same : first ++ rest = second ++ other) :
    first = second := by
  rw [← takeWhile_word plain ends, same, takeWhile_word plain' ends']

/-! ### Numbers -/

theorem blank_not_in_numeral {text : List Char} (numeral : Decimal.Numeral text) : ' ' ∉ text := by
  intro member
  rcases numeral.inNumeral ' ' member with digit | mark
  · exact absurd digit (by decide)
  · exact absurd mark (by decide)

theorem blank_not_in_number (number : Json.Number) : ' ' ∉ number.render := by
  cases number with
  | integer value => exact blank_not_in_numeral (Decimal.numeral_integerText value)
  | float value =>
    cases value with
    | nan => decide
    | infinite negative => cases negative <;> decide
    | finite negative units => exact blank_not_in_numeral (Decimal.Layout.json.numeral_finite _ _)

/-! ### Strings -/

/-- A character that ends no item. -/
def Inner (c : Char) : Bool := c != ' ' && c != ','

/-- The length of the part of a text before its first blank or comma. -/
def lead (text : List Char) : Nat := (text.takeWhile Inner).length

theorem lead_cons_of_inner {c : Char} (inner : Inner c = true) (text : List Char) :
    lead (c :: text) = lead text + 1 := by
  rw [lead, List.takeWhile_cons_of_pos inner]
  rfl

theorem lead_cons_of_not_inner {c : Char} (outer : ¬Inner c = true) (text : List Char) :
    lead (c :: text) = 0 := by
  rw [lead, List.takeWhile_cons_of_neg outer]
  rfl

theorem lead_append_of_inner {part : List Char} (inner : ∀ c ∈ part, Inner c = true)
    (text : List Char) : lead (part ++ text) = part.length + lead text := by
  rw [lead, List.takeWhile_append_of_pos inner, List.length_append]
  rfl

theorem lead_append_of_ends (text : List Char) {rest : List Char} (ends : Ends rest) :
    lead (text ++ rest) = lead text := by
  induction text with
  | nil =>
    cases rest with
    | nil => rfl
    | cons c rest => rcases ends c rfl with rfl | rfl <;> rfl
  | cons c text ih =>
    rw [List.cons_append]
    by_cases inner : Inner c = true
    · rw [lead_cons_of_inner inner, lead_cons_of_inner inner, ih]
    · rw [lead_cons_of_not_inner inner, lead_cons_of_not_inner inner]

private theorem hexDigit_inner : ∀ n < 16, Inner (Bytes.hexDigit n) = true := by decide

/-- The escape of a character that ends no item has at least one character and no other kind. -/
theorem escape_inner {c : Char} (inner : Inner c = true) :
    0 < (Json.escape c).length ∧ ∀ d ∈ Json.escape c, Inner d = true := by
  unfold Json.escape
  split
  iterate 7 exact ⟨by decide, by simp [Inner]⟩
  next =>
    split
    next control =>
      refine ⟨by simp, ?_⟩
      simp only [List.forall_mem_cons]
      exact ⟨by decide, by decide, by decide, by decide, hexDigit_inner _ (by omega),
        hexDigit_inner _ (by omega), by simp⟩
    next => exact ⟨by simp, by simpa using inner⟩

/-- What a quoted text has before its first blank or comma is at least as long as that of the
text. -/
theorem lead_escapes (text rest : List Char) :
    lead text ≤ lead (text.flatMap Json.escape ++ rest) := by
  induction text with
  | nil => exact Nat.zero_le _
  | cons c text ih =>
    by_cases inner : Inner c = true
    · obtain ⟨some, all⟩ := escape_inner inner
      rw [lead_cons_of_inner inner, List.flatMap_cons, List.append_assoc, lead_append_of_inner all]
      omega
    · rw [lead_cons_of_not_inner inner]
      exact Nat.zero_le _

/-- A string is not shown as a quoted text behind brackets. -/
theorem string_ne (text : List Char) {rest : List Char} (ends : Ends rest) (count : Nat)
    (other : List Char) :
    text ++ rest ≠ List.replicate count '[' ++ (Json.quote text ++ other) := by
  intro same
  have longer := lead_escapes text (['"'] ++ other)
  have brackets : ∀ c ∈ List.replicate count '[' ++ ['"'], Inner c = true := by
    intro c member
    rcases List.mem_append.mp member with bracket | mark
    · obtain rfl := List.eq_of_mem_replicate bracket
      rfl
    · obtain rfl := List.mem_singleton.mp mark
      rfl
  have split : List.replicate count '[' ++ (Json.quote text ++ other) =
      (List.replicate count '[' ++ ['"']) ++ (text.flatMap Json.escape ++ (['"'] ++ other)) := by
    simp [Json.quote]
  -- What is quoted has the brackets and a mark more before its first blank or comma.
  have lengths := congrArg lead same
  rw [lead_append_of_ends text ends, split, lead_append_of_inner brackets, List.length_append,
    List.length_replicate, List.length_singleton] at lengths
  omega

end Bridge.LogLines

/-! ### Arrays and objects -/

namespace Script.Datum

open Bridge.LogLines

variable {depth : Nat} {shown : List Char} {json : Json}

theorem shown?_array_cons {first : Datum} {more : List Datum}
    (turns : (array (first :: more)).shown? = some shown) :
    ∃ text texts, (if first.isNull then some [] else first.shown?) = some text ∧
      shown = text ++ behind ',' texts := by
  rw [shown?, Option.map_eq_some_iff] at turns
  obtain ⟨all, found, rfl⟩ := turns
  rw [itemsShown?, Option.bind_eq_some_iff] at found
  obtain ⟨text, start, found⟩ := found
  obtain ⟨texts, _, rfl⟩ := Option.map_eq_some_iff.mp found
  exact ⟨text, texts, start, intercalate_cons ',' text texts⟩

theorem read?_array_cons {first : Datum} {more : List Datum}
    (read : (array (first :: more)).read? depth = some json) :
    ∃ inner value values, first.read? inner = some value ∧ json = .array (value :: values) := by
  cases depth with
  | zero =>
    rw [read?] at read
    cases read
  | succ depth =>
    rw [read?, readItems, Option.map_eq_some_iff] at read
    obtain ⟨all, found, rfl⟩ := read
    rw [List.mapM_cons] at found
    obtain ⟨value, start, found⟩ := Option.bind_eq_some_iff.mp found
    obtain ⟨values, _, found⟩ := Option.bind_eq_some_iff.mp found
    obtain rfl := Option.some.inj found
    exact ⟨depth, value, values, start, rfl⟩

theorem read?_array_nil (read : (array []).read? depth = some json) : json = .array [] := by
  cases depth with
  | zero =>
    rw [read?] at read
    cases read
  | succ depth =>
    rw [read?] at read
    exact (Option.some.inj read).symm

theorem read?_object {fields : List (List Char × Datum)}
    (read : (object fields).read? depth = some json) : ∃ text, json.render = '\x7b' :: text := by
  cases depth with
  | zero =>
    rw [read?] at read
    cases read
  | succ depth =>
    rw [read?, Option.map_eq_some_iff] at read
    obtain ⟨found, _, rfl⟩ := read
    cases found <;> exact ⟨_, rfl⟩

theorem shown?_object {fields : List (List Char × Datum)}
    (turns : (object fields).shown? = some shown) : shown = "[object Object]".toList := by
  rw [shown?] at turns
  split at turns
  · cases turns
  · exact (Option.some.inj turns).symm

theorem numeral_head (negative : Bool) (units : Nat) :
    ∃ c more, numeral negative units = c :: more ∧ c ≠ '[' := by
  have written := numeral_written negative units
  obtain ⟨c, first, _⟩ := Json.Reader.opens_numeral written
  obtain ⟨more, text⟩ := List.head?_eq_some_iff.mp first
  refine ⟨c, more, text, ?_⟩
  rintro rfl
  rcases written.inNumeral '[' (text ▸ List.mem_cons_self) with digit | mark
  · exact absurd digit (by decide)
  · exact absurd mark (by decide)

theorem ne_bracket_of_ends {rest : List Char} (ends : Ends rest) (text : List Char) :
    rest ≠ '[' :: text := by
  rintro rfl
  rcases ends '[' rfl with same | same <;> cases same

/-- What follows the first item of an array. -/
theorem ends_behind {rest : List Char} (ends : Ends rest) (texts : List (List Char)) :
    Ends (behind ',' texts ++ rest) := by
  cases texts with
  | nil => exact ends
  | cons text texts => simp [behind, Ends]

/-- Behind brackets, an item of an array never comes out as it is shown. By recursion along the first
items: each array on the way adds a bracket to what the host writes, and nothing to what is shown. -/
theorem item_ne : (item : Datum) → {depth : Nat} → {shown : List Char} → {json : Json} →
    (if item.isNull then some [] else item.shown?) = some shown → item.read? depth = some json →
    ∀ {rest : List Char}, Ends rest → ∀ (count : Nat) (other : List Char),
      shown ++ rest ≠ List.replicate (count + 1) '[' ++ (json.render ++ other)
  | null, _, _, _, shown, _, rest, ends, count, other => by
    obtain rfl := Option.some.inj shown
    exact ne_bracket_of_ends ends _
  | boolean truth, _, _, _, shown, _, rest, ends, count, other => by
    obtain rfl := Option.some.inj shown
    intro same
    cases truth <;> exact absurd (List.cons.inj same).1 (by decide)
  | number negative units, _, _, _, shown, _, rest, ends, count, other => by
    obtain rfl := Option.some.inj shown
    obtain ⟨c, more, text, noBracket⟩ := numeral_head negative units
    intro same
    rw [text] at same
    exact noBracket (List.cons.inj same).1
  | string text, _, _, _, shown, read, rest, ends, count, other => by
    obtain rfl := Option.some.inj shown
    obtain rfl := Option.some.inj read
    have differ := string_ne text ends (count + 1) other
    simpa [Json.render] using differ
  | array [], _, _, _, shown, _, rest, ends, count, other => by
    obtain rfl := Option.some.inj shown
    exact ne_bracket_of_ends ends _
  | array (first :: more), _, _, _, turns, read, rest, ends, count, other => by
    -- The other items follow the first one on both sides, so it is enough to compare first items.
    obtain ⟨text, texts, start, rfl⟩ := shown?_array_cons turns
    obtain ⟨inner, value, values, inside, rfl⟩ := read?_array_cons read
    have differ := item_ne first start inside (ends_behind ends texts) (count + 1)
      (Json.renderItems values ++ other)
    simpa [Json.render, List.replicate_succ' (n := count + 1)] using differ
  | object fields, _, _, _, turns, read, rest, ends, count, other => by
    -- What is shown goes on with a letter behind its bracket, and not with a bracket or a brace.
    obtain rfl := shown?_object turns
    obtain ⟨text, braced⟩ := read?_object read
    intro same
    rw [braced] at same
    have second := (List.cons.inj same).2
    cases count with
    | zero => exact absurd (List.cons.inj second).1 (by decide)
    | succ count => exact absurd (List.cons.inj second).1 (by decide)

open Bridge (logText logLine)

theorem toList_logText_of_render (json : Json) (other : ∀ text, json ≠ .string text) :
    (logText json).toList = json.render := by
  cases json with
  | string text => exact absurd rfl (other text)
  | _ => exact String.toList_ofList

/-- An array never comes out as it is shown. -/
theorem array_ne {items : List Datum} (turns : (array items).shown? = some shown)
    (read : (array items).read? depth = some json) {rest : List Char} (ends : Ends rest)
    (other : List Char) : shown ++ rest ≠ (logText json).toList ++ other := by
  cases items with
  | nil =>
    obtain rfl := Option.some.inj turns
    obtain rfl := read?_array_nil read
    exact ne_bracket_of_ends ends _
  | cons first more =>
    obtain ⟨text, texts, start, rfl⟩ := shown?_array_cons turns
    obtain ⟨inner, value, values, inside, rfl⟩ := read?_array_cons read
    have differ := item_ne first start inside (ends_behind ends texts) 0
      (Json.renderItems values ++ other)
    rw [toList_logText_of_render _ (by simp), List.append_assoc]
    simpa [Json.render] using differ

/-- An object never comes out as it is shown. -/
theorem object_ne {fields : List (List Char × Datum)}
    (turns : (object fields).shown? = some shown) (read : (object fields).read? depth = some json)
    (rest other : List Char) : shown ++ rest ≠ (logText json).toList ++ other := by
  obtain rfl := shown?_object turns
  obtain ⟨text, braced⟩ := read?_object read
  have noString : ∀ text, json ≠ .string text := by
    rintro text rfl
    cases braced
  intro same
  rw [toList_logText_of_render _ noString, braced] at same
  exact absurd (List.cons.inj same).1 (by decide)

/-! ### Arguments that come out alike -/

/-- A value that both ways show alike: it holds no others, and as a number it is written by the host
as it was sent. -/
def Alike : Datum → Prop
  | null | boolean _ | string _ => True
  | number negative units => ∃ found : Json.Number,
      Json.parse (Utf8.encode (numeral negative units)) = .ok (.number found) ∧
        found.render = numeral negative units
  | array _ | object _ => False

/-- The integers that a double counts one by one come out the same. -/
theorem alike_integer (negative : Bool) {n : Nat} (small : n < 2 ^ 53) :
    (number negative (n * Binary64.one)).Alike := by
  have written := Decimal.Layout.script_integer negative small
  generalize number : (if negative then -(n : Int) else n) = value at written
  have low : Int64.minValue.toInt ≤ value := by
    have least : Int64.minValue.toInt = -2 ^ 63 := rfl
    split at number <;> omega
  have high : value < UInt64.size := by
    have size : (UInt64.size : Int) = 2 ^ 64 := rfl
    split at number <;> omega
  have read := Json.parse_toBytes (.integer low high)
  rw [Json.toBytes, Json.render, Json.Number.render, ← written] at read
  exact ⟨.integer value, read, written.symm⟩

theorem alike_number {negative : Bool} {units : Nat}
    (turns : (number negative units).shown? = some shown)
    (read : (number negative units).read? depth = some json) {rest other : List Char}
    (ends : EndsWord rest) (ends' : EndsWord other)
    (same : shown ++ rest = (logText json).toList ++ other) :
    (number negative units).Alike ∧ shown = (logText json).toList := by
  obtain rfl := Option.some.inj turns
  obtain ⟨outcome, parsed, _⟩ := Json.Reader.reads_numeral (numeral_written negative units)
  rw [read?, parsed] at read
  obtain ⟨found, rfl, rfl⟩ := Option.map_eq_some_iff.mp read
  have text : (logText (.number found)).toList = found.render := String.toList_ofList
  rw [text] at same ⊢
  -- Neither numeral has a blank in it, so each is the whole first word of its line.
  have word := word_eq (blank_not_in_numeral (numeral_written negative units))
    (blank_not_in_number found) ends ends' same
  refine ⟨⟨found, ?_, word.symm⟩, word⟩
  cases outcome : Json.parse (Utf8.encode (numeral negative units)) with
  | error fault =>
    rw [outcome] at parsed
    cases parsed
  | ok value =>
    rw [outcome] at parsed
    rw [Option.some.inj parsed]

/-- An argument that comes out the same at the start of two texts is shown alike. -/
theorem alike_of_eq (arg : Datum) (turns : arg.shown? = some shown)
    (read : arg.read? depth = some json) {rest other : List Char} (ends : EndsWord rest)
    (ends' : EndsWord other) (same : shown ++ rest = (logText json).toList ++ other) :
    arg.Alike ∧ shown = (logText json).toList := by
  cases arg with
  | null =>
    obtain rfl := Option.some.inj turns
    obtain rfl := Option.some.inj read
    exact ⟨trivial, rfl⟩
  | boolean truth =>
    obtain rfl := Option.some.inj turns
    obtain rfl := Option.some.inj read
    exact ⟨trivial, by cases truth <;> rfl⟩
  | number negative units => exact alike_number turns read ends ends' same
  | string text =>
    obtain rfl := Option.some.inj turns
    obtain rfl := Option.some.inj read
    exact ⟨trivial, String.toList_ofList.symm⟩
  | array items => exact absurd same (array_ne turns read ends.ends other)
  | object fields => exact absurd same (object_ne turns read rest other)

theorem shown_of_alike {arg : Datum} (alike : arg.Alike) (depth : Nat) :
    ∃ text json, arg.shown? = some text ∧ arg.read? depth = some json ∧
      (logText json).toList = text := by
  cases arg with
  | null => exact ⟨_, _, rfl, rfl, rfl⟩
  | boolean truth => exact ⟨_, _, rfl, rfl, by cases truth <;> rfl⟩
  | number negative units =>
    obtain ⟨found, parsed, same⟩ := alike
    refine ⟨_, .number found, rfl, ?_, ?_⟩
    · rw [read?, parsed]
      rfl
    · rw [← same]
      exact String.toList_ofList
  | string text => exact ⟨_, _, rfl, rfl, String.toList_ofList⟩
  | array items => exact alike.elim
  | object fields => exact alike.elim

/-- What the host writes for each argument. -/
def written (items : List Json) : List (List Char) := items.map fun json => (logText json).toList

theorem mapM_readItems_cons {arg : Datum} {rest : List Datum} {items : List Json}
    (read : (readItems depth (arg :: rest)).mapM id = some items) :
    ∃ json jsons, items = json :: jsons ∧ arg.read? depth = some json ∧
      (readItems depth rest).mapM id = some jsons := by
  rw [readItems, List.mapM_cons] at read
  obtain ⟨json, first, read⟩ := Option.bind_eq_some_iff.mp read
  obtain ⟨jsons, others, read⟩ := Option.bind_eq_some_iff.mp read
  exact ⟨json, jsons, (Option.some.inj read).symm, first, others⟩

theorem alike_of_behind {args : List Datum} {texts : List (List Char)} {items : List Json}
    (turns : args.mapM shown? = some texts) (read : (readItems depth args).mapM id = some items)
    (same : behind ' ' texts = behind ' ' (written items)) : ∀ arg ∈ args, arg.Alike := by
  induction args generalizing texts items with
  | nil => simp
  | cons arg rest ih =>
    rw [List.mapM_cons] at turns
    obtain ⟨text, first, turns⟩ := Option.bind_eq_some_iff.mp turns
    obtain ⟨others, later, turns⟩ := Option.bind_eq_some_iff.mp turns
    obtain rfl := Option.some.inj turns
    obtain ⟨json, jsons, rfl, firstRead, laterRead⟩ := mapM_readItems_cons read
    -- The first two words are the same, which leaves those behind them.
    have texts := (List.cons.inj same).2
    obtain ⟨alike, word⟩ := alike_of_eq arg first firstRead (eq_mark_of_head others)
      (eq_mark_of_head (written jsons)) texts
    rw [word] at texts
    exact List.forall_mem_cons.mpr ⟨alike, ih later laterRead (List.append_cancel_left texts)⟩

theorem lines_of_alike {args : List Datum} (alike : ∀ arg ∈ args, arg.Alike) (depth : Nat) :
    ∃ texts items, args.mapM shown? = some texts ∧ (readItems depth args).mapM id = some items ∧
      texts = written items := by
  induction args with
  | nil => exact ⟨[], [], rfl, rfl, rfl⟩
  | cons arg rest ih =>
    rw [List.forall_mem_cons] at alike
    obtain ⟨text, json, turns, read, same⟩ := shown_of_alike alike.1 depth
    obtain ⟨texts, items, others, otherRead, sames⟩ := ih alike.2
    refine ⟨text :: texts, json :: items, ?_, ?_, ?_⟩
    · rw [List.mapM_cons, turns, others]
      rfl
    · rw [readItems, List.mapM_cons, read]
      change (do return json :: (← (readItems depth rest).mapM id)) = _
      rw [otherRead]
      rfl
    · rw [written, List.map_cons, same, sames]
      rfl

theorem Comes.attempt? {α : Type} {run : Script.Run α} {outcome : Option α}
    (comes : Comes run outcome) (globals : Script.Globals) :
    Script.attempt? run globals = outcome := by
  cases outcome with
  | none =>
    obtain ⟨thrown, rfl⟩ := comes
    rfl
  | some found =>
    obtain rfl : run = pure found := comes
    rfl

end Script.Datum

/-! ### Lines -/

namespace Bridge

open Script (Datum)
open Script.Datum (shown? readItems written lines_of_alike alike_of_behind)
open LogLines

/-- What a guest tells its host for arguments that a script gives to the console; nothing where one
of them cannot be turned into a string. -/
def consoleSignal? (args : List Datum) : Option Guest.Signal :=
  (Script.attempt? (Script.consoleLine (Datum.values args)) []).map fun line =>
    .log (Utf8.ofString line)

/-- What a guest tells its host for arguments that a script gives to the binding of `log`. -/
def bindingSignal? (responder : Script.Responder) (args : List Datum) : Option Guest.Signal :=
  match (Script.callBound responder "log" (Datum.values args)).sent with
  | [request] => (Units.toText? request).map fun text => .call (Utf8.encode text)
  | _ => none

namespace Host

variable (host : Host)

/-- The line that arguments add to the log by way of the console. -/
def consoleLine? (args : List Datum) : Option String :=
  (consoleSignal? args).bind (Guest.Signal.line? host)

/-- The line that arguments add to the log by way of the binding. -/
def bindingLine? (responder : Script.Responder) (args : List Datum) : Option String :=
  (bindingSignal? responder args).bind (Guest.Signal.line? host)

theorem consoleLine?_eq (args : List Datum) :
    host.consoleLine? args =
      (args.mapM shown?).map fun texts => String.intercalate " " (texts.map String.ofList) := by
  have line (text : String) : Guest.Signal.line? host (.log (Utf8.ofString text)) = some text := by
    rw [Guest.Signal.line?, Utf8.ofString, Utf8.toStringLossy_encode, String.ofList_toList]
  rw [consoleLine?, consoleSignal?, (Datum.consoleLine_values args).attempt?]
  cases args.mapM shown? with
  | none => rfl
  | some texts => exact line _

theorem bindingLine?_eq (free : host.handlers.method? "log" = none) (responder : Script.Responder)
    (args : List Datum) :
    host.bindingLine? responder args =
      ((readItems (Json.Reader.maxDepth - 2) args).mapM id).map logLine := by
  have bound : Script.boundPaths.contains "log" := by decide
  rw [bindingLine?, bindingSignal?,
    Datum.callBound_sent responder bound (by decide) (by decide) args]
  dsimp only
  rw [Units.toText?_ofText]
  exact line?_request free args

end Host

theorem toList_line (texts : List (List Char)) :
    (String.intercalate " " (texts.map String.ofList)).toList = [' '].intercalate texts := by
  rw [String.toList_intercalate, List.map_map, Function.comp_def]
  simp only [String.toList_ofList, List.map_id']
  rfl

theorem toList_logLine (items : List Json) :
    (logLine items).toList = [' '].intercalate (written items) := by
  rw [logLine, String.toList_intercalate, List.map_map]
  rfl

/-- The console and the binding add the same line for arguments exactly when each argument is null,
a boolean, a string, or a number that the host writes as it was sent. -/
theorem log_lines_agree_iff {host : Host} (free : host.handlers.method? "log" = none)
    (responder : Script.Responder) (args : List Datum) :
    (∃ line, host.consoleLine? args = some line ∧ host.bindingLine? responder args = some line) ↔
      ∀ arg ∈ args, arg.Alike := by
  rw [host.consoleLine?_eq, host.bindingLine?_eq free]
  constructor
  · rintro ⟨line, console, binding⟩
    obtain ⟨texts, turns, rfl⟩ := Option.map_eq_some_iff.mp console
    obtain ⟨items, read, same⟩ := Option.map_eq_some_iff.mp binding
    have joined := congrArg String.toList same
    rw [toList_logLine, toList_line] at joined
    cases args with
    | nil => simp
    | cons arg rest =>
      have start := turns
      rw [List.mapM_cons] at start
      obtain ⟨text, _, start⟩ := Option.bind_eq_some_iff.mp start
      obtain ⟨others, _, start⟩ := Option.bind_eq_some_iff.mp start
      obtain rfl := Option.some.inj start
      obtain ⟨json, jsons, rfl, _⟩ := Datum.mapM_readItems_cons read
      rw [written, List.map_cons, intercalate_cons, intercalate_cons] at joined
      exact alike_of_behind turns read (congrArg (' ' :: ·) joined.symm)
  · intro alike
    obtain ⟨texts, items, turns, read, rfl⟩ := lines_of_alike alike (Json.Reader.maxDepth - 2)
    refine ⟨logLine items, ?_, ?_⟩
    · rw [turns, Option.map_some]
      apply congrArg some
      apply String.toList_inj.mp
      rw [toList_line, toList_logLine]
    · rw [read]
      rfl

namespace DifferingLine

def host : Host := ⟨{}, ⟨⟨["box"], none⟩, .ofPolicy {} .offline, fun _ => {}⟩⟩

/-- A word and an object with a word under a name. -/
def args : List Datum := [.string ['a'], .object [(['b'], .string ['c'])]]

theorem lines : host.consoleLine? args = some "a [object Object]" ∧
    host.bindingLine? (fun _ => none) args = some "a \x7b\"b\":\"c\"\x7d" := by
  decide +kernel

/-- An object comes to the log in two ways. -/
theorem object_lines_differ : host.handlers.method? "log" = none ∧
    host.consoleLine? args = some "a [object Object]" ∧
    host.bindingLine? (fun _ => none) args = some "a \x7b\"b\":\"c\"\x7d" ∧
    ¬∃ line, host.consoleLine? args = some line ∧
      host.bindingLine? (fun _ => none) args = some line := by
  refine ⟨rfl, lines.1, lines.2, fun agree => ?_⟩
  exact (@log_lines_agree_iff host rfl (fun _ => none) args).mp agree _
    (List.mem_cons_of_mem _ List.mem_cons_self)

end DifferingLine

end Bridge

end ScriptSandbox
