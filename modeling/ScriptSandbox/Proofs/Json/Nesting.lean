import ScriptSandbox.Proofs.Decimal.Numerals
import ScriptSandbox.Proofs.Text.Utf8
import Mathlib.Tactic.SplitIfs

/-!
# Brackets of JSON texts

A scan of a text counts open brackets and tells strings apart, and looks at nothing else. Over the
text of a value it comes back to where it started, and over a beginning of an object it does not.
-/
namespace ScriptSandbox.Json

inductive Mode where
  | plain
  | string
  /-- Behind the backslash of an escape. -/
  | escape
  deriving DecidableEq, Repr

/-- Where a scan stands: so many brackets are open. -/
structure Nesting where
  depth : Nat
  mode : Mode
  deriving DecidableEq, Repr

namespace Nesting

/-- A character outside of strings that is no mark for the scan. -/
def Plain (c : Char) : Prop := c ≠ '"' ∧ c ≠ '[' ∧ c ≠ '\x7b' ∧ c ≠ ']' ∧ c ≠ '\x7d'

instance (c : Char) : Decidable (Plain c) := inferInstanceAs (Decidable (_ ∧ _))

/-- One character. There is none to close a bracket that the scan did not open. -/
def step : Nesting → Char → Option Nesting
  | ⟨depth, .plain⟩, c =>
    if c = '"' then some ⟨depth, .string⟩
    else if c = '[' ∨ c = '\x7b' then some ⟨depth + 1, .plain⟩
    else if c = ']' ∨ c = '\x7d' then
      if depth = 0 then none else some ⟨depth - 1, .plain⟩
    else some ⟨depth, .plain⟩
  | ⟨depth, .string⟩, c =>
    if c = '"' then some ⟨depth, .plain⟩
    else if c = '\\' then some ⟨depth, .escape⟩
    else some ⟨depth, .string⟩
  | ⟨depth, .escape⟩, _ => some ⟨depth, .string⟩

def after (nesting : Nesting) (text : List Char) : Option Nesting := text.foldlM step nesting

variable {nesting last : Nesting} {depth : Nat} {text : List Char}

@[simp] theorem after_nil (nesting : Nesting) : nesting.after [] = some nesting := rfl

@[simp] theorem after_cons (nesting : Nesting) (c : Char) (text : List Char) :
    nesting.after (c :: text) = (nesting.step c).bind (·.after text) := rfl

theorem after_append (nesting : Nesting) (first second : List Char) :
    nesting.after (first ++ second) = (nesting.after first).bind (·.after second) :=
  List.foldlM_append

theorem step_plain {c : Char} (plain : Plain c) (depth : Nat) :
    step ⟨depth, .plain⟩ c = some ⟨depth, .plain⟩ := by
  obtain ⟨noQuote, noList, noObject, noListEnd, noObjectEnd⟩ := plain
  simp [step, noQuote, noList, noObject, noListEnd, noObjectEnd]

/-- A scan goes the same way inside a further bracket. -/
theorem step_deeper {c : Char} (taken : nesting.step c = some last) :
    step ⟨nesting.depth + 1, nesting.mode⟩ c = some ⟨last.depth + 1, last.mode⟩ := by
  obtain ⟨depth, mode⟩ := nesting
  obtain ⟨lastDepth, lastMode⟩ := last
  cases mode with
  | plain =>
    -- A bracket that can be closed here can be closed inside a further one.
    simp only [step] at taken ⊢
    split_ifs at taken ⊢ <;> grind
  | string =>
    simp only [step] at taken ⊢
    split_ifs at taken ⊢ <;> grind
  | escape =>
    obtain ⟨rfl, rfl⟩ := Nesting.mk.inj (Option.some.inj taken)
    rfl

theorem after_deeper (taken : nesting.after text = some last) :
    after ⟨nesting.depth + 1, nesting.mode⟩ text = some ⟨last.depth + 1, last.mode⟩ := by
  induction text generalizing nesting with
  | nil =>
    obtain rfl := Option.some.inj taken
    rfl
  | cons c text ih =>
    rw [after_cons, Option.bind_eq_some_iff] at taken
    obtain ⟨next, first, others⟩ := taken
    rw [after_cons, step_deeper first, Option.bind_some]
    exact ih others

/-- A text brings a scan back to where it started. -/
def Level (text : List Char) : Prop := after ⟨0, .plain⟩ text = some ⟨0, .plain⟩

theorem Level.at (level : Level text) (depth : Nat) :
    after ⟨depth, .plain⟩ text = some ⟨depth, .plain⟩ := by
  induction depth with
  | zero => exact level
  | succ depth ih => exact after_deeper ih

theorem Level.nil : Level [] := rfl

theorem Level.append {first second : List Char} (level : Level first) (later : Level second) :
    Level (first ++ second) := by
  rw [Level, after_append, level, Option.bind_some, later]

theorem Level.cons {c : Char} (plain : Plain c) (level : Level text) : Level (c :: text) := by
  rw [Level, after_cons, step_plain plain, Option.bind_some, level]

theorem plain_of_all (all : text.all (fun c => decide (Plain c)) = true) : ∀ c ∈ text, Plain c := by
  simpa only [List.all_eq_true, decide_eq_true_eq] using all

theorem level_of_plain (plain : ∀ c ∈ text, Plain c) : Level text := by
  induction text with
  | nil => rfl
  | cons c text ih =>
    have others := ih fun d member => plain d (List.mem_cons_of_mem _ member)
    exact others.cons (plain c List.mem_cons_self)

/-- A level text in brackets is level. -/
theorem Level.list (level : Level text) : Level ('[' :: (text ++ [']'])) := by
  show after ⟨1, .plain⟩ (text ++ [']']) = _
  rw [after_append, level.at]
  rfl

theorem Level.object (level : Level text) : Level ('\x7b' :: (text ++ ['\x7d'])) := by
  show after ⟨1, .plain⟩ (text ++ ['\x7d']) = _
  rw [after_append, level.at]
  rfl

/-! ### Texts of values -/

theorem plain_of_digit {c : Char} (digit : '0' ≤ c ∧ c ≤ '9') : Plain c := by
  refine ⟨?_, ?_, ?_, ?_, ?_⟩ <;> (rintro rfl; exact absurd digit (by decide))

theorem plain_of_mem_numeral {text : List Char} (numeral : Decimal.Numeral text) :
    ∀ c ∈ text, Plain c := by
  intro c member
  rcases numeral.inNumeral c member with digit | mark
  · exact plain_of_digit digit
  · exact plain_of_all (by decide) c mark

theorem plain_of_mem_layout (x : Binary64) : ∀ c ∈ Decimal.Layout.json.render x, Plain c := by
  cases x with
  | nan => exact plain_of_all (by decide)
  | infinite negative => cases negative <;> exact plain_of_all (by decide)
  | finite negative units => exact plain_of_mem_numeral (Decimal.Layout.json.numeral_finite _ _)

theorem plain_of_mem_number (number : Number) : ∀ c ∈ number.render, Plain c := by
  cases number with
  | integer value => exact plain_of_mem_numeral (Decimal.numeral_integerText value)
  | float value => exact plain_of_mem_layout value

theorem hexDigit_plain : ∀ n < 16, Bytes.hexDigit n ≠ '"' ∧ Bytes.hexDigit n ≠ '\\' := by decide

/-- A character of a string, other than its quote and a backslash. -/
theorem step_string {c : Char} (noQuote : c ≠ '"') (noBackslash : c ≠ '\\') (depth : Nat) :
    step ⟨depth, .string⟩ c = some ⟨depth, .string⟩ := by
  simp [step, noQuote, noBackslash]

theorem after_escape (c : Char) : after ⟨0, .string⟩ (escape c) = some ⟨0, .string⟩ := by
  unfold escape
  split
  iterate 7 rfl
  next noQuote noBackslash _ _ _ _ _ =>
    split_ifs with control
    -- The escape of a control ends with two digits that are neither quote nor backslash.
    · have high := hexDigit_plain (c.toNat / 16) (by omega)
      have low := hexDigit_plain (c.toNat % 16) (by omega)
      show (step ⟨0, .string⟩ _).bind (fun nesting => (step nesting _).bind some) = _
      rw [step_string high.1 high.2, Option.bind_some, step_string low.1 low.2, Option.bind_some]
    · rw [after_cons, step_string noQuote noBackslash]
      rfl

theorem level_quote (text : List Char) : Level (quote text) := by
  have inside : after ⟨0, .string⟩ (text.flatMap escape) = some ⟨0, .string⟩ := by
    induction text with
    | nil => rfl
    | cons c text ih => rw [List.flatMap_cons, after_append, after_escape, Option.bind_some, ih]
  show after ⟨0, .string⟩ (text.flatMap escape ++ ['"']) = _
  rw [after_append, inside]
  rfl

mutual

theorem level_render : (value : Json) → Level value.render
  | .null => rfl
  | .boolean true => rfl
  | .boolean false => rfl
  | .number value => level_of_plain (plain_of_mem_number value)
  | .string text => level_quote text.toList
  | .array [] => rfl
  | .array (first :: rest) => by
    obtain ⟨inner, written, level⟩ := renderItems_eq rest
    rw [render, written, ← List.append_assoc]
    exact ((level_render first).append level).list
  | .object fields => by
    obtain ⟨inner, written, level⟩ := render_object_eq fields
    rw [written]
    exact level.object

/-- The text of an object is a level text in brackets. -/
theorem render_object_eq : (fields : List (String × Json)) →
    ∃ inner, render (.object fields) = '\x7b' :: (inner ++ ['\x7d']) ∧ Level inner
  | [] => ⟨[], rfl, .nil⟩
  | (name, value) :: rest => by
    obtain ⟨inner, written, level⟩ := renderFields_eq rest
    have behind := ((level_render value).append level).cons (by decide : Plain ':')
    refine ⟨quote name.toList ++ ':' :: (value.render ++ inner), ?_, ?_⟩
    · rw [render, written]
      simp only [List.cons_append, List.append_assoc]
    · exact (level_quote name.toList).append behind

theorem renderItems_eq : (items : List Json) →
    ∃ inner, renderItems items = inner ++ [']'] ∧ Level inner
  | [] => ⟨[], rfl, .nil⟩
  | item :: rest => by
    obtain ⟨inner, written, level⟩ := renderItems_eq rest
    refine ⟨',' :: (item.render ++ inner), ?_, ((level_render item).append level).cons (by decide)⟩
    rw [renderItems, written, List.cons_append, List.append_assoc]

theorem renderFields_eq : (fields : List (String × Json)) →
    ∃ inner, renderFields fields = inner ++ ['\x7d'] ∧ Level inner
  | [] => ⟨[], rfl, .nil⟩
  | (name, value) :: rest => by
    obtain ⟨inner, written, level⟩ := renderFields_eq rest
    have behind := ((level_render value).append level).cons (by decide : Plain ':')
    refine ⟨',' :: (quote name.toList ++ ':' :: (value.render ++ inner)), ?_, ?_⟩
    · rw [renderFields, written]
      simp only [List.cons_append, List.append_assoc]
    · exact ((level_quote name.toList).append behind).cons (by decide)

end

/-! ### Texts that are cut -/

/-- A character that stands for broken bytes changes no bracket. -/
theorem step_replacement (nesting : Nesting) :
    ∃ mode, nesting.step Utf8.replacement = some ⟨nesting.depth, mode⟩ := by
  obtain ⟨depth, mode⟩ := nesting
  cases mode with
  | plain => exact ⟨.plain, step_plain (by decide) depth⟩
  | string => exact ⟨.string, step_string (by decide) (by decide) depth⟩
  | escape => exact ⟨.string, rfl⟩

theorem after_replacements (broken : ∀ c ∈ text, c = Utf8.replacement) (nesting : Nesting) :
    ∃ mode, nesting.after text = some ⟨nesting.depth, mode⟩ := by
  induction text generalizing nesting with
  | nil => exact ⟨nesting.mode, rfl⟩
  | cons c text ih =>
    obtain rfl := broken c List.mem_cons_self
    obtain ⟨mode, first⟩ := step_replacement nesting
    rw [after_cons, first, Option.bind_some]
    exact ih (fun d member => broken d (List.mem_cons_of_mem _ member)) ⟨nesting.depth, mode⟩

/-- A level text has no beginning that closes a bracket from outside it. -/
theorem Level.after_prefix {start : List Char} (level : Level text) (begins : start <+: text) :
    ∃ depth mode, after ⟨1, .plain⟩ start = some ⟨depth + 1, mode⟩ := by
  obtain ⟨rest, rfl⟩ := begins
  rw [Level, after_append, Option.bind_eq_some_iff] at level
  obtain ⟨last, taken, _⟩ := level
  exact ⟨last.depth, last.mode, after_deeper taken⟩

/-- The text of an object that lost its end is not level, wherever it is cut, and whatever stands
for a character that is cut through. -/
theorem not_level_of_cut {fields : List (String × Json)} {count : Nat}
    (cut : count + 1 < (toBytes (.object fields)).length) :
    ¬Level (Utf8.decodeLossy ((toBytes (.object fields)).take (count + 1))) := by
  obtain ⟨inner, written, level⟩ := render_object_eq fields
  -- The opening bracket is one byte, so the text behind it is cut one byte earlier.
  have bytes : toBytes (.object fields) = 0x7B :: Utf8.encode (inner ++ ['\x7d']) := by
    rw [toBytes, written, Utf8.encode_cons_ascii (by decide)]
    rfl
  obtain ⟨kept, broken, heard, begins, fits, lost⟩ :=
    Utf8.decodeLossy_take (inner ++ ['\x7d']) count
  have text : Utf8.decodeLossy ((toBytes (.object fields)).take (count + 1)) =
      '\x7b' :: (kept ++ broken) := by
    have first := Utf8.decodeLossy_encode_append ['\x7b']
      ((Utf8.encode (inner ++ ['\x7d'])).take count)
    rw [bytes, List.take_succ_cons, ← List.singleton_append, ← heard]
    exact first
  -- What is kept of it lacks the closing bracket: with that, nothing would have been cut.
  have inside : kept <+: inner := by
    rcases List.prefix_concat_iff.mp begins with whole | inside
    · rw [bytes, List.length_cons, ← whole] at cut
      omega
    · exact inside
  -- So the first bracket stays open, and no replacement character closes it.
  obtain ⟨depth, mode, taken⟩ := level.after_prefix inside
  obtain ⟨lastMode, ended⟩ := after_replacements lost ⟨depth + 1, mode⟩
  have unfinished : after ⟨0, .plain⟩ ('\x7b' :: (kept ++ broken)) =
      some ⟨depth + 1, lastMode⟩ := by
    show after ⟨1, .plain⟩ (kept ++ broken) = _
    rw [after_append, taken, Option.bind_some, ended]
  rw [text, Level, unfinished]
  simp

end Nesting

end ScriptSandbox.Json
