import Mathlib.Data.List.TakeDrop
import Mathlib.Data.List.TakeWhile
import ScriptSandbox.Proofs.Json.Nesting
import ScriptSandbox.Script.Decoding

/-!
# Brackets of decoded texts

What a script's reader takes of a text closes every bracket that it opens, and no other one. So the
text of an object is not decoded when its end is missing.
-/
namespace ScriptSandbox.Script

open Json (Nesting)
open Json.Nesting (Level Plain)

variable {text middle rest : List Char} {first next last : Nesting}

/-- What was taken from a text brings a scan of brackets from one place to another. -/
def Takes (first last : Nesting) (text rest : List Char) : Prop :=
  ∃ taken, text = taken ++ rest ∧ first.after taken = some last

namespace Takes

theorem refl (first : Nesting) (text : List Char) : Takes first first text text := ⟨[], rfl, rfl⟩

theorem trans (before : Takes first next text middle) (later : Takes next last middle rest) :
    Takes first last text rest := by
  obtain ⟨taken, rfl, moves⟩ := before
  obtain ⟨further, rfl, movesOn⟩ := later
  refine ⟨taken ++ further, (List.append_assoc _ _ _).symm, ?_⟩
  rw [Nesting.after_append, moves, Option.bind_some, movesOn]

theorem cons {c : Char} (later : Takes next last text rest) (moves : first.step c = some next) :
    Takes first last (c :: text) rest := by
  obtain ⟨taken, rfl, movesOn⟩ := later
  refine ⟨c :: taken, rfl, ?_⟩
  rw [Nesting.after_cons, moves, Option.bind_some, movesOn]

theorem skip {c : Char} {depth : Nat} (later : Takes ⟨depth, .plain⟩ last text rest)
    (plain : Plain c) : Takes ⟨depth, .plain⟩ last (c :: text) rest :=
  later.cons (Nesting.step_plain plain depth)

theorem deeper (taken : Takes first last text rest) :
    Takes ⟨first.depth + 1, first.mode⟩ ⟨last.depth + 1, last.mode⟩ text rest := by
  obtain ⟨taken, rfl, moves⟩ := taken
  exact ⟨taken, rfl, Nesting.after_deeper moves⟩

end Takes

/-- What was taken is the text of a value, or a part of it without brackets. -/
abbrev TakesLevel : (text rest : List Char) → Prop := Takes ⟨0, .plain⟩ ⟨0, .plain⟩

/-- What was taken closes a bracket that was open before it. -/
abbrev TakesClosing : (text rest : List Char) → Prop := Takes ⟨1, .plain⟩ ⟨0, .plain⟩

/-- A word without marks, such as `null`. -/
theorem takesLevel_word (word : List Char) (plain : word.all (fun c => decide (Plain c)) = true)
    (rest : List Char) : TakesLevel (word ++ rest) rest :=
  ⟨word, rfl, Nesting.level_of_plain (Nesting.plain_of_all plain)⟩

/-! ### Numbers -/

theorem skipBlanks_takes (text : List Char) : TakesLevel text (skipBlanks text) := by
  refine ⟨_, List.takeWhile_append_dropWhile.symm, Nesting.level_of_plain fun c member => ?_⟩
  have blank := List.mem_takeWhile_imp member
  simp only [Bool.or_eq_true, decide_eq_true_eq] at blank
  obtain ((rfl | rfl) | rfl) | rfl := blank <;> decide

theorem takeDigits_takes {digits : List Char} (found : takeDigits text = (digits, rest)) :
    TakesLevel text rest := by
  rw [takeDigits, List.span_eq_takeWhile_dropWhile] at found
  obtain ⟨rfl, rfl⟩ := Prod.mk.inj found
  refine ⟨_, List.takeWhile_append_dropWhile.symm, Nesting.level_of_plain fun c member => ?_⟩
  have digit := List.mem_takeWhile_imp member
  simp only [Ascii.isDigit, Bool.and_eq_true, decide_eq_true_eq] at digit
  exact Nesting.plain_of_digit digit

theorem readFraction_takes {digits : List Char} (read : readFraction text = some (digits, rest)) :
    TakesLevel text rest := by
  unfold readFraction at read
  split at read
  next more =>
    split at read
    next => contradiction
    next found =>
      obtain ⟨rfl, rfl⟩ := Prod.mk.inj (Option.some.inj read)
      exact (takeDigits_takes found).skip (by decide)
  next =>
    obtain ⟨rfl, rfl⟩ := Prod.mk.inj (Option.some.inj read)
    exact .refl _ _

/-- What follows the mark of an exponent and its sign. -/
theorem exponentDigits_takes {negative : Bool} {exponent : Int}
    (read : (match takeDigits text with
      | ([], _) => none
      | (digits, rest) =>
        some (if negative then -(digitsNumber digits : Int) else digitsNumber digits, rest)) =
      some (exponent, rest)) : TakesLevel text rest := by
  split at read
  next => contradiction
  next found =>
    obtain ⟨_, rfl⟩ := Prod.mk.inj (Option.some.inj read)
    exact takeDigits_takes found

theorem readExponent_takes {exponent : Int} (read : readExponent text = some (exponent, rest)) :
    TakesLevel text rest := by
  unfold readExponent at read
  dsimp only at read
  split at read
  -- The mark with a sign behind it, and the mark alone.
  iterate 4 next => exact ((exponentDigits_takes read).skip (by decide)).skip (by decide)
  iterate 2 next => exact (exponentDigits_takes read).skip (by decide)
  next =>
    obtain ⟨_, rfl⟩ := Prod.mk.inj (Option.some.inj read)
    exact .refl _ _

theorem readMagnitude_takes {negative : Bool} {value : Binary64}
    (read : readMagnitude negative text = some (value, rest)) : TakesLevel text rest := by
  unfold readMagnitude at read
  generalize digits : takeDigits text = found at read
  split at read
  next => contradiction
  next => contradiction
  next =>
    simp only [Option.bind_eq_bind, Option.bind_some, Option.bind_eq_some_iff, Option.pure_def]
      at read
    obtain ⟨⟨fraction, afterPoint⟩, point, ⟨exponent, afterMark⟩, mark, done⟩ := read
    obtain ⟨_, rfl⟩ := Prod.mk.inj (Option.some.inj done)
    exact ((takeDigits_takes digits).trans (readFraction_takes point)).trans
      (readExponent_takes mark)

theorem readNumber_takes {value : Binary64} (read : readNumber text = some (value, rest)) :
    TakesLevel text rest := by
  unfold readNumber at read
  split at read
  next => exact (readMagnitude_takes read).skip (by decide)
  next => exact readMagnitude_takes read

/-! ### Strings -/

/-- What was taken is the rest of a string, its closing quote included. -/
abbrev TakesString : (text rest : List Char) → Prop := Takes ⟨0, .string⟩ ⟨0, .plain⟩

theorem TakesString.digit {c : Char} {value : Nat} (later : TakesString text rest)
    (digit : Bytes.hexValue? c = some value) : TakesString (c :: text) rest := by
  refine later.cons (Nesting.step_string ?_ ?_ 0) <;>
    (rintro rfl; exact absurd digit (by simp [Bytes.hexValue?]))

theorem TakesString.escape (later : TakesString text rest) (c : Char) :
    TakesString ('\\' :: c :: text) rest := by
  have behind : Takes ⟨0, .escape⟩ ⟨0, .plain⟩ (c :: text) rest := later.cons rfl
  exact behind.cons rfl

theorem readUnit_takes {unit : UInt16} (read : readUnit text = some (unit, middle))
    (later : TakesString middle rest) : TakesString text rest := by
  unfold readUnit at read
  split at read
  next a b c d more =>
    simp only [List.mapM_cons, List.mapM_nil, Option.bind_eq_bind, Option.bind_eq_some_iff,
      Option.pure_def, Option.some.injEq] at read
    obtain ⟨_, ⟨_, first, _, ⟨_, second, _, ⟨_, third, _, ⟨_, fourth, _⟩, _⟩, _⟩, _⟩, found⟩ := read
    obtain ⟨_, rfl⟩ := Prod.mk.inj found
    exact (((later.digit fourth).digit third).digit second).digit first
  next => contradiction

theorem readString_takes {turns : Nat} {found units : Units}
    (read : readString turns text found = some (units, rest)) : TakesString text rest := by
  induction turns generalizing text found with
  | zero => contradiction
  | succ turns ih =>
    unfold readString at read
    split at read
    next =>
      obtain ⟨_, rfl⟩ := Prod.mk.inj (Option.some.inj read)
      exact (Takes.refl _ _).cons rfl
    next =>
      simp only [Option.bind_eq_bind, Option.bind_eq_some_iff] at read
      obtain ⟨⟨unit, middle⟩, unitRead, others⟩ := read
      exact (readUnit_takes unitRead (ih others)).escape 'u'
    next =>
      simp only [Option.bind_eq_bind, Option.bind_eq_some_iff] at read
      obtain ⟨c, _, others⟩ := read
      exact (ih others).escape _
    next c more noQuote _ noEscape =>
      split at read
      next => contradiction
      next =>
        refine (ih read).cons (Nesting.step_string noQuote ?_ 0)
        -- A backslash at the very end of the text leaves nothing to read on.
        rintro rfl
        cases more with
        | nil => cases turns <;> contradiction
        | cons d more => exact noEscape d more rfl rfl
    next => contradiction

/-! ### Values -/

theorem Takes.closing (before : TakesLevel text middle) (later : TakesClosing middle rest) :
    TakesClosing text rest :=
  before.deeper.trans later

/-- An empty list or object, whose bracket is closed behind blanks alone. -/
theorem closing_of_skipBlanks {c : Char} (shown : skipBlanks text = c :: rest)
    (closer : c = ']' ∨ c = '\x7d') : TakesClosing text rest := by
  have blanks := skipBlanks_takes text
  rw [shown] at blanks
  refine blanks.closing ((Takes.refl _ _).cons ?_)
  rcases closer with rfl | rfl <;> rfl

variable {turns : Nat}

/-- One turn, when the readers of items and fields close the brackets that stand before them. -/
theorem readValue_takes {value : Value}
    (items : ∀ {text rest found}, readItems turns text = some (found, rest) →
      TakesClosing text rest)
    (fields : ∀ {text rest found}, readFields turns text = some (found, rest) →
      TakesClosing text rest)
    (read : readValue (turns + 1) text = some (value, rest)) : TakesLevel text rest := by
  refine (skipBlanks_takes text).trans ?_
  unfold readValue at read
  generalize skipBlanks text = text at read
  simp only [Option.bind_eq_bind, Option.pure_def] at read
  -- The first character that is no blank tells what kind of value is read.
  split at read
  -- The three words hold no marks.
  next =>
    obtain ⟨_, rfl⟩ := Prod.mk.inj (Option.some.inj read)
    exact takesLevel_word "null".toList (by decide) _
  next =>
    obtain ⟨_, rfl⟩ := Prod.mk.inj (Option.some.inj read)
    exact takesLevel_word "true".toList (by decide) _
  next =>
    obtain ⟨_, rfl⟩ := Prod.mk.inj (Option.some.inj read)
    exact takesLevel_word "false".toList (by decide) _
  -- A string, behind its opening quote.
  next =>
    obtain ⟨_, string, done⟩ := Option.bind_eq_some_iff.mp read
    obtain ⟨_, rfl⟩ := Prod.mk.inj (Option.some.inj done)
    exact (readString_takes string).cons rfl
  -- A list, and then an object: the bracket is closed at once, or behind what is in it.
  next =>
    split at read
    next closed =>
      obtain ⟨_, rfl⟩ := Prod.mk.inj (Option.some.inj read)
      exact (closing_of_skipBlanks closed (.inl rfl)).cons rfl
    next =>
      obtain ⟨_, taken, done⟩ := Option.bind_eq_some_iff.mp read
      obtain ⟨_, rfl⟩ := Prod.mk.inj (Option.some.inj done)
      exact (items taken).cons rfl
  next =>
    split at read
    next closed =>
      obtain ⟨_, rfl⟩ := Prod.mk.inj (Option.some.inj read)
      exact (closing_of_skipBlanks closed (.inr rfl)).cons rfl
    next =>
      obtain ⟨_, taken, done⟩ := Option.bind_eq_some_iff.mp read
      obtain ⟨_, rfl⟩ := Prod.mk.inj (Option.some.inj done)
      exact (fields taken).cons rfl
  next =>
    obtain ⟨_, number, done⟩ := Option.bind_eq_some_iff.mp read
    obtain ⟨_, rfl⟩ := Prod.mk.inj (Option.some.inj done)
    exact readNumber_takes number

theorem readItems_takes {found : List Value}
    (value : ∀ {text rest item}, readValue turns text = some (item, rest) → TakesLevel text rest)
    (others : ∀ {text rest found}, readItems turns text = some (found, rest) →
      TakesClosing text rest)
    (read : readItems (turns + 1) text = some (found, rest)) : TakesClosing text rest := by
  unfold readItems at read
  obtain ⟨⟨item, middle⟩, taken, read⟩ := Option.bind_eq_some_iff.mp read
  refine ((value taken).trans (skipBlanks_takes middle)).closing ?_
  dsimp only at read
  generalize skipBlanks middle = middle at read
  -- Behind the item comes the bracket, or a comma and what the further items take.
  split at read
  next =>
    obtain ⟨_, rfl⟩ := Prod.mk.inj (Option.some.inj read)
    exact (Takes.refl _ _).cons rfl
  next =>
    obtain ⟨_, further, done⟩ := Option.bind_eq_some_iff.mp read
    obtain ⟨_, rfl⟩ := Prod.mk.inj (Option.some.inj done)
    exact (others further).skip (by decide)
  next => contradiction

theorem readFields_takes {found : List Property}
    (value : ∀ {text rest item}, readValue turns text = some (item, rest) → TakesLevel text rest)
    (others : ∀ {text rest found}, readFields turns text = some (found, rest) →
      TakesClosing text rest)
    (read : readFields (turns + 1) text = some (found, rest)) : TakesClosing text rest := by
  refine (skipBlanks_takes text).closing ?_
  unfold readFields at read
  generalize skipBlanks text = text at read
  split at read
  next =>
    obtain ⟨⟨name, behind⟩, string, read⟩ := Option.bind_eq_some_iff.mp read
    -- The name with its quotes, the blanks behind it, the colon, the value and its blanks.
    have named : TakesLevel _ behind := (readString_takes string).cons (c := '"') rfl
    refine (named.trans (skipBlanks_takes behind)).closing ?_
    dsimp only at read
    generalize skipBlanks behind = behind at read
    split at read
    next =>
      obtain ⟨⟨item, middle⟩, taken, read⟩ := Option.bind_eq_some_iff.mp read
      refine (((value taken).trans (skipBlanks_takes middle)).closing ?_).skip (by decide)
      dsimp only at read
      generalize skipBlanks middle = middle at read
      split at read
      next =>
        obtain ⟨_, rfl⟩ := Prod.mk.inj (Option.some.inj read)
        exact (Takes.refl _ _).cons rfl
      next =>
        obtain ⟨_, further, done⟩ := Option.bind_eq_some_iff.mp read
        obtain ⟨_, rfl⟩ := Prod.mk.inj (Option.some.inj done)
        exact (others further).skip (by decide)
      next => contradiction
    next => contradiction
  next => contradiction

/-- By induction on the turns, for values, items and fields at once. -/
theorem reads_take (turns : Nat) :
    (∀ {text rest item}, readValue turns text = some (item, rest) → TakesLevel text rest) ∧
      (∀ {text rest found}, readItems turns text = some (found, rest) → TakesClosing text rest) ∧
        ∀ {text rest found}, readFields turns text = some (found, rest) →
          TakesClosing text rest := by
  induction turns with
  | zero => refine ⟨?_, ?_, ?_⟩ <;> (intro text rest found read; contradiction)
  | succ turns ih =>
    obtain ⟨value, items, fields⟩ := ih
    exact ⟨readValue_takes items fields, readItems_takes value items, readFields_takes value fields⟩

/-- A text that is decoded leaves no bracket open. -/
theorem level_of_decode? {value : Value} (read : Value.decode? text = some value) : Level text := by
  unfold Value.decode? at read
  split at read
  next found rest taken =>
    split at read
    next nothing =>
      obtain ⟨whole, written, level⟩ := ((reads_take _).1 taken).trans (skipBlanks_takes rest)
      rw [List.isEmpty_iff.mp nothing, List.append_nil] at written
      rw [written]
      exact level
    next => contradiction
  next => contradiction

/-- The text of an object that is cut short is not decoded, wherever it is cut. -/
theorem decode?_of_cut {fields : List (String × Json)} {count : Nat}
    (cut : count < (Json.toBytes (.object fields)).length) :
    Value.decode? (Utf8.decodeLossy ((Json.toBytes (.object fields)).take count)) = none := by
  cases count with
  | zero => rfl
  | succ count =>
    rw [Option.eq_none_iff_forall_ne_some]
    intro value read
    exact Json.Nesting.not_level_of_cut cut (level_of_decode? read)

end ScriptSandbox.Script
