import ScriptSandbox.Proofs.Decimal.Numerals
import ScriptSandbox.Proofs.Json.Tokens
import Mathlib.Data.List.Forall2

/-!
# What a reader makes of a text

Of a number, only the value that the reader computes decides whether it is taken, and what comes
behind it does not matter. So for a text made of numbers, strings, lists and objects it can be told
what a reader makes of it, where it succeeds and where it stops with a fault.
-/
namespace ScriptSandbox.Json.Reader

open Decimal (AllDigits Fraction Power Unsigned Numeral)
open Utf8 (encode)

variable {α β : Type}

/-- What a reader finds in front of a text, with the rest; nothing where it stops with a fault. -/
def result? (reader : Reader α) (text : Bytes) : Option (α × Bytes) := (reader text).toOption

theorem result?_bind (reader : Reader α) (next : α → Reader β) (text : Bytes) :
    result? (reader >>= next) text =
      (result? reader text).bind fun (found, rest) => result? (next found) rest := by
  show (reader text >>= fun (found, rest) => next found rest).toOption = _
  unfold result?
  cases reader text <;> rfl

theorem result?_bind_ok {reader : Reader α} {next : α → Reader β} {text rest : Bytes} {found : α}
    (read : reader text = .ok (found, rest)) :
    result? (reader >>= next) text = result? (next found) rest :=
  congrArg Except.toOption (bind_ok read)

@[simp] theorem result?_pure (found : α) (text : Bytes) :
    result? (pure found) text = some (found, text) := rfl

@[simp] theorem result?_fail (fault : Fault) (text : Bytes) :
    result? (fail fault : Reader α) text = none := rfl

/-- Of a text, a reader makes the same wherever the text ends. -/
def Settled (reader : Reader α) (text : List Char) : Prop :=
  ∃ outcome : Option α, ∀ rest, Ended rest →
    result? reader (encode text ++ rest) = outcome.map (·, rest)

theorem Settled.map {reader : Reader α} {text : List Char} (settled : Settled reader text)
    (f : α → β) : Settled (do return f (← reader)) text := by
  obtain ⟨outcome, same⟩ := settled
  refine ⟨outcome.map f, fun rest ended => ?_⟩
  rw [result?_bind, same rest ended]
  cases outcome <;> rfl

/-! ### Numbers -/

theorem settled_finish (parts : Parts) : Settled (finish parts) [] := by
  refine ⟨parts.toBinary64.toOption, fun rest _ => ?_⟩
  unfold finish
  cases parts.toBinary64 <;> rfl

theorem next?_digits {digits : List Char} (all : AllDigits digits) (rest : Bytes) :
    ∃ c, ('0' ≤ c ∧ c ≤ '9') ∧
      next? (encode digits ++ rest) = .ok (some c, encode digits ++ rest) := by
  obtain ⟨c, more, rfl⟩ := List.exists_cons_of_ne_nil all.present
  have digit := all.digit c List.mem_cons_self
  have code := Digits.code_of_le digit
  have ascii : c.toNat < 0x80 := by omega
  refine ⟨c, digit, ?_⟩
  rw [Utf8.encode_cons_ascii ascii, List.cons_append]
  simp [next?, symbol_ascii ascii]

/-- The digits of an exponent, behind its sign. -/
private def exponentDigits (parts : Parts) (negative : Bool) : Reader Binary64 := do
  match ← next? with
  | none => fail (.endOfText .value)
  | some c =>
    if '0' ≤ c ∧ c ≤ '9' then
      let ds ← digits
      if reachesBound ds then
        if parts.significand ≠ 0 ∧ ¬negative then fail .numberOutOfRange
        else pure (.finite parts.negative 0)
      else
        let size : Int := digitsValue ds
        finish { parts with
          exponent := if negative then parts.exponent - size else parts.exponent + size }
    else fail .invalidNumber

/-- What becomes of a number once the digits of its exponent are known. -/
private def powered (parts : Parts) (negative : Bool) (ds : List Nat) : Reader Binary64 :=
  if reachesBound ds then
    if parts.significand ≠ 0 ∧ ¬negative then fail .numberOutOfRange
    else pure (.finite parts.negative 0)
  else
    let size : Int := digitsValue ds
    finish { parts with
      exponent := if negative then parts.exponent - size else parts.exponent + size }

private theorem settled_powered (parts : Parts) (negative : Bool) (ds : List Nat) :
    Settled (powered parts negative ds) [] := by
  unfold powered
  split
  · split
    · exact ⟨none, fun _ _ => rfl⟩
    · exact ⟨some _, fun _ _ => rfl⟩
  · exact settled_finish _

private theorem settled_exponentDigits (parts : Parts) (negative : Bool) {digits : List Char}
    (all : AllDigits digits) : Settled (exponentDigits parts negative) digits := by
  obtain ⟨outcome, same⟩ := settled_powered parts negative (digits.map (·.toNat - 48))
  refine ⟨outcome, fun rest ended => ?_⟩
  obtain ⟨c, digit, next⟩ := next?_digits all rest
  unfold exponentDigits
  rw [result?_bind_ok next]
  dsimp only
  rw [if_pos digit, result?_bind_ok (digits_encode all.digit ended.noDigit)]
  exact same rest ended

theorem settled_exponent (parts : Parts) {sign : Char} {digits : List Char}
    (signed : sign = '+' ∨ sign = '-') (all : AllDigits digits) :
    Settled (exponent parts) ('e' :: sign :: digits) := by
  rcases signed with rfl | rfl
  · exact settled_exponentDigits parts false all
  · exact settled_exponentDigits parts true all

/-- What follows the digits of a number, in the places where an exponent may stand. -/
def scaled (parts : Parts) : Reader Binary64 := do
  if ← atExponent then exponent parts else finish parts

theorem settled_scaled (parts : Parts) {power : List Char} (written : Power power) :
    Settled (scaled parts) power := by
  cases written with
  | none =>
    obtain ⟨outcome, same⟩ := settled_finish parts
    refine ⟨outcome, fun rest ended => ?_⟩
    have noMark : atExponent rest = .ok (false, rest) := by
      obtain ⟨c?, next, other⟩ := next?_ended ended
      rw [atExponent, bind_ok next]
      split
      next => simpa using other _ rfl
      next => simpa using other _ rfl
      next => rfl
    exact (result?_bind_ok noMark).trans (same rest ended)
  | some signed all => exact settled_exponent parts signed all

theorem power_noDigit {power : List Char} (written : Power power) {rest : Bytes}
    (ended : Ended rest) :
    ∀ byte ∈ (encode power ++ rest).head?, (0x30 ≤ byte && byte ≤ 0x39) = false := by
  cases written with
  | none => exact ended.noDigit
  | some signed all =>
    rintro byte ⟨⟩
    rfl

theorem settled_fraction (parts : Parts) {digits power : List Char} (all : AllDigits digits)
    (written : Power power) : Settled (fraction parts) ('.' :: (digits ++ power)) := by
  -- Digits that the significand has no room for move the point.
  let collected := collect parts.significand (digits.map (·.toNat - 48))
  let left : Nat := (digits.map (·.toNat - 48)).length - collected.2.length
  obtain ⟨outcome, same⟩ := settled_scaled
    { parts with significand := collected.1, exponent := parts.exponent - left } written
  refine ⟨outcome, fun rest ended => ?_⟩
  have text : encode ('.' :: (digits ++ power)) ++ rest =
      0x2E :: (encode digits ++ (encode power ++ rest)) := by
    rw [Utf8.encode_cons_ascii (by decide), Utf8.encode_append, List.cons_append, List.append_assoc]
    rfl
  have some : (digits.map (·.toNat - 48)).isEmpty = false := by simp [all.present]
  unfold fraction
  rw [text, result?_bind_ok (skip_eq _), List.tail_cons,
    result?_bind_ok (digits_encode all.digit (power_noDigit written ended)), some]
  exact same rest ended

/-- What follows the integral part of a number. -/
private def afterWhole (negative : Bool) (ds : List Nat) : Reader Number := do
  let (significand, left) := collect 0 ds
  let parts : Parts := ⟨negative, significand, left.length⟩
  match ← next? with
  | some '.' => return .float (← fraction parts)
  | some 'e' | some 'E' => return .float (← exponent parts)
  | _ =>
    if ¬left.isEmpty then return .float (← finish parts)
    else if ¬negative then return .integer significand
    else if significand = 0 ∨ Int64.minValue.toInt.natAbs < significand then
      return .float (Binary64.ofInt significand).neg
    else return .integer (-significand)

/-- What a number comes to that is its digits alone. -/
private def unscaled (negative : Bool) (ds : List Nat) : Reader Number := do
  let (significand, left) := collect 0 ds
  if ¬left.isEmpty then return .float (← finish ⟨negative, significand, left.length⟩)
  else if ¬negative then return .integer significand
  else if significand = 0 ∨ Int64.minValue.toInt.natAbs < significand then
    return .float (Binary64.ofInt significand).neg
  else return .integer (-significand)

private theorem settled_unscaled (negative : Bool) (ds : List Nat) :
    Settled (unscaled negative ds) [] := by
  unfold unscaled
  dsimp only
  split
  · exact (settled_finish _).map Number.float
  · split
    · exact ⟨some _, fun _ _ => rfl⟩
    · split
      · exact ⟨some _, fun _ _ => rfl⟩
      · exact ⟨some _, fun _ _ => rfl⟩

private theorem settled_afterWhole (negative : Bool) (ds : List Nat) {fraction power : List Char}
    (fractional : Fraction fraction) (written : Power power) :
    Settled (afterWhole negative ds) (fraction ++ power) := by
  let parts : Parts := ⟨negative, (collect 0 ds).1, (collect 0 ds).2.length⟩
  cases fractional with
  | some all => exact (settled_fraction parts all written).map Number.float
  | none =>
    cases written with
    | some signed all => exact (settled_exponent parts signed all).map Number.float
    | none =>
      obtain ⟨outcome, same⟩ := settled_unscaled negative ds
      refine ⟨outcome, fun rest ended => Eq.trans ?_ (same rest ended)⟩
      -- Neither a point nor the mark of an exponent follows.
      obtain ⟨c?, next, other⟩ := next?_ended ended
      show result? (afterWhole negative ds) rest = _
      unfold afterWhole
      dsimp only
      rw [result?_bind_ok next]
      split
      next => simpa using other _ rfl
      next => simpa using other _ rfl
      next => simpa using other _ rfl
      next => rfl

/-- A number starts with its digits. -/
theorem number_digits (negative : Bool) {whole : List Char} (all : ∀ c ∈ whole, '0' ≤ c ∧ c ≤ '9')
    {rest : Bytes} (stops : ∀ byte ∈ rest.head?, (0x30 ≤ byte && byte ≤ 0x39) = false) :
    result? (number negative) (encode whole ++ rest) =
      result? (match whole.map (·.toNat - 48) with
        | [] => do
          match ← next? with
          | none => fail (.endOfText .value)
          | some _ => fail .invalidNumber
        | 0 :: _ :: _ => fail .invalidNumber
        | ds => afterWhole negative ds) rest := by
  unfold number
  rw [result?_bind_ok (digits_encode all stops)]
  rfl

theorem settled_number (negative : Bool) {text : List Char} (unsigned : Unsigned text) :
    Settled (number negative) text := by
  obtain @⟨whole, fraction, power, all, fractional, written⟩ := unsigned
  have stops {rest : Bytes} (ended : Ended rest) :
      ∀ byte ∈ (encode (fraction ++ power) ++ rest).head?,
        (0x30 ≤ byte && byte ≤ 0x39) = false := by
    cases fractional with
    | none => exact power_noDigit written ended
    | some all =>
      rintro byte ⟨⟩
      rfl
  have steps (rest : Bytes) (ended : Ended rest) := number_digits negative all.digit (stops ended)
  have parts (rest : Bytes) : encode (whole ++ (fraction ++ power)) ++ rest =
      encode whole ++ (encode (fraction ++ power) ++ rest) := by
    rw [Utf8.encode_append, List.append_assoc]
  simp only [← parts] at steps
  have present : whole.map (·.toNat - 48) ≠ [] := by simp [all.present]
  generalize whole.map (·.toNat - 48) = ds at steps present
  split at steps
  next => exact absurd rfl present
  next =>
    -- Nothing may follow a zero at the start.
    exact ⟨none, steps⟩
  next =>
    obtain ⟨outcome, same⟩ := settled_afterWhole negative ds fractional written
    exact ⟨outcome, fun rest ended => (steps rest ended).trans (same rest ended)⟩

/-! ### Values that hold no others -/

/-- What a reader makes of a text that starts as values do. -/
structure Reads (reader : Reader α) (text : List Char) (outcome : Option α) : Prop where
  opens : Opens text
  read : ∀ rest, Ended rest → result? reader (encode text ++ rest) = outcome.map (·, rest)

theorem opens_numeral {text : List Char} (numeral : Numeral text) : Opens text := by
  cases numeral with
  | negative unsigned => exact ⟨'-', rfl, by decide⟩
  | positive unsigned =>
    obtain ⟨c, rest, rfl, digit⟩ := unsigned.head
    have code := Digits.code_of_le digit
    refine ⟨c, rfl, by omega, by omega, ?_⟩
    rintro rfl
    exact absurd digit (by decide)

/-- A number is read the same at every depth. -/
theorem scalarOr_numeral {text : List Char} (numeral : Numeral text) :
    ∃ outcome : Option Number, ∀ steps container rest, Ended rest →
      result? (scalarOr steps container) (encode text ++ rest) =
        (outcome.map Json.number).map (·, rest) := by
  cases numeral with
  | negative unsigned =>
    obtain ⟨outcome, same⟩ := settled_number true unsigned
    refine ⟨outcome, fun steps container rest ended => ?_⟩
    show result? (do return .number (← number true) : Reader Json) (encode _ ++ rest) = _
    rw [result?_bind, same rest ended]
    cases outcome <;> rfl
  | positive unsigned =>
    obtain ⟨outcome, same⟩ := settled_number false unsigned
    refine ⟨outcome, fun steps container rest ended => ?_⟩
    obtain ⟨c, more, rfl, digit⟩ := unsigned.head
    have branch := congrArg Except.toOption (scalarOr_digit digit more steps container rest)
    refine branch.trans ?_
    show result? (do return .number (← number false) : Reader Json) (encode (c :: more) ++ rest) = _
    rw [result?_bind, same rest ended]
    cases outcome <;> rfl

/-- What a whole text is read as. -/
theorem run_toOption {reader : (steps : Nat) → Reader α} {text : Bytes} {outcome : Option α}
    (read : result? (reader text.length) text = outcome.map (·, [])) :
    (run reader text).toOption = outcome := by
  unfold result? at read
  unfold run
  cases found : reader text.length text with
  | error fault =>
    rw [found] at read
    cases outcome with
    | none => rfl
    | some json => cases read
  | ok found =>
    rw [found] at read
    cases outcome with
    | none => cases read
    | some json =>
      obtain rfl := Option.some.inj read
      rfl

theorem run_eq_ok {reader : (steps : Nat) → Reader α} {text : Bytes} {found : α}
    (read : result? (reader text.length) text = some (found, [])) : run reader text = .ok found := by
  have outcome : (run reader text).toOption = some found := run_toOption read
  cases ended : run reader text with
  | error fault =>
    rw [ended] at outcome
    cases outcome
  | ok other =>
    rw [ended] at outcome
    rw [Option.some.inj outcome]

theorem Reads.whole {reader : Reader α} {text : List Char} {outcome : Option α}
    (read : Reads reader text outcome) :
    result? reader (encode text) = outcome.map (·, []) := by
  have atEnd := read.read [] (by rintro byte ⟨⟩)
  rwa [List.append_nil] at atEnd

theorem value_eq (steps depth : Nat) :
    ∃ container, value steps depth = scalarOr steps container := by
  cases depth <;> exact ⟨_, rfl⟩

theorem reads_numeral {text : List Char} (numeral : Numeral text) :
    ∃ outcome : Option Number, (parse (encode text)).toOption = outcome.map Json.number ∧
      ∀ steps depth, Reads (value steps depth) text (outcome.map Json.number) := by
  obtain ⟨outcome, same⟩ := scalarOr_numeral numeral
  have reads (steps depth : Nat) : Reads (value steps depth) text (outcome.map Json.number) := by
    obtain ⟨container, scalar⟩ := value_eq steps depth
    rw [scalar]
    exact ⟨opens_numeral numeral, same steps container⟩
  exact ⟨outcome, run_toOption (reads _ _).whole, reads⟩

/-! ### Texts of lists and objects -/

/-- The texts of items after the first, and the end of their list. -/
def itemsText : List (List Char) → List Char
  | [] => [']']
  | text :: more => ',' :: (text ++ itemsText more)

def listText : List (List Char) → List Char
  | [] => ['[', ']']
  | first :: more => '[' :: (first ++ itemsText more)

/-- The texts of fields after the first, behind their names, and the end of their object. -/
def fieldsText : List (List Char × List Char) → List Char
  | [] => ['\x7d']
  | (name, text) :: more => ',' :: (quote name ++ ':' :: (text ++ fieldsText more))

def objectText : List (List Char × List Char) → List Char
  | [] => ['\x7b', '\x7d']
  | (name, text) :: more => '\x7b' :: (quote name ++ ':' :: (text ++ fieldsText more))

theorem encode_itemsText_cons (text : List Char) (more : List (List Char)) (rest : Bytes) :
    encode (itemsText (text :: more)) ++ rest =
      0x2C :: (encode text ++ (encode (itemsText more) ++ rest)) := by
  rw [itemsText, Utf8.encode_cons_ascii (by decide), Utf8.encode_append, List.cons_append,
    List.append_assoc]
  rfl

theorem encode_listText_cons (text : List Char) (more : List (List Char)) (rest : Bytes) :
    encode (listText (text :: more)) ++ rest =
      0x5B :: (encode text ++ (encode (itemsText more) ++ rest)) := by
  rw [listText, Utf8.encode_cons_ascii (by decide), Utf8.encode_append, List.cons_append,
    List.append_assoc]
  rfl

theorem encode_fieldsText_cons (name text : List Char) (more : List (List Char × List Char))
    (rest : Bytes) :
    encode (fieldsText ((name, text) :: more)) ++ rest =
      0x2C :: (encode (quote name) ++
        0x3A :: (encode text ++ (encode (fieldsText more) ++ rest))) := by
  rw [fieldsText, Utf8.encode_cons_ascii (by decide), Utf8.encode_append,
    Utf8.encode_cons_ascii (by decide), Utf8.encode_append]
  simp only [List.cons_append, List.append_assoc]
  rfl

theorem encode_objectText_cons (name text : List Char) (more : List (List Char × List Char))
    (rest : Bytes) :
    encode (objectText ((name, text) :: more)) ++ rest =
      0x7B :: (encode (quote name) ++
        0x3A :: (encode text ++ (encode (fieldsText more) ++ rest))) := by
  rw [objectText, Utf8.encode_cons_ascii (by decide), Utf8.encode_append,
    Utf8.encode_cons_ascii (by decide), Utf8.encode_append]
  simp only [List.cons_append, List.append_assoc]
  rfl

theorem ended_itemsText (texts : List (List Char)) (rest : Bytes) :
    Ended (encode (itemsText texts) ++ rest) := by
  cases texts <;> (rw [itemsText, Utf8.encode_cons_ascii (by decide)]; rintro byte ⟨⟩; decide)

theorem ended_fieldsText (entries : List (List Char × List Char)) (rest : Bytes) :
    Ended (encode (fieldsText entries) ++ rest) := by
  cases entries <;> (rw [fieldsText, Utf8.encode_cons_ascii (by decide)]; rintro byte ⟨⟩; decide)

/-! ### Lists -/

theorem look_opens {text : List Char} (opens : Opens text) (rest : Bytes) : ∃ c?,
    look (encode text ++ rest) = .ok (c?, encode text ++ rest) ∧ c? ≠ none ∧ c? ≠ some ']' := by
  obtain ⟨c, first, visible, ascii, other⟩ := opens
  obtain ⟨text, rfl⟩ := List.head?_eq_some_iff.mp first
  exact ⟨some c, look_visible visible ascii text rest, by simp, by simpa using other⟩

theorem moreItems_first {text : List Char} (opens : Opens text) (rest : Bytes) :
    moreItems true (encode text ++ rest) = .ok (true, encode text ++ rest) := by
  obtain ⟨c?, look, present, other⟩ := look_opens opens rest
  rw [moreItems, bind_ok look]
  split
  next => exact absurd rfl present
  next => exact absurd rfl other
  next => rfl

theorem moreItems_comma (rest : Bytes) :
    moreItems false (0x2C :: rest) =
      (do
        skip
        match ← Reader.look with
        | none => fail (.endOfText .value)
        | some ']' => fail .trailingComma
        | some _ => pure true : Reader Bool) (0x2C :: rest) := rfl

theorem moreItems_further {text : List Char} (opens : Opens text) (rest : Bytes) :
    moreItems false (0x2C :: (encode text ++ rest)) = .ok (true, encode text ++ rest) := by
  obtain ⟨c?, look, present, other⟩ := look_opens opens rest
  rw [moreItems_comma, bind_ok (skip_eq _), List.tail_cons, bind_ok look]
  split
  next => exact absurd rfl present
  next => exact absurd rfl other
  next => rfl

variable {inner : Reader α} {texts : List (List Char)} {outcomes : List (Option α)}

theorem items_itemsText (reads : List.Forall₂ (Reads inner) texts outcomes) (found : List α)
    {turns : Nat} (enough : texts.length < turns) (rest : Bytes) :
    result? (items inner false found turns) (encode (itemsText texts) ++ rest) =
      (outcomes.mapM id).map fun values => (values.reverse ++ found, 0x5D :: rest) := by
  induction reads generalizing found turns with
  | nil =>
    obtain ⟨turns, rfl⟩ := Nat.exists_eq_add_of_lt enough
    rfl
  | @cons text outcome texts outcomes read _ ih =>
    obtain ⟨turns, rfl⟩ := Nat.exists_eq_add_of_lt enough
    have short : texts.length < texts.length + 1 + turns := by omega
    rw [encode_itemsText_cons, items, result?_bind_ok (moreItems_further read.opens _), if_pos rfl,
      result?_bind, read.read _ (ended_itemsText texts rest)]
    cases outcome with
    | none => rfl
    | some value =>
      refine (ih (value :: found) short).trans ?_
      cases others : outcomes.mapM id <;> simp [others]

/-- A list, read up to its last bracket. -/
theorem items_listText {steps : Nat} (reads : List.Forall₂ (Reads inner) texts outcomes)
    (enough : texts.length ≤ steps) (rest : Bytes) :
    result? (items inner true [] (steps + 1)) (encode (listText texts) ++ rest).tail =
      (outcomes.mapM id).map fun values => (values.reverse, 0x5D :: rest) := by
  cases reads with
  | nil => rfl
  | @cons text outcome texts outcomes read others =>
    rw [encode_listText_cons, List.tail_cons, items, result?_bind_ok (moreItems_first read.opens _),
      if_pos rfl, result?_bind, read.read _ (ended_itemsText texts rest)]
    cases outcome with
    | none => rfl
    | some value =>
      refine (items_itemsText others [value] (Nat.lt_of_succ_le enough) rest).trans ?_
      cases values : outcomes.mapM id <;> simp [values]

/-! ### Objects -/

/-- What a reader of fields makes of one field, as a function of what it made of those before. -/
def ReadsField {σ : Type} (field : String → σ → Reader σ) (name text : List Char)
    (update : σ → Option σ) : Prop :=
  ∀ state rest, Ended rest →
    result? (field (String.ofList name) state) (0x3A :: (encode text ++ rest)) =
      (update state).map (·, rest)

section Fields

variable {σ : Type} {field : String → σ → Reader σ} {entries : List (List Char × List Char)}
  {updates : List (σ → Option σ)} {steps : Nat}

private theorem fields_turn {name text : List Char} {update : σ → Option σ} {first : Bool}
    {bytes rest : Bytes} (read : ReadsField field name text update)
    (short : (encode (quote name)).length ≤ steps)
    (more : moreFields first bytes = .ok (true, encode (quote name) ++ 0x3A :: (encode text ++ rest)))
    (ended : Ended rest) (state : σ) (turns : Nat) :
    result? (fields steps field first state (turns + 1)) bytes =
      (update state).bind fun next => result? (fields steps field false next turns) rest := by
  rw [fields, result?_bind_ok more, if_pos rfl, result?_bind_ok (string_quote short _),
    result?_bind, read state rest ended]
  cases update state <;> rfl

theorem fields_fieldsText
    (reads : List.Forall₂ (fun entry => ReadsField field entry.1 entry.2) entries updates)
    (short : ∀ entry ∈ entries, (encode (quote entry.1)).length ≤ steps) (state : σ) {turns : Nat}
    (enough : entries.length < turns) (rest : Bytes) :
    result? (fields steps field false state turns) (encode (fieldsText entries) ++ rest) =
      (updates.foldlM (fun state (update : σ → Option σ) => update state) state).map (·, 0x7D :: rest) := by
  induction reads generalizing state turns with
  | nil =>
    obtain ⟨turns, rfl⟩ := Nat.exists_eq_add_of_lt enough
    rfl
  | @cons entry update entries updates read _ ih =>
    obtain ⟨name, text⟩ := entry
    obtain ⟨turns, rfl⟩ := Nat.exists_eq_add_of_lt enough
    have less : entries.length < entries.length + 1 + turns := by omega
    have others := fun entry member => short entry (List.mem_cons_of_mem _ member)
    rw [encode_fieldsText_cons, fields_turn read (short _ List.mem_cons_self) rfl
      (ended_fieldsText entries rest), List.foldlM_cons]
    cases applied : update state with
    | none => rfl
    | some next => exact ih others next less

/-- An object, read up to its last bracket. -/
theorem fields_objectText
    (reads : List.Forall₂ (fun entry => ReadsField field entry.1 entry.2) entries updates)
    (short : ∀ entry ∈ entries, (encode (quote entry.1)).length ≤ steps) (state : σ)
    (enough : entries.length ≤ steps) (rest : Bytes) :
    result? (fields steps field true state (steps + 1)) (encode (objectText entries) ++ rest).tail =
      (updates.foldlM (fun state (update : σ → Option σ) => update state) state).map (·, 0x7D :: rest) := by
  cases reads with
  | nil => rfl
  | @cons entry update entries updates read others =>
    obtain ⟨name, text⟩ := entry
    rw [encode_objectText_cons, List.tail_cons, fields_turn read (short _ List.mem_cons_self) rfl
      (ended_fieldsText entries rest), List.foldlM_cons]
    cases applied : update state with
    | none => rfl
    | some next =>
      exact fields_fieldsText others (fun entry member => short entry (List.mem_cons_of_mem _ member))
        next (Nat.lt_of_succ_le enough) rest

end Fields

/-! ### Values that hold others -/

theorem opens_listText (texts : List (List Char)) : Opens (listText texts) :=
  ⟨'[', by cases texts <;> rfl, by decide⟩

theorem opens_objectText (entries : List (List Char × List Char)) : Opens (objectText entries) :=
  ⟨'\x7b', by cases entries <;> rfl, by decide⟩

theorem encode_listText (texts : List (List Char)) (rest : Bytes) :
    ∃ more, encode (listText texts) ++ rest = 0x5B :: more := by
  cases texts <;> exact ⟨_, rfl⟩

theorem encode_objectText (entries : List (List Char × List Char)) (rest : Bytes) :
    ∃ more, encode (objectText entries) ++ rest = 0x7B :: more := by
  cases entries <;> exact ⟨_, rfl⟩

theorem value_zero_listText (steps : Nat) (texts : List (List Char)) :
    Reads (value steps 0) (listText texts) none := by
  refine ⟨opens_listText texts, fun rest _ => ?_⟩
  obtain ⟨more, text⟩ := encode_listText texts rest
  rw [text]
  rfl

theorem value_zero_objectText (steps : Nat) (entries : List (List Char × List Char)) :
    Reads (value steps 0) (objectText entries) none := by
  refine ⟨opens_objectText entries, fun rest _ => ?_⟩
  obtain ⟨more, text⟩ := encode_objectText entries rest
  rw [text]
  rfl

/-- A list, read to behind its last bracket, comes to what is made of its items. -/
theorem result?_listText {steps : Nat} (reads : List.Forall₂ (Reads inner) texts outcomes)
    (enough : texts.length ≤ steps) (make : List α → β) (rest : Bytes) :
    result? (do
        let found ← items inner true [] (steps + 1)
        endList
        return make found.reverse : Reader β) (encode (listText texts) ++ rest).tail =
      ((outcomes.mapM id).map make).map (·, rest) := by
  rw [result?_bind, items_listText reads enough]
  cases outcomes.mapM id with
  | none => rfl
  | some values =>
    have closed : endList (0x5D :: rest) = .ok ((), rest) := rfl
    dsimp only [Option.map_some, Option.bind_some]
    rw [result?_bind_ok closed, List.reverse_reverse]
    rfl

theorem value_listText {steps depth : Nat} {outcomes : List (Option Json)}
    (reads : List.Forall₂ (Reads (value steps depth)) texts outcomes)
    (enough : texts.length ≤ steps) :
    Reads (value steps (depth + 1)) (listText texts) ((outcomes.mapM id).map .array) := by
  refine ⟨opens_listText texts, fun rest _ => ?_⟩
  refine Eq.trans ?_ (result?_listText reads enough Json.array rest)
  obtain ⟨more, text⟩ := encode_listText texts rest
  rw [text]
  rfl

/-- Reads what follows the name of a field. -/
def fieldOf (inner : Reader Json) (name : String) (found : List (String × Json)) :
    Reader (List (String × Json)) := do
  colon
  return setField name (← inner) found

theorem readsField_fieldOf {inner : Reader Json} {text : List Char} {outcome : Option Json}
    (read : Reads inner text outcome) (name : List Char) :
    ReadsField (fieldOf inner) name text
      (fun found => outcome.map (setField (String.ofList name) · found)) := by
  intro found rest ended
  have mark : colon (0x3A :: (encode text ++ rest)) = .ok ((), encode text ++ rest) := rfl
  rw [fieldOf, result?_bind_ok mark, result?_bind, read.read rest ended]
  cases outcome <;> rfl

theorem value_objectText {steps depth : Nat} {entries : List (List Char × List Char)}
    {updates : List (List (String × Json) → Option (List (String × Json)))}
    (reads : List.Forall₂ (fun entry => ReadsField (fieldOf (value steps depth)) entry.1 entry.2)
      entries updates)
    (short : ∀ entry ∈ entries, (encode (quote entry.1)).length ≤ steps)
    (enough : entries.length ≤ steps) :
    Reads (value steps (depth + 1)) (objectText entries)
      ((updates.foldlM (fun found (update : _ → Option _) => update found) []).map .object) := by
  refine ⟨opens_objectText entries, fun rest _ => ?_⟩
  have branch : result? (value steps (depth + 1)) (encode (objectText entries) ++ rest) =
      result? (do
        let found ← fields steps (fieldOf (value steps depth)) true [] (steps + 1)
        endObject
        return .object found : Reader Json) (encode (objectText entries) ++ rest).tail := by
    obtain ⟨more, text⟩ := encode_objectText entries rest
    rw [text]
    rfl
  rw [branch, result?_bind, fields_objectText reads short [] enough]
  cases updates.foldlM (fun found (update : _ → Option _) => update found) [] with
  | none => rfl
  | some found =>
    have closed : endObject (0x7D :: rest) = .ok ((), rest) := rfl
    dsimp only [Option.map_some, Option.bind_some]
    rw [result?_bind_ok closed]
    rfl

/-! ### Lengths -/

theorem length_itemsText (texts : List (List Char)) :
    texts.length < (encode (itemsText texts)).length ∧
      ∀ text ∈ texts, (encode text).length ≤ (encode (itemsText texts)).length := by
  induction texts with
  | nil => exact ⟨by decide, by simp⟩
  | cons text more ih =>
    have written := congrArg List.length (encode_itemsText_cons text more [])
    simp only [List.append_nil, List.length_cons, List.length_append] at written
    rw [written, List.forall_mem_cons]
    refine ⟨by rw [List.length_cons]; omega, by omega, fun other member => ?_⟩
    have short := ih.2 other member
    omega

/-- A list is longer than each of its items, and longer than it has items. -/
theorem length_listText (texts : List (List Char)) :
    texts.length ≤ (encode (listText texts)).length ∧
      ∀ text ∈ texts, (encode text).length ≤ (encode (listText texts)).length := by
  cases texts with
  | nil => exact ⟨by decide, by simp⟩
  | cons text more =>
    have written := congrArg List.length (encode_listText_cons text more [])
    simp only [List.append_nil, List.length_cons, List.length_append] at written
    have others := length_itemsText more
    rw [written, List.forall_mem_cons]
    refine ⟨by rw [List.length_cons]; omega, by omega, fun other member => ?_⟩
    have short := others.2 other member
    omega

theorem length_fieldsText (entries : List (List Char × List Char)) :
    entries.length < (encode (fieldsText entries)).length ∧
      ∀ entry ∈ entries,
        (encode (quote entry.1)).length ≤ (encode (fieldsText entries)).length ∧
          (encode entry.2).length ≤ (encode (fieldsText entries)).length := by
  induction entries with
  | nil => exact ⟨by decide, by simp⟩
  | cons entry more ih =>
    have written := congrArg List.length (encode_fieldsText_cons entry.1 entry.2 more [])
    simp only [List.append_nil, List.length_cons, List.length_append] at written
    rw [written, List.forall_mem_cons]
    refine ⟨by rw [List.length_cons]; omega, ⟨by omega, by omega⟩, fun other member => ?_⟩
    have short := ih.2 other member
    omega

theorem length_objectText (entries : List (List Char × List Char)) :
    entries.length ≤ (encode (objectText entries)).length ∧
      ∀ entry ∈ entries,
        (encode (quote entry.1)).length ≤ (encode (objectText entries)).length ∧
          (encode entry.2).length ≤ (encode (objectText entries)).length := by
  cases entries with
  | nil => exact ⟨by decide, by simp⟩
  | cons entry more =>
    have written := congrArg List.length (encode_objectText_cons entry.1 entry.2 more [])
    simp only [List.append_nil, List.length_cons, List.length_append] at written
    have others := length_fieldsText more
    rw [written, List.forall_mem_cons]
    refine ⟨by rw [List.length_cons]; omega, ⟨by omega, by omega⟩, fun other member => ?_⟩
    have short := others.2 other member
    omega

end ScriptSandbox.Json.Reader
