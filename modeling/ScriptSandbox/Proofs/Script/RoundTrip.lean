import Mathlib.Data.List.TakeDrop
import Mathlib.Data.List.TakeWhile
import ScriptSandbox.Proofs.Json.RoundTrip
import ScriptSandbox.Script.Decoding

/-!
# Decoding JSON texts of the host

The text that the host writes for a value decodes to that value as scripts have it: integers become
the nearest doubles, texts become UTF-16 units and the fields of an object its properties.
-/
namespace ScriptSandbox.Script

open Json (Exact render renderItems renderFields quote escape integerText)
open Json.Reader (Opens)

mutual

/-- A value of the host as scripts have it. -/
def Value.ofJson : Json → Value
  | .null => .null
  | .boolean value => .boolean value
  | .number value => .number value.toBinary64
  | .string text => .ofString text
  | .array items => .array (itemsOfJson items)
  | .object fields => .ofProperties .object (propertiesOfJson fields)

def itemsOfJson : List Json → List Value
  | [] => []
  | item :: rest => .ofJson item :: itemsOfJson rest

def propertiesOfJson : List (String × Json) → List Property
  | [] => []
  | (name, value) :: rest => .data (units name) true (.ofJson value) :: propertiesOfJson rest

end

/-! ### Strings -/

private theorem readUnit_control {n : Nat} (control : n < 0x20) (rest : List Char) :
    readUnit ('0' :: '0' :: Bytes.hexDigit (n / 16) :: Bytes.hexDigit (n % 16) :: rest) =
      some (UInt16.ofNat n, rest) := by
  have zero : Bytes.hexValue? '0' = some 0 := by decide
  have first := Digits.hexValue?_hexDigit (n / 16) (by omega)
  have second := Digits.hexValue?_hexDigit (n % 16) (by omega)
  have whole : 16 * (n / 16) + n % 16 = n := by omega
  simp [readUnit, zero, first, second, whole]

theorem readString_hex (turns : Nat) (text : List Char) (found : Units) :
    readString (turns + 1) ('\\' :: 'u' :: text) found =
      (readUnit text).bind fun (unit, rest) => readString turns rest (unit :: found) := rfl

/-- A character is read back from its escape in one turn. -/
theorem readString_escape (c : Char) (turns : Nat) (rest : List Char) (found : Units) :
    readString (turns + 1) (escape c ++ rest) found =
      readString turns rest ((ScriptSandbox.Units.ofChar c).reverse ++ found) := by
  unfold Json.escape
  split
  iterate 7 rfl
  next noQuote noBackslash _ _ _ _ _ =>
    split_ifs with control
    · -- A control is one unit, written as four hexadecimal digits.
      have unit : ScriptSandbox.Units.ofChar c = [UInt16.ofNat c.toNat] :=
        if_pos (by omega : c.toNat < 0x10000)
      change readString (turns + 1) ('\\' :: 'u' :: '0' :: '0' :: Bytes.hexDigit (c.toNat / 16) ::
        Bytes.hexDigit (c.toNat % 16) :: rest) found = _
      rw [readString_hex, readUnit_control control, unit]
      rfl
    · rw [List.singleton_append]
      conv => lhs; unfold readString
      split
      next same => exact absurd (List.cons.inj same).1 noQuote
      next same => exact absurd (List.cons.inj same).1 noBackslash
      next same => exact absurd (List.cons.inj same).1 noBackslash
      next same =>
        obtain ⟨rfl, rfl⟩ := List.cons.inj same
        rw [if_neg control]
      next same => exact absurd same (List.cons_ne_nil _ _)

theorem readString_quote (text : List Char) {turns : Nat} (enough : text.length < turns)
    (rest : List Char) (found : Units) :
    readString turns (text.flatMap escape ++ '"' :: rest) found =
      some (found.reverse ++ ScriptSandbox.Units.ofText text, rest) := by
  induction text generalizing turns found with
  | nil =>
    obtain ⟨turns, rfl⟩ := Nat.exists_eq_add_of_lt enough
    have nothing : ScriptSandbox.Units.ofText [] = [] := rfl
    rw [nothing, List.append_nil]
    rfl
  | cons c text ih =>
    obtain ⟨turns, rfl⟩ := Nat.exists_eq_add_of_lt enough
    have fewer : text.length < (c :: text).length + turns := by
      rw [List.length_cons]
      omega
    rw [List.flatMap_cons, List.append_assoc, readString_escape, ih fewer]
    simp [ScriptSandbox.Units.ofText]

theorem length_le_escapes (text : List Char) : text.length ≤ (text.flatMap escape).length := by
  have one : ∀ c, 1 ≤ (escape c).length := by
    intro c
    unfold Json.escape
    split <;> first | decide | (split <;> simp)
  induction text with
  | nil => exact Nat.le_refl 0
  | cons c text ih =>
    have first := one c
    rw [List.flatMap_cons, List.length_append, List.length_cons]
    omega

/-- The text behind an opening quote is read up to its closing one. -/
theorem readString_whole (text : List Char) (rest : List Char) :
    readString ((text.flatMap escape ++ '"' :: rest).length + 1)
        (text.flatMap escape ++ '"' :: rest) [] =
      some (ScriptSandbox.Units.ofText text, rest) := by
  have short := length_le_escapes text
  rw [readString_quote text (by rw [List.length_append]; omega)]
  rfl

/-! ### Numbers -/

/-- Where a number ends inside a text: before a comma or a closing bracket, or at the end. -/
def Ended (rest : List Char) : Prop := ∀ c ∈ rest.head?, c = ',' ∨ c = ']' ∨ c = '\x7d'

theorem takeDigits_eq {digits rest : List Char} (all : ∀ c ∈ digits, Ascii.isDigit c = true)
    (ended : Ended rest) : takeDigits (digits ++ rest) = (digits, rest) := by
  have stop : ∀ c ∈ rest.head?, ¬Ascii.isDigit c = true := by
    intro c first
    rcases ended c first with rfl | rfl | rfl <;> decide
  rw [takeDigits, List.span_eq_takeWhile_dropWhile, List.takeWhile_append_of_pos all,
    List.dropWhile_append_of_pos all]
  cases rest with
  | nil => rw [List.takeWhile_nil, List.dropWhile_nil, List.append_nil]
  | cons c rest =>
    have other := stop c rfl
    rw [List.takeWhile_cons_of_neg other, List.dropWhile_cons_of_neg other, List.append_nil]

theorem readFraction_ended {rest : List Char} (ended : Ended rest) :
    readFraction rest = some ([], rest) := by
  unfold readFraction
  split
  next => simpa using ended '.' rfl
  next => rfl

theorem readExponent_ended {rest : List Char} (ended : Ended rest) :
    readExponent rest = some (0, rest) := by
  unfold readExponent
  split
  iterate 6 next => simpa using ended _ rfl
  next => rfl

theorem readMagnitude_toDigits (negative : Bool) (n : Nat) {rest : List Char} (ended : Ended rest) :
    readMagnitude negative (Nat.toDigits 10 n ++ rest) = some (.ofDecimal negative n 0, rest) := by
  have value : digitsNumber (Nat.toDigits 10 n) = n := Nat.ofDigitChars_ten_toDigits
  unfold readMagnitude
  rw [takeDigits_eq (fun _ => Digits.isDigit_of_mem) ended]
  generalize written : Nat.toDigits 10 n = digits at value
  split
  next nothing =>
    obtain ⟨rfl, _⟩ := Prod.mk.inj nothing
    exact absurd written Nat.toDigits_ne_nil
  next zero =>
    obtain ⟨rfl, _⟩ := Prod.mk.inj zero
    exact absurd (Digits.eq_nil_of_zero written) (List.cons_ne_nil _ _)
  next => simp [readFraction_ended ended, readExponent_ended ended, value]

/-- A decimal without an exponent is the double nearest to its integer. -/
theorem ofDecimal_natAbs {value : Int} (small : value.natAbs < UInt64.size) :
    Binary64.ofDecimal (value < 0) value.natAbs 0 = .ofInt value := by
  have size : UInt64.size = 18446744073709551616 := rfl
  have length : (Nat.repr value.natAbs).length ≤ 20 := by
    rw [Nat.length_repr_le_iff (by decide)]
    omega
  -- With at most twenty digits, neither bound on the size of a decimal is passed.
  unfold Binary64.ofDecimal Binary64.ofInt
  dsimp only
  rcases eq_or_ne value 0 with rfl | other
  · have zero : Binary64.ofUnits false 0 1 = .finite false 0 := by decide +kernel
    rw [if_pos Int.natAbs_zero, Int.natAbs_zero, Nat.zero_mul]
    exact zero.symm
  · rw [if_neg (Int.natAbs_ne_zero.mpr other), if_neg (by omega), if_neg (by omega),
      if_pos (Int.le_refl 0)]
    have unit : Nat.pow 10 (0 : Int).toNat = 1 := rfl
    rw [unit, Nat.mul_one]

theorem readNumber_integerText {value : Int} (low : Int64.minValue.toInt ≤ value)
    (high : value < UInt64.size) {rest : List Char} (ended : Ended rest) :
    readNumber (integerText value ++ rest) = some (.ofInt value, rest) := by
  have least : Int64.minValue.toInt = -9223372036854775808 := rfl
  have size : UInt64.size = 18446744073709551616 := rfl
  have nearest := ofDecimal_natAbs (by omega : value.natAbs < UInt64.size)
  unfold integerText
  rw [Nat.toList_repr]
  split
  next below =>
    have read := readMagnitude_toDigits true value.natAbs ended
    rw [← nearest, decide_eq_true below]
    exact read
  next above =>
    have read := readMagnitude_toDigits false value.natAbs ended
    obtain ⟨c, text, written, digit⟩ := Digits.head value.natAbs
    rw [← nearest, decide_eq_false above]
    unfold readNumber
    split
    -- The first digit is not taken for a sign.
    next same =>
      rw [written] at same
      obtain ⟨rfl, _⟩ := List.cons.inj same
      exact absurd digit (by decide)
    next => exact read

/-! ### Values -/

theorem skipBlanks_opens {text : List Char} (opens : Opens text) (rest : List Char) :
    skipBlanks (text ++ rest) = text ++ rest := by
  obtain ⟨c, first, visible, _⟩ := opens
  obtain ⟨text, rfl⟩ := List.head?_eq_some_iff.mp first
  refine List.dropWhile_cons_of_neg ?_
  simp only [Bool.or_eq_true, decide_eq_true_eq]
  rintro (((rfl | rfl) | rfl) | rfl) <;> exact absurd visible (by decide)

theorem opens_quote (text : List Char) : Opens (quote text) := ⟨'"', rfl, by decide⟩

/-- The text of a value, read as scripts do, is this value. -/
structure DecodesBack (json : Json) : Prop where
  opens : Opens json.render
  read : ∀ turns rest, json.render.length ≤ turns → Ended rest →
    readValue turns (json.render ++ rest) = some (.ofJson json, rest)

/-- A text that has a first character leaves its reader a turn. -/
theorem DecodesBack.of_turn {json : Json} (opens : Opens json.render)
    (read : ∀ turns rest, json.render.length ≤ turns + 1 → Ended rest →
      readValue (turns + 1) (json.render ++ rest) = some (.ofJson json, rest)) :
    DecodesBack json := by
  refine ⟨opens, fun turns rest enough ended => ?_⟩
  obtain ⟨c, first, _⟩ := opens
  obtain ⟨text, written⟩ := List.head?_eq_some_iff.mp first
  cases turns with
  | zero => simp [written] at enough
  | succ turns => exact read turns rest enough ended

theorem ended_renderItems (items : List Json) (rest : List Char) :
    Ended (renderItems items ++ rest) := by
  cases items <;> (rw [renderItems]; rintro c ⟨⟩; decide)

theorem ended_renderFields (fields : List (String × Json)) (rest : List Char) :
    Ended (renderFields fields ++ rest) := by
  cases fields <;> (rw [renderFields]; rintro c ⟨⟩; decide)

/-- The items of a list are read up to its end. Each item takes a turn of its own, so the length of
the text is enough. -/
theorem readItems_render {first : Json} {more : List Json}
    (back : ∀ item ∈ first :: more, DecodesBack item) {turns : Nat}
    (enough : (first.render ++ renderItems more).length ≤ turns) (rest : List Char) :
    readItems turns (first.render ++ (renderItems more ++ rest)) =
      some (itemsOfJson (first :: more), rest) := by
  induction more generalizing first turns with
  | nil =>
    cases turns with
    | zero => simp [renderItems] at enough
    | succ turns =>
      simp only [renderItems, List.length_append, List.length_singleton] at enough
      have read := (back first List.mem_cons_self).read turns (renderItems [] ++ rest) (by omega)
        (ended_renderItems [] rest)
      have closed : skipBlanks (renderItems [] ++ rest) = ']' :: rest := rfl
      rw [readItems, read]
      simp [closed, itemsOfJson]
  | cons second more ih =>
    cases turns with
    | zero => simp [renderItems] at enough
    | succ turns =>
      -- The comma is what the turn of the first item is paid with.
      rw [renderItems, List.length_append, List.length_cons] at enough
      have read := (back first List.mem_cons_self).read turns
        (renderItems (second :: more) ++ rest) (by omega) (ended_renderItems _ _)
      have short : (second.render ++ renderItems more).length ≤ turns := by omega
      have others := ih (fun item member => back item (List.mem_cons_of_mem _ member)) short
      have comma : skipBlanks (renderItems (second :: more) ++ rest) =
          ',' :: (second.render ++ (renderItems more ++ rest)) := by
        rw [renderItems, List.cons_append, List.append_assoc]
        rfl
      rw [readItems, read]
      simp [comma, others, itemsOfJson]

/-- One turn takes a field, its name and its colon included. -/
theorem readFields_succ {name : String} {value : Json} {rest : List Char} {turns : Nat}
    (read : readValue turns (value.render ++ rest) = some (.ofJson value, rest)) :
    readFields (turns + 1) (quote name.toList ++ ':' :: (value.render ++ rest)) =
      match skipBlanks rest with
      | '\x7d' :: rest => some ([.data (units name) true (.ofJson value)], rest)
      | ',' :: rest =>
        (readFields turns rest).bind fun (fields, rest) =>
          some (.data (units name) true (.ofJson value) :: fields, rest)
      | _ => none := by
  have quoted : quote name.toList ++ ':' :: (value.render ++ rest) =
      '"' :: (name.toList.flatMap escape ++ '"' :: ':' :: (value.render ++ rest)) := by
    simp [quote]
  have colon : skipBlanks (':' :: (value.render ++ rest)) = ':' :: (value.render ++ rest) := rfl
  rw [readFields, skipBlanks_opens (opens_quote _), quoted]
  simp only [readString_whole, colon, read, Option.bind_eq_bind, Option.bind_some, Option.pure_def]
  rfl

theorem readFields_render {name : String} {value : Json} {more : List (String × Json)}
    (back : ∀ field ∈ (name, value) :: more, DecodesBack field.2) {turns : Nat}
    (enough : (quote name.toList ++ ':' :: (value.render ++ renderFields more)).length ≤ turns)
    (rest : List Char) :
    readFields turns (quote name.toList ++ ':' :: (value.render ++ (renderFields more ++ rest))) =
      some (propertiesOfJson ((name, value) :: more), rest) := by
  induction more generalizing name value turns with
  | nil =>
    cases turns with
    | zero => simp [quote] at enough
    | succ turns =>
      simp only [List.length_append, List.length_cons] at enough
      have read := (back (name, value) List.mem_cons_self).read turns (renderFields [] ++ rest)
        (by dsimp only; omega) (ended_renderFields _ _)
      have closed : skipBlanks (renderFields [] ++ rest) = '\x7d' :: rest := rfl
      -- The last field is followed by the brace that ends the object.
      rw [readFields_succ read, closed]
      rfl
  | cons second more ih =>
    obtain ⟨secondName, secondValue⟩ := second
    cases turns with
    | zero => simp [quote] at enough
    | succ turns =>
      -- As in a list, the comma is what the turn of the first field is paid with.
      rw [renderFields] at enough
      simp only [List.length_append, List.length_cons] at enough
      have read := (back (name, value) List.mem_cons_self).read turns
        (renderFields ((secondName, secondValue) :: more) ++ rest) (by dsimp only; omega)
        (ended_renderFields _ _)
      have short : (quote secondName.toList ++
          ':' :: (secondValue.render ++ renderFields more)).length ≤ turns := by
        simp only [List.length_append, List.length_cons]
        omega
      have others := ih (fun field member => back field (List.mem_cons_of_mem _ member)) short
      have comma : skipBlanks (renderFields ((secondName, secondValue) :: more) ++ rest) =
          ',' :: (quote secondName.toList ++
            ':' :: (secondValue.render ++ (renderFields more ++ rest))) := by
        rw [renderFields]
        simp only [List.cons_append, List.append_assoc]
        rfl
      rw [readFields_succ read, comma]
      simp only [others, Option.bind_some]
      rfl

/-- Where an opened list does not end at once, its items are read. -/
theorem readValue_bracket (turns : Nat) (inner : List Char) :
    readValue (turns + 1) ('[' :: inner) =
      match skipBlanks inner with
      | ']' :: rest => some (.array [], rest)
      | _ => (readItems turns inner).bind fun (items, rest) => some (.array items, rest) := rfl

theorem readValue_brace (turns : Nat) (inner : List Char) :
    readValue (turns + 1) ('\x7b' :: inner) =
      match skipBlanks inner with
      | '\x7d' :: rest => some (.object .object [], rest)
      | _ => (readFields turns inner).bind fun (fields, rest) =>
          some (.ofProperties .object fields, rest) := rfl

theorem readValue_list {inner rest : List Char} {turns : Nat} {items : List Value}
    (more : ∀ text, skipBlanks inner ≠ ']' :: text)
    (read : readItems turns inner = some (items, rest)) :
    readValue (turns + 1) ('[' :: inner) = some (.array items, rest) := by
  rw [readValue_bracket]
  generalize skipBlanks inner = shown at more
  split
  next => exact absurd rfl (more _)
  next => rw [read, Option.bind_some]

theorem readValue_object {inner rest : List Char} {turns : Nat} {fields : List Property}
    (more : ∀ text, skipBlanks inner ≠ '\x7d' :: text)
    (read : readFields turns inner = some (fields, rest)) :
    readValue (turns + 1) ('\x7b' :: inner) = some (.ofProperties .object fields, rest) := by
  rw [readValue_brace]
  generalize skipBlanks inner = shown at more
  split
  next => exact absurd rfl (more _)
  next => rw [read, Option.bind_some]

theorem decodesBack_array {items : List Json} (back : ∀ item ∈ items, DecodesBack item) :
    DecodesBack (.array items) := by
  refine .of_turn ⟨'[', by cases items <;> rfl, by decide⟩ fun turns rest enough ended => ?_
  cases items with
  | nil => rfl
  | cons first more =>
    rw [render, List.length_cons] at enough
    have opens := (back first List.mem_cons_self).opens
    have found := readItems_render back (Nat.le_of_succ_le_succ enough) rest
    rw [render, List.cons_append, List.append_assoc]
    refine readValue_list (fun text same => ?_) found
    -- The first item does not start with the bracket that would end the list.
    have ⟨c, head, _, _, other⟩ := opens
    obtain ⟨behind, written⟩ := List.head?_eq_some_iff.mp head
    rw [skipBlanks_opens opens, written] at same
    exact other (List.cons.inj same).1

theorem decodesBack_object {fields : List (String × Json)}
    (back : ∀ field ∈ fields, DecodesBack field.2) : DecodesBack (.object fields) := by
  refine .of_turn ⟨'\x7b', by cases fields <;> rfl, by decide⟩ fun turns rest enough ended => ?_
  cases fields with
  | nil =>
    have nothing : Value.ofJson (.object []) = .object .object [] := by
      simp [Value.ofJson, propertiesOfJson, Value.ofProperties, Property.enumerated]
    rw [nothing]
    rfl
  | cons first more =>
    obtain ⟨name, value⟩ := first
    rw [render, List.length_cons] at enough
    have found := readFields_render back (Nat.le_of_succ_le_succ enough) rest
    rw [render]
    simp only [List.cons_append, List.append_assoc]
    refine readValue_object (fun text same => ?_) found
    -- The name of the first field starts with its quote, and not with the brace of an empty object.
    rw [skipBlanks_opens (opens_quote _)] at same
    exact absurd (List.cons.inj same).1 (by decide)

theorem decodesBack_integer {value : Int} (low : Int64.minValue.toInt ≤ value)
    (high : value < UInt64.size) : DecodesBack (.number (.integer value)) := by
  have opens := Json.Reader.opens_integerText value
  refine .of_turn opens fun turns rest _ ended => ?_
  have read := readNumber_integerText low high ended
  have shown := skipBlanks_opens opens rest
  obtain ⟨c, text, written, digit⟩ : ∃ c text, integerText value = c :: text ∧
      (c = '-' ∨ '0' ≤ c ∧ c ≤ '9') := by
    unfold integerText
    rw [Nat.toList_repr]
    split
    next => exact ⟨'-', _, rfl, .inl rfl⟩
    next =>
      obtain ⟨c, text, written, digit⟩ := Digits.head value.natAbs
      exact ⟨c, text, written, .inr digit⟩
  have whole : Json.render (.number (.integer value)) = integerText value := by rw [render]; rfl
  rw [whole]
  unfold readValue
  rw [shown]
  rw [written] at read ⊢
  split
  -- None of the other first characters is a digit or a sign.
  iterate 6 next same =>
    obtain rfl := (List.cons.inj same).1
    exact absurd digit (by decide)
  next =>
    rw [read]
    rfl

theorem decodesBack_string (text : String) : DecodesBack (.string text) := by
  refine .of_turn ⟨'"', rfl, by decide⟩ fun turns rest _ _ => ?_
  have quoted : quote text.toList ++ rest =
      '"' :: (text.toList.flatMap escape ++ '"' :: rest) := by simp [quote]
  have shown : skipBlanks (quote text.toList ++ rest) = quote text.toList ++ rest :=
    skipBlanks_opens (opens_quote _) rest
  rw [render]
  unfold readValue
  rw [shown, quoted]
  simp only [readString_whole, Option.bind_eq_bind, Option.bind_some, Option.pure_def]
  rfl

/-- By induction on the value. Scripts have no bound on the depth of a text. -/
theorem decodesBack_of_exact {depth : Nat} {json : Json} (exact : Exact depth json) :
    DecodesBack json := by
  induction exact with
  | null => exact .of_turn ⟨'n', rfl, by decide⟩ fun _ _ _ _ => rfl
  | boolean truth =>
    cases truth with
    | false => exact .of_turn ⟨'f', rfl, by decide⟩ fun _ _ _ _ => rfl
    | true => exact .of_turn ⟨'t', rfl, by decide⟩ fun _ _ _ _ => rfl
  | integer low high => exact decodesBack_integer low high
  | string text => exact decodesBack_string text
  | array inner ih => exact decodesBack_array ih
  | object ordered inner ih => exact decodesBack_object ih

/-- The text of a value decodes to the value. -/
theorem decode?_render {depth : Nat} {json : Json} (exact : Exact depth json) :
    Value.decode? json.render = some (.ofJson json) := by
  have read := (decodesBack_of_exact exact).read (json.render.length + 1) [] (Nat.le_succ _)
    (by rintro c ⟨⟩)
  rw [List.append_nil] at read
  rw [Value.decode?, read]
  rfl

end ScriptSandbox.Script
