import ScriptSandbox.Json.Printer
import ScriptSandbox.Json.Reader
import ScriptSandbox.Proofs.Text.Digits
import ScriptSandbox.Proofs.Text.Utf8
import Mathlib.Tactic.SplitIfs

/-!
# Reading numbers and strings back

Where an integer of 64 bits or a quoted text was written, the reader finds it again and stops behind
it.
-/
namespace ScriptSandbox.Json.Reader

open Utf8 (encode)

variable {α β : Type}

theorem bind_ok {reader : Reader α} {next : α → Reader β} {text rest : Bytes} {found : α}
    (read : reader text = .ok (found, rest)) : (reader >>= next) text = next found rest := by
  show (reader text >>= fun (found, rest) => next found rest) = next found rest
  rw [read]
  rfl

theorem skip_eq (text : Bytes) : skip text = .ok ((), text.tail) := rfl

theorem get_eq (text : Bytes) : (get : Reader Bytes) text = .ok (text, text) := rfl

theorem set_eq (rest text : Bytes) : (set rest : Reader Unit) text = .ok ((), rest) := rfl

theorem lift_ok {step : Except Fault α} {found : α} (done : step = .ok found) (text : Bytes) :
    (liftM step : Reader α) text = .ok (found, text) := by
  rw [done]
  rfl

theorem symbol_ascii {c : Char} (ascii : c.toNat < 0x80) : symbol (UInt8.ofNat c.toNat) = c := by
  rw [symbol, Utf8.toNat_ascii ascii, Char.ofNat_toNat]

theorem look_visible {c : Char} (visible : 0x20 < c.toNat) (ascii : c.toNat < 0x80)
    (text : List Char) (rest : Bytes) :
    look (encode (c :: text) ++ rest) = .ok (some c, encode (c :: text) ++ rest) := by
  have shown : isBlank (UInt8.ofNat c.toNat) = false := by
    simp only [isBlank, ← UInt8.toNat_inj, Utf8.toNat_ascii ascii, UInt8.reduceToNat,
      Bool.or_eq_false_iff, decide_eq_false_iff_not]
    omega
  rw [Utf8.encode_cons_ascii ascii, List.cons_append]
  simp only [look, List.dropWhile_cons, shown, Bool.false_eq_true, if_false, List.head?_cons,
    Option.map_some, symbol_ascii ascii]

/-! ### Numbers -/

/-- Where a number ends inside a text: before a comma or a closing bracket, or at the end. -/
def Ended (rest : Bytes) : Prop := ∀ byte ∈ rest.head?, byte = 0x2C ∨ byte = 0x5D ∨ byte = 0x7D

theorem next?_ended {rest : Bytes} (ended : Ended rest) :
    ∃ c?, next? rest = .ok (c?, rest) ∧ ∀ c ∈ c?, c = ',' ∨ c = ']' ∨ c = '\x7d' := by
  cases rest with
  | nil => exact ⟨none, rfl, by simp⟩
  | cons byte rest =>
    refine ⟨some (symbol byte), rfl, ?_⟩
    rintro c ⟨⟩
    rcases ended byte rfl with rfl | rfl | rfl <;> decide

/-- Digits are read up to a byte that is none. -/
theorem digits_encode {text : List Char} (all : ∀ c ∈ text, '0' ≤ c ∧ c ≤ '9') {rest : Bytes}
    (stops : ∀ byte ∈ rest.head?, (0x30 ≤ byte && byte ≤ 0x39) = false) :
    digits (encode text ++ rest) = .ok (text.map (·.toNat - 48), rest) := by
  induction text with
  | nil =>
    cases rest with
    | nil => rfl
    | cons byte rest =>
      have other := stops byte rfl
      simp [digits, other]
  | cons c text ih =>
    have code := Digits.code_of_le (all c List.mem_cons_self)
    have ascii : c.toNat < 0x80 := by omega
    have value := Utf8.toNat_ascii ascii
    have digit : (0x30 ≤ UInt8.ofNat c.toNat && UInt8.ofNat c.toNat ≤ 0x39) = true := by
      simpa only [UInt8.le_iff_toNat_le, value, UInt8.reduceToNat, Bool.and_eq_true,
        decide_eq_true_eq] using code
    have later := ih fun d member => all d (List.mem_cons_of_mem _ member)
    simp only [digits, Except.ok.injEq, Prod.mk.injEq] at later
    rw [Utf8.encode_cons_ascii ascii, List.cons_append]
    simp only [digits, List.takeWhile_cons, List.dropWhile_cons, digit, if_true, List.map_cons,
      later, value]

theorem Ended.noDigit {rest : Bytes} (ended : Ended rest) :
    ∀ byte ∈ rest.head?, (0x30 ≤ byte && byte ≤ 0x39) = false := by
  intro byte first
  rcases ended byte first with rfl | rfl | rfl <;> rfl

private theorem le_foldl (ds : List Nat) (before : Nat) :
    before ≤ ds.foldl (fun value d => value * 10 + d) before := by
  induction ds generalizing before with
  | nil => exact Nat.le_refl before
  | cons d rest ih =>
    have further := ih (before * 10 + d)
    rw [List.foldl_cons]
    omega

/-- Digits are collected into the number that they write, where it fits. -/
theorem collect_eq {ds : List Nat} {before : Nat}
    (fits : ds.foldl (fun value d => value * 10 + d) before < significandBound) :
    collect before ds = (ds.foldl (fun value d => value * 10 + d) before, []) := by
  induction ds generalizing before with
  | nil => rfl
  | cons d rest ih =>
    have small : before * 10 + d < significandBound := Nat.lt_of_le_of_lt (le_foldl rest _) fits
    rw [collect, if_pos small, ih fits, List.foldl_cons]

/-- A written number has no zero before its other digits. -/
theorem toDigits_plain (n d : Nat) (more : List Nat) :
    (Nat.toDigits 10 n).map (·.toNat - 48) ≠ 0 :: d :: more := by
  intro zero
  obtain ⟨c, later, written, first, others⟩ := List.map_eq_cons_iff.mp zero
  have member : c ∈ Nat.toDigits 10 n := written ▸ List.mem_cons_self
  have code := Digits.code_of_le (Digits.le_of_mem member)
  have isZero : c = '0' := Char.toNat_inj.mp (by change c.toNat = 48; omega)
  rw [isZero] at written
  rw [Digits.eq_nil_of_zero written] at others
  exact absurd others (List.cons_ne_nil _ _).symm

/-- The digits of a number are read back as an integer, behind a sign and without one. -/
theorem number_toDigits {negative : Bool} {n : Nat} (fits : n < UInt64.size)
    (signed : negative = true → 0 < n ∧ n ≤ Int64.minValue.toInt.natAbs) {rest : Bytes}
    (ended : Ended rest) :
    number negative (encode (Nat.toDigits 10 n) ++ rest) =
      .ok (.integer (if negative then -n else n), rest) := by
  have value := Digits.foldl_toDigits n
  have whole : collect 0 ((Nat.toDigits 10 n).map (·.toNat - 48)) = (n, []) := by
    rw [collect_eq (by rw [value]; exact fits), value]
  have present : (Nat.toDigits 10 n).map (·.toNat - 48) ≠ [] := by simp
  have plain := toDigits_plain n
  obtain ⟨c?, next, other⟩ := next?_ended ended
  unfold number
  rw [bind_ok (digits_encode (fun c => Digits.le_of_mem) ended.noDigit)]
  generalize (Nat.toDigits 10 n).map (·.toNat - 48) = ds at whole present plain
  split
  -- Texts that are refused: no digits, and a zero before others.
  next => exact absurd rfl present
  next => exact absurd rfl (plain _ _)
  next =>
    rw [whole]
    dsimp only
    rw [bind_ok next]
    -- Neither a point nor the mark of an exponent follows.
    split
    next => simpa using other _ rfl
    next => simpa using other _ rfl
    next => simpa using other _ rfl
    next =>
      -- No digit is left over, so what remains is the sign.
      cases negative with
      | false => rfl
      | true =>
        obtain ⟨positive, small⟩ := signed rfl
        have kept : ¬(n = 0 ∨ Int64.minValue.toInt.natAbs < n) := by omega
        rw [if_neg (by simp), if_neg (by simp), if_neg kept]
        rfl

/-! ### Strings -/

/-- Bytes that need no escape stand for themselves. -/
theorem stringBytes_plain {bytes : Bytes}
    (plain : ∀ byte ∈ bytes, byte ≠ 0x22 ∧ byte ≠ 0x5C ∧ ¬byte < 0x20) (reversed : Bytes)
    (turns : Nat) (rest : Bytes) :
    stringBytes reversed (turns + bytes.length) (bytes ++ rest) =
      stringBytes (bytes.reverse ++ reversed) turns rest := by
  induction bytes generalizing reversed with
  | nil => rfl
  | cons byte bytes ih =>
    obtain ⟨noQuote, noBackslash, visible⟩ := plain byte List.mem_cons_self
    have others := fun other member => plain other (List.mem_cons_of_mem _ member)
    rw [List.length_cons, ← Nat.add_assoc, List.cons_append, stringBytes, if_neg noQuote,
      if_neg noBackslash, if_neg visible, ih others, List.reverse_cons, List.append_assoc]
    rfl

private theorem hexEscape_control {n : Nat} (control : n < 0x20) (rest : Bytes) :
    hexEscape (encode ['0', '0', Bytes.hexDigit (n / 16), Bytes.hexDigit (n % 16)] ++ rest) =
      .ok (n, rest) := by
  have first : n / 16 < 16 := by omega
  have second : n % 16 < 16 := by omega
  have zero : Bytes.hexValue? '0' = some 0 := by decide
  have ascii : '0'.toNat < 0x80 := by decide
  rw [Utf8.encode_cons_ascii ascii, Utf8.encode_cons_ascii ascii,
    Utf8.encode_cons_ascii (Digits.hexDigit_lt _ first),
    Utf8.encode_cons_ascii (Digits.hexDigit_lt _ second)]
  simp only [Utf8.encode_nil, List.cons_append, List.nil_append, hexEscape, List.mapM_cons,
    List.mapM_nil, symbol_ascii ascii, symbol_ascii (Digits.hexDigit_lt _ first),
    symbol_ascii (Digits.hexDigit_lt _ second), Digits.hexValue?_hexDigit _ first,
    Digits.hexValue?_hexDigit _ second, zero]
  simp
  omega

theorem escaped_control {n : Nat} (control : n < 0x20) (rest : Bytes) :
    escaped (encode ['u', '0', '0', Bytes.hexDigit (n / 16), Bytes.hexDigit (n % 16)] ++ rest) =
      .ok (Char.ofNat n, rest) := by
  have noSecondHalf : ¬(0xDC00 ≤ n ∧ n < 0xE000) := by omega
  have noFirstHalf : ¬(0xD800 ≤ n ∧ n < 0xDC00) := by omega
  have ascii : 'u'.toNat < 0x80 := by decide
  rw [Utf8.encode_cons_ascii ascii, List.cons_append]
  simp only [escaped, symbol_ascii ascii, hexEscape_control control]
  show (if 0xDC00 ≤ n ∧ n < 0xE000 then _ else if 0xD800 ≤ n ∧ n < 0xDC00 then _ else _) = _
  rw [if_neg noSecondHalf, if_neg noFirstHalf]
  rfl

/-- No byte of a character that needs no escape is a quote, a backslash or a control. -/
theorem plain_of_mem {c : Char} (noQuote : c ≠ '"') (noBackslash : c ≠ '\\')
    (visible : ¬c.toNat < 0x20) {byte : UInt8} (member : byte ∈ String.utf8EncodeChar c) :
    byte ≠ 0x22 ∧ byte ≠ 0x5C ∧ ¬byte < 0x20 := by
  -- A character of one byte is that byte, and all bytes of the others are high.
  rcases Nat.lt_or_ge c.toNat 0x80 with ascii | other
  · rw [Utf8.utf8EncodeChar_ascii ascii, List.mem_singleton] at member
    have value : byte.toNat = c.toNat := by rw [member, Utf8.toNat_ascii ascii]
    refine ⟨?_, ?_, ?_⟩
    · rintro rfl
      exact noQuote (Char.toNat_inj.mp value.symm)
    · rintro rfl
      exact noBackslash (Char.toNat_inj.mp value.symm)
    · rw [UInt8.lt_iff_toNat_lt, value]
      exact visible
  · have high := Utf8.le_of_mem_utf8EncodeChar other member
    simp only [ne_eq, ← UInt8.toNat_inj, UInt8.lt_iff_toNat_lt, UInt8.reduceToNat]
    omega

/-- A character is read back from its escape, in no more turns than the escape has bytes. -/
theorem stringBytes_escape (c : Char) : ∃ used ≤ (encode (escape c)).length,
    ∀ reversed turns rest,
      stringBytes reversed (turns + used) (encode (escape c) ++ rest) =
        stringBytes ((String.utf8EncodeChar c).reverse ++ reversed) turns rest := by
  have ascii : '\\'.toNat < 0x80 := by decide
  unfold escape
  split
  -- The two marks and the five controls with a letter of their own.
  iterate 7 exact ⟨1, by decide, fun _ _ _ => rfl⟩
  next noQuote noBackslash _ _ _ _ _ =>
    split_ifs with control
    · refine ⟨1, by rw [Utf8.encode_cons_ascii ascii]; simp, fun reversed turns rest => ?_⟩
      rw [Utf8.encode_cons_ascii ascii, List.cons_append]
      simp only [stringBytes, escaped_control control, Char.ofNat_toNat]
      rfl
    · refine ⟨(String.utf8EncodeChar c).length, by simp, fun reversed turns rest => ?_⟩
      rw [Utf8.encode_cons, Utf8.encode_nil, List.append_nil]
      have plain := @plain_of_mem c noQuote noBackslash control
      exact stringBytes_plain (fun _ => plain) reversed turns rest

theorem stringBytes_text (text : List Char) : ∃ used ≤ (encode (text.flatMap escape)).length,
    ∀ reversed turns rest,
      stringBytes reversed (turns + used) (encode (text.flatMap escape) ++ rest) =
        stringBytes ((encode text).reverse ++ reversed) turns rest := by
  induction text with
  | nil => exact ⟨0, Nat.zero_le _, fun _ _ _ => rfl⟩
  | cons c text ih =>
    obtain ⟨first, firstFits, atFirst⟩ := stringBytes_escape c
    obtain ⟨later, laterFits, atLater⟩ := ih
    refine ⟨later + first, ?_, fun reversed turns rest => ?_⟩
    · rw [List.flatMap_cons, Utf8.encode_append, List.length_append]
      omega
    · rw [List.flatMap_cons, Utf8.encode_append, List.append_assoc, ← Nat.add_assoc, atFirst,
        atLater, Utf8.encode_cons, List.reverse_append, List.append_assoc]

theorem encode_quote (text : List Char) (rest : Bytes) :
    encode (quote text) ++ rest = 0x22 :: (encode (text.flatMap escape) ++ 0x22 :: rest) := by
  rw [quote, Utf8.encode_cons_ascii (by decide), Utf8.encode_append, List.cons_append,
    List.append_assoc]
  rfl

/-- A quoted text is read back. -/
theorem string_quote {text : List Char} {steps : Nat}
    (enough : (encode (quote text)).length ≤ steps) (rest : Bytes) :
    string steps (encode (quote text) ++ rest) = .ok (String.ofList text, rest) := by
  obtain ⟨used, fits, read⟩ := stringBytes_text text
  have bytes : stringBytes [] (steps + 1) (encode (text.flatMap escape) ++ 0x22 :: rest) =
      .ok ((encode text).reverse, rest) := by
    have long := congrArg List.length (encode_quote text [])
    simp only [List.append_nil, List.length_cons, List.length_append] at long
    -- One turn is left for the closing quote.
    obtain ⟨more, left⟩ : ∃ more, steps + 1 = more + 1 + used := ⟨steps - used, by omega⟩
    rw [left, read, List.append_nil]
    rfl
  have decoded : Utf8.decode? (encode text).reverse.reverse = some text := by simp
  unfold string
  rw [encode_quote, bind_ok (skip_eq _), List.tail_cons, bind_ok (get_eq _),
    bind_ok (lift_ok bytes _)]
  dsimp only
  rw [bind_ok (set_eq _ _), decoded]
  rfl

/-! ### Values that hold no others -/

/-- A text starts as values do: with no blank, and not with the end of a list. -/
def Opens (text : List Char) : Prop :=
  ∃ c ∈ text.head?, 0x20 < c.toNat ∧ c.toNat < 0x80 ∧ c ≠ ']'

theorem opens_integerText (value : Int) : Opens (integerText value) := by
  unfold integerText
  split
  next => exact ⟨'-', rfl, by decide⟩
  next =>
    obtain ⟨c, text, written, digit⟩ := Digits.head value.natAbs
    have code := Digits.code_of_le digit
    refine ⟨c, by rw [Nat.toList_repr, written]; rfl, by omega, by omega, ?_⟩
    rintro rfl
    exact absurd digit (by decide)

/-- A value that starts with a digit is a number. -/
theorem scalarOr_digit {c : Char} (digit : '0' ≤ c ∧ c ≤ '9') (text : List Char) (steps : Nat)
    (container : Char → Reader Json) (rest : Bytes) :
    scalarOr steps container (encode (c :: text) ++ rest) =
      (do return .number (← number false) : Reader Json) (encode (c :: text) ++ rest) := by
  have code := Digits.code_of_le digit
  rw [scalarOr, bind_ok (look_visible (by omega) (by omega) text rest)]
  generalize first : some c = c?
  split
  next => exact absurd first (by simp)
  -- None of the other first characters is a digit.
  iterate 5 next => obtain rfl := Option.some.inj first; exact absurd digit (by decide)
  next =>
    obtain rfl := Option.some.inj first
    have noBracket : ¬(c = '[' ∨ c = '\x7b') := by
      rintro (rfl | rfl) <;> exact absurd digit (by decide)
    rw [if_neg noBracket, if_pos digit]

/-- An integer of 64 bits is written as digits, behind a sign where it is negative, and the digits
are read back with the sign that stood before them. -/
theorem number_integerText {value : Int} (low : Int64.minValue.toInt ≤ value)
    (high : value < UInt64.size) {rest : Bytes} (ended : Ended rest) :
    (∃ digits, integerText value = '-' :: digits ∧
        number true (encode digits ++ rest) = .ok (.integer value, rest)) ∨
      ∃ c text, integerText value = c :: text ∧ ('0' ≤ c ∧ c ≤ '9') ∧
        number false (encode (c :: text) ++ rest) = .ok (.integer value, rest) := by
  have least : Int64.minValue.toInt = -9223372036854775808 := rfl
  have size : UInt64.size = 18446744073709551616 := rfl
  unfold integerText
  rw [Nat.toList_repr]
  split
  next below =>
    have digits : number true (encode (Nat.toDigits 10 value.natAbs) ++ rest) =
        .ok (.integer (-(value.natAbs : Int)), rest) :=
      number_toDigits (by omega) (fun _ => by omega) ended
    have negated : -(value.natAbs : Int) = value := by omega
    rw [negated] at digits
    exact .inl ⟨_, rfl, digits⟩
  next above =>
    have digits : number false (encode (Nat.toDigits 10 value.natAbs) ++ rest) =
        .ok (.integer value.natAbs, rest) :=
      number_toDigits (by omega) (by simp) ended
    have same : (value.natAbs : Int) = value := by omega
    obtain ⟨c, text, written, digit⟩ := Digits.head value.natAbs
    rw [written, same] at digits
    exact .inr ⟨c, text, written, digit, digits⟩

theorem scalarOr_integer {value : Int} (low : Int64.minValue.toInt ≤ value)
    (high : value < UInt64.size) (steps : Nat) (container : Char → Reader Json) {rest : Bytes}
    (ended : Ended rest) :
    scalarOr steps container (encode (integerText value) ++ rest) =
      .ok (.number (.integer value), rest) := by
  rcases number_integerText low high ended with ⟨digits, written, read⟩ | ⟨c, text, written, digit, read⟩
  · have branch : scalarOr steps container (encode ('-' :: digits) ++ rest) =
        (do return .number (← number true) : Reader Json) (encode digits ++ rest) := rfl
    rw [written, branch, bind_ok read]
    rfl
  · rw [written, scalarOr_digit digit, bind_ok read]
    rfl

theorem scalarOr_string {steps : Nat} {text : List Char}
    (enough : (encode (quote text)).length ≤ steps) (container : Char → Reader Json)
    (rest : Bytes) :
    scalarOr steps container (encode (quote text) ++ rest) =
      .ok (.string (String.ofList text), rest) := by
  have branch : scalarOr steps container (encode (quote text) ++ rest) =
      (do return .string (← string steps) : Reader Json) (encode (quote text) ++ rest) := rfl
  rw [branch, bind_ok (string_quote enough rest)]
  rfl

end ScriptSandbox.Json.Reader
