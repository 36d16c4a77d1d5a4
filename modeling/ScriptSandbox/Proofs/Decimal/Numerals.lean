import ScriptSandbox.Json.Printer
import ScriptSandbox.Proofs.Text.Digits

/-!
# How numbers are written

Every layout writes a finite number as a sign, an integral part, a fraction and an exponent, of
which only the integral part is always there.
-/
namespace ScriptSandbox.Decimal

/-- Decimal digits, one at least. -/
structure AllDigits (text : List Char) : Prop where
  present : text ≠ []
  digit : ∀ c ∈ text, '0' ≤ c ∧ c ≤ '9'

inductive Fraction : List Char → Prop where
  | none : Fraction []
  | some {digits : List Char} (all : AllDigits digits) : Fraction ('.' :: digits)

inductive Power : List Char → Prop where
  | none : Power []
  | some {sign : Char} {digits : List Char} (signed : sign = '+' ∨ sign = '-')
      (all : AllDigits digits) : Power ('e' :: sign :: digits)

/-- A written number behind its sign. -/
inductive Unsigned : List Char → Prop where
  | of {whole fraction power : List Char} (all : AllDigits whole) (fractional : Fraction fraction)
      (scaled : Power power) : Unsigned (whole ++ (fraction ++ power))

inductive Numeral : List Char → Prop where
  | positive {text : List Char} (unsigned : Unsigned text) : Numeral text
  | negative {text : List Char} (unsigned : Unsigned text) : Numeral ('-' :: text)

/-- The characters of a written number. -/
def InNumeral (c : Char) : Prop := ('0' ≤ c ∧ c ≤ '9') ∨ c ∈ ['.', 'e', '+', '-']

/-! ### Characters -/

theorem AllDigits.append {first second : List Char} (all : AllDigits first)
    (digit : ∀ c ∈ second, '0' ≤ c ∧ c ≤ '9') : AllDigits (first ++ second) :=
  ⟨by simp [all.present], List.forall_mem_append.mpr ⟨all.digit, digit⟩⟩

theorem AllDigits.toDigits (n : Nat) : AllDigits (Nat.toDigits 10 n) :=
  ⟨Nat.toDigits_ne_nil, fun _ => Digits.le_of_mem⟩

theorem AllDigits.zero : AllDigits ['0'] := AllDigits.toDigits 0

theorem AllDigits.inNumeral {text : List Char} (all : AllDigits text) : ∀ c ∈ text, InNumeral c :=
  fun c member => .inl (all.digit c member)

theorem Unsigned.inNumeral {text : List Char} (unsigned : Unsigned text) :
    ∀ c ∈ text, InNumeral c := by
  obtain ⟨all, fractional, scaled⟩ := unsigned
  rw [List.forall_mem_append, List.forall_mem_append]
  refine ⟨all.inNumeral, ?_, ?_⟩
  · cases fractional with
    | none => simp
    | some all => exact List.forall_mem_cons.mpr ⟨.inr (by simp), all.inNumeral⟩
  · cases scaled with
    | none => simp
    | some signed all =>
      refine List.forall_mem_cons.mpr ⟨.inr (by simp), List.forall_mem_cons.mpr ⟨?_, all.inNumeral⟩⟩
      rcases signed with rfl | rfl <;> exact .inr (by simp)

theorem Numeral.inNumeral {text : List Char} (numeral : Numeral text) : ∀ c ∈ text, InNumeral c := by
  cases numeral with
  | positive unsigned => exact unsigned.inNumeral
  | negative unsigned => exact List.forall_mem_cons.mpr ⟨.inr (by simp), unsigned.inNumeral⟩

theorem Unsigned.head {text : List Char} (unsigned : Unsigned text) :
    ∃ c rest, text = c :: rest ∧ '0' ≤ c ∧ c ≤ '9' := by
  obtain @⟨whole, fraction, power, all, _, _⟩ := unsigned
  obtain ⟨c, rest, rfl⟩ := List.exists_cons_of_ne_nil all.present
  exact ⟨c, _, rfl, all.digit c List.mem_cons_self⟩

/-! ### Layouts -/

private theorem zeros (count : Nat) : ∀ c ∈ List.replicate count '0', '0' ≤ c ∧ c ≤ '9' := by
  intro c member
  obtain rfl := List.eq_of_mem_replicate member
  decide

theorem Unsigned.positional {digits : List Char} (all : AllDigits digits) (point : Bool)
    (leading : Int) : Unsigned (positional point digits leading) := by
  unfold Decimal.positional
  -- The point may stand before all digits, behind all of them, or between two.
  split
  next =>
    have fraction : AllDigits (List.replicate (-leading - 1).toNat '0' ++ digits) :=
      ⟨by simp [all.present], List.forall_mem_append.mpr ⟨zeros _, all.digit⟩⟩
    simpa using Unsigned.of .zero (.some fraction) .none
  next =>
    dsimp only
    split
    next =>
      have whole := all.append (zeros (leading.toNat + 1 - digits.length))
      cases point with
      | true => exact Unsigned.of whole (.some .zero) .none
      | false => exact Unsigned.of whole .none .none
    next long =>
      have whole : AllDigits (digits.take (leading.toNat + 1)) := by
        refine ⟨?_, fun c member => all.digit c (List.mem_of_mem_take member)⟩
        simp [all.present]
      have fraction : AllDigits (digits.drop (leading.toNat + 1)) := by
        refine ⟨?_, fun c member => all.digit c (List.mem_of_mem_drop member)⟩
        simp only [ne_eq, List.drop_eq_nil_iff]
        omega
      simpa using Unsigned.of whole (.some fraction) .none

theorem Unsigned.scientific {digits : List Char} (all : AllDigits digits) (leading : Int) :
    Unsigned (scientific digits leading) := by
  have sign : (if leading < 0 then '-' else '+') = '+' ∨ (if leading < 0 then '-' else '+') = '-' := by
    split <;> simp
  have power : Power ('e' :: (if leading < 0 then '-' else '+') ::
      (Nat.repr leading.natAbs).toList) := by
    rw [Nat.toList_repr]
    exact .some sign (.toDigits _)
  unfold Decimal.scientific
  match digits, all with
  | [], all => exact absurd rfl all.present
  | [d], all => exact Unsigned.of all .none power
  | d :: e :: more, all =>
    have first : AllDigits [d] := ⟨by simp, by simpa using all.digit d⟩
    have others : AllDigits (e :: more) :=
      ⟨by simp, fun c member => all.digit c (List.mem_cons_of_mem _ member)⟩
    simpa using Unsigned.of first (.some others) power

theorem Numeral.signed {text : List Char} (unsigned : Unsigned text) (negative : Bool) :
    Numeral ((if negative then ['-'] else []) ++ text) := by
  cases negative with
  | true => exact .negative unsigned
  | false => exact .positive unsigned

theorem Layout.numeral_finite (layout : Layout) (negative : Bool) (units : Nat) :
    Numeral (layout.render (.finite negative units)) := by
  unfold Layout.render
  dsimp only
  split
  next => exact .signed (.positional .zero _ _) _
  next =>
    rw [Nat.toList_repr]
    refine .signed ?_ _
    split
    next => exact .positional (.toDigits _) _ _
    next => exact .scientific (.toDigits _) _

theorem numeral_integerText (value : Int) : Numeral (Json.integerText value) := by
  have digits : Unsigned (Nat.repr value.natAbs).toList := by
    rw [Nat.toList_repr]
    simpa using Unsigned.of (.toDigits value.natAbs) .none .none
  unfold Json.integerText
  split
  next => exact .negative digits
  next => exact .positive digits

end ScriptSandbox.Decimal
