import ScriptSandbox.Proofs.Decimal.Numerals
import Mathlib.Tactic.Ring

/-!
# Integers as scripts write them

Up to 2⁵³ the doubles lie at most one apart, so of the integers only the number itself lies in the
interval of those that read back. The shortest decimal of such a number is the number, and scripts
write it out.
-/
namespace ScriptSandbox.Decimal

open Binary64 (one spacing)

/-! ### Zeros at the end of a number -/

theorem toDigits_mul_ten {n : Nat} (positive : 0 < n) :
    Nat.toDigits 10 (n * 10) = Nat.toDigits 10 n ++ ['0'] := by
  have appended := Nat.toDigits_append_toDigits (b := 10) (n := n) (d := 0) (by decide) positive
    (by decide)
  rw [show n * 10 = 10 * n + 0 by omega, ← appended]
  rfl

theorem toDigits_mul_pow {n : Nat} (positive : 0 < n) (count : Nat) :
    Nat.toDigits 10 (n * 10 ^ count) = Nat.toDigits 10 n ++ List.replicate count '0' := by
  induction count with
  | zero => simp
  | succ count ih =>
    have shifted : n * 10 ^ (count + 1) = n * 10 ^ count * 10 := by ring
    rw [shifted, toDigits_mul_ten (Nat.mul_pos positive (Nat.pow_pos (by decide))), ih,
      List.append_assoc, ← List.replicate_succ']

theorem toList_repr_mul_pow {n : Nat} (positive : 0 < n) (count : Nat) :
    (Nat.repr (n * 10 ^ count)).toList = (Nat.repr n).toList ++ List.replicate count '0' := by
  rw [Nat.toList_repr, Nat.toList_repr, toDigits_mul_pow positive]

/-! ### The interval of an integer -/

theorem log2_mul_lt {n : Nat} (positive : 0 < n) (small : n < 2 ^ 53) (places : Nat) :
    (n * Nat.pow 2 places).log2 < 53 + places := by
  have power : 0 < Nat.pow 2 places := Nat.pow_pos (by decide)
  rw [Nat.log2_lt (Nat.mul_pos positive power).ne', Nat.pow_add]
  exact Nat.mul_lt_mul_of_pos_right small power

/-- The power is kept from being computed. -/
private theorem one_shape : ∃ places, one = Nat.pow 2 places ∧ places = 1074 := by
  refine ⟨1074, ?_, rfl⟩
  delta one
  exact Eq.refl _

theorem one_pos : 0 < one := by
  obtain ⟨places, shape, _⟩ := one_shape
  rw [shape]
  exact Nat.pow_pos (by decide)

theorem spacing_pos (units : Nat) : 0 < spacing units := Nat.pow_pos (by decide)

/-! ### Neighbours -/

theorem Interval.holds_of_choose? {range : Interval} {units : Nat} {first second d : Digits}
    (found : range.choose? units first second = some d) :
    range.holds d = true ∧ (d = first ∨ d = second) := by
  unfold Interval.choose? at found
  split at found
  next inFirst inSecond =>
    have taken : d = first ∨ d = second := by
      dsimp only at found
      split at found
      · exact .inl (Option.some.inj found).symm
      · split at found
        · exact .inr (Option.some.inj found).symm
        · split at found
          · exact .inl (Option.some.inj found).symm
          · exact .inr (Option.some.inj found).symm
    rcases taken with rfl | rfl
    · exact ⟨inFirst, .inl rfl⟩
    · exact ⟨inSecond, .inr rfl⟩
  next inFirst _ =>
    obtain rfl := Option.some.inj found
    exact ⟨inFirst, .inl rfl⟩
  next _ inSecond =>
    obtain rfl := Option.some.inj found
    exact ⟨inSecond, .inr rfl⟩
  next => cases found

theorem Interval.isSome_choose? {range : Interval} {first : Digits} (holds : range.holds first = true)
    (units : Nat) (second : Digits) : (range.choose? units first second).isSome = true := by
  unfold Interval.choose?
  rw [holds]
  cases range.holds second with
  | false => rfl
  | true =>
    dsimp only
    split
    · rfl
    · split
      · rfl
      · split <;> rfl

theorem holds_of_ofLength? {units length : Nat} {d : Digits}
    (found : ofLength? units length = some d) :
    (interval units).holds d = true ∧ d.exponent = leadingExponent units - length + 1 := by
  obtain ⟨holds, taken⟩ := Interval.holds_of_choose? found
  refine ⟨holds, ?_⟩
  rcases taken with rfl | rfl <;> rfl

/-! ### Zeros at the end of a decimal -/

theorem Digits.stripped_eq {d : Digits} (whole : 0 ≤ d.exponent) (turns : Nat) :
    0 ≤ (d.stripped turns).exponent ∧
      (d.stripped turns).digits * 10 ^ (d.stripped turns).exponent.toNat =
        d.digits * 10 ^ d.exponent.toNat := by
  induction turns generalizing d with
  | zero => exact ⟨whole, rfl⟩
  | succ turns ih =>
    rw [Digits.stripped]
    split
    next zero =>
      -- A zero that is taken off the digits is added to the exponent.
      have further : 0 ≤ d.exponent + 1 := by omega
      obtain ⟨positive, value⟩ := ih (d := ⟨d.digits / 10, d.exponent + 1⟩) further
      refine ⟨positive, value.trans ?_⟩
      have more : (d.exponent + 1).toNat = d.exponent.toNat + 1 := by omega
      have split : d.digits / 10 * 10 = d.digits := by omega
      dsimp only
      rw [more, Nat.pow_succ, Nat.mul_comm (10 ^ _), ← Nat.mul_assoc, split]
    next => exact ⟨whole, rfl⟩

theorem Digits.natural {d : Digits} (whole : 0 ≤ d.exponent) {n : Nat} (positive : 0 < n)
    (value : d.digits * 10 ^ d.exponent.toNat = n) : ∃ digits exponent : Nat,
      d = ⟨digits, exponent⟩ ∧ 0 < digits ∧ digits * 10 ^ exponent = n := by
  refine ⟨d.digits, d.exponent.toNat, ?_, ?_, value⟩
  · rw [Int.toNat_of_nonneg whole]
  · by_contra zero
    rw [Nat.eq_zero_of_not_pos zero, Nat.zero_mul] at value
    omega

/-- The shortest decimal is one of the least length that has any. -/
theorem shortest_of_isSome {units length : Nat} (positive : 0 < length) (short : length ≤ 17)
    (found : (ofLength? units length).isSome = true) :
    ∃ less d, less ≤ length ∧ ofLength? units less = some d ∧ shortest units = d.stripped 17 := by
  have split : List.range 17 =
      List.range length ++ (List.range (17 - length)).map (length + ·) := by
    rw [← List.range_add, Nat.add_sub_cancel' short]
  have start : ((List.range length).findSome? fun n => ofLength? units (n + 1)).isSome = true := by
    rw [List.findSome?_isSome_iff]
    refine ⟨length - 1, List.mem_range.mpr (by omega), ?_⟩
    rw [Nat.sub_add_cancel positive]
    exact found
  obtain ⟨d, first⟩ := Option.isSome_iff_exists.mp start
  obtain ⟨less, member, holds⟩ := List.exists_of_findSome?_eq_some first
  refine ⟨less + 1, d, List.mem_range.mp member, holds, ?_⟩
  -- A decimal of one of these lengths is found before the longer ones are tried.
  rw [shortest, split, List.findSome?_append, first]
  rfl

theorem length_repr_le {n : Nat} (small : n < 2 ^ 53) : (Nat.repr n).length ≤ 16 := by
  rw [Nat.length_repr_le_iff (by decide)]
  omega

section Integer

variable {n : Nat} (positive : 0 < n) (small : n < 2 ^ 53)

include positive small

/-- The doubles around an integer of this size lie one apart at most. -/
theorem spacing_le : spacing (n * one) ≤ one := by
  obtain ⟨places, shape, value⟩ := one_shape
  rw [shape]
  have size := log2_mul_lt positive small places
  exact Nat.pow_le_pow_right (by decide) (by omega)

theorem interval_near :
    4 * (n * one) ≤ (interval (n * one)).low + 2 * one ∧
      (interval (n * one)).low ≤ 4 * (n * one) ∧
      4 * (n * one) ≤ (interval (n * one)).high ∧
      (interval (n * one)).high ≤ 4 * (n * one) + 2 * one := by
  have space := spacing_le positive small
  unfold interval
  dsimp only
  refine ⟨?_, Nat.sub_le _ _, Nat.le_add_right _ _, ?_⟩
  · split <;> omega
  · omega

/-- An integer that reads back is the number itself. -/
theorem eq_of_holds {d : Digits} (whole : 0 ≤ d.exponent)
    (holds : (interval (n * one)).holds d = true) : d.digits * 10 ^ d.exponent.toNat = n := by
  obtain ⟨low, lowBelow, highAbove, high⟩ := interval_near positive small
  have unit := one_pos
  unfold Interval.holds at holds
  rw [Digits.quarters, if_pos whole] at holds
  simp only [Nat.mul_one, Bool.or_eq_true, Bool.and_eq_true, decide_eq_true_eq] at holds
  have value : d.digits * Nat.pow 10 d.exponent.toNat * (4 * one) =
      4 * (d.digits * 10 ^ d.exponent.toNat * one) := by
    show d.digits * 10 ^ d.exponent.toNat * (4 * one) = _
    ring
  rw [value] at holds
  generalize d.digits * 10 ^ d.exponent.toNat = m at *
  have within : (interval (n * one)).low ≤ 4 * (m * one) ∧
      4 * (m * one) ≤ (interval (n * one)).high := by
    rcases holds with ⟨above, below⟩ | ⟨_, same | same⟩ <;> omega
  -- Two integers whose distance is at most one half are the same.
  rcases Nat.lt_trichotomy m n with less | same | more
  · have apart : m * one + one ≤ n * one := by
      rw [← Nat.succ_mul]
      exact Nat.mul_le_mul_right one less
    omega
  · exact same
  · have apart : n * one + one ≤ m * one := by
      rw [← Nat.succ_mul]
      exact Nat.mul_le_mul_right one more
    omega

omit small in
theorem leadingExponent_eq :
    leadingExponent (n * one) = ((Nat.repr n).length : Int) - 1 := by
  have whole (places : Nat) : n * one * Nat.pow 10 places / one = n * Nat.pow 10 places := by
    rw [Nat.mul_right_comm, Nat.mul_div_cancel _ one_pos]
  have length (places : Nat) :
      (Nat.repr (n * Nat.pow 10 places)).length = (Nat.repr n).length + places := by
    have written := congrArg List.length (toList_repr_mul_pow positive places)
    rw [List.length_append, List.length_replicate] at written
    exact written
  obtain ⟨places, same⟩ : ∃ places, places = 340 := ⟨_, rfl⟩
  unfold leadingExponent
  rw [← same, whole, length]
  omega

/-- A decimal of an integer that has no more digits than it has is the integer. -/
theorem eq_of_ofLength? {length : Nat} {d : Digits} (short : length ≤ (Nat.repr n).length)
    (found : ofLength? (n * one) length = some d) :
    0 ≤ d.exponent ∧ d.digits * 10 ^ d.exponent.toNat = n := by
  obtain ⟨holds, exponent⟩ := holds_of_ofLength? found
  rw [leadingExponent_eq positive] at exponent
  have whole : 0 ≤ d.exponent := by omega
  exact ⟨whole, eq_of_holds positive small whole holds⟩

omit small in
theorem holds_integer : (interval (n * one)).holds ⟨n, 0⟩ = true := by
  have unit : 0 < n * one := Nat.mul_pos positive one_pos
  have space := spacing_pos (n * one)
  have value : Digits.quarters ⟨n, 0⟩ = (n * Nat.pow 10 0 * (4 * one), 1) := rfl
  have exact : n * Nat.pow 10 0 * (4 * one) = 4 * (n * one) := by
    show n * 1 * (4 * one) = _
    ring
  unfold Interval.holds
  rw [value, exact]
  simp only [Nat.mul_one, Bool.or_eq_true, Bool.and_eq_true, decide_eq_true_eq]
  refine .inl ⟨?_, ?_⟩
  · unfold interval
    dsimp only
    split <;> omega
  · unfold interval
    dsimp only
    omega

omit small in
/-- With all its digits, an integer reads back. -/
theorem isSome_ofLength? : (ofLength? (n * one) (Nat.repr n).length).isSome = true := by
  have exponent : leadingExponent (n * one) - ((Nat.repr n).length : Int) + 1 = 0 := by
    rw [leadingExponent_eq positive]
    omega
  have below : n * one / (one * Nat.pow 10 (0 : Int).toNat) = n := by
    have power : Nat.pow 10 (0 : Int).toNat = 1 := rfl
    rw [power, Nat.mul_one, Nat.mul_div_cancel _ one_pos]
  have holds := holds_integer positive
  unfold ofLength?
  dsimp only
  rw [exponent, if_pos (Int.le_refl 0), below]
  exact Interval.isSome_choose? holds _ _

/-- The shortest decimal of an integer is the integer, less the zeros at its end. -/
theorem shortest_integer : ∃ digits exponent : Nat,
    shortest (n * one) = ⟨digits, exponent⟩ ∧ 0 < digits ∧ digits * 10 ^ exponent = n := by
  have length := length_repr_le small
  have some : 0 < (Nat.repr n).length := Nat.length_repr_pos
  obtain ⟨less, d, short, found, shape⟩ :=
    shortest_of_isSome some (by omega) (isSome_ofLength? positive)
  obtain ⟨whole, value⟩ := eq_of_ofLength? positive small short found
  obtain ⟨whole', value'⟩ := Digits.stripped_eq whole 17
  rw [shape]
  exact Digits.natural whole' positive (value'.trans value)

end Integer

/-! ### Layout -/

/-- Digits whose exponent is none below zero are written with zeros behind them. -/
theorem positional_whole {digits exponent : Nat} (positive : 0 < digits) :
    positional false (Nat.repr digits).toList (exponent + (Nat.repr digits).toList.length - 1) =
      (Nat.repr (digits * 10 ^ exponent)).toList := by
  have some : 0 < (Nat.repr digits).toList.length := Nat.length_repr_pos
  rw [toList_repr_mul_pow positive]
  unfold positional
  rw [if_neg (by omega)]
  dsimp only
  rw [if_pos (by omega), if_neg (by decide), List.append_nil]
  congr 2
  omega

/-- Scripts write out an integer below 2⁵³ as a JSON text does, and zero without a sign. -/
theorem Layout.script_integer (negative : Bool) {n : Nat} (small : n < 2 ^ 53) :
    Layout.script.render (.finite negative (n * one)) =
      Json.integerText (if negative then -(n : Int) else n) := by
  rcases Nat.eq_zero_or_pos n with rfl | positive
  · rw [Nat.zero_mul]
    cases negative <;> rfl
  have units : n * one ≠ 0 := (Nat.mul_pos positive one_pos).ne'
  obtain ⟨digits, exponent, shape, nonzero, value⟩ := shortest_integer positive small
  have some : 0 < (Nat.repr digits).toList.length := Nat.length_repr_pos
  have fits : (Nat.repr digits).toList.length + exponent ≤ 16 := by
    have long : (Nat.repr n).toList.length ≤ 16 := length_repr_le small
    rw [← value, toList_repr_mul_pow nonzero, List.length_append, List.length_replicate] at long
    exact long
  -- With sixteen digits at most, the number is not so large that scripts would use an exponent.
  have leading : Layout.script.leastPositional ≤
      exponent + (Nat.repr digits).toList.length - 1 ∧
      exponent + (Nat.repr digits).toList.length - 1 ≤ Layout.script.greatestPositional := by
    simp only [Layout.script]
    omega
  have place : positional Layout.script.keepsPoint _ _ = _ :=
    @positional_whole digits exponent nonzero
  unfold Layout.render
  dsimp only
  rw [if_neg units, shape, if_pos leading, place, value]
  unfold Json.integerText
  cases negative with
  | true => simp [positive]
  | false => simp

end ScriptSandbox.Decimal
