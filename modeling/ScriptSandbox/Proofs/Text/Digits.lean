import ScriptSandbox.Text.Ascii

/-!
# Digits of written numbers

What a reader meets where a number was written: decimal digits with no zero before them, whose value
is the number, or two hexadecimal digits.
-/
namespace ScriptSandbox.Digits

variable {n : Nat} {c : Char} {rest : List Char}

theorem le_of_mem (member : c ∈ Nat.toDigits 10 n) : '0' ≤ c ∧ c ≤ '9' := by
  have digit := Nat.isDigit_of_mem_toDigits (by decide) (by decide) member
  simpa [Char.isDigit, Char.le_def] using digit

theorem code_of_le (digit : '0' ≤ c ∧ c ≤ '9') : 48 ≤ c.toNat ∧ c.toNat ≤ 57 := by
  simpa [Char.le_def, UInt32.le_iff_toNat_le] using digit

theorem isDigit_of_mem (member : c ∈ Nat.toDigits 10 n) : Ascii.isDigit c = true := by
  simpa [Ascii.isDigit] using le_of_mem member

/-- A number is written with one digit at least. -/
theorem head (n : Nat) : ∃ c rest, Nat.toDigits 10 n = c :: rest ∧ '0' ≤ c ∧ c ≤ '9' := by
  cases written : Nat.toDigits 10 n with
  | nil => exact absurd written Nat.toDigits_ne_nil
  | cons c rest => exact ⟨c, rest, rfl, le_of_mem (written ▸ List.mem_cons_self)⟩

private theorem head_ne_zero (positive : 0 < n) : Nat.toDigits 10 n ≠ '0' :: rest := by
  induction n using Nat.strongRecOn generalizing rest with
  | ind n ih =>
    rcases Nat.lt_or_ge n 10 with small | large
    · rw [Nat.toDigits_of_lt_base small]
      intro zero
      have digit : Nat.digitChar n = '0' := (List.cons.inj zero).1
      have value := Nat.toNat_digitChar_sub_48_of_lt_ten small
      rw [digit] at value
      exact absurd value (by simpa using Nat.ne_of_lt positive)
    · rw [Nat.toDigits_of_base_le (by decide) large]
      intro zero
      -- The first digit is that of the number without its last digit.
      cases front : Nat.toDigits 10 (n / 10) with
      | nil => exact Nat.toDigits_ne_nil front
      | cons d more =>
        rw [front, List.cons_append, List.cons.injEq] at zero
        rw [zero.1] at front
        exact ih (n / 10) (by omega) (by omega) front

/-- A zero is the first digit of zero alone. -/
theorem eq_nil_of_zero (zero : Nat.toDigits 10 n = '0' :: rest) : rest = [] := by
  rcases Nat.eq_zero_or_pos n with rfl | positive
  · exact (List.cons.inj zero).2.symm
  · exact absurd zero (head_ne_zero positive)

/-- Decimal digits have the value of the number that was written. -/
theorem foldl_toDigits (n : Nat) :
    ((Nat.toDigits 10 n).map (·.toNat - 48)).foldl (fun value d => value * 10 + d) 0 = n := by
  have value : Nat.ofDigitChars 10 (Nat.toDigits 10 n) 0 = n := Nat.ofDigitChars_ten_toDigits
  have zero : '0'.toNat = 48 := rfl
  simpa only [Nat.ofDigitChars_eq_foldl, List.foldl_map, Nat.mul_comm, zero] using value

theorem hexDigit_lt : ∀ n < 16, (Bytes.hexDigit n).toNat < 0x80 := by decide

theorem hexValue?_hexDigit : ∀ n < 16, Bytes.hexValue? (Bytes.hexDigit n) = some n := by decide

end ScriptSandbox.Digits
