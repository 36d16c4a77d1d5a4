import ScriptSandbox.Text.Units

/-!
# Texts in UTF-16 units

The units of a text are read back as its characters: none of them is a surrogate that stands alone.
-/
namespace ScriptSandbox.Units

/-- A character below 2¹⁶ is one unit, which is no surrogate. -/
theorem single_ofNat {c : Char} (small : c.toNat < 0x10000) :
    isHigh (UInt16.ofNat c.toNat) = false ∧
      pieces.single (UInt16.ofNat c.toNat) = .inr c := by
  have value : (UInt16.ofNat c.toNat).toNat = c.toNat := UInt16.toNat_ofNat_of_lt small
  have plain : c.toNat < 0xD800 ∨ 0xE000 ≤ c.toNat := by
    rcases c.valid with below | above
    · exact .inl below
    · exact .inr (Nat.succ_le_of_lt above.1)
  have noHigh : isHigh (UInt16.ofNat c.toNat) = false := by
    simp only [isHigh, Bool.and_eq_false_iff, decide_eq_false_iff_not, UInt16.le_iff_toNat_le,
      UInt16.lt_iff_toNat_lt, value, UInt16.reduceToNat]
    omega
  have noLow : isLow (UInt16.ofNat c.toNat) = false := by
    simp only [isLow, Bool.and_eq_false_iff, decide_eq_false_iff_not, UInt16.le_iff_toNat_le,
      UInt16.lt_iff_toNat_lt, value, UInt16.reduceToNat]
    omega
  refine ⟨noHigh, ?_⟩
  rw [pieces.single, noHigh, noLow, value, Char.ofNat_toNat]
  rfl

/-- Any other character is a pair of surrogates. -/
theorem pair_ofNat {c : Char} (large : 0x10000 ≤ c.toNat) :
    isHigh (UInt16.ofNat (0xD800 + (c.toNat - 0x10000) / 1024)) = true ∧
      isLow (UInt16.ofNat (0xDC00 + (c.toNat - 0x10000) % 1024)) = true ∧
      pair (UInt16.ofNat (0xD800 + (c.toNat - 0x10000) / 1024))
        (UInt16.ofNat (0xDC00 + (c.toNat - 0x10000) % 1024)) = c := by
  have bound : c.toNat < 0x110000 := by
    rcases c.valid with below | above
    · exact Nat.lt_trans below (by decide)
    · exact above.2
  have high : (UInt16.ofNat (0xD800 + (c.toNat - 0x10000) / 1024)).toNat =
      0xD800 + (c.toNat - 0x10000) / 1024 := UInt16.toNat_ofNat_of_lt (by
    have size : UInt16.size = 65536 := rfl
    omega)
  have low : (UInt16.ofNat (0xDC00 + (c.toNat - 0x10000) % 1024)).toNat =
      0xDC00 + (c.toNat - 0x10000) % 1024 := UInt16.toNat_ofNat_of_lt (by
    have size : UInt16.size = 65536 := rfl
    omega)
  refine ⟨?_, ?_, ?_⟩
  · simp only [isHigh, Bool.and_eq_true, decide_eq_true_eq, UInt16.le_iff_toNat_le,
      UInt16.lt_iff_toNat_lt, high, UInt16.reduceToNat]
    omega
  · simp only [isLow, Bool.and_eq_true, decide_eq_true_eq, UInt16.le_iff_toNat_le,
      UInt16.lt_iff_toNat_lt, low, UInt16.reduceToNat]
    omega
  · have whole : 0x10000 + (0xD800 + (c.toNat - 0x10000) / 1024 - 0xD800) * 1024 +
        (0xDC00 + (c.toNat - 0x10000) % 1024 - 0xDC00) = c.toNat := by omega
    rw [pair, high, low, whole, Char.ofNat_toNat]

private theorem go_ofChar (c : Char) (rest : List UInt16) (found : List (UInt16 ⊕ Char)) :
    pieces.go (ofChar c ++ rest) found = pieces.go rest (.inr c :: found) := by
  unfold ofChar
  dsimp only
  split
  next small =>
    obtain ⟨noHigh, single⟩ := single_ofNat small
    cases rest with
    | nil => simp only [List.append_nil, pieces.go, single]
    | cons next rest =>
      rw [List.singleton_append, pieces.go, noHigh, single]
      rfl
  next large =>
    obtain ⟨high, low, whole⟩ := pair_ofNat (Nat.le_of_not_lt large)
    rw [List.cons_append, List.singleton_append, pieces.go, high, low, whole]
    rfl

theorem pieces_ofText (text : List Char) : pieces (ofText text) = text.map .inr := by
  have further (found : List (UInt16 ⊕ Char)) :
      pieces.go (ofText text) found = found.reverse ++ text.map .inr := by
    induction text generalizing found with
    | nil => simp [ofText, pieces.go]
    | cons c text ih =>
      have split : ofText (c :: text) = ofChar c ++ ofText text := rfl
      rw [split, go_ofChar, ih]
      simp
  exact further []

@[simp] theorem toText?_ofText (text : List Char) : toText? (ofText text) = some text := by
  rw [toText?, pieces_ofText]
  induction text with
  | nil => rfl
  | cons c text ih => simp [ih]

@[simp] theorem ofText_nil : ofText [] = [] := rfl

@[simp] theorem ofText_append (first second : List Char) :
    ofText (first ++ second) = ofText first ++ ofText second :=
  List.flatMap_append

theorem ofText_injective : Function.Injective ofText := fun first second same => by
  simpa using congrArg toText? same

theorem ofText_intercalate (separator : List Char) (texts : List (List Char)) :
    (ofText separator).intercalate (texts.map ofText) = ofText (separator.intercalate texts) := by
  induction texts with
  | nil => rfl
  | cons first more ih =>
    cases more with
    | nil => simp
    | cons second more =>
      simp only [List.map_cons, List.intercalate_cons_cons] at ih ⊢
      rw [ih, ofText_append, ofText_append]

end ScriptSandbox.Units
