import ScriptSandbox.Guest.TextRegion
import ScriptSandbox.Proofs.Text.Utf8

/-!
# What a text region keeps

A region keeps the longest beginning of a text that fits it, and that is read back from it.
-/
namespace ScriptSandbox.Guest.TextRegion

open Utf8

/-- The longest beginning of a text whose writing fits a capacity. -/
structure Longest (capacity : Nat) (text kept : List Char) : Prop where
  start : kept <+: text
  fits : (encode kept).length ≤ capacity
  longest : ∀ other, other <+: text → (encode other).length ≤ capacity → other <+: kept

namespace Longest

variable {capacity : Nat} {text rest kept : List Char}

theorem unique {other : List Char} (first : Longest capacity text kept)
    (second : Longest capacity text other) : kept = other :=
  (second.longest kept first.start first.fits).eq_of_length_le
    (first.longest other second.start second.fits).length_le

theorem whole (fits : (encode text).length ≤ capacity) : Longest capacity text text :=
  ⟨List.prefix_rfl, fits, fun _ onWay _ => onWay⟩

/-- Of a text behind a lead that fits, the rest of the capacity is kept. -/
theorem behind {lead : List Char} (largest : Longest capacity (lead ++ text) kept)
    (fits : (encode lead).length ≤ capacity) :
    ∃ body, kept = lead ++ body ∧ Longest (capacity - (encode lead).length) text body := by
  obtain ⟨body, rfl⟩ := largest.longest lead (List.prefix_append _ _) fits
  refine ⟨body, rfl, (List.prefix_append_right_inj lead).mp largest.start, ?_, ?_⟩
  · have all := largest.fits
    simp only [encode_append, List.length_append] at all
    omega
  · intro other onWay small
    apply (List.prefix_append_right_inj lead).mp
    apply largest.longest
    · exact (List.prefix_append_right_inj lead).mpr onWay
    · simp only [encode_append, List.length_append]
      omega

/-- What follows a text that does not fit is not kept. -/
theorem of_append (largest : Longest capacity (text ++ rest) kept)
    (large : capacity < (encode text).length) : Longest capacity text kept := by
  have shorter : text <+: text ++ rest := List.prefix_append _ _
  refine ⟨?_, largest.fits, fun other onWay => largest.longest other (onWay.trans shorter)⟩
  rcases List.prefix_or_prefix_of_prefix largest.start shorter with within | ⟨more, rfl⟩
  · exact within
  · -- What is kept would hold all of the text, which does not fit.
    have all := largest.fits
    simp only [encode_append, List.length_append] at all
    omega

/-- Of a text that does not fit, all is kept but room for a part of one character. -/
theorem almost_full (largest : Longest capacity text kept)
    (large : capacity < (encode text).length) : capacity ≤ (encode kept).length + 3 := by
  obtain ⟨rest, rfl⟩ := largest.start
  cases rest with
  | nil =>
    have fits := largest.fits
    rw [List.append_nil] at large
    omega
  | cons next rest =>
    refine Nat.le_of_not_lt fun gap => ?_
    have small : (String.utf8EncodeChar next).length ≤ 4 := by
      rw [String.length_utf8EncodeChar]
      exact Char.utf8Size_le_four next
    have onWay : kept ++ [next] <+: kept ++ next :: rest := ⟨rest, by simp⟩
    have fits : (encode (kept ++ [next])).length ≤ capacity := by
      simp only [encode_append, encode_cons, encode_nil, List.append_nil, List.length_append]
      omega
    have longer := (largest.longest _ onWay fits).length_le
    rw [List.length_append, List.length_singleton] at longer
    omega

end Longest

private theorem lastBoundary_le (bytes : Bytes) (place : Nat) :
    lastBoundary bytes place ≤ place := by
  induction place with
  | zero => exact Nat.le_refl 0
  | succ place ih =>
    unfold lastBoundary
    split
    · exact Nat.le_refl _
    · omega

private theorem isBoundary_lastBoundary (bytes : Bytes) (place : Nat)
    (empty : isBoundary bytes 0 = true) :
    isBoundary bytes (lastBoundary bytes place) = true := by
  induction place with
  | zero => exact empty
  | succ place ih =>
    unfold lastBoundary
    split
    next boundary => exact boundary
    · exact ih

private theorem le_lastBoundary (bytes : Bytes) (place other : Nat) (below : other ≤ place)
    (boundary : isBoundary bytes other = true) : other ≤ lastBoundary bytes place := by
  induction place with
  | zero => omega
  | succ place ih =>
    unfold lastBoundary
    split
    · exact below
    next cut =>
      have differ : other ≠ place + 1 := by
        rintro rfl
        exact cut boundary
      exact ih (by omega)

theorem fitting_encode (capacity : Nat) (text : List Char) :
    ∃ kept, Longest capacity text kept ∧ fitting capacity (encode text) = encode kept := by
  have boundary := isBoundary_lastBoundary (encode text) (min (encode text).length capacity)
    ((isBoundary_encode_iff text 0).mpr ⟨[], List.nil_prefix, rfl⟩)
  obtain ⟨kept, start, length⟩ := (isBoundary_encode_iff text _).mp boundary
  have below := lastBoundary_le (encode text) (min (encode text).length capacity)
  refine ⟨kept, ⟨start, by omega, fun other onWay fits => ?_⟩, ?_⟩
  · -- Of two beginnings the one with the shorter writing comes first.
    rcases List.prefix_or_prefix_of_prefix onWay start with shorter | ⟨more, rfl⟩
    · exact shorter
    · have longer : (encode (kept ++ more)).length ≤ (encode kept).length := by
        rw [length]
        apply le_lastBoundary
        · obtain ⟨rest, rfl⟩ := onWay
          simp only [encode_append, List.length_append] at fits ⊢
          omega
        · exact (isBoundary_encode_iff text _).mpr ⟨_, onWay, rfl⟩
      -- The last boundary lies at least as far, and every further character takes a byte.
      cases more with
      | nil => simp
      | cons c more =>
        obtain ⟨lead, rest, written, _⟩ := utf8EncodeChar_eq_cons c
        simp only [encode_append, encode_cons, written, List.length_append,
          List.length_cons] at longer
        omega
  · obtain ⟨rest, rfl⟩ := start
    rw [fitting, ← length, encode_append, List.take_left]

theorem fitting_of_fits {capacity : Nat} {text : List Char}
    (fits : (encode text).length ≤ capacity) : fitting capacity (encode text) = encode text := by
  obtain ⟨kept, longest, fitting⟩ := fitting_encode capacity text
  rw [fitting, longest.unique (.whole fits)]

@[simp] theorem capacity_ofCapacity (capacity : Nat) : (ofCapacity capacity).capacity = capacity :=
  List.length_replicate

@[simp] theorem capacity_clear (region : TextRegion) : region.clear.capacity = region.capacity :=
  rfl

@[simp] theorem content_clear (region : TextRegion) : region.clear.content = [] :=
  List.take_zero

/-- What is set takes the place of as many bytes. -/
@[simp] theorem capacity_set (region : TextRegion) (text : List Char) :
    (region.set text).capacity = region.capacity := by
  obtain ⟨kept, longest, fitting⟩ := fitting_encode region.capacity text
  have fits : (encode kept).length ≤ region.bytes.length := longest.fits
  simp only [capacity, set] at fitting ⊢
  rw [fitting, List.length_append, List.length_drop]
  omega

theorem content_set (region : TextRegion) (text : List Char) :
    (region.set text).content = fitting region.capacity (encode text) := by
  simp [content, set]

/-- The content of a region lies within it. -/
theorem used_set_le (region : TextRegion) (text : List Char) :
    (region.set text).used ≤ (region.set text).capacity := by
  simp [set, capacity]

end ScriptSandbox.Guest.TextRegion
