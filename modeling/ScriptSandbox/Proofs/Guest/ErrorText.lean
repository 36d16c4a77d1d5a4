import ScriptSandbox.Guest.Core
import ScriptSandbox.Proofs.Bridge.Refusals
import ScriptSandbox.Proofs.Guest.TextRegion

/-!
# The error text of a refusal

A refused call throws an error, whose text gets to the host through the region for error texts and
is split there into message and stack. The host reads the whole message when the region keeps it and
it does not hold the mark of a stack, and otherwise a part of it in which the refusal is not found
any more.
-/
namespace ScriptSandbox.Guest

open Script (Failure)
open Script.Failure (exceptionMark stackMark exceptionText)

/-! ### Error texts -/

/-- The string of the error that a refused call throws. -/
def refusalText (cause : Refusal) : List Char :=
  "Error: ".toList ++ (Fault.refused cause).message.toList

/-- What stands before the message of a refusal in the string of its error. -/
def refusalLead : List Char := "Error: security violation: ".toList

theorem refusalText_eq (cause : Refusal) :
    refusalText cause = refusalLead ++ cause.message.toList := by
  have lead : "Error: ".toList ++ "security violation: ".toList = refusalLead := by decide
  have message : (Fault.refused cause).message.toList =
      "security violation: ".toList ++ cause.message.toList := String.toList_append
  -- A rewrite would try to see the literals as appended texts, so the steps are given as terms.
  calc
    refusalText cause
      = "Error: ".toList ++ ("security violation: ".toList ++ cause.message.toList) :=
        congrArg ("Error: ".toList ++ ·) message
    _ = ("Error: ".toList ++ "security violation: ".toList) ++ cause.message.toList :=
        (List.append_assoc _ _ _).symm
    _ = refusalLead ++ cause.message.toList := congrArg (· ++ cause.message.toList) lead

/-- The error text of a refusal gets to the host whole: it fits the region, and nothing in it looks
like the start of a stack. -/
structure HeardWhole (cause : Refusal) : Prop where
  fits : (Utf8.encode (exceptionMark ++ refusalText cause)).length ≤ errorCapacity
  unmarked : ¬ stackMark <:+: refusalText cause

/-- The room that the error region has for what follows the mark of an exception. -/
def messageRoom : Nat := errorCapacity - (Utf8.encode exceptionMark).length

/-- What the host hears of a refusal whose text does not get there whole. -/
def heard (cause : Refusal) : List Char :=
  Search.heading stackMark <| Utf8.decodeLossy <|
    TextRegion.fitting messageRoom (Utf8.encode (refusalText cause))

theorem heard_eq {cause : Refusal} {kept : List Char}
    (longest : TextRegion.Longest messageRoom (refusalText cause) kept) :
    heard cause = Search.heading stackMark kept := by
  obtain ⟨other, longest', fitting⟩ := TextRegion.fitting_encode messageRoom (refusalText cause)
  rw [heard, fitting, Utf8.decodeLossy_encode, longest.unique longest']

theorem fits_iff (cause : Refusal) :
    (Utf8.encode (exceptionMark ++ refusalText cause)).length ≤ errorCapacity ↔
      (Utf8.encode (refusalText cause)).length ≤ messageRoom := by
  have mark : (Utf8.encode exceptionMark).length = 11 := by decide
  simp only [Utf8.encode_append, List.length_append, messageRoom, mark, errorCapacity]
  omega

/-- Where a refusal does not get through whole, less of it is heard than was thrown. -/
theorem heard_short {cause : Refusal} (short : ¬ HeardWhole cause) :
    heard cause <+: refusalText cause ∧ heard cause ≠ refusalText cause := by
  obtain ⟨kept, longest, _⟩ := TextRegion.fitting_encode messageRoom (refusalText cause)
  have start := Search.heading_isPrefix stackMark kept
  rw [heard_eq longest]
  refine ⟨start.trans longest.start, fun same => short ?_⟩
  obtain rfl : kept = refusalText cause := longest.start.eq_of_length_le (same ▸ start.length_le)
  refine ⟨(fits_iff cause).mpr longest.fits, fun marked => ?_⟩
  -- All of the text was kept, so a mark in it would have shortened what is heard.
  have less := Search.heading_length marked
  rw [same] at less
  have mark : stackMark.length = 8 := by decide
  omega

/-! ### The message of a failure -/

theorem split_exception (body : List Char) :
    (Failure.split (exceptionMark ++ body)).1 = Search.heading stackMark body := by
  have after : Search.after? exceptionMark (exceptionMark ++ body) = some body :=
    Search.after?_eq_some_iff.mpr rfl
  cases parts : Search.cut? stackMark body <;> simp [Failure.split, after, Search.heading, parts]

/-- What follows the message in an error text. -/
def trailer (stack : Option (List Char)) : List Char := (stack.map (stackMark ++ ·)).getD []

theorem exceptionText_eq (message : List Char) (stack : Option (List Char)) :
    exceptionText message stack = exceptionMark ++ (message ++ trailer stack) := by
  rw [exceptionText, List.append_assoc, trailer]

/-- It is nothing, or starts like the mark of a stack. -/
theorem trailer_start (stack : Option (List Char)) : ∃ more, trailer stack <+: '\n' :: more := by
  cases stack with
  | none => exact ⟨[], List.nil_prefix⟩
  | some stack => exact ⟨_, List.prefix_rfl⟩

/-- A mark begins in no text without one when the next mark follows it right behind. -/
theorem heading_unmarked {text rest more : List Char} (unmarked : ¬ stackMark <:+: text)
    (starts : rest <+: '\n' :: more) :
    Search.heading stackMark (text ++ rest) = text ++ Search.heading stackMark rest := by
  -- Only the mark's first letter is a line feed.
  have alone : '\n' ∉ "Stack: ".toList := by decide
  have letters : stackMark = '\n' :: "Stack: ".toList := by decide
  rw [letters] at unmarked ⊢
  exact Search.heading_append_of_absent alone unmarked starts

/-- The failure that the host reads from a region in which a guest put the text of an exception. -/
def readFailure (region : TextRegion) (status : Int32) (message : List Char)
    (stack : Option (List Char)) : Failure :=
  Failure.ofGuest status (Utf8.toStringLossy (region.set (exceptionText message stack)).content)

section

variable {region : TextRegion} (capacity : region.capacity = errorCapacity) (status : Int32)
  {cause : Refusal} (stack : Option (List Char))

include capacity

/-- Its message is what stands before the first mark in as much as the region keeps. -/
theorem readFailure_message (message : List Char) :
    ∃ body, TextRegion.Longest messageRoom (message ++ trailer stack) body ∧
      (readFailure region status message stack).message.toList = Search.heading stackMark body := by
  obtain ⟨kept, longest, fitting⟩ :=
    TextRegion.fitting_encode errorCapacity (exceptionText message stack)
  rw [exceptionText_eq] at longest
  -- The mark of an exception itself fits, so it is kept, and the host takes it off again.
  obtain ⟨body, rfl, behind⟩ := longest.behind (by decide)
  refine ⟨body, behind, ?_⟩
  rw [readFailure, TextRegion.content_set, capacity, fitting, Utf8.toStringLossy_encode]
  simp [Failure.ofGuest, split_exception]

theorem message_of_whole (whole : HeardWhole cause) :
    refusalText cause <+: (readFailure region status (refusalText cause) stack).message.toList := by
  obtain ⟨body, longest, message⟩ :=
    readFailure_message capacity status stack (refusalText cause)
  obtain ⟨more, stacked⟩ := trailer_start stack
  obtain ⟨kept, rfl⟩ :=
    longest.longest _ (List.prefix_append _ _) ((fits_iff cause).mp whole.fits)
  have start := ((List.prefix_append_right_inj _).mp longest.start).trans stacked
  rw [message, heading_unmarked whole.unmarked start]
  exact List.prefix_append _ _

theorem message_of_short (short : ¬ HeardWhole cause) :
    (readFailure region status (refusalText cause) stack).message.toList = heard cause := by
  obtain ⟨body, longest, message⟩ :=
    readFailure_message capacity status stack (refusalText cause)
  rw [message]
  by_cases fits : (Utf8.encode (refusalText cause)).length ≤ messageRoom
  · -- All of the text is kept, so it holds the mark of a stack, and the message ends there.
    obtain ⟨kept, rfl⟩ := longest.longest _ (List.prefix_append _ _) fits
    have marked : stackMark <:+: refusalText cause :=
      Classical.byContradiction fun unmarked => short ⟨(fits_iff cause).mpr fits, unmarked⟩
    rw [Search.heading_append_of_occurs marked, heard_eq (.whole fits)]
  · -- The text is cut, so nothing of what follows it is kept.
    rw [heard_eq (longest.of_append (by omega))]

end

/-! ### The message of a refusal in a text -/

theorem leads_fresh_in_refusalLead :
    ∀ start ∈ Refusal.leads, Search.Fresh 0 start refusalLead := by
  decide +kernel

/-- A message in the sandbox's own words occurs in no less than the whole text of its refusal. -/
theorem message_not_in_less {cause : Refusal} (own : cause.IsOwn) {text : List Char}
    (start : text <+: refusalText cause) (less : text ≠ refusalText cause) :
    ¬ cause.message.toList <:+: text := by
  rw [refusalText_eq, cause.message_eq] at start less
  rw [cause.message_eq]
  exact Search.not_occurs_in_less (leads_fresh_in_refusalLead _ (Refusal.lead_mem own)) start less

end ScriptSandbox.Guest
