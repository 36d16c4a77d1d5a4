import ScriptSandbox.Text.Search

/-!
# Where texts occur

`occursIn` finds exactly the contiguous parts of a text. `heading` is what a cut leaves before the
first marker, or the whole text where there is none; a marker whose first letter does not come back
in it cannot lie across the end of a text that another marker may follow. What starts in a way that
is `Fresh` in a lead is found behind the lead or not at all.
-/
namespace ScriptSandbox.Search

variable {α : Type} {part marker text rest : List α}

section

variable [BEq α]

/-- What comes before the first marker; all of a text without one. -/
def heading (marker text : List α) : List α := ((cut? marker text).map Prod.fst).getD text

@[simp] theorem after?_nil (text : List α) : after? [] text = some text := by cases text <;> rfl

@[simp] theorem after?_cons_nil (c : α) (start : List α) : after? (c :: start) [] = none := rfl

theorem after?_cons_cons (c d : α) (start text : List α) :
    after? (c :: start) (d :: text) = if c == d then after? start text else none := rfl

@[simp] theorem heading_nil : heading marker [] = [] := by
  cases found : after? marker [] <;> simp [heading, cut?, cut?.go, found]

private theorem cut?_go (marker text passed : List α) :
    cut?.go marker text passed =
      (cut? marker text).map fun parts => (passed.reverse ++ parts.1, parts.2) := by
  induction text generalizing passed with
  | nil => cases found : after? marker [] <;> simp [cut?, cut?.go, found]
  | cons c text ih =>
    cases found : after? marker (c :: text) with
    | some tail => simp [cut?, cut?.go, found]
    | none =>
      -- Both sides go on with `c` among the passed letters, so both are cuts of the rest.
      have later := ih [c]
      simp only [cut?, cut?.go, found, ih (c :: passed)] at later ⊢
      simp [later, Function.comp_def]

variable [LawfulBEq α]

theorem after?_eq_some_iff {start : List α} :
    after? start text = some rest ↔ text = start ++ rest := by
  induction start generalizing text with
  | nil => simp [eq_comm]
  | cons c start ih =>
    cases text with
    | nil => simp
    | cons d text =>
      rw [after?_cons_cons]
      by_cases same : c = d
      · subst same
        simpa using ih
      · simp [same, Ne.symm same]

theorem after?_isSome_iff {start : List α} :
    (after? start text).isSome = true ↔ start <+: text := by
  rw [Option.isSome_iff_exists]
  constructor
  · rintro ⟨rest, found⟩
    exact ⟨rest, (after?_eq_some_iff.mp found).symm⟩
  · rintro ⟨rest, rfl⟩
    exact ⟨rest, after?_eq_some_iff.mpr rfl⟩

theorem after?_eq_none_iff {start : List α} : after? start text = none ↔ ¬ start <+: text := by
  rw [← after?_isSome_iff]
  simp

theorem before?_eq_some_iff {ending : List α} :
    before? ending text = some rest ↔ text = rest ++ ending := by
  have reversed : text.reverse = ending.reverse ++ rest.reverse ↔ text = rest ++ ending := by
    rw [← List.reverse_append, List.reverse_inj]
  rw [before?, Option.map_eq_some_iff, ← reversed, ← after?_eq_some_iff]
  constructor
  · rintro ⟨found, cut, rfl⟩
    rwa [List.reverse_reverse]
  · intro cut
    exact ⟨rest.reverse, cut, rest.reverse_reverse⟩

theorem occursIn_iff : occursIn part text = true ↔ part <:+: text := by
  induction text with
  | nil => simp [occursIn]
  | cons c text ih =>
    rw [occursIn, Bool.or_eq_true, after?_isSome_iff, ih, List.infix_cons_iff]

/-! ### Cuts -/

theorem cut?_cons_of_start {c : α} (starts : marker <+: c :: text) :
    ∃ rest, c :: text = marker ++ rest ∧ cut? marker (c :: text) = some ([], rest) := by
  obtain ⟨rest, whole⟩ := starts
  have found := after?_eq_some_iff.mpr whole.symm
  exact ⟨rest, whole.symm, by simp [cut?, cut?.go, found]⟩

theorem cut?_cons_of_not_start {c : α} (starts : ¬ marker <+: c :: text) :
    cut? marker (c :: text) = (cut? marker text).map fun parts => (c :: parts.1, parts.2) := by
  have found := after?_eq_none_iff.mpr starts
  have later := cut?_go marker text [c]
  simpa [cut?, cut?.go, found] using later

theorem eq_of_cut? {before behind : List α} (cut : cut? marker text = some (before, behind)) :
    text = before ++ marker ++ behind := by
  induction text generalizing before with
  | nil =>
    cases found : after? marker [] with
    | none => simp [cut?, cut?.go, found] at cut
    | some rest =>
      obtain ⟨rfl, rfl⟩ : [] = before ∧ rest = behind := by simpa [cut?, cut?.go, found] using cut
      simpa using after?_eq_some_iff.mp found
  | cons c text ih =>
    by_cases starts : marker <+: c :: text
    · obtain ⟨rest, whole, here⟩ := cut?_cons_of_start starts
      obtain ⟨rfl, rfl⟩ : [] = before ∧ rest = behind := by simpa [here] using cut
      simpa using whole
    · rw [cut?_cons_of_not_start starts] at cut
      obtain ⟨⟨first, _⟩, found, same⟩ := Option.map_eq_some_iff.mp cut
      obtain ⟨rfl, rfl⟩ := Prod.mk.inj same
      rw [ih found, List.cons_append, List.cons_append]

/-! ### Headings -/

theorem heading_cons_of_start {c : α} (starts : marker <+: c :: text) :
    heading marker (c :: text) = [] := by
  obtain ⟨_, _, cut⟩ := cut?_cons_of_start starts
  simp [heading, cut]

theorem heading_cons_of_not_start {c : α} (starts : ¬ marker <+: c :: text) :
    heading marker (c :: text) = c :: heading marker text := by
  cases parts : cut? marker text <;> simp [heading, cut?_cons_of_not_start starts, parts]

theorem heading_isPrefix (marker text : List α) : heading marker text <+: text := by
  induction text with
  | nil => simp
  | cons c text ih =>
    by_cases starts : marker <+: c :: text
    · simp [heading_cons_of_start starts]
    · simpa [heading_cons_of_not_start starts] using ih

/-- A text in which a marker occurs goes on after its heading at least for the marker. -/
theorem heading_length (occurs : marker <:+: text) :
    (heading marker text).length + marker.length ≤ text.length := by
  induction text with
  | nil => simp_all
  | cons c text ih =>
    by_cases starts : marker <+: c :: text
    · simpa [heading_cons_of_start starts] using starts.length_le
    · have further := ih ((List.infix_cons_iff.mp occurs).resolve_left starts)
      simp only [heading_cons_of_not_start starts, List.length_cons]
      omega

theorem heading_append_of_occurs (occurs : marker <:+: text) (rest : List α) :
    heading marker (text ++ rest) = heading marker text := by
  induction text with
  | nil =>
    obtain rfl := List.infix_nil.mp occurs
    cases rest with
    | nil => rfl
    | cons c rest => simp [heading_cons_of_start (List.nil_prefix : [] <+: c :: rest)]
  | cons c text ih =>
    have shorter : c :: text <+: c :: (text ++ rest) := List.prefix_append (c :: text) rest
    by_cases starts : marker <+: c :: text
    · rw [List.cons_append, heading_cons_of_start (starts.trans shorter),
        heading_cons_of_start starts]
    · have later := (List.infix_cons_iff.mp occurs).resolve_left starts
      -- The marker fits into the text, so what follows cannot make it start here.
      have starts' : ¬ marker <+: c :: (text ++ rest) := by
        intro onWay
        have fits : marker.length ≤ (c :: text).length := Nat.le_succ_of_le later.length_le
        exact starts (List.prefix_of_prefix_length_le onWay shorter fits)
      rw [List.cons_append, heading_cons_of_not_start starts', heading_cons_of_not_start starts,
        ih later]

theorem heading_append_of_absent {head : α} {tail more : List α} (alone : head ∉ tail)
    (absent : ¬ (head :: tail) <:+: text) (starts : rest <+: head :: more) :
    heading (head :: tail) (text ++ rest) = text ++ heading (head :: tail) rest := by
  induction text with
  | nil => rfl
  | cons c text ih =>
    simp only [List.infix_cons_iff, not_or] at absent
    have across : ¬ (head :: tail) <+: c :: (text ++ rest) := by
      intro onWay
      obtain ⟨rfl, further⟩ := List.cons_prefix_cons.mp onWay
      have shorter := List.prefix_append text rest
      rcases List.prefix_or_prefix_of_prefix further shorter with within | ⟨beyond, rfl⟩
      · exact absent.1 (List.cons_prefix_cons.mpr ⟨rfl, within⟩)
      · -- The marker would go on with the first letter of the next one.
        have further := (List.prefix_append_right_inj text).mp further
        cases beyond with
        | nil => exact absent.1 (by simp)
        | cons d beyond =>
          obtain ⟨rfl, _⟩ := List.cons_prefix_cons.mp (further.trans starts)
          simp at alone
    rw [List.cons_append, heading_cons_of_not_start across, ih absent.2, List.cons_append]

/-- No marker occurs in a heading. -/
theorem not_occurs_heading (long : marker ≠ []) : ¬ marker <:+: heading marker text := by
  intro occurs
  obtain ⟨rest, whole⟩ := heading_isPrefix marker text
  have same := heading_append_of_occurs occurs rest
  rw [whole] at same
  -- The heading would be its own heading, and so have room for the marker behind it.
  have less := heading_length occurs
  rw [← same] at less
  have positive := List.length_pos_iff.mpr long
  omega

end

/-! ### Texts with a lead -/

/-- From a place of a lead on, a start begins nowhere within it, not even in part. -/
def Fresh (first : Nat) (start lead : List α) : Prop :=
  ∀ place < lead.length, first ≤ place → ¬ start <+: lead.drop place ∧ ¬ lead.drop place <+: start

instance [DecidableEq α] (first : Nat) (start lead : List α) : Decidable (Fresh first start lead) :=
  inferInstanceAs (Decidable (∀ place < lead.length,
    first ≤ place → ¬ start <+: lead.drop place ∧ ¬ lead.drop place <+: start))

section

variable {start lead before behind : List α}

/-- What occurs in a text with a lead lies behind the lead, or its start begins within it. -/
theorem occurrence_cases (whole : before ++ (start ++ part) ++ behind = lead ++ text) :
    lead <+: before ∨ before.length < lead.length ∧
      (start <+: lead.drop before.length ∨ lead.drop before.length <+: start) := by
  rw [List.append_assoc] at whole
  have onWay : before <+: lead ++ text := ⟨_, whole⟩
  rcases List.prefix_or_prefix_of_prefix onWay (List.prefix_append lead text) with within | past
  · obtain ⟨rest, rfl⟩ := within
    rcases Nat.eq_zero_or_pos rest.length with last | more
    · obtain rfl := List.eq_nil_of_length_eq_zero last
      exact .inl (by simp)
    · right
      refine ⟨by simpa using more, ?_⟩
      -- Both the start and the rest of the lead begin what follows.
      rw [List.append_assoc before rest, List.append_cancel_left_eq] at whole
      rw [List.drop_left]
      refine List.prefix_or_prefix_of_prefix ?_ (List.prefix_append rest text)
      exact ⟨part ++ behind, by simpa using whole⟩
  · exact .inl past

theorem behind_of_fresh (fresh : Fresh 0 start lead)
    (whole : before ++ (start ++ part) ++ behind = lead ++ text) : lead <+: before := by
  rcases occurrence_cases whole with past | ⟨within, clash⟩
  · exact past
  · have apart := fresh before.length within (Nat.zero_le _)
    exact absurd clash (not_or.mpr apart)

private theorem occurs_of_behind (whole : before ++ (start ++ part) ++ behind = lead ++ text)
    (past : lead <+: before) : start ++ part <:+: text := by
  obtain ⟨beyond, rfl⟩ := past
  exact ⟨beyond, behind, by simpa using whole⟩

theorem occurs_iff_of_fresh (fresh : Fresh 0 start lead) :
    start ++ part <:+: lead ++ text ↔ start ++ part <:+: text := by
  constructor
  · rintro ⟨before, behind, whole⟩
    exact occurs_of_behind whole (behind_of_fresh fresh whole)
  · exact fun occurs => occurs.trans List.infix_append_right

/-- A start that is fresh behind the first place of a lead may still begin the whole text. -/
theorem occurs_iff_of_fresh_behind (fresh : Fresh 1 start lead) :
    start ++ part <:+: lead ++ text ↔
      start ++ part <+: lead ++ text ∨ start ++ part <:+: text := by
  constructor
  · rintro ⟨before, behind, whole⟩
    rcases occurrence_cases whole with past | ⟨within, clash⟩
    · exact .inr (occurs_of_behind whole past)
    · rcases Nat.eq_zero_or_pos before.length with first | later
      · obtain rfl := List.eq_nil_of_length_eq_zero first
        exact .inl ⟨behind, whole⟩
      · have apart := fresh before.length within later
        exact absurd clash (not_or.mpr apart)
  · rintro (begins | occurs)
    · exact begins.isInfix
    · exact occurs.trans List.infix_append_right

/-- What goes on from a fresh start does not occur in less than the lead and itself. -/
theorem not_occurs_in_less (fresh : Fresh 0 start lead) (begins : text <+: lead ++ (start ++ part))
    (less : text ≠ lead ++ (start ++ part)) : ¬ start ++ part <:+: text := by
  rintro ⟨before, behind, rfl⟩
  obtain ⟨beyond, whole⟩ := begins
  have whole' : before ++ (start ++ part) ++ (behind ++ beyond) = lead ++ (start ++ part) := by
    simpa using whole
  obtain ⟨more, rfl⟩ := behind_of_fresh fresh whole'
  -- Behind the lead there is room for one occurrence only, and that ends the text.
  have lengths := congrArg List.length whole'
  simp only [List.length_append] at lengths
  obtain rfl : more = [] := List.eq_nil_of_length_eq_zero (by omega)
  obtain rfl : behind = [] := List.eq_nil_of_length_eq_zero (by omega)
  simp at less

end

end ScriptSandbox.Search
