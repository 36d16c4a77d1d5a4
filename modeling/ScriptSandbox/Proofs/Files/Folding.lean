import ScriptSandbox.Files.Path

/-!
# Folding path texts

The parts of a path text lie between its slashes. Taken one after the other they lead from a place
to another: a name goes down, two dots go up, an empty part or a single dot stays. `Path.follow`
finds exactly the place that the parts of a text lead to, and fails where they lead above the top.
-/
namespace ScriptSandbox

namespace Search

variable {α : Type} (isSeparator : α → Bool)

/-- Reads one letter in `splitAt`: it ends the current part, or goes in front of it. -/
private def splitStep (found : List (List α) × List α) (c : α) : List (List α) × List α :=
  if isSeparator c then (found.2.reverse :: found.1, []) else (found.1, c :: found.2)

private theorem foldl_splitStep (text : List α) (found : List (List α) × List α) :
    let last := text.foldl (splitStep isSeparator) found
    (last.2.reverse :: last.1).reverse =
      found.1.reverse ++ text.splitOnPPrepend isSeparator found.2 := by
  induction text generalizing found with
  | nil => simp [List.splitOnPPrepend_nil]
  | cons c text ih =>
    simp only [List.foldl_cons, ih, List.splitOnPPrepend_cons_eq_if, splitStep]
    by_cases separates : isSeparator c = true
    · simp [separates]
    · simp [separates]

theorem splitAt_eq_splitOnP (text : List α) :
    splitAt isSeparator text = text.splitOnP isSeparator :=
  foldl_splitStep isSeparator text ([], [])

end Search

namespace Files.Path

/-- The parts of a path text, between its slashes. -/
def parts (text : String) : List (List Char) := text.toList.splitOn '/'

/-- Parts lead from one path to another, without a step above the top of the filesystem. -/
inductive LeadsTo : Path → List (List Char) → Path → Prop where
  | done {path : Path} : LeadsTo path [] path
  | stay {path last : Path} {part : List Char} {rest : List (List Char)}
      (void : part = [] ∨ part = ['.']) (further : LeadsTo path rest last) :
      LeadsTo path (part :: rest) last
  | up {path last : Path} {name : String} {rest : List (List Char)}
      (further : LeadsTo path rest last) : LeadsTo (path ++ [name]) (['.', '.'] :: rest) last
  | down {path last : Path} {part : List Char} {rest : List (List Char)}
      (named : part ∉ [[], ['.'], ['.', '.']])
      (further : LeadsTo (path ++ [String.ofList part]) rest last) :
      LeadsTo path (part :: rest) last

/-! ### Steps -/

/-- The step that a part is, if it is one. -/
def stepOf? (part : List Char) : Option Step :=
  if part = [] ∨ part = ['.'] then none
  else if part = ['.', '.'] then some .up
  else some (.down (String.ofList part))

theorem steps_eq (text : String) : steps text = (parts text).filterMap stepOf? := by
  rw [steps, Search.splitAt_eq_splitOnP]
  rfl

theorem climb_append (names : List String) (first rest : List Step) :
    climb names (first ++ rest) = (climb names first).bind fun names => climb names rest := by
  induction first generalizing names with
  | nil => rfl
  | cons step first ih =>
    cases step with
    | down name => exact ih (name :: names)
    | up =>
      cases names with
      | nil => rfl
      | cons _ names => exact ih names

/-- Steps are taken one part after the other. -/
theorem follow_append (start : Path) (first rest : List Step) :
    follow start (first ++ rest) = (follow start first).bind fun path => follow path rest := by
  unfold follow
  rw [climb_append]
  cases climb start.reverse first <;> simp

@[simp] theorem follow_nil (start : Path) : follow start [] = some start := by
  simp [follow, climb]

@[simp] theorem follow_down (start : Path) (name : String) (rest : List Step) :
    follow start (.down name :: rest) = follow (start ++ [name]) rest := by
  simp [follow, climb]

@[simp] theorem follow_up (start : Path) (name : String) (rest : List Step) :
    follow (start ++ [name]) (.up :: rest) = follow start rest := by
  simp [follow, climb]

@[simp] theorem follow_top_up (rest : List Step) : follow [] (.up :: rest) = none := rfl

/-! ### Where parts lead -/

variable {start path : Path} {first rest : List (List Char)}

theorem follow_of_leadsTo (leads : LeadsTo start first path) :
    follow start (first.filterMap stepOf?) = some path := by
  induction leads with
  | done => exact follow_nil _
  | stay void _ ih => simpa [stepOf?, void] using ih
  | up _ ih => simpa [stepOf?] using ih
  | down named _ ih =>
    simp only [List.mem_cons, List.not_mem_nil, or_false, not_or] at named
    simpa [stepOf?, named] using ih

theorem leadsTo_of_follow (found : follow start (first.filterMap stepOf?) = some path) :
    LeadsTo start first path := by
  induction first generalizing start with
  | nil =>
    obtain rfl : start = path := by simpa using found
    exact .done
  | cons part rest ih =>
    by_cases void : part = [] ∨ part = ['.']
    · exact .stay void (ih (by simpa [stepOf?, void] using found))
    · by_cases above : part = ['.', '.']
      · subst above
        -- A step up needs a name that it takes away.
        rcases start.eq_nil_or_concat with rfl | ⟨shorter, name, rfl⟩
        · simp [stepOf?] at found
        · rw [List.concat_eq_append] at found ⊢
          exact .up (ih (by simpa [stepOf?] using found))
      · refine .down ?_ (ih (by simpa [stepOf?, void, above] using found))
        simp_all

theorem follow_eq_some_iff {text : String} :
    follow start (steps text) = some path ↔ LeadsTo start (parts text) path := by
  rw [steps_eq]
  exact ⟨leadsTo_of_follow, follow_of_leadsTo⟩

namespace LeadsTo

theorem unique {other : Path} (left : LeadsTo start first path) (right : LeadsTo start first other) :
    path = other := by
  have same := (follow_of_leadsTo left).symm.trans (follow_of_leadsTo right)
  exact Option.some.inj same

/-- Parts that come after others go on from where those lead. -/
theorem append_iff {middle : Path} (leads : LeadsTo start first middle) :
    LeadsTo start (first ++ rest) path ↔ LeadsTo middle rest path := by
  have both : follow start ((first ++ rest).filterMap stepOf?) =
      follow middle (rest.filterMap stepOf?) := by
    rw [List.filterMap_append, follow_append, follow_of_leadsTo leads, Option.bind_some]
  constructor
  · intro whole
    exact leadsTo_of_follow (both ▸ follow_of_leadsTo whole)
  · intro later
    exact leadsTo_of_follow (both ▸ follow_of_leadsTo later)

end LeadsTo

end Files.Path

end ScriptSandbox
