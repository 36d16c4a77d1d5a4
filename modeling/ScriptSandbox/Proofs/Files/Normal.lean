import Mathlib.Algebra.GroupWithZero.Nat
import Mathlib.Algebra.Order.BigOperators.Group.List
import ScriptSandbox.Proofs.Files.Upkeep

/-!
# Normal forms of path texts

A text that starts at the top of the filesystem comes to a path when its steps are taken without a
look at any file. The text of this path is its normal form: nothing in it leads up or stays, a text
that is put behind either of the two comes to the same path, and where no links are, whoever walks
along the one gets to where the other leads.
-/
namespace ScriptSandbox.Files

namespace Path

/-- The path that a text comes to that starts at the top of the filesystem; none when it leads above
the top. -/
def normal? (text : String) : Option Path := follow [] (steps text)

/-- Puts a text behind another one, or in its place when it starts at the top itself. -/
def join (base added : String) : String :=
  if isAbsolute added then added
  else if base = "" ∨ base.toList.getLast? = some '/' then base ++ added
  else base ++ "/" ++ added

/-! ### Texts behind each other -/

theorem parts_append_slash {base added text : String}
    (whole : text.toList = base.toList ++ '/' :: added.toList) :
    parts text = parts base ++ parts added := by
  rw [parts, whole]
  exact List.splitOnP_append_cons _ _ (beq_self_eq_true '/')

/-- The steps of a text are taken behind those of the text before it. -/
theorem steps_join (base : String) {added : String} (relative : isAbsolute added = false) :
    steps (join base added) = steps base ++ steps added := by
  unfold join
  rw [if_neg (Bool.eq_false_iff.mp relative)]
  split
  next closed =>
    rcases closed with rfl | closed
    · rw [String.empty_append]
      rfl
    · -- The slash is there already, and behind it the base has an empty part, which is no step.
      obtain ⟨front, letters⟩ := List.getLast?_eq_some_iff.mp closed
      have alone : parts base = parts (String.ofList front) ++ parts "" :=
        parts_append_slash (by simpa using letters)
      have both : parts (base ++ added) = parts (String.ofList front) ++ parts added :=
        parts_append_slash (by simp [letters])
      have void : (parts "").filterMap stepOf? = [] := rfl
      rw [steps_eq, steps_eq, steps_eq, alone, both, List.filterMap_append, List.filterMap_append,
        void, List.append_nil]
  next =>
    have both : parts (base ++ "/" ++ added) = parts base ++ parts added :=
      parts_append_slash (by simp)
    rw [steps_eq, steps_eq, steps_eq, both, List.filterMap_append]

theorem normal?_join (base : String) {added : String} (relative : isAbsolute added = false) :
    normal? (join base added) = (normal? base).bind fun path => follow path (steps added) := by
  rw [normal?, steps_join base relative, follow_append, ← normal?]

/-! ### Texts of paths -/

theorem follow_names (start names : Path) :
    follow start (names.map .down) = some (start ++ names) := by
  induction names generalizing start with
  | nil => simp
  | cons name names ih =>
    rw [List.map_cons, follow_down, ih, List.append_assoc]
    rfl

theorem toList_text (path : Path) :
    (text path).toList = '/' :: ['/'].intercalate (path.map String.toList) := by
  simp [text, String.toList_intercalate]

theorem isAbsolute_text (path : Path) : isAbsolute (text path) = true := by
  simp [isAbsolute, toList_text]

/-- The names of a path are the parts of its text, behind the slash at its start. -/
theorem parts_text {path : Path} (below : path ≠ []) (plain : ∀ name ∈ path, Plain name) :
    parts (text path) = [] :: path.map String.toList := by
  obtain ⟨name, names, rfl⟩ := List.exists_cons_of_ne_nil below
  have whole : (text (name :: names)).toList =
      ['/'].intercalate ([] :: (name :: names).map String.toList) := by
    simp [toList_text, List.intercalate_cons_cons]
  rw [parts, whole]
  refine List.splitOn_intercalate '/' ?_ (List.cons_ne_nil _ _)
  rw [List.forall_mem_cons]
  refine ⟨by simp, fun part member => ?_⟩
  obtain ⟨other, among, rfl⟩ := List.mem_map.mp member
  exact (plain other among).whole

theorem stepOf?_plain {name : String} (plain : Plain name) :
    stepOf? name.toList = some (.down name) := by
  have named := plain.named
  simp only [List.mem_cons, List.not_mem_nil, or_false, not_or, ← String.toList_inj] at named
  simpa [stepOf?, and_assoc] using named

theorem steps_text {path : Path} (plain : ∀ name ∈ path, Plain name) :
    steps (text path) = path.map .down := by
  by_cases below : path = []
  · subst below
    rfl
  · have names : (path.map String.toList).filterMap stepOf? = path.map .down := by
      rw [List.filterMap_map, ← List.filterMap_eq_map]
      exact List.filterMap_congr fun name among => stepOf?_plain (plain name among)
    rw [steps_eq, parts_text below plain, List.filterMap_cons, names]
    rfl

theorem normal?_text {path : Path} (plain : ∀ name ∈ path, Plain name) :
    normal? (text path) = some path := by
  rw [normal?, steps_text plain, follow_names, List.nil_append]

theorem plain_of_normal? {written : String} {path : Path} (normal : normal? written = some path) :
    ∀ name ∈ path, Plain name := by
  obtain ⟨kept, new, rfl, onWay, plain⟩ :=
    (follow_eq_some_iff.mp normal).plain (parts_whole written)
  obtain rfl := List.prefix_nil.mp onWay
  exact plain

/-! ### Steps above the top -/

/-- More steps lead up than down. -/
def Overdrawn (taken : List Step) : Prop := taken.countP (· != .up) < taken.count .up

private theorem exists_prefix_cons {step : Step} {rest : List Step} {holds : List Step → Prop}
    (start : ¬ holds []) :
    (∃ taken, taken <+: step :: rest ∧ holds taken) ↔
      ∃ taken, taken <+: rest ∧ holds (step :: taken) := by
  constructor
  · rintro ⟨taken, onWay, so⟩
    rcases List.prefix_cons_iff.mp onWay with rfl | ⟨later, rfl, among⟩
    · exact absurd so start
    · exact ⟨later, among, so⟩
  · rintro ⟨taken, onWay, so⟩
    exact ⟨step :: taken, (List.prefix_cons_inj step).mpr onWay, so⟩

/-- Steps from a place fail when at some moment those that led up use up its names and those that
were taken down before. -/
theorem climb_eq_none_iff (names : List String) (steps : List Step) :
    climb names steps = none ↔
      ∃ taken, taken <+: steps ∧ names.length + taken.countP (· != .up) < taken.count .up := by
  induction steps generalizing names with
  | nil => simp [climb]
  | cons step rest ih =>
    rw [exists_prefix_cons (by simp)]
    cases step with
    | down name =>
      rw [climb, ih]
      simp [Nat.add_assoc, Nat.add_comm 1]
    | up =>
      cases names with
      | nil => simpa [climb] using ⟨[], by simp⟩
      | cons name names =>
        rw [climb, ih]
        simp only [List.length_cons, List.countP_cons, List.count_cons, bne_self_eq_false, BEq.rfl,
          Bool.false_eq_true, if_true, if_false, Nat.add_zero, Nat.add_right_comm _ 1,
          Nat.add_lt_add_iff_right]

theorem normal?_eq_none_iff {written : String} :
    normal? written = none ↔ ∃ taken, taken <+: steps written ∧ Overdrawn taken := by
  rw [normal?, follow, Option.map_eq_none_iff, List.reverse_nil, climb_eq_none_iff]
  simp [Overdrawn]

/-! ### Lengths -/

theorem LeadsTo.sublist {start path : Path} {among : List (List Char)}
    (leads : LeadsTo start among path) :
    (path.map String.toList).Sublist (start.map String.toList ++ among) := by
  induction leads with
  | done => simp
  | stay _ _ ih => exact ih.trans ((List.sublist_cons_self _ _).append_left _)
  | up _ ih =>
    refine ih.trans ?_
    rw [List.map_append]
    exact (List.sublist_append_left _ _).append (List.sublist_cons_self _ _)
  | down _ _ ih => simpa using ih

theorem utf8ByteSize_intercalate (name : String) (names : List String) :
    (String.intercalate "/" (name :: names)).utf8ByteSize + 1 =
      ((name :: names).map (·.utf8ByteSize + 1)).sum := by
  induction names generalizing name with
  | nil => simp
  | cons next names ih =>
    have later := ih next
    rw [String.intercalate_cons_cons, List.map_cons, List.sum_cons, ← later]
    simp only [String.utf8ByteSize_append]
    have slash : "/".utf8ByteSize = 1 := rfl
    omega

theorem utf8ByteSize_intercalate_le {names others : List String} (fewer : names.Sublist others) :
    (String.intercalate "/" names).utf8ByteSize ≤ (String.intercalate "/" others).utf8ByteSize := by
  cases names with
  | nil => simp
  | cons name names =>
    obtain ⟨other, others, rfl⟩ := List.exists_cons_of_ne_nil
      (List.ne_nil_of_mem (fewer.subset List.mem_cons_self))
    have sums := (fewer.map (·.utf8ByteSize + 1)).sum_le_sum fun _ _ => Nat.zero_le _
    rw [← utf8ByteSize_intercalate, ← utf8ByteSize_intercalate] at sums
    omega

theorem mem_intercalate {letter : Char} (other : letter ≠ '/') {among : List (List Char)} :
    letter ∈ ['/'].intercalate among ↔ ∃ part ∈ among, letter ∈ part := by
  induction among with
  | nil => simp
  | cons part among ih =>
    cases among with
    | nil => simp
    | cons next among =>
      rw [List.intercalate_cons_cons, List.mem_append, ih]
      simp [other]

/-- The letters of a text other than slashes stand in its parts. -/
theorem mem_parts_iff {letter : Char} (other : letter ≠ '/') {written : String} :
    letter ∈ written.toList ↔ ∃ part ∈ parts written, letter ∈ part := by
  rw [← mem_intercalate other, parts, List.intercalate_splitOn]

/-- A normal form is no longer than the text that it is the form of. -/
theorem byteLength_normal {written : String} {path : Path} (absolute : isAbsolute written = true)
    (normal : normal? written = some path) : byteLength (text path) ≤ byteLength written := by
  obtain ⟨rest, letters⟩ : ∃ rest, written.toList = '/' :: rest :=
    List.head?_eq_some_iff.mp (by simpa [isAbsolute] using absolute)
  have cut : parts written = [] :: parts (String.ofList rest) := by
    have behind : written.toList = "".toList ++ '/' :: (String.ofList rest).toList := by
      simpa using letters
    exact parts_append_slash behind
  -- The empty part before the first slash is no step.
  have leads : LeadsTo [] (parts (String.ofList rest)) path := by
    rw [normal?, steps_eq, cut] at normal
    exact leadsTo_of_follow normal
  have fewer : path.Sublist ((parts (String.ofList rest)).map String.ofList) := by
    simpa [Function.comp_def] using leads.sublist.map String.ofList
  have joined : written =
      "/" ++ String.intercalate "/" ((parts (String.ofList rest)).map String.ofList) := by
    rw [← String.toList_inj, String.toList_append, String.toList_intercalate, letters]
    simp [Function.comp_def, parts, List.intercalate_splitOn]
  have sizes := utf8ByteSize_intercalate_le fewer
  rw [joined, byteLength, byteLength, text, String.utf8ByteSize_append, String.utf8ByteSize_append]
  omega

end Path

/-! ### Walking along a text -/

/-- A step of a path text as a move of a search. -/
def Move.ofStep : Path.Step → Move
  | .down name => .down name
  | .up => .up

/-- Finds what a text leads to that starts at the top of the filesystem, step by step. Empty parts and
single dots are passed over, also behind a file. -/
def walk (tree : Tree) (followLast : Bool) (written : String) : Except Fault Landing :=
  if written.toList.contains '\x00' then .error .nulInName
  else if pathBound ≤ byteLength written then .error .nameTooLong
  else search tree (.look followLast) maxLinks [] ((Path.steps written).map .ofStep)

/-- Without links, the steps of a search lead where they lead without a look at the files. -/
theorem Reaches.follows {tree : Tree} {followLast : Bool} {links : Nat} {directory path : Path}
    {steps : List Path.Step} {landing : Landing} (unlinked : tree.Unlinked)
    (reaches : Reaches tree followLast links directory (steps.map .ofStep) landing)
    (follows : Path.follow directory steps = some path)
    (above : ∀ place, place <+: directory → tree.find? place = some .directory) :
    (∀ place, place <+: path → place ≠ path → tree.find? place = some .directory) ∧
      Arrives tree path landing := by
  -- Each step hands on to the next that directories lead to where it went.
  induction steps generalizing directory with
  | nil =>
    obtain rfl := Option.some.inj ((Path.follow_nil _).symm.trans follows)
    cases reaches
    exact ⟨fun place onWay _ => above place onWay, .node (above _ List.prefix_rfl)⟩
  | cons step rest ih =>
    cases step with
    | up =>
      have further : Reaches tree followLast links directory.dropLast (rest.map .ofStep) landing := by
        cases reaches with
        | up further => exact further
      rcases directory.eq_nil_or_concat with rfl | ⟨shorter, name, rfl⟩
      · cases follows
      · rw [List.concat_eq_append] at follows above further
        rw [Path.follow_up] at follows
        rw [List.dropLast_concat] at further
        exact ih further follows fun place onWay =>
          above place (onWay.trans (List.prefix_append _ _))
    | down name =>
      rw [Path.follow_down] at follows
      rw [List.map_cons, Move.ofStep, reaches_down_iff (unlinked _)] at reaches
      obtain ⟨-, ⟨stands, further⟩ | ⟨last, -, arrives⟩⟩ := reaches
      · refine ih further follows fun place onWay => ?_
        rcases List.prefix_concat_iff.mp onWay with rfl | before
        · exact stands
        · exact above place before
      · obtain rfl := List.map_eq_nil_iff.mp last
        obtain rfl := Option.some.inj ((Path.follow_nil _).symm.trans follows)
        refine ⟨fun place onWay other => ?_, arrives⟩
        exact above place ((List.prefix_concat_iff.mp onWay).resolve_left other)

theorem walk_eq_ok_iff {tree : Tree} {followLast : Bool} {written : String} {landing : Landing} :
    walk tree followLast written = .ok landing ↔
      '\x00' ∉ written.toList ∧ byteLength written < pathBound ∧
        Reaches tree followLast maxLinks [] ((Path.steps written).map .ofStep) landing := by
  unfold walk
  constructor
  · intro found
    split at found
    next => cases found
    next clean =>
      split at found
      next => cases found
      next short => exact ⟨by simpa using clean, Nat.lt_of_not_le short, .of_search found⟩
  · rintro ⟨clean, short, reaches⟩
    rw [if_neg (by simpa using clean), if_neg (Nat.not_le.mpr short), reaches.search_eq]

/-- Every name of a normal form is a step of the text. -/
theorem Path.down_mem_of_normal? {written : String} {path : Path}
    (normal : Path.normal? written = some path) :
    ∀ name ∈ path, name.toList ∈ Path.parts written ∧ .down name ∈ Path.steps written := by
  intro name among
  have part : name.toList ∈ Path.parts written :=
    (Path.follow_eq_some_iff.mp normal).sublist.subset (List.mem_map_of_mem among)
  refine ⟨part, ?_⟩
  rw [Path.steps_eq]
  exact List.mem_filterMap.mpr
    ⟨_, part, Path.stepOf?_plain (Path.plain_of_normal? normal name among)⟩

theorem walk_text (tree : Tree) (followLast : Bool) {path : Path}
    (plain : ∀ name ∈ path, Path.Plain name) :
    walk tree followLast (Path.text path) = locate tree followLast path := by
  have clean : (Path.text path).toList.contains '\x00' =
      path.any (·.toList.contains '\x00') := by
    rw [Bool.eq_iff_iff, Path.toList_text, List.contains_iff_mem, List.mem_cons,
      Path.mem_intercalate (by decide)]
    simp
  have down : (path.map Path.Step.down).map Move.ofStep = path.map .down := by
    simp [Move.ofStep]
  rw [walk, locate, locateFor, Path.steps_text plain, down, clean]

theorem locate_normal {tree : Tree} {followLast : Bool} {written : String} {path : Path}
    {landing : Landing} (unlinked : tree.Unlinked) (absolute : Path.isAbsolute written = true)
    (normal : Path.normal? written = some path)
    (walked : walk tree followLast written = .ok landing) :
    locate tree followLast path = .ok landing := by
  obtain ⟨clean, short, reaches⟩ := walk_eq_ok_iff.mp walked
  obtain ⟨directories, arrives⟩ := reaches.follows unlinked normal fun place onWay => by
    rw [List.prefix_nil.mp onWay, Tree.find?_nil]
  have among := Path.down_mem_of_normal? normal
  refine (locate_clear_iff fun place target _ => unlinked place target).mpr
    ⟨⟨?_, ?_, ?_⟩, directories, arrives⟩
  · rw [List.any_eq_false]
    intro name member nul
    refine clean ((Path.mem_parts_iff (by decide)).mpr ⟨_, (among name member).1, ?_⟩)
    simpa using nul
  · exact (Path.byteLength_normal absolute normal).trans_lt short
  · exact fun name member => reaches.short_of_mem (List.mem_map_of_mem (among name member).2)

/-! ### The laws -/

/-- What a normal form has to do with the text that it is the form of. -/
structure NormalForm (written : String) (path : Path) : Prop where
  absolute : Path.isAbsolute path.text = true
  /-- No part of it leads up or stays. -/
  straight : ∀ part ∈ Path.parts path.text, part ≠ ['.'] ∧ part ≠ ['.', '.']
  again : Path.normal? path.text = some path
  /-- A relative text may be put behind either of the two, and its steps may as well be taken from the
  path itself. -/
  joined : ∀ added, Path.isAbsolute added = false →
    Path.normal? (Path.join written added) = Path.normal? (Path.join path.text added) ∧
      Path.normal? (Path.join written added) = Path.follow path (Path.steps added)
  /-- In a sandbox whose root has this form, a text resolves to the form of the root's text with it
  behind. -/
  resolved : ∀ (boundary : Boundary) added action place, boundary.root = path →
    (boundary.resolve added action).outcome = .ok place →
    Path.normal? (Path.join written added) = some place
  /-- Without links, whoever walks along the text gets to the same place along the form. -/
  walked : ∀ (tree : Tree) followLast landing, tree.Unlinked →
    walk tree followLast written = .ok landing → walk tree followLast path.text = .ok landing

theorem straight_text {path : Path} (plain : ∀ name ∈ path, Path.Plain name) :
    ∀ part ∈ Path.parts path.text, part ≠ ['.'] ∧ part ≠ ['.', '.'] := by
  by_cases below : path = []
  · subst below
    decide
  · rw [Path.parts_text below plain, List.forall_mem_cons]
    refine ⟨by decide, fun part member => ?_⟩
    obtain ⟨name, among, rfl⟩ := List.mem_map.mp member
    have named := (plain name among).named
    simp only [List.mem_cons, List.not_mem_nil, or_false, not_or, ← String.toList_inj] at named
    exact named.2

/-- A text from the top of the filesystem has a normal form unless some beginning of it leads up more
often than down, and the form can stand for the text. -/
theorem normal_form_stands_for_text {written : String} (absolute : Path.isAbsolute written = true) :
    (∀ path, Path.normal? written = some path → NormalForm written path) ∧
      (Path.normal? written = none ↔
        ∃ taken, taken <+: Path.steps written ∧ Path.Overdrawn taken) := by
  refine ⟨fun path normal => ?_, Path.normal?_eq_none_iff⟩
  have plain := Path.plain_of_normal? normal
  have again := Path.normal?_text plain
  constructor
  case absolute => exact Path.isAbsolute_text path
  case straight => exact straight_text plain
  case again => exact again
  case joined =>
    intro added relative
    rw [Path.normal?_join written relative, Path.normal?_join path.text relative, normal, again]
    exact ⟨rfl, rfl⟩
  case resolved =>
    rintro boundary added action place rfl resolved
    obtain ⟨-, relative, leads, -⟩ :=
      (boundary.resolve_resolved added action).allowed_iff.mp resolved
    rw [Path.normal?_join written relative, normal]
    exact Path.follow_eq_some_iff.mpr leads
  case walked =>
    intro tree followLast landing unlinked walked
    rw [walk_text tree followLast plain]
    exact locate_normal unlinked absolute normal walked

/-! ### A detour -/

namespace Detour

def written : String := "/home/./old/../box//"

def tree : Tree where
  nodes := [(["home"], .directory), (["home", "old"], .directory), (["home", "box"], .directory)]
  distinct := by decide

theorem unlinked : tree.Unlinked := by
  intro place target link
  by_cases top : place = []
  · subst top
    cases link
  · have among := (tree.mem_nodes_iff top _).mpr link
    simp [tree] at among

/-- The way through another directory and back is left out, and leads to the same directory. -/
theorem detour_left_out : Path.isAbsolute written = true ∧
    Path.normal? written = some ["home", "box"] ∧ tree.Unlinked ∧
    walk tree true written = .ok (.node ["home", "box"] .directory) ∧
    walk tree true (Path.text ["home", "box"]) = .ok (.node ["home", "box"] .directory) := by
  have absolute : Path.isAbsolute written = true := rfl
  have normal : Path.normal? written = some ["home", "box"] := rfl
  have walked : walk tree true written = .ok (.node ["home", "box"] .directory) := by rfl
  have form := (normal_form_stands_for_text absolute).1 _ normal
  exact ⟨absolute, normal, unlinked, walked, form.walked tree true _ unlinked walked⟩

example : Path.normal? "/home/../../box" = none := rfl

end Detour

end ScriptSandbox.Files
