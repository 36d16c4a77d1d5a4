import Mathlib.Data.List.Infix
import ScriptSandbox.Proofs.Files.Search

/-!
# Searches through links

How a search gets to its end: the moves that it makes, and the links that it goes through. Moves that
lead to a directory can be followed by more, and a search along many moves can be cut at any of them.
Where no link stands on the way, a search goes from directory to directory straight to its end.
-/
namespace ScriptSandbox.Files

/-! ### Searches -/

/-- How a search gets from a directory by some moves to its end, through at most so many links. -/
inductive Reaches (tree : Tree) (followLast : Bool) :
    Nat → Path → List Move → Landing → Prop where
  | done {links : Nat} {directory : Path} :
      Reaches tree followLast links directory [] (.node directory .directory)
  | up {links : Nat} {directory : Path} {rest : List Move} {landing : Landing}
      (further : Reaches tree followLast links directory.dropLast rest landing) :
      Reaches tree followLast links directory (.up :: rest) landing
  | stay {links : Nat} {directory : Path} {slash : Bool} {rest : List Move} {landing : Landing}
      (further : Reaches tree followLast links directory rest landing) :
      Reaches tree followLast links directory (.stay slash :: rest) landing
  | vacant {links : Nat} {directory : Path} {name : String} (short : byteLength name ≤ maxName)
      (free : tree.find? (directory ++ [name]) = none) :
      Reaches tree followLast links directory [.down name] (.vacant directory name)
  | file {links : Nat} {directory : Path} {name : String} {content : Bytes}
      (short : byteLength name ≤ maxName)
      (stands : tree.find? (directory ++ [name]) = some (.file content)) :
      Reaches tree followLast links directory [.down name]
        (.node (directory ++ [name]) (.file content))
  | down {links : Nat} {directory : Path} {name : String} {rest : List Move}
      {landing : Landing} (short : byteLength name ≤ maxName)
      (stands : tree.find? (directory ++ [name]) = some .directory)
      (further : Reaches tree followLast links (directory ++ [name]) rest landing) :
      Reaches tree followLast links directory (.down name :: rest) landing
  | link {links : Nat} {directory : Path} {name target : String} (short : byteLength name ≤ maxName)
      (stands : tree.find? (directory ++ [name]) = some (.link target))
      (unfollowed : followLast = false) :
      Reaches tree followLast links directory [.down name]
        (.node (directory ++ [name]) (.link target))
  | through {links : Nat} {directory : Path} {name target : String} {rest : List Move}
      {landing : Landing} (short : byteLength name ≤ maxName)
      (stands : tree.find? (directory ++ [name]) = some (.link target))
      (followed : rest ≠ [] ∨ followLast = true)
      (further : Reaches tree followLast links (if Path.isAbsolute target then [] else directory)
        (moves target ++ rest) landing) :
      Reaches tree followLast (links + 1) directory (.down name :: rest) landing

/-- How a search gets to its end from where it pauses, through at most so many links. -/
def Pause.LeadsTo (tree : Tree) (followLast : Bool) (landing : Landing) : Nat → Pause → Prop
  | _, .landed found => landing = found
  | 0, .atLink .. => False
  | links + 1, .atLink directory target rest =>
    Reaches tree followLast links (if Path.isAbsolute target then [] else directory)
      (moves target ++ rest) landing

/-! ### The moves of a search -/

section Moves

variable {tree : Tree} {aim : Aim} {followLast : Bool} {links : Nat} {directory : Path}
  {name target : String} {rest : List Move}

theorem search_up : search tree aim links directory (.up :: rest) =
    search tree aim links directory.dropLast rest := by
  unfold search
  rw [advance]

theorem search_stay {slash : Bool} : search tree aim links directory (.stay slash :: rest) =
    search tree aim links directory rest := by
  unfold search
  rw [advance]

private theorem advance_down (short : byteLength name ≤ maxName) :
    advance tree (.look followLast) directory (.down name :: rest) =
      match tree.find? (directory ++ [name]) with
      | none => if rest.isEmpty then .ok (.landed (.vacant directory name)) else .error .notFound
      | some .directory => advance tree (.look followLast) (directory ++ [name]) rest
      | some (.file content) =>
        if rest.isEmpty then .ok (.landed (.node (directory ++ [name]) (.file content)))
        else .error .notDirectory
      | some (.link target) =>
        if rest.isEmpty && !followLast then
          .ok (.landed (.node (directory ++ [name]) (.link target)))
        else .ok (.atLink directory target rest) := by
  rw [advance, if_neg (by simp), if_neg (Nat.not_lt.mpr short)]
  rfl

theorem search_missing (short : byteLength name ≤ maxName)
    (free : tree.find? (directory ++ [name]) = none) :
    search tree (.look followLast) links directory (.down name :: rest) =
      if rest.isEmpty then .ok (.vacant directory name) else .error .notFound := by
  unfold search
  rw [advance_down short]
  simp only [free]
  cases rest <;> rfl

theorem search_file {content : Bytes} (short : byteLength name ≤ maxName)
    (stands : tree.find? (directory ++ [name]) = some (.file content)) :
    search tree (.look followLast) links directory [.down name] =
      .ok (.node (directory ++ [name]) (.file content)) := by
  unfold search
  rw [advance_down short]
  simp only [stands]
  rfl

theorem search_directory (short : byteLength name ≤ maxName)
    (stands : tree.find? (directory ++ [name]) = some .directory) :
    search tree (.look followLast) links directory (.down name :: rest) =
      search tree (.look followLast) links (directory ++ [name]) rest := by
  unfold search
  rw [advance_down short]
  simp only [stands]

theorem search_link (short : byteLength name ≤ maxName)
    (stands : tree.find? (directory ++ [name]) = some (.link target)) :
    search tree (.look false) links directory [.down name] =
      .ok (.node (directory ++ [name]) (.link target)) := by
  unfold search
  rw [advance_down short]
  simp only [stands]
  rfl

theorem search_through (short : byteLength name ≤ maxName)
    (stands : tree.find? (directory ++ [name]) = some (.link target))
    (followed : rest ≠ [] ∨ followLast = true) :
    search tree (.look followLast) (links + 1) directory (.down name :: rest) =
      search tree (.look followLast) links (if Path.isAbsolute target then [] else directory)
        (moves target ++ rest) := by
  have goesOn : ¬ (rest.isEmpty && !followLast) = true := by
    simpa [imp_iff_not_or] using followed
  conv => lhs; unfold search
  rw [advance_down short]
  simp only [stands, if_neg goesOn]

end Moves

namespace Reaches

variable {tree before after : Tree} {aim : Aim} {followLast : Bool} {links : Nat} {directory : Path}
  {steps : List Move} {landing larger : Landing}

theorem of_advance {pause : Pause} (paused : advance tree aim directory steps = .ok pause)
    (leads : pause.LeadsTo tree aim.followsLast landing links) :
    Reaches tree aim.followsLast links directory steps landing := by
  -- Along the moves, as the search advances; it pauses at a link, from where `leads` goes on.
  induction steps generalizing directory with
  | nil =>
    obtain rfl := Except.ok.inj paused
    obtain rfl := leads
    exact .done
  | cons step rest ih =>
    cases step with
    | up => exact .up (ih paused)
    | stay slash => exact .stay (ih paused)
    | down name =>
      simp only [advance] at paused
      split at paused
      next => cases paused
      next =>
        split at paused
        next => cases paused
        next notLong =>
          have short := Nat.le_of_not_lt notLong
          split at paused
          next free =>
            split at paused
            next last =>
              obtain rfl := Except.ok.inj paused
              obtain rfl := List.isEmpty_iff.mp last
              obtain rfl := leads
              exact .vacant short free
            next => cases paused
          next stands => exact .down short stands (ih paused)
          next stands =>
            split at paused
            next last =>
              obtain rfl := Except.ok.inj paused
              obtain rfl := List.isEmpty_iff.mp last
              obtain rfl := leads
              exact .file short stands
            next => cases paused
          next stands =>
            split at paused
            next last =>
              obtain ⟨empty, unfollowed⟩ := Bool.and_eq_true_iff.mp last
              obtain rfl := Except.ok.inj paused
              obtain rfl := List.isEmpty_iff.mp empty
              obtain rfl := leads
              exact .link short stands (by simpa using unfollowed)
            next goesOn =>
              obtain rfl := Except.ok.inj paused
              cases links with
              | zero => cases leads
              | succ links =>
                refine .through short stands ?_ leads
                simpa [imp_iff_not_or] using goesOn

theorem of_search (found : search tree aim links directory steps = .ok landing) :
    Reaches tree aim.followsLast links directory steps landing := by
  induction links generalizing directory steps with
  | zero =>
    unfold search at found
    split at found
    next => cases found
    next paused => exact of_advance paused (Except.ok.inj found).symm
    next => cases found
  | succ links ih =>
    unfold search at found
    split at found
    next => cases found
    next paused => exact of_advance paused (Except.ok.inj found).symm
    next paused => exact of_advance paused (ih found)

theorem search_eq (reaches : Reaches tree followLast links directory steps landing) :
    search tree (.look followLast) links directory steps = .ok landing := by
  induction reaches with
  | done => rw [search, advance]
  | up _ ih => rw [search_up, ih]
  | stay _ ih => rw [search_stay, ih]
  | vacant short free => exact search_missing short free
  | file short stands => exact search_file short stands
  | down short stands _ ih => rw [search_directory short stands, ih]
  | link short stands unfollowed =>
    subst unfollowed
    exact search_link short stands
  | through short stands followed _ ih => rw [search_through short stands followed, ih]

/-- A name where a search ends is free. -/
theorem free (reaches : Reaches tree followLast links directory steps landing) {place : Path}
    {name : String} (ends : landing = .vacant place name) : tree.find? (place ++ [name]) = none := by
  induction reaches with
  | vacant short free =>
    cases ends
    exact free
  | done | file | link => cases ends
  | up _ ih | stay _ ih | down _ _ _ ih | through _ _ _ _ ih => exact ih ends

/-- Where a search ends that stops at links, a search ends that follows them, unless it is a link. -/
theorem followed (reaches : Reaches tree false links directory steps landing)
    (other : ∀ place target, landing ≠ .node place (.link target)) :
    Reaches tree true links directory steps landing := by
  induction reaches with
  | done => exact .done
  | up _ ih => exact .up (ih other)
  | stay _ ih => exact .stay (ih other)
  | vacant short free => exact .vacant short free
  | file short stands => exact .file short stands
  | down short stands _ ih => exact .down short stands (ih other)
  | link => exact absurd rfl (other _ _)
  | through short stands _ _ ih => exact .through short stands (.inr rfl) (ih other)

end Reaches

namespace Reaches

variable {tree : Tree} {followLast : Bool} {links : Nat} {directory place : Path}
  {steps first rest : List Move} {landing other : Landing}

/-- More links may be followed than are met. -/
theorem mono {more : Nat} (reaches : Reaches tree followLast links directory steps landing)
    (most : links ≤ more) : Reaches tree followLast more directory steps landing := by
  induction reaches generalizing more with
  | done => exact .done
  | up _ ih => exact .up (ih most)
  | stay _ ih => exact .stay (ih most)
  | vacant short free => exact .vacant short free
  | file short stands => exact .file short stands
  | down short stands _ ih => exact .down short stands (ih most)
  | link short stands unfollowed => exact .link short stands unfollowed
  | through short stands followed _ ih =>
    obtain ⟨more, rfl⟩ := Nat.exists_eq_add_of_le' (Nat.lt_of_lt_of_le (Nat.succ_pos _) most)
    exact .through short stands followed (ih (Nat.le_of_succ_le_succ most))

/-- A search has one end. -/
theorem unique {links' : Nat} (left : Reaches tree followLast links directory steps landing)
    (right : Reaches tree followLast links' directory steps other) : landing = other := by
  have found := (left.mono (Nat.le_max_left links links')).search_eq
  rw [(right.mono (Nat.le_max_right links links')).search_eq] at found
  exact (Except.ok.inj found).symm

/-- Moves that lead to a directory can be followed by more moves from there. -/
theorem append (leads : Reaches tree true links directory first (.node place .directory))
    (goesOn : rest ≠ [] ∨ followLast = true)
    (further : Reaches tree followLast 0 place rest landing) :
    Reaches tree followLast links directory (first ++ rest) landing := by
  generalize ends : Landing.node place .directory = middle at leads
  induction leads with
  | done =>
    cases ends
    exact further.mono (Nat.zero_le _)
  | up _ ih => exact .up (ih ends)
  | stay _ ih => exact .stay (ih ends)
  | vacant | file | link => cases ends
  | down short stands _ ih => exact .down short stands (ih ends)
  | through short stands _ _ ih =>
    -- The moves along the target come first, and what follows the link comes behind them.
    have whole := ih ends
    rw [List.append_assoc] at whole
    refine .through short stands (goesOn.imp_left fun more => ?_) whole
    exact fun nothing => more (List.append_eq_nil_iff.mp nothing).2

private theorem cut_singleton {step : Move} (whole : first ++ rest = [step]) (more : rest ≠ []) :
    first = [] ∧ rest = [step] :=
  (List.append_eq_singleton_iff.mp whole).resolve_right fun last => more last.2

/-- A search along many moves can be cut at any of them: the moves before lead to a directory, and
the others go on from there with the links that are left. -/
theorem split (reaches : Reaches tree followLast links directory (first ++ rest) landing)
    (more : rest ≠ []) :
    ∃ place left, left ≤ links ∧ Reaches tree true links directory first (.node place .directory) ∧
      Reaches tree followLast left place rest landing := by
  -- In each case the cut comes before the move that is made, or among those that follow it.
  generalize whole : first ++ rest = steps at reaches
  induction reaches generalizing first with
  | done => exact absurd (List.append_eq_nil_iff.mp whole).2 more
  | up further ih =>
    rcases List.append_eq_cons_iff.mp whole with ⟨rfl, rfl⟩ | ⟨later, rfl, rfl⟩
    · exact ⟨_, _, Nat.le_refl _, .done, .up further⟩
    · obtain ⟨place, left, within, before, after⟩ := ih rfl
      exact ⟨place, left, within, .up before, after⟩
  | stay further ih =>
    rcases List.append_eq_cons_iff.mp whole with ⟨rfl, rfl⟩ | ⟨later, rfl, rfl⟩
    · exact ⟨_, _, Nat.le_refl _, .done, .stay further⟩
    · obtain ⟨place, left, within, before, after⟩ := ih rfl
      exact ⟨place, left, within, .stay before, after⟩
  | vacant short free =>
    obtain ⟨rfl, rfl⟩ := cut_singleton whole more
    exact ⟨_, _, Nat.le_refl _, .done, .vacant short free⟩
  | file short stands =>
    obtain ⟨rfl, rfl⟩ := cut_singleton whole more
    exact ⟨_, _, Nat.le_refl _, .done, .file short stands⟩
  | down short stands further ih =>
    rcases List.append_eq_cons_iff.mp whole with ⟨rfl, rfl⟩ | ⟨later, rfl, rfl⟩
    · exact ⟨_, _, Nat.le_refl _, .done, .down short stands further⟩
    · obtain ⟨place, left, within, before, after⟩ := ih rfl
      exact ⟨place, left, within, .down short stands before, after⟩
  | link short stands unfollowed =>
    obtain ⟨rfl, rfl⟩ := cut_singleton whole more
    exact ⟨_, _, Nat.le_refl _, .done, .link short stands unfollowed⟩
  | through short stands followed further ih =>
    rcases List.append_eq_cons_iff.mp whole with ⟨rfl, rfl⟩ | ⟨later, rfl, rfl⟩
    · exact ⟨_, _, Nat.le_refl _, .done, .through short stands followed further⟩
    · obtain ⟨place, left, within, before, after⟩ := ih (List.append_assoc _ _ _)
      exact ⟨place, left, Nat.le_succ_of_le within, .through short stands (.inr rfl) before, after⟩

/-- A search takes names of bounded length only. -/
theorem short_of_mem (reaches : Reaches tree followLast links directory steps landing) {name : String}
    (member : .down name ∈ steps) : byteLength name ≤ maxName := by
  induction reaches with
  | done => cases member
  | up _ ih | stay _ ih => exact ih (by simpa using member)
  | vacant short | file short | link short =>
    obtain rfl : name = _ := by simpa using member
    exact short
  | down short _ _ ih =>
    rcases List.mem_cons.mp member with same | later
    · cases same
      exact short
    · exact ih later
  | through short _ _ _ ih =>
    rcases List.mem_cons.mp member with same | later
    · cases same
      exact short
    · exact ih (List.mem_append_right _ later)

end Reaches

/-! ### Searches that go straight -/

section Straight

variable {tree : Tree} {followLast : Bool} {links : Nat} {directory : Path} {landing : Landing}

theorem reaches_down_iff {name : String} {rest : List Move}
    (noLink : ∀ target, tree.find? (directory ++ [name]) ≠ some (.link target)) :
    Reaches tree followLast links directory (.down name :: rest) landing ↔
      byteLength name ≤ maxName ∧
        ((tree.find? (directory ++ [name]) = some .directory ∧
            Reaches tree followLast links (directory ++ [name]) rest landing) ∨
          (rest = [] ∧ tree.find? (directory ++ [name]) ≠ some .directory ∧
            Arrives tree (directory ++ [name]) landing)) := by
  constructor
  · intro reaches
    -- The search goes on in a directory or ends here, since there is no link to go through.
    cases reaches with
    | vacant short free => exact ⟨short, .inr ⟨rfl, by simp [free], .vacant rfl free⟩⟩
    | file short stands => exact ⟨short, .inr ⟨rfl, by simp [stands], .node stands⟩⟩
    | down short stands further => exact ⟨short, .inl ⟨stands, further⟩⟩
    | link short stands | through short stands => exact absurd stands (noLink _)
  · rintro ⟨short, ⟨stands, further⟩ | ⟨rfl, other, arrives⟩⟩
    · exact .down short stands further
    · cases arrives with
      | @node node stands =>
        cases node with
        | file content => exact .file short stands
        | directory => exact absurd stands other
        | link target => exact absurd stands (noLink target)
      | vacant ends free =>
        obtain ⟨rfl, rfl⟩ := List.append_singleton_inj.mp ends
        exact .vacant short free

/-- Where no link stands below a directory on the way, a search goes through directories to the path
itself. -/
theorem reaches_straight_iff {names : List String}
    (stands : tree.find? directory = some .directory)
    (clear : ∀ taken target, taken <+: names →
      tree.find? (directory ++ taken) ≠ some (.link target)) :
    Reaches tree followLast links directory (names.map .down) landing ↔
      (∀ name ∈ names, byteLength name ≤ maxName) ∧
        (∀ taken, taken <+: names → taken ≠ names →
          tree.find? (directory ++ taken) = some .directory) ∧
        Arrives tree (directory ++ names) landing := by
  induction names generalizing directory with
  | nil =>
    simp only [List.map_nil, List.append_nil]
    constructor
    · rintro ⟨⟩
      refine ⟨by simp, fun taken nothing other => ?_, .node stands⟩
      exact absurd (List.prefix_nil.mp nothing) other
    · rintro ⟨-, -, arrives⟩
      cases arrives with
      | node same =>
        obtain rfl := Option.some.inj (stands.symm.trans same)
        exact .done
      | vacant ends free => simp [stands] at free
  | cons name names ih =>
    have next (taken : List String) : directory ++ name :: taken = directory ++ [name] ++ taken := by
      simp
    have noLink (target : String) : tree.find? (directory ++ [name]) ≠ some (.link target) :=
      clear [name] target (by simp)
    have further (here : tree.find? (directory ++ [name]) = some .directory) :=
      ih here fun taken target onWay => by
        rw [← next]
        exact clear (name :: taken) target ((List.prefix_cons_inj name).mpr onWay)
    rw [List.map_cons, reaches_down_iff noLink, next names]
    constructor
    · rintro ⟨short, ⟨here, reaches⟩ | ⟨last, -, arrives⟩⟩
      · obtain ⟨shorter, directories, arrives⟩ := (further here).mp reaches
        refine ⟨List.forall_mem_cons.mpr ⟨short, shorter⟩, fun taken onWay other => ?_, arrives⟩
        rcases List.prefix_cons_iff.mp onWay with rfl | ⟨later, rfl, among⟩
        · simpa using stands
        · rw [next]
          exact directories later among fun whole => other (by rw [whole])
      · -- The search ends at this name, so the only beginning before it is the directory.
        obtain rfl := List.map_eq_nil_iff.mp last
        refine ⟨by simpa using short, fun taken onWay other => ?_, by simpa using arrives⟩
        rcases List.prefix_cons_iff.mp onWay with rfl | ⟨later, rfl, among⟩
        · simpa using stands
        · exact absurd (congrArg (name :: ·) (List.prefix_nil.mp among)) other
    · rintro ⟨short, directories, arrives⟩
      obtain ⟨first, others⟩ := List.forall_mem_cons.mp short
      refine ⟨first, ?_⟩
      by_cases here : tree.find? (directory ++ [name]) = some .directory
      · refine .inl ⟨here, (further here).mpr ⟨others, fun taken onWay other => ?_, arrives⟩⟩
        rw [← next]
        exact directories _ ((List.prefix_cons_inj name).mpr onWay) fun whole =>
          other (List.cons.inj whole).2
      · -- Only the last name may lead to something else than a directory.
        have last : names = [] := by
          refine Classical.byContradiction fun more => here ?_
          exact directories [name] (by simp) fun whole => more (List.cons.inj whole).2.symm
        subst last
        exact .inr ⟨rfl, here, by simpa using arrives⟩

end Straight

theorem locateFor_eq_ok_iff {tree : Tree} {aim : Aim} {path : Path} {landing : Landing} :
    locateFor aim tree path = .ok landing ↔
      path.any (·.toList.contains '\x00') = false ∧ byteLength path.text < pathBound ∧
        search tree aim maxLinks [] (path.map .down) = .ok landing := by
  unfold locateFor
  constructor
  · intro found
    split at found
    next => cases found
    next clean =>
      split at found
      next => cases found
      next short => exact ⟨Bool.eq_false_iff.mpr clean, Nat.lt_of_not_le short, found⟩
  · rintro ⟨clean, short, found⟩
    rw [if_neg (Bool.eq_false_iff.mp clean), if_neg (Nat.not_le.mpr short), found]

theorem locate_eq_ok_iff {tree : Tree} {followLast : Bool} {path : Path} {landing : Landing} :
    locate tree followLast path = .ok landing ↔
      path.any (·.toList.contains '\x00') = false ∧ byteLength path.text < pathBound ∧
        Reaches tree followLast maxLinks [] (path.map .down) landing := by
  rw [locate, locateFor_eq_ok_iff]
  exact and_congr_right fun _ => and_congr_right fun _ => ⟨.of_search, fun reaches => reaches.search_eq⟩

/-- Where a file may be put, the path leads for those who look as well. -/
theorem locate_of_create {tree : Tree} {path : Path} {landing : Landing}
    (found : locateFor .create tree path = .ok landing) : locate tree true path = .ok landing := by
  obtain ⟨clean, short, searched⟩ := locateFor_eq_ok_iff.mp found
  exact locate_eq_ok_iff.mpr ⟨clean, short, .of_search searched⟩

/-- A path that a search may take: no name of it holds a null character, and neither a name nor the
whole text is too long. -/
structure Path.Searchable (path : Path) : Prop where
  clean : path.any (·.toList.contains '\x00') = false
  bounded : byteLength path.text < pathBound
  short : ∀ name ∈ path, byteLength name ≤ maxName

/-- Where no link stands on the way, a search finds what stands at the path itself, when directories
lead to it. -/
theorem locate_clear_iff {tree : Tree} {followLast : Bool} {path : Path} {landing : Landing}
    (clear : tree.Clear path) :
    locate tree followLast path = .ok landing ↔
      path.Searchable ∧
        (∀ above, above <+: path → above ≠ path → tree.find? above = some .directory) ∧
        Arrives tree path landing := by
  rw [locate_eq_ok_iff, reaches_straight_iff (Tree.find?_nil tree)
    fun taken target onWay => clear taken target onWay]
  constructor
  · rintro ⟨clean, bounded, short, directories, arrives⟩
    exact ⟨⟨clean, bounded, short⟩, directories, arrives⟩
  · rintro ⟨⟨clean, bounded, short⟩, directories, arrives⟩
    exact ⟨clean, bounded, short, directories, arrives⟩

/-! ### Trees that keep another -/

/-- Whatever stands in a tree stands in another, with the same content or target. -/
def Preserved (before after : Tree) : Prop :=
  ∀ place node, before.find? place = some node → after.find? place = some node

theorem Preserved.refl (tree : Tree) : Preserved tree tree := fun _ _ stands => stands

theorem Preserved.same_or_gone {before after : Tree} (kept : Preserved after before) (place : Path) :
    after.find? place = before.find? place ∨ after.find? place = none := by
  cases left : after.find? place with
  | none => exact .inr rfl
  | some node => exact .inl (kept place node left).symm

theorem Preserved.insert {tree : Tree} {place : Path} (free : tree.find? place = none) (node : Node) :
    Preserved tree (tree.insert place node) := by
  intro other stood stands
  have differ : other ≠ place := by
    rintro rfl
    simp [free] at stands
  rw [tree.find?_insert_of_ne differ, stands]

/-- Where a search ends that ended at a node, or at a name that a directory has now. -/
inductive Landing.Grows (after : Tree) : Landing → Landing → Prop where
  | node {path : Path} {node : Node} : Grows after (.node path node) (.node path node)
  | filled {directory : Path} {name : String}
      (stands : after.find? (directory ++ [name]) = some .directory) :
      Grows after (.vacant directory name) (.node (directory ++ [name]) .directory)

theorem Reaches.grows {before after : Tree} {followLast : Bool} {links : Nat} {directory : Path}
    {steps : List Move} {landing larger : Landing}
    (reaches : Reaches before followLast links directory steps landing)
    (preserved : Preserved before after) (grows : landing.Grows after larger) :
    Reaches after followLast links directory steps larger := by
  induction reaches with
  | done =>
    cases grows
    exact .done
  | up _ ih => exact .up (ih grows)
  | stay _ ih => exact .stay (ih grows)
  | vacant short =>
    -- The one place where a search can end elsewhere: the name is taken by a directory now.
    cases grows with
    | filled stands => exact .down short stands .done
  | file short stands =>
    cases grows
    exact .file short (preserved _ _ stands)
  | down short stands _ ih => exact .down short (preserved _ _ stands) (ih grows)
  | link short stands unfollowed =>
    cases grows
    exact .link short (preserved _ _ stands) unfollowed
  | through short stands followed _ ih =>
    exact .through short (preserved _ _ stands) followed (ih grows)

theorem Preserved.locate {before after : Tree} {followLast : Bool} {path : Path}
    {landing larger : Landing} (preserved : Preserved before after)
    (found : locate before followLast path = .ok landing) (grows : landing.Grows after larger) :
    locate after followLast path = .ok larger := by
  obtain ⟨clean, short, reaches⟩ := locate_eq_ok_iff.mp found
  exact locate_eq_ok_iff.mpr ⟨clean, short, reaches.grows preserved grows⟩

/-- A search ends where another did, or at a name that is free, or it misses what it should go
through. -/
def Misses (landing : Landing) (result : Except Fault Landing) : Prop :=
  result = .ok landing ∨ (∃ directory name, result = .ok (.vacant directory name)) ∨
    result = .error .notFound

/-- Where nodes have been taken away, a search ends as before, or it misses one of them. -/
theorem Reaches.misses {before after : Tree} {followLast : Bool} {links : Nat} {directory : Path}
    {steps : List Move} {landing : Landing}
    (reaches : Reaches before followLast links directory steps landing)
    (kept : Preserved after before) :
    Misses landing (search after (.look followLast) links directory steps) := by
  -- A name on the way stands for what it stood for, or it is free now and ends the search.
  have missing {links : Nat} {directory : Path} {name : String} {rest : List Move}
      {landing : Landing} (short : byteLength name ≤ maxName)
      (free : after.find? (directory ++ [name]) = none) :
      Misses landing (search after (.look followLast) links directory (.down name :: rest)) := by
    rw [search_missing short free]
    split
    · exact .inr (.inl ⟨_, _, rfl⟩)
    · exact .inr (.inr rfl)
  induction reaches with
  | done => exact .inl (by rw [search, advance])
  | up _ ih => rwa [search_up]
  | stay _ ih => rwa [search_stay]
  | vacant short free =>
    rcases kept.same_or_gone _ with same | gone
    · exact missing short (same.trans free)
    · exact missing short gone
  | file short stands =>
    rcases kept.same_or_gone _ with same | gone
    · exact .inl (search_file short (same.trans stands))
    · exact missing short gone
  | down short stands _ ih =>
    rcases kept.same_or_gone _ with same | gone
    · rwa [search_directory short (same.trans stands)]
    · exact missing short gone
  | link short stands unfollowed =>
    subst unfollowed
    rcases kept.same_or_gone _ with same | gone
    · exact .inl (search_link short (same.trans stands))
    · exact missing short gone
  | through short stands followed _ ih =>
    rcases kept.same_or_gone _ with same | gone
    · rwa [search_through short (same.trans stands) followed]
    · exact missing short gone

theorem Preserved.locate_misses {before after : Tree} {followLast : Bool} {path : Path}
    {landing : Landing} (kept : Preserved after before)
    (found : Files.locate before followLast path = .ok landing) :
    Misses landing (Files.locate after followLast path) := by
  obtain ⟨clean, bounded, reaches⟩ := locate_eq_ok_iff.mp found
  have misses := reaches.misses kept
  unfold Files.locate locateFor
  rwa [if_neg (Bool.eq_false_iff.mp clean), if_neg (Nat.not_le.mpr bounded)]

end ScriptSandbox.Files
