import ScriptSandbox.Files.Walk

/-!
# Searches that meet no link

Where no link stands on the way to a path, a search for it goes straight there: it ends at the path
itself, follows nothing, and depends on no node but those on the way.
-/
namespace ScriptSandbox.Files

/-- No link stands at a path or on the way to it. -/
def Tree.Clear (tree : Tree) (path : Path) : Prop :=
  ∀ place target, place <+: path → tree.find? place ≠ some (.link target)

theorem Tree.Clear.mono {tree : Tree} {path above : Path} (clear : tree.Clear path)
    (onWay : above <+: path) : tree.Clear above :=
  fun place target before => clear place target (before.trans onWay)

/-- Where a search for a path ends that meets no link. -/
inductive Arrives (tree : Tree) (path : Path) : Landing → Prop where
  | node {node : Node} (stands : tree.find? path = some node) : Arrives tree path (.node path node)
  | vacant {directory : Path} {name : String} (ends : path = directory ++ [name])
      (free : tree.find? path = none) : Arrives tree path (.vacant directory name)

private theorem advance_arrives (tree : Tree) (aim : Aim) (names : List String)
    (directory : Path) (stands : tree.find? directory = some .directory)
    (clear : tree.Clear (directory ++ names)) (pause : Pause)
    (reached : advance tree aim directory (names.map .down) = .ok pause) :
    ∃ landing, pause = .landed landing ∧ Arrives tree (directory ++ names) landing := by
  -- The induction is on the names that are left. That the names taken so far lead to a directory is
  -- what each step hands on to the next.
  induction names generalizing directory with
  | nil =>
    simp only [List.map_nil, advance, Except.ok.injEq] at reached
    exact ⟨_, reached.symm, by simpa using Arrives.node stands⟩
  | cons name names ih =>
    have next : directory ++ name :: names = directory ++ [name] ++ names := by simp
    simp only [List.map_cons, advance] at reached
    split at reached
    · cases reached
    · split at reached
      · cases reached
      · split at reached
        next free =>
          cases names with
          | nil =>
            simp only [List.map_nil, List.isEmpty_nil, if_true, Except.ok.injEq] at reached
            exact ⟨_, reached.symm, .vacant rfl free⟩
          | cons => simp at reached
        next open_ =>
          rw [next] at clear ⊢
          exact ih _ open_ clear reached
        next content file =>
          cases names with
          | nil =>
            simp only [List.map_nil, List.isEmpty_nil, if_true, Except.ok.injEq] at reached
            exact ⟨_, reached.symm, .node file⟩
          | cons => simp at reached
        next target link =>
          have onWay : directory ++ [name] <+: directory ++ name :: names :=
            next ▸ List.prefix_append _ _
          exact absurd link (clear _ _ onWay)

theorem locateFor_arrives {tree : Tree} {aim : Aim} {path : Path} {landing : Landing}
    (clear : tree.Clear path) (found : locateFor aim tree path = .ok landing) :
    Arrives tree path landing := by
  unfold locateFor at found
  split at found
  · cases found
  · split at found
    · cases found
    · unfold search at found
      split at found
      · cases found
      next reached =>
        obtain ⟨_, same, arrives⟩ := advance_arrives tree aim path [] rfl clear _ reached
        cases same
        cases found
        exact arrives
      next reached =>
        obtain ⟨_, other, _⟩ := advance_arrives tree aim path [] rfl clear _ reached
        cases other

theorem locate_arrives {tree : Tree} {followLast : Bool} {path : Path} {landing : Landing}
    (clear : tree.Clear path) (found : locate tree followLast path = .ok landing) :
    Arrives tree path landing :=
  locateFor_arrives clear found

/-- Two trees with the same nodes at a path and on the way to it. -/
def Tree.AgreeTo (path : Path) (left right : Tree) : Prop :=
  ∀ place, place <+: path → left.find? place = right.find? place

private theorem advance_congr {left right : Tree} (aim : Aim) (names : List String)
    (directory : Path) (agree : Tree.AgreeTo (directory ++ names) left right) :
    advance left aim directory (names.map .down) =
      advance right aim directory (names.map .down) := by
  induction names generalizing directory with
  | nil => rfl
  | cons name names ih =>
    have next : directory ++ name :: names = directory ++ [name] ++ names := by simp
    have here : left.find? (directory ++ [name]) = right.find? (directory ++ [name]) :=
      agree _ (next ▸ List.prefix_append _ _)
    have further := ih (directory ++ [name]) (next ▸ agree)
    simp only [List.map_cons, advance, here, further]

/-- What a search finds without links depends on the nodes on the way alone. -/
theorem locateFor_congr {left right : Tree} {path : Path} (aim : Aim)
    (agree : Tree.AgreeTo path left right) (clear : left.Clear path) :
    locateFor aim left path = locateFor aim right path := by
  have same := advance_congr aim path [] agree
  unfold locateFor
  split
  · rfl
  · split
    · rfl
    · unfold search
      rw [← same]
      split
      · rfl
      · rfl
      next reached =>
        obtain ⟨_, other, _⟩ := advance_arrives left aim path [] rfl clear _ reached
        cases other

end ScriptSandbox.Files
