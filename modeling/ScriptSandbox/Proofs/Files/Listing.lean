import Mathlib.Data.List.Nodup
import Mathlib.Data.String.Basic
import ScriptSandbox.Files.Operations

/-!
# Listings of directories

A listing shows each node in the directory once, by increasing name. It is therefore the same for
two trees with the same nodes in the directory, in whatever order the trees list them.
-/
namespace ScriptSandbox.Files

namespace Tree

theorem mem_nodes_iff (tree : Tree) {path : Path} (below : path ≠ []) (node : Node) :
    (path, node) ∈ tree.nodes ↔ tree.find? path = some node := by
  obtain ⟨nodes, distinct⟩ := tree
  simp only [find?, if_neg below]
  induction nodes with
  | nil => simp
  | cons entry rest ih =>
    obtain ⟨place, other⟩ := entry
    simp only [List.map_cons, List.nodup_cons, List.mem_map, not_exists, not_and] at distinct
    by_cases here : path = place
    · subst here
      have absent : (path, node) ∉ rest := fun member => distinct.1 _ member rfl
      simp [absent, eq_comm]
    · have differ : (path == place) = false := by simpa using here
      simp [List.lookup_cons, here, differ, ih distinct.2]

/-- A node is shown in a directory by its last name when the others lead to the directory. -/
private theorem shown_iff {directory path : Path} {name : String} {node shown : Node} :
    (match path.getLast? with
      | some last => if path.dropLast = directory then some (last, node) else none
      | none => none) = some (name, shown) ↔ path = directory ++ [name] ∧ node = shown := by
  constructor
  · intro listed
    split at listed
    next last ends =>
      split at listed
      next same =>
        cases listed
        exact ⟨by rw [← same, List.dropLast_append_getLast? _ ends], rfl⟩
      · cases listed
    · cases listed
  · rintro ⟨rfl, rfl⟩
    simp

theorem mem_entries_iff (tree : Tree) (directory : Path) (name : String) (node : Node) :
    (name, node) ∈ tree.entries directory ↔ tree.find? (directory ++ [name]) = some node := by
  rw [← tree.mem_nodes_iff (by simp)]
  simp only [entries, List.mem_filterMap, Prod.exists]
  constructor
  · rintro ⟨path, other, member, listed⟩
    obtain ⟨rfl, rfl⟩ := shown_iff.mp listed
    exact member
  · intro member
    exact ⟨_, _, member, shown_iff.mpr ⟨rfl, rfl⟩⟩

theorem entries_nodup (tree : Tree) (directory : Path) : (tree.entries directory).Nodup := by
  refine List.Nodup.filterMap ?_ (List.Nodup.of_map _ tree.distinct)
  rintro ⟨path, node⟩ ⟨path', node'⟩ ⟨name, shown⟩ first second
  obtain ⟨rfl, rfl⟩ := shown_iff.mp (Option.mem_def.mp first)
  obtain ⟨rfl, rfl⟩ := shown_iff.mp (Option.mem_def.mp second)
  rfl

@[simp] theorem info_name (name : String) (node : Node) : (info name node).name = name := by
  cases node <;> rfl

theorem info_isDirectory_iff {name : String} {node : Node} :
    (info name node).isDirectory = true ↔ node = .directory := by
  cases node <;> simp [info]

/-- Entries that are sorted by name stand in the order of their names. -/
theorem pairwise_mergeSort_name (entries : List EntryInfo) :
    (entries.mergeSort fun a b => decide (a.name ≤ b.name)).Pairwise fun a b => a.name ≤ b.name := by
  have sorted := List.pairwise_mergeSort
    (fun a b c (first : decide (a.name ≤ b.name) = true) second => by
      simp only [decide_eq_true_eq] at first second ⊢
      exact le_trans first second)
    (fun a b => by
      simp only [Bool.or_eq_true, decide_eq_true_eq]
      exact le_total a.name b.name) entries
  exact sorted.imp fun ordered => by simpa using ordered

/-- In one directory a name belongs to one node. -/
theorem names_nodup (tree : Tree) (directory : Path) :
    ((tree.entries directory).map Prod.fst).Nodup := by
  refine (List.nodup_map_iff_inj_on (tree.entries_nodup directory)).mpr ?_
  rintro ⟨name, node⟩ member ⟨_, other⟩ member' rfl
  have stands := (mem_entries_iff tree directory name node).mp member
  have same := (mem_entries_iff tree directory name other).mp member'
  rw [Option.some.inj (stands.symm.trans same)]

/-- Two directories with the same nodes in them are listed alike. -/
theorem listed_congr {left right : Tree} {directory : Path}
    (agree : ∀ name, left.find? (directory ++ [name]) = right.find? (directory ++ [name])) :
    ((left.entries directory).map fun (name, node) => info name node).mergeSort
        (fun a b => decide (a.name ≤ b.name)) =
      ((right.entries directory).map fun (name, node) => info name node).mergeSort
        (fun a b => decide (a.name ≤ b.name)) := by
  have sameEntries : (left.entries directory).Perm (right.entries directory) := by
    refine (List.perm_ext_iff_of_nodup (left.entries_nodup _) (right.entries_nodup _)).mpr ?_
    rintro ⟨name, node⟩
    rw [mem_entries_iff, mem_entries_iff, agree]
  refine List.Perm.eq_of_pairwise ?_ (pairwise_mergeSort_name _) (pairwise_mergeSort_name _)
    (((List.mergeSort_perm _ _).trans (sameEntries.map _)).trans (List.mergeSort_perm _ _).symm)
  -- Names decide the order, and in one directory a name belongs to one node.
  intro a b fromLeft fromRight below above
  simp only [List.mem_mergeSort, List.mem_map, Prod.exists] at fromLeft fromRight
  obtain ⟨name, node, member, rfl⟩ := fromLeft
  obtain ⟨name', node', member', rfl⟩ := fromRight
  simp only [info_name] at below above
  obtain rfl : name = name' := le_antisymm below above
  have same := (mem_entries_iff left directory name node).mp member
  rw [agree, (mem_entries_iff right directory name node').mp member'] at same
  cases same
  rfl

/-- What a list of entries shows of the directory that a path leads to: each node in it once, by
increasing name. -/
structure Shows (tree : Tree) (path place : Path) (entries : List EntryInfo) : Prop where
  leads : locate tree true path = .ok (.node place .directory)
  ordered : entries.Pairwise fun a b => a.name < b.name
  mem_iff : ∀ entry, entry ∈ entries ↔
    ∃ node, tree.find? (place ++ [entry.name]) = some node ∧ entry = info entry.name node

theorem list_shows {tree : Tree} {path : Path} {entries : List EntryInfo}
    (listed : tree.list path = .ok entries) : ∃ place, tree.Shows path place entries := by
  unfold Tree.list at listed
  split at listed
  · cases listed
  · cases listed
  next place found =>
    obtain rfl := Except.ok.inj listed
    refine ⟨place, found, ?_, fun entry => ?_⟩
    · -- Sorted names increase, and no name comes twice.
      have names := ((List.mergeSort_perm ((tree.entries place).map fun (name, node) => info name node)
        fun a b => decide (a.name ≤ b.name)).map EntryInfo.name).nodup_iff.mpr
          (by simpa [Function.comp_def] using tree.names_nodup place)
      exact (pairwise_mergeSort_name _).imp₂ (fun _ _ => lt_of_le_of_ne) (List.pairwise_map.mp names)
    · simp only [List.mem_mergeSort, List.mem_map, Prod.exists, mem_entries_iff]
      constructor
      · rintro ⟨name, node, stands, rfl⟩
        rw [info_name]
        exact ⟨node, stands, rfl⟩
      · rintro ⟨node, stands, shown⟩
        exact ⟨_, node, stands, shown.symm⟩
  · cases listed

end Tree

end ScriptSandbox.Files
