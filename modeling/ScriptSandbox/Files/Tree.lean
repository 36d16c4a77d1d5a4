import ScriptSandbox.Files.Fault
import ScriptSandbox.Files.Path
import ScriptSandbox.Text.Bytes

/-!
# File trees

A tree lists its nodes with their paths, each path once; the top of the filesystem is a directory
that is not listed.
-/
namespace ScriptSandbox.Files

inductive Node where
  | file (content : Bytes)
  | directory
  /-- A symbolic link, with the text of its target. -/
  | link (target : String)
  deriving DecidableEq, Repr

/-- The nodes of a filesystem. -/
structure Tree where
  nodes : List (Path × Node)
  distinct : (nodes.map Prod.fst).Nodup
  deriving DecidableEq, Repr

namespace Tree

def empty : Tree := ⟨[], .nil⟩

/-- The node at a path. The top of the filesystem is a directory. -/
def find? (tree : Tree) (path : Path) : Option Node :=
  if path = [] then some .directory else tree.nodes.lookup path

def restrict (tree : Tree) (keep : Path → Bool) : Tree where
  nodes := tree.nodes.filter fun entry => keep entry.1
  distinct := (List.filter_sublist.map Prod.fst).nodup tree.distinct

def erase (tree : Tree) (path : Path) : Tree := tree.restrict (· != path)

/-- Puts a node at a path, in place of the one that was there. -/
def insert (tree : Tree) (path : Path) (node : Node) : Tree where
  nodes := (path, node) :: (tree.erase path).nodes
  distinct := List.nodup_cons.mpr ⟨by simp [erase, restrict], (tree.erase path).distinct⟩

/-! ### What stands where after a change -/

@[simp] theorem find?_nil (tree : Tree) : tree.find? [] = some .directory := rfl

theorem lookup_restrict (tree : Tree) (keep : Path → Bool) (path : Path) :
    (tree.restrict keep).nodes.lookup path = if keep path then tree.nodes.lookup path else none := by
  simp only [restrict]
  generalize tree.nodes = nodes
  induction nodes with
  | nil => simp
  | cons entry rest ih =>
    obtain ⟨place, node⟩ := entry
    by_cases same : path = place
    · subst same
      cases kept : keep path <;> simp [kept, ih]
    · have differ : (path == place) = false := by simpa using same
      cases kept : keep place <;> simp [kept, List.lookup_cons, ih, differ]

theorem find?_erase (tree : Tree) (place path : Path) :
    (tree.erase place).find? path =
      if path = [] then some .directory else if path = place then none else tree.find? path := by
  by_cases top : path = []
  · simp [find?, top]
  · simp only [find?, erase, top, lookup_restrict, if_false]
    by_cases same : path = place <;> simp [same]

theorem find?_insert (tree : Tree) (place path : Path) (node : Node) :
    (tree.insert place node).find? path =
      if path = [] then some .directory else if path = place then some node else tree.find? path := by
  by_cases top : path = []
  · simp [find?, top]
  · simp only [find?, insert, erase, top, List.lookup_cons, lookup_restrict, if_false]
    by_cases same : path = place
    · simp [same]
    · have differ : (path == place) = false := by simpa using same
      simp [same, differ]

theorem insert_insert (tree : Tree) (place : Path) (node other : Node) :
    (tree.insert place node).insert place other = tree.insert place other := by
  simp [insert, erase, restrict, List.filter_filter]

theorem find?_insert_of_ne (tree : Tree) {place path : Path} (other : path ≠ place) (node : Node) :
    (tree.insert place node).find? path = tree.find? path := by
  by_cases top : path = [] <;> simp [find?_insert, other, top]

theorem find?_insert_self (tree : Tree) {place : Path} (below : place ≠ []) (node : Node) :
    (tree.insert place node).find? place = some node := by
  simp [find?_insert, below]

/-- The names in a directory, with their nodes. -/
def entries (tree : Tree) (directory : Path) : List (String × Node) :=
  tree.nodes.filterMap fun (path, node) =>
    match path.getLast? with
    | some name => if path.dropLast = directory then some (name, node) else none
    | none => none

/-- The names in a directory, which increase. -/
def names (tree : Tree) (directory : Path) : List String :=
  ((tree.entries directory).map Prod.fst).mergeSort fun a b => decide (a ≤ b)

/-- How many names the longest path of the tree has. -/
def height (tree : Tree) : Nat := (tree.nodes.map fun entry => entry.1.length).foldr max 0

/-- The nodes below a directory with their paths from there, ordered by the text of these paths. -/
def listing (tree : Tree) (directory : Path) : List (String × Node) :=
  let below := tree.nodes.filterMap fun (path, node) =>
    match Search.after? directory path with
    | some (name :: names) => some (String.intercalate "/" (name :: names), node)
    | _ => none
  below.mergeSort fun a b => decide (a.1 ≤ b.1)

end Tree

end ScriptSandbox.Files
