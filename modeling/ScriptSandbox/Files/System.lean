import ScriptSandbox.Files.Tree

/-!
# The operating system

Some of what becomes of an operation is not for the tree to say. The operating system may refuse to
make, open or remove what it could, because something is mounted there, a permission is missing or
its resources are used up; it may break a write off half way; and it tells the names in a directory
in an order of its own.
-/
namespace ScriptSandbox.Files

/-- What an operation asks the operating system to do at a place. -/
inductive SystemCall where
  | makeDirectory (place : Path)
  /-- To open a file for a new content, which empties the file or creates it. -/
  | openFile (place : Path)
  /-- To open a directory for its names. -/
  | openDirectory (place : Path)
  | unlink (place : Path)
  | removeDirectory (place : Path)
  deriving DecidableEq, Repr

/-- What a call does to a tree when it is granted. -/
def SystemCall.apply (tree : Tree) : SystemCall → Tree
  | makeDirectory place => tree.insert place .directory
  | openFile place => tree.insert place (.file [])
  | openDirectory _ => tree
  | unlink place | removeDirectory place => tree.erase place

/-- What the operating system decides for itself. By default it grants everything. -/
structure System where
  /-- Why a call is refused. -/
  refuses : SystemCall → Option String := fun _ => none
  /-- After how many bytes a write to a file breaks off, and why. -/
  breaksOff : Path → Option (Nat × String) := fun _ => none
  /-- The names in a directory in the order in which they are told. -/
  order : Path → List String → List String := fun _ names => names
  order_perm : ∀ directory names, (order directory names).Perm names := by
    exact fun _ names => .refl names

namespace System

def attempt (system : System) (tree : Tree) (call : SystemCall) : Except Fault Tree :=
  match system.refuses call with
  | some reason => .error (.denied reason)
  | none => .ok (call.apply tree)

/-- Makes calls one after the other until one of them is refused. What was done by then stays. -/
def attemptAll (system : System) (tree : Tree) : List SystemCall → Except Fault Unit × Tree
  | [] => (.ok (), tree)
  | call :: later =>
    match system.attempt tree call with
    | .error fault => (.error fault, tree)
    | .ok tree => system.attemptAll tree later

end System

end ScriptSandbox.Files
