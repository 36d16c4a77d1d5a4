import ScriptSandbox.Text.Search

/-!
# Paths

A path is the list of the names that lead to a node from the top of the filesystem. A path text is a
list of steps, each to a name or up; empty parts and single dots are no steps. `Path.follow` takes
steps without looking at any file, and fails when a step leads above the top.
-/
namespace ScriptSandbox.Files

/-- The names from the top of the filesystem to a node. -/
abbrev Path := List String

namespace Path

inductive Step where
  | down (name : String)
  | up
  deriving DecidableEq, Repr

def steps (text : String) : List Step :=
  (Search.splitAt (· = '/') text.toList).filterMap fun part =>
    if part = [] ∨ part = ['.'] then none
    else if part = ['.', '.'] then some .up
    else some (.down (String.ofList part))

/-- Whether a path text starts at the top of the filesystem. -/
def isAbsolute (text : String) : Bool := text.toList.head? = some '/'

/-- Takes steps from a place, whose names are listed in reverse. -/
def climb : List String → List Step → Option (List String)
  | names, [] => some names
  | names, .down name :: rest => climb (name :: names) rest
  | _ :: names, .up :: rest => climb names rest
  | [], .up :: _ => none

/-- Takes steps from a path; none when they lead above the top of the filesystem. -/
def follow (start : Path) (steps : List Step) : Option Path :=
  (climb start.reverse steps).map List.reverse

def text (path : Path) : String := "/" ++ String.intercalate "/" path

/-- Whether a path is another path or lies below it. -/
def isWithin (top path : Path) : Bool := top.isPrefixOf path

end Path

end ScriptSandbox.Files
