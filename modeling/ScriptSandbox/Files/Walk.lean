import ScriptSandbox.Files.Tree
import ScriptSandbox.Text.Utf8

/-!
# Finding nodes

The operating system finds a node by moving along a path, name by name. A link on the way leads on
along the text of its target, at most forty of them in one search; whether a link at the end is
followed is up to the operation. A search ends at a node, or at a directory in which the last name
is free.
-/
namespace ScriptSandbox.Files

/-- Where a search ends. -/
inductive Landing where
  /-- At a node, with the path that leads to it without links. -/
  | node (path : Path) (node : Node)
  /-- In a directory where the last name is free. -/
  | vacant (directory : Path) (name : String)
  deriving DecidableEq, Repr

/-- A move of a search. -/
inductive Move where
  | down (name : String)
  | up
  /-- To where one is, which is a directory: by a single dot, or by a slash at the end of a text. -/
  | stay (slash : Bool)
  deriving DecidableEq, Repr

/-- The moves along a path text. -/
def moves (text : String) : List Move :=
  let letters := text.toList
  let parts := (Search.splitAt (· = '/') letters).filterMap fun part =>
    if part = [] then none
    else if part = ['.'] then some (.stay false)
    else if part = ['.', '.'] then some .up
    else some (.down (String.ofList part))
  parts ++ if letters.getLast? = some '/' then [.stay true] else []

/-- What a search is for. -/
inductive Aim where
  /-- To look at what stands at the end of a path, or at what a link there leads to. -/
  | look (followLast : Bool)
  /-- To put a file where a path leads to. -/
  | create
  deriving DecidableEq, Repr

def Aim.followsLast : Aim → Bool
  | look followLast => followLast
  | create => true

/-- Where a search pauses: at its end, or at a link that it has to follow. -/
inductive Pause where
  | landed (landing : Landing)
  | atLink (directory : Path) (target : String) (rest : List Move)

/-- A name may be this many bytes long. -/
def maxName : Nat := 255

/-- A path text is shorter than this many bytes. -/
def pathBound : Nat := 4096

/-- One search follows at most this many links. -/
def maxLinks : Nat := 40

def byteLength (text : String) : Nat := text.utf8ByteSize

/-- Moves from a directory up to the end or to a link. -/
def advance (tree : Tree) (aim : Aim) : Path → List Move → Except Fault Pause
  | directory, [] => .ok (.landed (.node directory .directory))
  | directory, .up :: rest => advance tree aim directory.dropLast rest
  | directory, .stay _ :: rest => advance tree aim directory rest
  | directory, .down name :: rest =>
    -- No file is created by a name with a slash behind it, whatever stands there.
    if aim = .create ∧ rest = [.stay true] then .error .isDirectory
    else if maxName < byteLength name then .error .nameTooLong
    else
      let path := directory ++ [name]
      match tree.find? path with
      | none => if rest.isEmpty then .ok (.landed (.vacant directory name)) else .error .notFound
      | some .directory => advance tree aim path rest
      | some (.file content) =>
        if rest.isEmpty then .ok (.landed (.node path (.file content))) else .error .notDirectory
      | some (.link target) =>
        if rest.isEmpty && !aim.followsLast then .ok (.landed (.node path (.link target)))
        else .ok (.atLink directory target rest)

/-- Moves from a directory to the end, through at most `links` links. -/
def search (tree : Tree) (aim : Aim) : (links : Nat) → Path → List Move → Except Fault Landing
  | links, directory, steps =>
    match advance tree aim directory steps with
    | .error fault => .error fault
    | .ok (.landed landing) => .ok landing
    | .ok (.atLink directory target rest) =>
      match links with
      | 0 => .error .tooManyLinks
      | links + 1 =>
        -- The moves that were left come after those along the target.
        let start := if Path.isAbsolute target then [] else directory
        search tree aim links start (moves target ++ rest)

/-- Finds what a path leads to. A name with a null character is refused before the search, and so is
a path whose text is too long. -/
def locateFor (aim : Aim) (tree : Tree) (path : Path) : Except Fault Landing :=
  if path.any (·.toList.contains '\x00') then .error .nulInName
  else if pathBound ≤ byteLength path.text then .error .nameTooLong
  else search tree aim maxLinks [] (path.map .down)

def locate (tree : Tree) (followLast : Bool) (path : Path) : Except Fault Landing :=
  locateFor (.look followLast) tree path

end ScriptSandbox.Files
