import ScriptSandbox.Files.System
import ScriptSandbox.Files.Walk

/-!
# Operations on files

What becomes of a path that is allowed. An operation that changes the tree gives the tree after it
beside its outcome: a failing operation may have created directories on its way, have emptied a file
that it could not fill, or have taken away a part of what it was to delete. Operations that only look
are never refused but for what the tree says.
-/
namespace ScriptSandbox.Files

structure EntryInfo where
  name : String
  isDirectory : Bool
  /-- The length of a file's content or of a link's target in bytes; zero for a directory. -/
  size : Nat
  deriving DecidableEq, Repr

namespace Tree

def isDirectory (tree : Tree) (path : Path) : Bool :=
  match locate tree true path with
  | .ok (.node _ .directory) => true
  | _ => false

/-- Creates a directory where nothing stands, in a directory that is there. -/
def makeDirectory (tree : Tree) (system : System) (path : Path) : Except Fault Tree :=
  match locate tree false path with
  | .error fault => .error fault
  | .ok (.node ..) => .error .alreadyExists
  | .ok (.vacant directory name) => system.attempt tree (.makeDirectory (directory ++ [name]))

/-- A directory that could not be created may be there already. -/
def settle (tree : Tree) (path : Path) (fault : Fault) : Except Fault Unit × Tree :=
  if tree.isDirectory path then (.ok (), tree) else (.error fault, tree)

/-- Creates the directory with these names, listed in reverse, after the missing ones above it. A
directory that is there already is fine. -/
def makeDirectories (tree : Tree) (system : System) :
    (names : List String) → Except Fault Unit × Tree
  | [] => (.ok (), tree)
  | name :: above =>
    let path := (name :: above).reverse
    match tree.makeDirectory system path with
    | .ok made => (.ok (), made)
    -- Only a missing directory above is made up for; what was made of those above stays.
    | .error .notFound =>
      match makeDirectories tree system above with
      | (.error fault, tree) => (.error fault, tree)
      | (.ok (), tree) =>
        match tree.makeDirectory system path with
        | .ok made => (.ok (), made)
        | .error fault => tree.settle path fault
    | .error fault => tree.settle path fault

def createDirectory (tree : Tree) (system : System) (path : Path) : Except Fault Unit × Tree :=
  tree.makeDirectories system path.reverse

def readBytes (tree : Tree) (path : Path) : Except Fault Bytes :=
  match locate tree true path with
  | .error fault => .error fault
  | .ok (.vacant ..) => .error .notFound
  | .ok (.node _ .directory) => .error .isDirectory
  | .ok (.node _ (.link _)) => .error .notFound
  | .ok (.node _ (.file content)) => .ok content

def readText (tree : Tree) (path : Path) : Except Fault String :=
  match tree.readBytes path with
  | .error fault => .error fault
  | .ok content =>
    match Utf8.decode? content with
    | some text => .ok (String.ofList text)
    | none => .error .notUtf8

/-- Writes content to a file, which is created or emptied first. A write that breaks off leaves what
was written by then. -/
def put (tree : Tree) (system : System) (place : Path) (content : Bytes) :
    Except Fault Unit × Tree :=
  match system.attempt tree (.openFile place) with
  | .error fault => (.error fault, tree)
  | .ok opened =>
    let full := opened.insert place (.file content)
    match system.breaksOff place with
    | none => (.ok (), full)
    | some (written, reason) =>
      if written < content.length then
        (.error (.brokenOff reason), opened.insert place (.file (content.take written)))
      else (.ok (), full)

/-- Puts content into a file, which is created where nothing stands. -/
def replaceContent (tree : Tree) (system : System) (path : Path) (content : Bytes) :
    Except Fault Unit × Tree :=
  match locateFor .create tree path with
  | .error fault => (.error fault, tree)
  | .ok (.vacant directory name) => tree.put system (directory ++ [name]) content
  | .ok (.node _ .directory) => (.error .isDirectory, tree)
  | .ok (.node _ (.link _)) => (.error .notFound, tree)
  | .ok (.node path (.file _)) => tree.put system path content

/-- Writes a file after creating the missing directories above it. -/
def writeFile (tree : Tree) (system : System) (path : Path) (content : Bytes) :
    Except Fault Unit × Tree :=
  -- The top has no directory above it to create.
  let prepared := if path = [] then (.ok (), tree) else tree.createDirectory system path.dropLast
  match prepared with
  | (.error fault, tree) => (.error fault, tree)
  | (.ok (), tree) => tree.replaceContent system path content

def info (name : String) : Node → EntryInfo
  | .directory => ⟨name, true, 0⟩
  | .file content => ⟨name, false, content.length⟩
  | .link target => ⟨name, false, byteLength target⟩

/-- The entries of a directory by increasing name. Links are listed as themselves. -/
def list (tree : Tree) (path : Path) : Except Fault (List EntryInfo) :=
  match locate tree true path with
  | .error fault => .error fault
  | .ok (.vacant ..) => .error .notFound
  | .ok (.node path .directory) =>
    .ok (((tree.entries path).map fun (name, node) => info name node).mergeSort
      fun a b => decide (a.name ≤ b.name))
  | .ok (.node ..) => .error .notDirectory

def probe (tree : Tree) (path : Path) : Except Fault Bool :=
  match locate tree true path with
  | .ok (.node ..) => .ok true
  | .ok (.vacant ..) => .ok false
  | .error .notFound => .ok false
  | .error fault => .error fault

/-- The calls that empty a directory which has so many levels below it. They take its entries away
one after the other, a directory behind everything in it. -/
def emptying (tree : Tree) (system : System) : (levels : Nat) → (directory : Path) → List SystemCall
  | 0, _ => []
  | levels + 1, directory =>
    (system.order directory (tree.names directory)).flatMap fun name =>
      let place := directory ++ [name]
      match tree.find? place with
      | some .directory =>
        .openDirectory place :: tree.emptying system levels place ++ [.removeDirectory place]
      | _ => [.unlink place]

/-- Takes away the directory that a path leads to. That it leads nowhere is fine. -/
def removeEmptied (tree : Tree) (system : System) (path : Path) : Except Fault Unit × Tree :=
  match locate tree false path with
  | .ok (.node place .directory) => system.attemptAll tree [.removeDirectory place]
  | .ok (.node ..) => (.error .notDirectory, tree)
  | .ok (.vacant ..) | .error .notFound => (.ok (), tree)
  | .error fault => (.error fault, tree)

/-- Takes away what stands at a path itself; below a directory, everything. -/
def unlink (tree : Tree) (system : System) (path : Path) : Except Fault Unit × Tree :=
  match locate tree false path with
  | .error fault => (.error fault, tree)
  | .ok (.vacant ..) => (.error .notFound, tree)
  | .ok (.node place .directory) =>
    let calls := .openDirectory place :: tree.emptying system tree.height place
    match system.attemptAll tree calls with
    | (.error fault, tree) => (.error fault, tree)
    -- A directory is looked for once more when it is empty. It stays where the path led through a
    -- link below the directory, which is gone by then.
    | (.ok (), emptied) => emptied.removeEmptied system path
  | .ok (.node place _) => system.attemptAll tree [.unlink place]

/-- Deletes a file, a link, or a directory with everything below it. A path that leads to nothing is
refused, also where a link stands that leads nowhere. -/
def delete (tree : Tree) (system : System) (path : Path) : Except Fault Unit × Tree :=
  match locate tree true path with
  | .error fault => (.error fault, tree)
  | .ok (.vacant ..) => (.error .notFound, tree)
  | .ok (.node ..) => tree.unlink system path

end Tree

end ScriptSandbox.Files
