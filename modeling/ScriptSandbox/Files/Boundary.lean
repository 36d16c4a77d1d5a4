import ScriptSandbox.Files.Operations
import ScriptSandbox.Policy.Basic

/-!
# The boundary around a sandbox's files

Scripts name files by relative paths. A path is resolved by taking its steps from the root of the
sandbox, without looking at any file; what it resolves to has to lie within the root, unless the
consent function approves this path text for this action. The function is asked only about paths
that leave the root.
-/
namespace ScriptSandbox.Files

/-- The root of a sandbox, and who is asked about paths that leave it. -/
structure Boundary where
  root : Path
  consent : Option (String → FileAction → Bool)

/-- The outcome of an operation on files, with the tree after it. -/
structure Effect (α : Type) where
  outcome : Except ScriptSandbox.Fault α
  asked : List Question
  tree : Tree

namespace Boundary

/-- The boundary of a policy. A relative root is taken from the working directory. -/
def ofPolicy (workingDirectory : Path) (policy : Policy) : Except ScriptSandbox.Fault Boundary :=
  let start := if Path.isAbsolute policy.root then [] else workingDirectory
  match Path.follow start (Path.steps policy.root) with
  | some root => .ok ⟨root, policy.fileConsent⟩
  | none => .error (.configuration (.rootAboveFilesystem policy.root))

def resolve (boundary : Boundary) (requested : String) (action : FileAction) : Ruling Path :=
  if requested.isEmpty then ⟨.error (.misused .emptyPath), []⟩
  else if Path.isAbsolute requested then ⟨.error (.refused (.absolutePath requested)), []⟩
  else
    let target := Path.follow boundary.root (Path.steps requested)
    let inside := match target with
      | some path => Path.isWithin boundary.root path
      | none => false
    -- Who may consent is asked only about a path that leaves the root. A path above the top of the
    -- filesystem leads nowhere, so it is refused whatever the answer.
    match target, inside, boundary.consent with
    | some path, true, _ => ⟨.ok path, []⟩
    | _, _, none => ⟨.error (.refused (.escapingPath requested)), []⟩
    | target, _, some approves =>
      let asked := [Question.file requested action]
      match target, approves requested action with
      | some path, true => ⟨.ok path, asked⟩
      | _, _ => ⟨.error (.refused (.escapingPath requested)), asked⟩

/-- Runs an operation at the path that a text resolves to. -/
def perform {α : Type} (boundary : Boundary) (tree : Tree) (requested : String) (action : FileAction)
    (operation : Path → Except ScriptSandbox.Fault α × Tree) : Effect α :=
  match boundary.resolve requested action with
  | ⟨.error fault, asked⟩ => ⟨.error fault, asked, tree⟩
  | ⟨.ok path, asked⟩ =>
    let (outcome, tree) := operation path
    ⟨outcome, asked, tree⟩

def lift {α : Type} : Except Fault α → Except ScriptSandbox.Fault α
  | .ok value => .ok value
  | .error fault => .error (.files fault)

def readText (boundary : Boundary) (tree : Tree) (requested : String) : Effect String :=
  boundary.perform tree requested .readText fun path => (lift (tree.readText path), tree)

/-- Writes a text to a file after creating the missing directories above it. -/
def writeText (boundary : Boundary) (system : System) (tree : Tree) (requested content : String) :
    Effect Unit :=
  boundary.perform tree requested .writeText fun path =>
    let (outcome, tree) := tree.writeFile system path (Utf8.ofString content)
    (lift outcome, tree)

def listDirectory (boundary : Boundary) (tree : Tree) (requested : String) : Effect (List EntryInfo) :=
  boundary.perform tree requested .listDirectory fun path => (lift (tree.list path), tree)

def probe (boundary : Boundary) (tree : Tree) (requested : String) : Effect Bool :=
  boundary.perform tree requested .exists fun path => (lift (tree.probe path), tree)

/-- Deletes a file or a directory with everything below it, but never the root. -/
def delete (boundary : Boundary) (system : System) (tree : Tree) (requested : String) :
    Effect Unit :=
  boundary.perform tree requested .delete fun path =>
    -- Also a path such as `a/..` is the root.
    if path = boundary.root then (.error (.refused .rootDeletion), tree)
    else
      let (outcome, tree) := tree.delete system path
      (lift outcome, tree)

def createDirectory (boundary : Boundary) (system : System) (tree : Tree) (requested : String) :
    Effect Unit :=
  boundary.perform tree requested .createDirectory fun path =>
    let (outcome, tree) := tree.createDirectory system path
    (lift outcome, tree)

end Boundary

end ScriptSandbox.Files
