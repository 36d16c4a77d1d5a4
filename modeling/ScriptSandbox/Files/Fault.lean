/-!
# Faults of file operations

What the operating system reports when an operation on files fails, with its number where it has
one.
-/
namespace ScriptSandbox.Files

inductive Fault where
  | notFound
  | alreadyExists
  | notDirectory
  | isDirectory
  | nameTooLong
  | tooManyLinks
  | notUtf8
  | nulInName
  /-- A call that the operating system refuses for a reason of its own. -/
  | denied (reason : String)
  /-- A write that breaks off behind the opening of its file. -/
  | brokenOff (reason : String)
  /-- A fault that is known by its text alone. -/
  | other (text : String)
  deriving DecidableEq, Repr

def Fault.message : Fault → String
  | notFound => "No such file or directory (os error 2)"
  | alreadyExists => "File exists (os error 17)"
  | notDirectory => "Not a directory (os error 20)"
  | isDirectory => "Is a directory (os error 21)"
  | nameTooLong => "File name too long (os error 36)"
  | tooManyLinks => "Too many levels of symbolic links (os error 40)"
  | notUtf8 => "stream did not contain valid UTF-8"
  | nulInName => "file name contained an unexpected NUL byte"
  | denied reason => reason
  | brokenOff reason => reason
  | other text => text

end ScriptSandbox.Files
