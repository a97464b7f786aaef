/-
  Fanout.Files.Fault
  ──────────────────
  **Why a file cannot be read or written.**
-/

namespace Fanout.Files

/-- Why an operation on a path fails. -/
inductive Fault where
  /-- Nothing is at the path. -/
  | notFound
  /-- A file stands where the path needs a directory. -/
  | notDirectory
  /-- A directory stands where a file is needed. -/
  | isDirectory
  /-- A name or the whole path is too long. -/
  | nameTooLong
  /-- The path leads through too many links. -/
  | tooManyLinks
  /-- The bytes of the file are no text. -/
  | notText
  /-- The path holds a null character. -/
  | nullCharacter
  deriving DecidableEq, Repr

/-- The wording of a failure. -/
def Fault.message : Fault → String
  | .notFound => "No such file or directory (os error 2)"
  | .notDirectory => "Not a directory (os error 20)"
  | .isDirectory => "Is a directory (os error 21)"
  | .nameTooLong => "File name too long (os error 36)"
  | .tooManyLinks => "Too many levels of symbolic links (os error 40)"
  | .notText => "stream did not contain valid UTF-8"
  | .nullCharacter => "file name contained an unexpected NUL byte"

end Fanout.Files
