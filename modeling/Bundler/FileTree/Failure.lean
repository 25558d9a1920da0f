import Bundler.Path

set_option autoImplicit false

/-! # Failed file operations -/

namespace Bundler

/-- Why a file operation fails. -/
inductive FileFailure
  | notFound
  | busy
  | alreadyThere
  | notDirectory
  | isDirectory
  | invalid
  | nameTooLong
  | notEmpty
  | tooManyLinks
  | nulByte
  | denied
deriving DecidableEq, Repr

/-- The text of a failure, with the number that the system gives it. -/
def FileFailure.message : FileFailure → String
  | .notFound => "No such file or directory (os error 2)"
  | .busy => "Device or resource busy (os error 16)"
  | .alreadyThere => "File exists (os error 17)"
  | .notDirectory => "Not a directory (os error 20)"
  | .isDirectory => "Is a directory (os error 21)"
  | .invalid => "Invalid argument (os error 22)"
  | .nameTooLong => "File name too long (os error 36)"
  | .notEmpty => "Directory not empty (os error 39)"
  | .tooManyLinks => "Too many levels of symbolic links (os error 40)"
  | .nulByte => "file name contained an unexpected NUL byte"
  | .denied => "denied"

/-- A file operation that failed at a path. -/
structure FileError where
  failure : FileFailure
  path : Path
deriving DecidableEq, Repr

/-- The message for a file operation that failed. -/
def FileError.message (e : FileError) : String := e.failure.message ++ ": " ++ e.path.text

end Bundler
