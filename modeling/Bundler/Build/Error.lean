import Bundler.Output.Emit
import Bundler.Resolve

set_option autoImplicit false

/-! # Failed builds -/

namespace Bundler

/-- Why a build failed. -/
inductive BuildError
  | file (error : FileError)
  | unresolved (importer : Path) (reference : String)
  | transform (error : TransformError)
  | unhandled (path : Path)
  | emit (error : EmitError)
deriving DecidableEq, Repr

namespace BuildError

/-- The message for a build that failed. -/
def message : BuildError → String
  | .file error => error.message
  | .unresolved importer reference => (ResolveError.notFound importer reference).message
  | .transform error => error.message
  | .unhandled path => "no rule handles file " ++ path.text
  | .emit error => error.message

/-- The failure of a build by a reference that stands for no file. -/
def ofResolve : ResolveError → BuildError
  | .file error => .file error
  | .notFound importer reference => .unresolved importer reference

end BuildError

end Bundler
