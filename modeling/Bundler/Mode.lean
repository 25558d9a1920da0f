set_option autoImplicit false

/-! # Build modes -/

namespace Bundler

/-- What a build is for. -/
inductive Mode
  /-- Readable file names and live updates. -/
  | development
  /-- Short file names and compressed companions. -/
  | production
deriving DecidableEq, Repr, Inhabited

end Bundler
