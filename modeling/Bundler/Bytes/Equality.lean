set_option autoImplicit false

/-! # Equality of bytes

Contents are compared as a whole. Every comparison of contents in the project is this one, whatever
other instances are in scope. -/

namespace Bundler

instance instDecidableEqBytes : DecidableEq ByteArray := ByteArray.decEq

end Bundler
