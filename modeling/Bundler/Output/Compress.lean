import Bundler.Configuration.Basic
import Bundler.Gzip
import Bundler.Output.Basic

set_option autoImplicit false

/-! # Compressed companions

Each large file whose name matches gets a companion that holds it compressed and is named after it.
Companions get none themselves. -/

namespace Bundler.BuildOutput

/-- What the name of a companion ends with. -/
def companionEnding : String := ".gz"

/-- Whether a file gets a companion. -/
def isDue (compression : Compression) (name : String) (content : ByteArray) : Bool :=
  !companionEnding.toList.isSuffixOf name.toList && compression.test.isMatch name &&
    compression.threshold < content.size

/-- The companions that are due, by name. -/
def companions (compression : Compression) (o : BuildOutput) : List (String × ByteArray) :=
  (o.files.toList.filter fun f => isDue compression f.1 f.2).map fun f =>
    (f.1 ++ companionEnding, Gzip.compress f.2)

/-- The output with the companions that are due, and their number. -/
def compress (compression : Compression) (o : BuildOutput) : BuildOutput × Nat :=
  let due := o.companions compression
  (due.foldl (fun o f => o.insert f.1 f.2) o, due.length)

end Bundler.BuildOutput
