import Bundler.Chunk.ModuleId
import Bundler.Configuration.Basic

set_option autoImplicit false

/-! # Chunks

The modules that some entry reaches are divided into chunks: modules of packages, modules that more
than one entry reaches, and the modules of each entry. The loader has a chunk of its own in front of
them. Modules stand in a chunk in the order of their project-relative paths.

The modules that entries reach may be found in any order. It shows only between modules whose paths
are the same when seen from the root, such as `src/a.js` below the root and `/src/a.js`. -/

namespace Bundler

/-- What a chunk holds. -/
inductive ChunkKind
  | runtime
  | vendor
  | common
  | entry
deriving DecidableEq, Repr

/-- A group of modules that is emitted as one file. -/
structure Chunk where
  name : String
  kind : ChunkKind
  modules : List Nat
  entry : Option Nat
deriving DecidableEq, Repr

/-- The chunks of a graph and the ids of its modules. -/
structure ChunkSet where
  chunks : List Chunk
  ids : List (Nat × String)
deriving DecidableEq, Repr

namespace ChunkSet

/-- The id of a module. -/
def moduleId? (s : ChunkSet) (i : Nat) : Option String := s.ids.lookup i

/-- The first chunk of a name. -/
def chunk? (s : ChunkSet) (name : String) : Option Chunk := s.chunks.find? (·.name == name)

/-- The chunks that an entry needs: its own and all that belong to no entry. -/
def entryChunks (s : ChunkSet) (entry : String) : List Chunk :=
  s.chunks.filter fun c => c.kind ≠ .entry ∨ c.name = entry

end ChunkSet

namespace ModuleGraph

/-- The places of the entries that reach a module. -/
def owners (reached : List (List Nat)) (i : Nat) : List Nat :=
  (List.range reached.length).filter fun e => (reached.getD e []).contains i

/-- Where a module goes. -/
inductive Destination
  | vendor
  | common
  | entry (place : Nat)
  | nowhere
deriving DecidableEq, Repr

/-- Where a module goes: modules of packages keep together whoever reaches them, others go by the
    number of entries that reach them. -/
def destination (g : ModuleGraph) (optimization : Optimization) (reached : List (List Nat))
    (i : Nat) : Destination :=
  match owners reached i with
  | [] => .nowhere
  | first :: more =>
    if optimization.splitVendor &&
        (g.module? i).any fun m => optimization.vendor.isMatch m.path.text then .vendor
    else if more.isEmpty then .entry first
    else .common

/-- The names of the chunks that belong to no entry. -/
def runtimeName : String := "runtime"

/-- The name of the chunk of package modules. -/
def vendorName : String := "vendors"

/-- The name of the chunk of shared modules. -/
def commonName : String := "common"

/-- A chunk of some modules, unless there are none. -/
def chunkUnlessEmpty (name : String) (kind : ChunkKind) (modules : List Nat) : List Chunk :=
  if modules.isEmpty then [] else [⟨name, kind, modules, none⟩]

/-- What each entry reaches. -/
def reached (g : ModuleGraph) : List (List Nat) := g.entries.map fun e => g.reachable e.2

/-- The chunks of a graph when the modules that entries reach are found in some order. -/
def assignChunksFrom (g : ModuleGraph) (root : Path) (optimization : Optimization)
    (found : List Nat) : ChunkSet :=
  let reached := g.reached
  let placed := (g.sortedByPath root found).map fun (i, _) =>
    (i, g.destination optimization reached i)
  let sentTo (d : Destination) := (placed.filter (·.2 = d)).map (·.1)
  { chunks :=
      ⟨runtimeName, .runtime, [], none⟩ ::
        (chunkUnlessEmpty vendorName .vendor (sentTo .vendor) ++
          chunkUnlessEmpty commonName .common (sentTo .common) ++
          g.entries.zipIdx.map fun (e, place) =>
            ⟨e.1, .entry, sentTo (.entry place), some e.2⟩)
    ids := g.moduleIds root optimization.deterministicIds }

/-- The modules that some entry reaches, in the order of their numbers. -/
def owned (g : ModuleGraph) : List Nat :=
  let reached := g.reached
  (List.range g.size).filter fun i => !(owners reached i).isEmpty

/-- The chunks of a graph when modules are found in the order of their numbers. -/
def assignChunks (g : ModuleGraph) (root : Path) (optimization : Optimization) : ChunkSet :=
  g.assignChunksFrom root optimization g.owned

end ModuleGraph

end Bundler
