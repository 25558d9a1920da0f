import Bundler.Module

set_option autoImplicit false

/-! # Module graphs

Modules are numbered in the order in which they are added, each path once. The numbers of paths are
kept beside the modules, so that a path is looked up without a search through them. An edge says
which module a reference of another module stands for; the first target of a reference stays.
Entries are the named modules where the application starts. Graphs may have cycles.

`reachable` follows edges forward from one module, and `affectedPaths` follows them back from some
paths. `components` divides the modules into groups that reach each other, and `cycles` keeps those
that are circular. -/

namespace Bundler

/-- What a reference of a module stands for. -/
structure Edge where
  importer : Nat
  reference : String
  target : Nat
deriving DecidableEq, Repr

/-- Modules, their resolved references (newest first), the numbers of paths and the entries. -/
structure ModuleGraph where
  modules : List Module := []
  edges : List Edge := []
  indexes : List (Path × Nat) := []
  entries : List (String × Nat) := []

namespace ModuleGraph

/-! ## Building -/

/-- The number of a path. -/
def index? (g : ModuleGraph) (p : Path) : Option Nat :=
  (g.indexes.find? (·.1.same p)).map (·.2)

/-- The module of a number. -/
def module? (g : ModuleGraph) (i : Nat) : Option Module := g.modules[i]?

/-- The number of modules. -/
def size (g : ModuleGraph) : Nat := g.modules.length

/-- The graph with a module, and the number of the module at its path. A module whose path is known
    is not added. -/
def addModule (g : ModuleGraph) (m : Module) : ModuleGraph × Nat :=
  match g.index? m.path with
  | some i => (g, i)
  | none =>
    let i := g.modules.length
    ({ g with modules := g.modules ++ [m], indexes := (m.path, i) :: g.indexes }, i)

/-- The graph with an edge, unless the reference of the importer has a target already. -/
def addDependency (g : ModuleGraph) (importer target : Nat) (reference : String) : ModuleGraph :=
  if g.edges.any fun e => e.importer == importer && e.reference == reference then g
  else { g with edges := ⟨importer, reference, target⟩ :: g.edges }

/-- The graph with one more entry. -/
def addEntry (g : ModuleGraph) (name : String) (i : Nat) : ModuleGraph :=
  { g with entries := g.entries ++ [(name, i)] }

/-! ## Dependencies -/

/-- The edges of a module, newest first. -/
def edgesOf (g : ModuleGraph) (i : Nat) : List Edge := g.edges.filter (·.importer == i)

/-- The place of a reference among those of a module; unknown references come after all others. -/
def referencePlace (g : ModuleGraph) (i : Nat) (reference : String) : Nat :=
  match g.module? i with
  | some m => m.references.idxOf reference
  | none => 0

/-- The dependencies of a module in the order of its references. -/
def dependencies (g : ModuleGraph) (i : Nat) : List (String × Nat) :=
  let sorted := (g.edgesOf i).mergeSort fun a b =>
    g.referencePlace i a.reference ≤ g.referencePlace i b.reference
  sorted.map fun e => (e.reference, e.target)

/-! ## Reaching -/

/-- Some members, some fresh ones, and what the fresh ones lead to in at most `n` steps. -/
def closeUnder (next : Nat → List Nat) : Nat → List Nat → List Nat → List Nat
  | 0, members, fresh => members ++ fresh
  | n + 1, members, fresh =>
    if fresh.isEmpty then members
    else
      let known := members ++ fresh
      closeUnder next n known ((fresh.flatMap next).eraseDups.filter fun i => !known.contains i)

/-- The modules that a module depends on directly. -/
def targets (g : ModuleGraph) (i : Nat) : List Nat := (g.edgesOf i).map (·.target)

/-- The modules that depend directly on a module. -/
def importers (g : ModuleGraph) (i : Nat) : List Nat :=
  (g.edges.filter (·.target == i)).map (·.importer)

/-- A module and all that it depends on, directly or not. -/
def reachable (g : ModuleGraph) (i : Nat) : List Nat := closeUnder g.targets g.size [] [i]

/-- A module and all that depend on it, directly or not. -/
def dependents (g : ModuleGraph) (i : Nat) : List Nat := closeUnder g.importers g.size [] [i]

/-- The paths without those that are the same as one before. -/
def distinctPaths (paths : List Path) : List Path := paths.eraseDupsBy Path.same

/-- A path and the paths of all modules that depend on the module at it. -/
def affectedBy (g : ModuleGraph) (p : Path) : List Path :=
  match g.index? p with
  | some i => p :: ((g.dependents i).filterMap g.module?).map (·.path)
  | none => [p]

/-- Some paths and the paths of all modules that depend on the modules at them. -/
def affectedPaths (g : ModuleGraph) (paths : List Path) : List Path :=
  distinctPaths (paths.flatMap g.affectedBy)

/-! ## Cycles -/

/-- The modules that a module reaches and that reach it, in the order of their numbers. -/
def component (g : ModuleGraph) (i : Nat) : List Nat :=
  let forward := g.reachable i
  let back := g.dependents i
  (List.range g.size).filter fun j => forward.contains j && back.contains j

/-- The groups of modules that reach each other, each module in one of them. -/
def components (g : ModuleGraph) : List (List Nat) :=
  ((List.range g.size).map g.component).eraseDups

/-- Whether there is an edge from one module to another. -/
def containsEdge (g : ModuleGraph) (importer target : Nat) : Bool :=
  g.edges.any fun e => e.importer == importer && e.target == target

/-- The groups that are circular: those of more than one module, and those whose module refers to
    itself. -/
def cyclesAmong (g : ModuleGraph) (components : List (List Nat)) : List (List Nat) :=
  components.filter fun c => c.length > 1 || c.head?.any fun i => g.containsEdge i i

/-- The groups of modules that depend on each other in a circle. -/
def cycles (g : ModuleGraph) : List (List Nat) := g.cyclesAmong g.components

end ModuleGraph

end Bundler
