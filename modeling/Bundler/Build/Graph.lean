import Bundler.Build.Load
import Bundler.ModuleGraph

set_option autoImplicit false

/-! # The graph of a build

The graph holds the entries and everything that they depend on. Files are loaded wave by wave: the
first wave holds the entries, each further wave the files that the wave before refers to and that
no wave held before. A wave is loaded as a whole, and its first failure is reported.

Every wave after the first that is not empty holds a file that was in no wave before, so that there
are at most as many as the tree has locations, its root included. -/

namespace Bundler

/-! ## Waves -/

namespace BuildContext

/-- All files of a wave, or its first failure. -/
def loadWave (c : BuildContext) (wave : List Path) : BuildM (List Loaded) := do
  let results ← ExceptT.lift (wave.mapM fun p => (c.load p).run)
  BuildM.ofResult id (results.mapM id)

end BuildContext

/-- The paths that are neither among some others nor repeated. -/
def freshPaths (queued paths : List Path) : List Path :=
  ModuleGraph.distinctPaths (paths.filter fun p => !queued.any (·.same p))

namespace BuildContext

/-- The waves from one on, at most as many as given. -/
def loadWaves (c : BuildContext) : Nat → List Path → List Path → BuildM (List (List Loaded))
  | _, _, [] => return []
  | 0, _, _ => return []
  | n + 1, queued, wave => do
    let loaded ← c.loadWave wave
    let next := freshPaths queued (loaded.flatMap (·.dependencies.map (·.2)))
    return loaded :: (← loadWaves c n (queued ++ next) next)

/-- The names and canonical paths of the entries. -/
def entryPaths (c : BuildContext) : Except FileError (List (String × Path)) :=
  c.configuration.entries.mapM fun e => do return (e.name, ← c.disk.canonicalize e.path)

end BuildContext

/-! ## Assembling -/

namespace ModuleGraph

/-- The graph with a dependency of a module, if there is a module at its path. -/
def addDependencyAt (importer : Nat) (g : ModuleGraph) (d : String × Path) : ModuleGraph :=
  match g.index? d.2 with
  | some target => g.addDependency importer target d.1
  | none => g

/-- The graph with the dependencies of a module. -/
def addDependencies (g : ModuleGraph) (l : Loaded) : ModuleGraph :=
  match g.index? l.module.path with
  | none => g
  | some importer => l.dependencies.foldl (addDependencyAt importer) g

/-- The graph with a named entry, if there is a module at its path. -/
def addEntryAt (g : ModuleGraph) (entry : String × Path) : ModuleGraph :=
  match g.index? entry.2 with
  | some i => g.addEntry entry.1 i
  | none => g

/-- The graph of some loaded modules and entries. -/
def ofLoaded (loaded : List Loaded) (entries : List (String × Path)) : ModuleGraph :=
  let modules := loaded.foldl (fun (g : ModuleGraph) l => (g.addModule l.module).1) {}
  entries.foldl addEntryAt (loaded.foldl addDependencies modules)

/-- The paths of some modules. -/
def paths (g : ModuleGraph) (indices : List Nat) : List Path :=
  (indices.filterMap g.module?).map (·.path)

end ModuleGraph

/-- The graph of the entries and everything that they depend on. -/
def BuildContext.graph (c : BuildContext) : BuildM ModuleGraph := do
  let entries ← BuildM.ofResult .file c.entryPaths
  let first := freshPaths [] (entries.map (·.2))
  let waves ← c.loadWaves (c.disk.tree.size + 1) first first
  let g := ModuleGraph.ofLoaded waves.flatten entries
  g.cycles.forM fun cycle => BuildM.note (.cycle (g.paths cycle))
  return g

end Bundler
