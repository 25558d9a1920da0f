import Bundler.Build.Error
import Bundler.Log
import Bundler.Module
import Bundler.Transform.Standard

set_option autoImplicit false

/-! # Loading modules

A file is loaded by transforming it, unless its module is known from before, and by resolving the
references of the module. References are resolved in every build, since files come and go.

A build keeps the modules that it has made and the events that it has caused, also when it fails. -/

namespace Bundler

/-! ## Known modules -/

/-- Modules by the paths of their files. -/
structure ModuleCache where
  entries : List (Path × Module)

namespace ModuleCache

/-- No modules. -/
def empty : ModuleCache := ⟨[]⟩

/-- The module of the file at a path. -/
def get? (cache : ModuleCache) (p : Path) : Option Module :=
  (cache.entries.find? (·.1.same p)).map (·.2)

/-- The cache without the file at a path. -/
def erase (cache : ModuleCache) (p : Path) : ModuleCache :=
  ⟨cache.entries.filter (!·.1.same p)⟩

/-- The cache with the module of the file at a path. -/
def insert (cache : ModuleCache) (p : Path) (m : Module) : ModuleCache :=
  ⟨(p, m) :: (cache.erase p).entries⟩

end ModuleCache

/-! ## Steps of a build -/

/-- What the modules of a build depend on. -/
structure BuildContext where
  configuration : Configuration
  registry : Registry
  disk : Disk

/-- What a build leaves behind besides its result. -/
structure BuildState where
  cache : ModuleCache := .empty
  events : List LogEvent := []

/-- A step of a build. -/
abbrev BuildM := ExceptT BuildError (StateM BuildState)

namespace BuildM

/-- The step that gives a result. -/
def ofResult {ε α : Type} (inject : ε → BuildError) (result : Except ε α) : BuildM α :=
  ExceptT.mk (pure (result.mapError inject))

/-- The step that tells an event. -/
def note (e : LogEvent) : BuildM Unit :=
  modify fun s => { s with events := s.events ++ [e] }

end BuildM

namespace BuildContext

/-! ## Transforming -/

/-- The transform of a name in the rule of a file. -/
def transform? (c : BuildContext) (p : Path) (name : String) : Except TransformError Transform :=
  match c.registry.get? name with
  | some t => .ok t
  | none => .error ⟨p, name, .notRegistered⟩

/-- A file after the transforms of its rule, or passed on if it has none, and their names. -/
def transformFile (c : BuildContext) (p : Path) :
    Except BuildError (Transformed × List String) := do
  let content ← (c.disk.read p).mapError .file
  let configuration := c.configuration
  match configuration.rule? p with
  | some rule =>
    let chain ← (rule.transforms.mapM (c.transform? p)).mapError .transform
    let transformed ←
      (Transform.applyChain configuration.context p content chain).mapError .transform
    return (transformed, rule.transforms)
  | none =>
    match configuration.passthrough.classify? configuration.resolution.extensions p with
    | some .module => return (← (Transform.passModule p content).mapError .transform, [])
    | some .asset =>
      return (← (Transform.passAsset configuration.context p content).mapError .transform, [])
    | none => throw (.unhandled p)

/-- The module of a transformed file. A content that is no text is the fault of the last transform. -/
def moduleOf (p : Path) (transformed : Transformed) (transforms : List String) :
    Except TransformError Module :=
  match String.fromUTF8? transformed.content with
  | some content =>
    .ok (.ofContent p content transformed.references transformed.assets transforms)
  | none =>
    .error ⟨p, transforms.getLast?.getD Transform.passthroughName, .moduleNotUtf8⟩

/-- The module of a file that is not known yet. -/
def makeModule (c : BuildContext) (p : Path) : BuildM Module := do
  let (transformed, transforms) ← BuildM.ofResult id (c.transformFile p)
  BuildM.note (.transformed p transforms)
  let m ← BuildM.ofResult .transform (moduleOf p transformed transforms)
  modify fun s => { s with cache := s.cache.insert p m }
  return m

/-- The module of a file. -/
def module (c : BuildContext) (p : Path) : BuildM Module := do
  match (← get).cache.get? p with
  | some m => return m
  | none => c.makeModule p

/-! ## Dependencies -/

/-- The path that a reference of the file at a path stands for. -/
def resolve (c : BuildContext) (p : Path) (reference : String) : Except BuildError Path :=
  (c.configuration.resolution.resolve c.disk c.configuration.root p reference).mapError .ofResolve

/-- The paths that the references of a module stand for. -/
def dependencies (c : BuildContext) (p : Path) (m : Module) :
    Except BuildError (List (String × Path)) :=
  m.references.mapM fun reference => do return (reference, ← c.resolve p reference)

end BuildContext

/-- A module and the paths that its references stand for. -/
structure Loaded where
  module : Module
  dependencies : List (String × Path)

/-- The module of a file with its dependencies. -/
def BuildContext.load (c : BuildContext) (p : Path) : BuildM Loaded := do
  let m ← c.module p
  return ⟨m, ← BuildM.ofResult id (c.dependencies p m)⟩

end Bundler
