import Bundler.CommandLine.Program

set_option autoImplicit false

/-! # What a run looks at

A run depends only on what stands at the paths that it looks at and on the variables that it reads.
Which paths these are follows from the files that are known already: when more of them are known, a
run gets further and looks at more paths. -/

namespace Bundler

namespace Resolution

/-- The paths that are looked at for a reference at one of its bases. -/
def lookupsAt (d : Disk) (r : Resolution) (base : Path) : List Path :=
  let named := ((packageStart? d base).toOption.getD none).toList.flatMap fun s =>
    r.packageCandidates (base.join ⟨s⟩)
  r.candidates base ++ [base.join ⟨Package.manifestName⟩] ++ named ++
    r.candidates (base.join ⟨indexName⟩)

/-- The paths that are looked at for the references of a module. -/
def lookups (d : Disk) (root : Path) (r : Resolution) (m : Module) : List Path :=
  let directory := m.path.parent?.getD root
  m.references.flatMap fun reference =>
    (r.bases root directory reference).flatMap (lookupsAt d r)

end Resolution

/-- The paths that a release looks at. -/
def BuildContext.lookups (c : BuildContext) : List Path :=
  let configuration := c.configuration
  let modules := (c.build.run.run {}).2.cache.entries.map (·.2)
  let inputs := configuration.entries.map (·.path) ++ configuration.output.template.toList
  inputs ++ modules.flatMap (configuration.resolution.lookups c.disk configuration.root)

/-- The places that a release replaces. -/
def Configuration.places (c : Configuration) : List Path :=
  let directory := c.output.directory
  directory :: [BuildOutput.stagingMark, BuildOutput.previousMark].filterMap
    (BuildOutput.sibling? directory)

namespace CommandLine

/-- The disk and the configuration of a run, as far as they are known. -/
def Program.known? (w : World) (a : Arguments) : Option (Disk × Configuration) := do
  let d ← (Program.enter w.disk a.directory).toOption
  let (_, c) ← (Program.configure w d a).toOption
  return (d, c)

/-- The paths that a run looks at, seen from the directory where it starts. -/
def Program.lookups (w : World) (a : Arguments) : List Path :=
  let directory := a.directory.toList.map (⟨·⟩)
  let file : Path := ⟨a.file.getD Program.defaultFile⟩
  let files := match Program.enter w.disk a.directory with
    | .ok d => [d.current.path.join file]
    | .error _ => []
  let more := match Program.known? w a with
    | some (d, c) => BuildContext.lookups ⟨c, Transform.standard, d⟩
    | none => []
  directory ++ files ++ more

/-- The places that a run replaces. -/
def Program.places (w : World) (a : Arguments) : List Path :=
  match Program.known? w a with
  | some (_, c) => c.places
  | none => []

/-- The variables that a run reads for its settings. -/
def Program.variableNames (w : World) (a : Arguments) : List String :=
  match Program.enter w.disk a.directory with
  | .error _ => []
  | .ok d =>
    match (Program.source d a.file).toOption.bind fun s => (Settings.read s.2).toOption with
    | none => []
    | some statements => statements.filterMap fun
      | .environment name _ => some name
      | _ => none

end CommandLine

end Bundler
