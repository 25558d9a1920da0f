import Bundler.CommandLine.Survey

set_option autoImplicit false

/-! # The command line program

The parts of the disk that a run looks at are read first, until the run looks at nothing more. Then
the run is computed, and what it has changed is written back. -/

namespace Bundler.CommandLine

/-! ## Reading the disk -/

/-- What stands at a name in a directory. A link is read as one to where it leads in the end; if it
    leads nowhere, it is read as one to a name that nothing has. -/
def readNode (directory : Location) (name : String) : IO (Option Node) := do
  let entry : IO.FS.DirEntry := { root := directory.path.text, fileName := name }
  try
    match (← entry.path.symlinkMetadata).type with
    | .dir => return some .directory
    | .file => return some (.file (← IO.FS.readBinFile entry.path))
    | .symlink =>
      let target ← try pure (← IO.FS.realPath entry.path).toString catch _ => pure "\x00"
      return some (.link ⟨target⟩)
    | .other => return none
  catch _ => return none

/-- The tree with everything that some steps meet. -/
partial def fetchSteps (t : FileTree) (here : Location) : List Step → IO FileTree
  | [] => return t
  | .stay :: rest => fetchSteps t here rest
  | .up :: rest => fetchSteps t here.dropLast rest
  | .down name :: rest => do
    let l := here ++ [name]
    let node ← match t.node? l with
      | some n => pure (some n)
      | none => readNode here name
    match node with
    | none => return t
    | some n =>
      let t := if (t.node? l).isSome then t else t.put l n
      match n with
      | .directory => fetchSteps t l rest
      | .link target => fetchSteps t (FileTree.start here target) (target.steps ++ rest)
      | .file _ => return t

/-- The disk with everything that a path meets. -/
def fetch (d : Disk) (p : Path) : IO Disk := do
  return { d with tree := ← fetchSteps d.tree (FileTree.start d.current p) p.steps }

/-- The tree with everything below a location. -/
partial def fetchBelow (t : FileTree) (l : Location) : IO FileTree := do
  if !t.isDirectory l then return t
  let entry : IO.FS.DirEntry := { root := "/", fileName := l.path.text }
  let names := (← entry.path.readDir).toList.map (·.fileName)
  names.foldlM (fun t name => do
    match ← readNode l name with
    | some n => fetchBelow (t.put (l ++ [name]) n) (l ++ [name])
    | none => return t) t

/-- The disk with everything at and below a path. -/
def fetchAll (d : Disk) (p : Path) : IO Disk := do
  let d ← fetch d p
  match d.locate p with
  | .ok l => return { d with tree := ← fetchBelow d.tree l }
  | .error _ => return d

/-- The values of some variables. -/
def readVariables (names : List String) : IO (NameMap String) := do
  let values ← names.mapM fun name => do return (← IO.getEnv name).map (name, ·)
  return .ofList (values.filterMap id)

/-- The world with all that a run depends on. -/
partial def explore (w : World) (a : Arguments) : IO World := do
  let disk ← (Program.lookups w a).foldlM fetch w.disk
  let environment ← readVariables (Program.variableNames { w with disk } a)
  let next : World := { disk, environment }
  if disk.tree.size = w.disk.tree.size ∧ environment.size = w.environment.size then
    return { next with disk := ← (Program.places next a).foldlM fetchAll disk }
  else explore next a

/-! ## Writing the disk -/

/-- Removes what stands at a location. -/
def removeAt (l : Location) : Option Node → IO Unit
  | some .directory => IO.FS.removeDir l.path.text
  | some _ => IO.FS.removeFile l.path.text
  | none => return

/-- Makes what stands at a location. -/
def makeAt (l : Location) : Node → IO Unit
  | .directory => IO.FS.createDir l.path.text
  | .file content => IO.FS.writeBinFile l.path.text content
  | .link _ => return

/-- Makes the disk what a run has left, given what it was before. -/
def writeBack (before after : FileTree) : IO Unit := do
  let deepest := before.nodes.mergeSort fun a b => b.1.length ≤ a.1.length
  deepest.forM fun (l, n) => do
    if after.node? l ≠ some n ∧ ¬ (after.isDirectory l ∧ before.isDirectory l) then
      removeAt l (some n)
  let highest := after.nodes.mergeSort fun a b => a.1.length ≤ b.1.length
  highest.forM fun (l, n) => do
    if before.node? l ≠ some n then makeAt l n

/-! ## Running -/

/-- Runs the program with arguments and gives its ending. -/
def runArguments (a : Arguments) : IO Ending := do
  let here : Path := ⟨(← IO.FS.realPath ".").toString⟩
  let current := here.components.filterMap Path.Component.relativeName?
  let disk ← fetch { tree := .empty, current } here
  let w ← explore { disk, environment := .empty } a
  let start ← IO.monoMsNow
  let r := Program.run w a
  writeBack w.disk.tree r.disk.tree
  return .ofRun (toString ((← IO.monoMsNow) - start)) a r

end Bundler.CommandLine

open Bundler CommandLine in
/-- Runs the program. -/
def main (arguments : List String) : IO UInt32 := do
  let environment ← readVariables (Flag.all.filterMap Flag.variableName?)
  let ending ← match Arguments.read environment arguments with
    | .error e => pure (Ending.ofUsage environment e)
    | .ok a => runArguments a
  (← IO.getStdout).putStr ending.output
  (← IO.getStderr).putStr ending.messages
  return ending.code.toUInt32
