import Bundler.Build.Graph
import Bundler.Output.Compress

set_option autoImplicit false

/-! # Builds

A build makes the graph of the project, divides its modules into chunks and emits them together
with the assets and the document. In production, compressed companions are added. -/

namespace Bundler

/-- A finished build. -/
structure Build where
  graph : ModuleGraph
  chunks : ChunkSet
  output : BuildOutput

namespace BuildContext

/-- The document that scripts are put into, if the project has its own. -/
def template (c : BuildContext) : Except BuildError (Option String) :=
  match c.configuration.output.template with
  | none => return none
  | some p => do
    match String.fromUTF8? (← (c.disk.read p).mapError .file) with
    | some text => return some text
    | none => throw (.emit (.invalidTemplate p))

/-- The files of a graph whose modules are divided into chunks. -/
def output (c : BuildContext) (g : ModuleGraph) (chunks : ChunkSet) : BuildM BuildOutput := do
  let template ← BuildM.ofResult id c.template
  let output ← BuildM.ofResult .emit (emit c.configuration g chunks template)
  BuildM.note (.filesEmitted output.size)
  match c.configuration.context.mode with
  | .development => return output
  | .production =>
    let (output, count) := output.compress c.configuration.optimization.compression
    BuildM.note (.filesCompressed count)
    return output

/-- The build of a project that finds the modules which the entries of its graph reach in some
    order. -/
def buildFrom (c : BuildContext) (found : ModuleGraph → List Nat) : BuildM Build := do
  let graph ← c.graph
  BuildM.note (.graphBuilt graph.size)
  let chunks := graph.assignChunksFrom c.configuration.root c.configuration.optimization
    (found graph)
  BuildM.note (.chunksAssigned chunks.chunks.length)
  return ⟨graph, chunks, ← c.output graph chunks⟩

/-- The build of a project that finds modules in the order of their numbers. -/
def build (c : BuildContext) : BuildM Build := c.buildFrom ModuleGraph.owned

end BuildContext

end Bundler
