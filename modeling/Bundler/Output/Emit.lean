import Bundler.Chunk.Assignment
import Bundler.Chunk.Loader
import Bundler.Output.Basic
import Bundler.Output.Document
import Bundler.Text.Quoted

set_option autoImplicit false

/-! # Emitting chunks, assets and the document

Every chunk is written as one script that registers its modules under their ids, each with the ids
of what it depends on, and names the module to start, if it belongs to an entry. A chunk's file is
named after the chunk and a digest of its bytes. -/

namespace Bundler

/-- Why a graph could not be emitted. -/
inductive EmitError
  | invalidTemplate (template : Path)
  | moduleIdNotFound (path : Path)
deriving DecidableEq, Repr

/-- The message for a graph that could not be emitted. -/
def EmitError.message : EmitError → String
  | .invalidTemplate template => "template " ++ template.text ++ " is not valid UTF-8"
  | .moduleIdNotFound path => "module id not assigned to " ++ path.text

namespace Emit

/-- The id of a module, or the error that names its path. -/
def moduleId (g : ModuleGraph) (chunks : ChunkSet) (i : Nat) : Except EmitError String :=
  match chunks.moduleId? i with
  | some id => .ok id
  | none => .error (.moduleIdNotFound (((g.module? i).map (·.path)).getD default))

/-! ## Scripts of chunks -/

/-- An object of texts. -/
def objectText (members : NameMap String) : String :=
  "\x7b" ++ ",".intercalate (members.toList.map fun m => Text.quote m.1 ++ ":" ++ Text.quote m.2)
    ++ "\x7d"

/-- A list of texts. -/
def listText (members : List String) : String :=
  "[" ++ ",".intercalate (members.map Text.quote) ++ "]"

/-- The ids of what a module depends on, by reference. -/
def dependencyIds (g : ModuleGraph) (chunks : ChunkSet) (i : Nat) :
    Except EmitError (NameMap String) := do
  let ids ← (g.dependencies i).mapM fun (reference, target) => do
    return (reference, ← moduleId g chunks target)
  return .ofList ids

/-- The registration of a module. -/
def registration (g : ModuleGraph) (chunks : ChunkSet) (i : Nat) : Except EmitError String := do
  let dependencies ← dependencyIds g chunks i
  let id ← moduleId g chunks i
  let content := ((g.module? i).map (·.content)).getD ""
  return "    [" ++ Text.quote id ++ ", " ++ objectText dependencies ++
    ", function (module, exports, require) \x7b\n" ++ content ++ "\n\x7d],\n"

/-- The script of a chunk of modules. -/
def moduleScript (g : ModuleGraph) (chunks : ChunkSet) (c : Chunk) : Except EmitError String := do
  let registrations ← c.modules.mapM (registration g chunks)
  let entries ← c.entry.toList.mapM (moduleId g chunks)
  return "(self.weftChunks = self.weftChunks || []).push(\x7b\n  modules: [\n" ++
    String.join registrations ++ "  ],\n  entries: " ++ listText entries ++ "\n\x7d);\n"

/-- The script of a chunk. -/
def script (mode : Mode) (g : ModuleGraph) (chunks : ChunkSet) (c : Chunk) :
    Except EmitError String :=
  match c.kind with
  | .runtime => .ok (Loader.source mode)
  | .vendor | .common | .entry => moduleScript g chunks c

/-- The name of the file of a chunk. -/
def chunkFileName (c : Chunk) (content : ByteArray) : String :=
  c.name ++ "." ++ Digest.ofFile content ++ ".bundle.js"

/-! ## Whole outputs -/

/-- The output with the file of one more chunk. -/
def addChunk (mode : Mode) (g : ModuleGraph) (chunks : ChunkSet) (o : BuildOutput) (c : Chunk) :
    Except EmitError BuildOutput := do
  let content := (← script mode g chunks c).toUTF8
  return o.insertChunk c.name (chunkFileName c content) content

/-- The output with the assets of all modules. -/
def addAssets (g : ModuleGraph) (o : BuildOutput) : BuildOutput :=
  (g.modules.flatMap (·.assets)).foldl (fun o a => o.insert a.fileName a.content) o

/-- The output with the document, which loads the chunks of its entry. -/
def addDocument (c : Configuration) (chunks : ChunkSet) (template : Option String)
    (o : BuildOutput) : BuildOutput :=
  match c.startEntry with
  | none => o
  | some entry =>
    let scripts := (chunks.entryChunks entry.name).filterMap fun chunk => o.chunkFile? chunk.name
    o.insertDocument Document.fileName
      (Document.render template c.context.publicPath scripts).toUTF8

end Emit

/-- The files of a graph whose modules are divided into chunks. -/
def emit (c : Configuration) (g : ModuleGraph) (chunks : ChunkSet) (template : Option String) :
    Except EmitError BuildOutput := do
  let o ← chunks.chunks.foldlM (Emit.addChunk c.context.mode g chunks) .empty
  return Emit.addDocument c chunks template (Emit.addAssets g o)

end Bundler
