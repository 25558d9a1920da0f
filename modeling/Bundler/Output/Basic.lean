import Bundler.NameMap

set_option autoImplicit false

/-! # The output of a build

The files of a build by name, with the file of each chunk and the document among them. -/

namespace Bundler

/-- The files of a build. -/
structure BuildOutput where
  files : NameMap ByteArray
  chunkFiles : List (String × String)
  document : Option String

namespace BuildOutput

/-- No files. -/
def empty : BuildOutput := ⟨.empty, [], none⟩

instance : Inhabited BuildOutput := ⟨empty⟩

/-- The content of a file. -/
def file? (o : BuildOutput) (name : String) : Option ByteArray := o.files.get? name

/-- The output with a file. -/
def insert (o : BuildOutput) (name : String) (content : ByteArray) : BuildOutput :=
  { o with files := o.files.insert name content }

/-- The output with the file of a chunk. -/
def insertChunk (o : BuildOutput) (chunk name : String) (content : ByteArray) : BuildOutput :=
  { o.insert name content with chunkFiles := o.chunkFiles ++ [(chunk, name)] }

/-- The output with its document. -/
def insertDocument (o : BuildOutput) (name : String) (content : ByteArray) : BuildOutput :=
  { o.insert name content with document := some name }

/-- The file of the first chunk of a name. -/
def chunkFile? (o : BuildOutput) (chunk : String) : Option String := o.chunkFiles.lookup chunk

/-- The number of files. -/
def size (o : BuildOutput) : Nat := o.files.size

end BuildOutput

end Bundler
