import Bundler.Bytes.Equality
import Bundler.Path

set_option autoImplicit false

/-! # File trees

A file tree says what stands at each location, a list of names from the root. The root itself is
always a directory and is not listed. A link holds a path, which is taken from the root if it is
absolute and from the link's directory otherwise. -/

namespace Bundler

/-- Where something stands in a file tree: the names from the root down. -/
abbrev Location := List String

namespace Location

/-- The absolute path of a location. -/
def path (l : Location) : Path := ⟨"/" ++ "/".intercalate l⟩

/-- Whether a location is inside a directory or the directory itself. -/
def isBelow (l directory : Location) : Bool := directory.isPrefixOf l

end Location

/-- What stands at a location. -/
inductive Node
  | directory
  | file (content : ByteArray)
  | link (target : Path)
deriving DecidableEq

/-- What stands at each location besides the root. -/
structure FileTree where
  nodes : List (Location × Node)

namespace FileTree

/-- Nothing but the root. -/
def empty : FileTree := ⟨[]⟩

instance : Inhabited FileTree := ⟨empty⟩

/-- What stands at a location. -/
def node? (t : FileTree) (l : Location) : Option Node :=
  if l = [] then some .directory else t.nodes.lookup l

/-- Whether a directory stands at a location. -/
def isDirectory (t : FileTree) (l : Location) : Bool := t.node? l == some .directory

/-- The number of locations besides the root. -/
def size (t : FileTree) : Nat := t.nodes.length

/-- The tree with something put at a location. -/
def put (t : FileTree) (l : Location) (n : Node) : FileTree :=
  ⟨(l, n) :: t.nodes.filter fun e => e.1 != l⟩

/-- The tree without a location and everything below it. -/
def remove (t : FileTree) (l : Location) : FileTree :=
  ⟨t.nodes.filter fun e => !e.1.isBelow l⟩

/-- Whether nothing stands below a location. -/
def isBare (t : FileTree) (l : Location) : Bool :=
  t.nodes.all fun e => e.1 == l || !e.1.isBelow l

/-- The tree with everything at and below one location brought to another, in the place of what
    stood there. -/
def move (t : FileTree) (source target : Location) : FileTree :=
  let moved := t.nodes.filter fun e => e.1.isBelow source
  let others := (t.remove target).nodes.filter fun e => !e.1.isBelow source
  ⟨moved.map (fun e => (target ++ e.1.drop source.length, e.2)) ++ others⟩

end FileTree

end Bundler
