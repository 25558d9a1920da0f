import Bundler.FileTree.Walk

set_option autoImplicit false

/-! # The disk

A disk is a file tree together with the directory that relative paths start from and the operations
that are denied. An operation is denied by the end of the text of its path, before it does anything.
Asking whether something is there never fails.

What changes a disk runs in `DiskM`, which keeps the changes made before a failure. -/

namespace Bundler

/-- An operation that can be denied. -/
inductive FileOperation
  | read
  | canonicalize
  | write
  | create
  | remove
  | rename
deriving DecidableEq, Repr

/-- Denies an operation at the paths whose texts have an ending. -/
structure Fault where
  operation : FileOperation
  ending : String
deriving DecidableEq, Repr

/-- A file tree, the directory that relative paths start from, and what is denied. -/
structure Disk where
  tree : FileTree
  current : Location := []
  faults : List Fault := []

namespace Path

/-- An absolute path without what does not count at its ends: slashes and `.` segments. -/
def trimmed (p : Path) : Path :=
  if p.isAbsolute then
    let counts (segment : List Char) := segment ≠ [] ∧ segment ≠ ['.']
    let core := (p.segments.dropWhile (¬ counts ·)).reverse.dropWhile (¬ counts ·)
    ⟨"/" ++ "/".intercalate (core.reverse.map String.ofList)⟩
  else p

end Path

namespace Disk

/-- The number of bytes below which a path must stay. -/
def pathLimit : Nat := 4096

/-- The failure of a path that can name nothing. -/
def textFailure? (p : Path) : Option FileFailure :=
  if p.text.toList.contains '\x00' then some .nulByte
  else if p.text.isEmpty then some .notFound
  else if pathLimit ≤ p.text.utf8ByteSize then some .nameTooLong
  else none

/-- The location of what stands at a path. -/
def locate (d : Disk) (p : Path) : Except FileFailure Location :=
  match textFailure? p with
  | some failure => .error failure
  | none => d.tree.walk FileTree.linkLimit (FileTree.start d.current p) p.steps

/-- What stands at a path. -/
def node? (d : Disk) (p : Path) : Option Node := (d.locate p).toOption.bind d.tree.node?

/-! ## Questions -/

/-- Whether there is something at a path. -/
def isPresent (d : Disk) (p : Path) : Bool := (d.node? p).isSome

/-- Whether a directory is at a path. -/
def isDirectory (d : Disk) (p : Path) : Bool := d.node? p == some .directory

/-- Whether a file is at a path. -/
def isFile (d : Disk) (p : Path) : Bool :=
  match d.node? p with
  | some (.file _) => true
  | _ => false

/-! ## Reading -/

/-- Whether an operation is denied at a path. -/
def isDenied (d : Disk) (operation : FileOperation) (p : Path) : Bool :=
  d.faults.any fun f => f.operation = operation && p.text.endsWith f.ending

/-- A result at a path, unless the operation is denied there. -/
def attempt {α : Type} (d : Disk) (operation : FileOperation) (p : Path)
    (result : Except FileFailure α) : Except FileError α :=
  if d.isDenied operation p then .error ⟨.denied, p⟩
  else result.mapError fun failure => ⟨failure, p.trimmed⟩

/-- The absolute path without links, `.` and `..` of what stands at a path. -/
def canonicalize (d : Disk) (p : Path) : Except FileError Path :=
  d.attempt .canonicalize p ((d.locate p).map Location.path)

/-- The content of the node at a location. -/
def contentAt (d : Disk) (l : Location) : Except FileFailure ByteArray :=
  match d.tree.node? l with
  | some (.file content) => .ok content
  | some _ => .error .isDirectory
  | none => .error .notFound

/-- The content of the file at a path. -/
def read (d : Disk) (p : Path) : Except FileError ByteArray :=
  d.attempt .read p (d.locate p >>= d.contentAt)

/-! ## Changing -/

/-- A step that can fail and that keeps its changes when it does. -/
abbrev DiskM (ε : Type) := EStateM ε Disk

/-- A change of the tree by an operation on a path. -/
def change (p : Path) (f : FileTree → Location → Except FileFailure FileTree) :
    DiskM FileFailure Unit := do
  let d ← get
  match textFailure? p with
  | some failure => throw failure
  | none =>
    match f d.tree d.current with
    | .ok t => set { d with tree := t }
    | .error failure => throw failure

/-- A step whose failures are those of an operation on a path. -/
def naming (p : Path) (step : DiskM FileFailure Unit) : DiskM FileError Unit :=
  step.adaptExcept fun failure => ⟨failure, p.trimmed⟩

/-- A step at a path, unless the operation is denied there. -/
def guarded (operation : FileOperation) (p : Path) (step : DiskM FileError Unit) :
    DiskM FileError Unit := do
  if (← get).isDenied operation p then throw ⟨.denied, p⟩
  step

/-- Makes one directory; it does not matter if it is there already. -/
def makeDirectory (p : Path) : DiskM FileFailure Unit :=
  tryCatch (change p fun t here => t.makeDirectory here p) fun failure => do
    if !(← get).isDirectory p then throw failure

/-- Makes the first of some directories, each of which lies in the next. If its directory is not
    there, that one is made first. -/
def makeNested : List Path → DiskM FileFailure Unit
  | [] => return
  | p :: above =>
    if p.text.isEmpty then return
    else tryCatch (makeDirectory p) fun failure => do
      if failure ≠ .notFound then throw failure
      makeNested above
      makeDirectory p

/-- Makes a directory and those that it lies in. -/
def create (p : Path) : DiskM FileError Unit :=
  guarded .create p (naming p (makeNested p.ancestors))

/-- Writes a file, after its directory is made. -/
def write (p : Path) (content : ByteArray) : DiskM FileError Unit :=
  guarded .write p do
    match p.parent? with
    | none => pure ()
    | some directory => naming directory (makeNested directory.ancestors)
    naming p (change p fun t here => t.write here p content)

/-- Removes a directory with everything in it, or a link. -/
def remove (p : Path) : DiskM FileError Unit :=
  guarded .remove p (naming p (change p fun t here => t.removeAt here p))

/-- Brings what stands at one path to another. -/
def rename (source target : Path) : DiskM FileError Unit :=
  guarded .rename source (naming source do
    match textFailure? target with
    | some failure => throw failure
    | none => change source fun t here => t.rename here source target)

end Disk

end Bundler
