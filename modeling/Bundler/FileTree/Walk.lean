import Bundler.FileTree.Basic
import Bundler.FileTree.Failure

set_option autoImplicit false

/-! # Walking paths in a file tree

A path is walked from left to right. Every step starts in a directory, also a step to `.` or `..`,
so that a path through something missing or through a file leads nowhere, and a slash at the end
asks for a directory. Links are followed as they are met, at most `linkLimit` of them. -/

namespace Bundler

/-- A step of a path. -/
inductive Step
  | stay
  | up
  | down (name : String)
deriving DecidableEq, Repr

namespace Path

/-- The step that a segment asks for; an empty segment asks for none. -/
def stepOf? (segment : List Char) : Option Step :=
  if segment = [] then none
  else if segment = ['.'] then some .stay
  else if segment = ['.', '.'] then some .up
  else some (.down (.ofList segment))

/-- Whether a path ends with a slash. -/
def endsWithSlash (p : Path) : Bool := p.text.toList.getLast? == some '/'

/-- The steps of a path; a slash at the end is a last step that stays. -/
def steps (p : Path) : List Step :=
  p.segments.filterMap stepOf? ++ if p.endsWithSlash then [.stay] else []

/-- The steps to the directory of a path that ends with a name, and that name. -/
def namedSteps? (p : Path) : Option (List Step × String) :=
  let steps := p.segments.filterMap stepOf?
  match steps.getLast? with
  | some (.down name) => some (steps.dropLast, name)
  | _ => none

end Path

namespace FileTree

/-- The number of links that one walk may follow. -/
def linkLimit : Nat := 40

/-- The number of bytes that a name may have. -/
def nameLimit : Nat := 255

/-- The location where a path starts, seen from a directory. -/
def start (here : Location) (p : Path) : Location := if p.isAbsolute then [] else here

/-- The location that some steps lead to, following at most the given number of links. -/
def walk (t : FileTree) (links : Nat) (here : Location) :
    List Step → Except FileFailure Location
  | [] => .ok here
  | step :: rest =>
    if !t.isDirectory here then .error .notDirectory
    else match step with
      | .stay => walk t links here rest
      | .up => walk t links here.dropLast rest
      | .down name =>
        if nameLimit < name.utf8ByteSize then .error .nameTooLong
        else match t.node? (here ++ [name]) with
          | none => .error .notFound
          | some (.link target) =>
            match links with
            | 0 => .error .tooManyLinks
            | k + 1 => walk t k (start here target) (target.steps ++ rest)
          | some _ => walk t links (here ++ [name]) rest
termination_by steps => (links, steps.length)

/-- The directory and the name that a path gives to something, whether it is there or not. A path
    that does not end with a name leads to `unnamed`. -/
def place (t : FileTree) (here : Location) (p : Path) (unnamed : FileFailure) :
    Except FileFailure (Location × String) :=
  match p.namedSteps? with
  | none => do
    let _ ← t.walk linkLimit (start here p) p.steps
    throw unnamed
  | some (before, name) => do
    let directory ← t.walk linkLimit (start here p) before
    if !t.isDirectory directory then throw .notDirectory
    if nameLimit < name.utf8ByteSize then throw .nameTooLong
    return (directory, name)

/-- The location where a file written to a path would stand: links are followed, also to what is
    not there yet. -/
def writingPlace (t : FileTree) (links : Nat) (here : Location) (p : Path) :
    Except FileFailure Location := do
  let (directory, name) ← t.place here p .isDirectory
  if p.endsWithSlash then throw .isDirectory
  match t.node? (directory ++ [name]) with
  | some .directory => throw .isDirectory
  | some (.link target) =>
    match links with
    | 0 => throw .tooManyLinks
    | k + 1 => writingPlace t k directory target
  | _ => return directory ++ [name]

/-! ## Changing operations -/

/-- The tree with a new directory at a path. -/
def makeDirectory (t : FileTree) (here : Location) (p : Path) : Except FileFailure FileTree := do
  let (directory, name) ← t.place here p .alreadyThere
  match t.node? (directory ++ [name]) with
  | some _ => throw .alreadyThere
  | none => return t.put (directory ++ [name]) .directory

/-- The tree with a file of the given content at a path. -/
def write (t : FileTree) (here : Location) (p : Path) (content : ByteArray) :
    Except FileFailure FileTree := do
  return t.put (← t.writingPlace linkLimit here p) (.file content)

/-- The tree without the directory, or the link, at a path. -/
def removeAt (t : FileTree) (here : Location) (p : Path) : Except FileFailure FileTree := do
  let (directory, name) ← t.place here p .busy
  match t.node? (directory ++ [name]) with
  | none => throw .notFound
  | some (.file _) => throw .notDirectory
  | some _ => return t.remove (directory ++ [name])

/-- The failure when `source` takes the place of something at `target`, if it may not. A directory
    takes the place of a directory without content only, anything else that of no directory. -/
def replacementFailure? (t : FileTree) (source : Node) (target : Location) : Option FileFailure :=
  match source, t.node? target with
  | _, none => none
  | .directory, some .directory => if t.isBare target then none else some .notEmpty
  | .directory, some _ => some .notDirectory
  | _, some .directory => some .isDirectory
  | _, some _ => none

/-- The tree with what stands at one path brought to another. Nothing is brought below itself or
    put in the place of a directory that it is in. -/
def rename (t : FileTree) (here : Location) (source target : Path) :
    Except FileFailure FileTree := do
  let (sourceDirectory, sourceName) ← t.place here source .busy
  let (targetDirectory, targetName) ← t.place here target .busy
  let old := sourceDirectory ++ [sourceName]
  let new := targetDirectory ++ [targetName]
  match t.node? old with
  | none => throw .notFound
  | some n =>
    if n ≠ .directory && (source.endsWithSlash || target.endsWithSlash) then throw .notDirectory
    if targetDirectory.isBelow old then throw .invalid
    if sourceDirectory.isBelow new then throw .notEmpty
    if old = new then return t
    match t.replacementFailure? n new with
    | some failure => throw failure
    | none => return t.move old new

end FileTree

end Bundler
