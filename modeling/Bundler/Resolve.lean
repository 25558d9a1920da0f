import Bundler.Configuration.Basic
import Bundler.Disk
import Bundler.Json.Reader

set_option autoImplicit false

/-! # Resolving references

A reference stands for a file. It is looked for at its bases: the path of the alias that applies to
it, or else the path next to the importer if it starts with a dot or a slash, or else the packages
of that name, from the importer's directory up to the root of the project. At each base the
candidates are tried in order: the base, the base with each extension, what the manifest of the
package at the base names, and the index of the base. The file found is known by its canonical
path, so that all references to a file lead to one module. -/

namespace Bundler

/-- Why a reference stands for no file. -/
inductive ResolveError
  | file (error : FileError)
  | notFound (importer : Path) (reference : String)
deriving DecidableEq, Repr

/-- The message for a reference that stands for no file. -/
def ResolveError.message : ResolveError → String
  | .file error => error.message
  | .notFound importer reference =>
    "cannot resolve \"" ++ reference ++ "\" imported by " ++ importer.text

namespace Package

/-- The directory that packages are in. -/
def directoryName : String := "node_modules"

/-- The file that describes a package. -/
def manifestName : String := "package.json"

/-- The members of a manifest that name the file to start with, in the order of preference. -/
def startMembers : List String := ["module", "main"]

/-- The file that a manifest names. -/
def start? (manifest : ByteArray) : Option String := do
  let value ← Json.read? (← String.fromUTF8? manifest)
  startMembers.findSome? fun name => (value.member? name).bind Json.Value.text?

end Package

namespace Resolution

/-- The file without extension that stands for its directory. -/
def indexName : String := "index"

/-! ## Where to look -/

/-- The directories from one up to the root; all above it if the root is not among them. -/
def upTo (root directory : Path) : List Path :=
  let above := directory.ancestors
  above.takeWhile (!·.same root) ++ (above.find? (·.same root)).toList

/-- The paths where a reference is looked for. -/
def bases (r : Resolution) (root directory : Path) (reference : String) : List Path :=
  match r.aliasedPath? reference with
  | some p => [p]
  | none =>
    if reference.startsWith "." || reference.startsWith "/" then [directory.join ⟨reference⟩]
    else (upTo root directory).map fun d => (d.join ⟨Package.directoryName⟩).join ⟨reference⟩

/-- A path with each of the extensions. -/
def withExtensions (r : Resolution) (p : Path) : List Path := r.extensions.map p.append

/-- A path, and the path with each of the extensions. -/
def candidates (r : Resolution) (p : Path) : List Path := p :: r.withExtensions p

/-- The candidates for what a manifest names: also the index of a directory of that name. -/
def packageCandidates (r : Resolution) (p : Path) : List Path :=
  r.candidates p ++ r.withExtensions (p.join ⟨indexName⟩)

/-! ## Looking -/

/-- The file that the manifest in a directory names, if there is a manifest. -/
def packageStart? (d : Disk) (base : Path) : Except FileError (Option String) := do
  let manifest := base.join ⟨Package.manifestName⟩
  if d.isFile manifest then return Package.start? (← d.read manifest)
  else return none

/-- The first file at a base. -/
def find? (d : Disk) (r : Resolution) (base : Path) : Except FileError (Option Path) := do
  match (r.candidates base).find? d.isFile with
  | some p => return some p
  | none =>
    let start ← packageStart? d base
    let named := start.bind fun s => (r.packageCandidates (base.join ⟨s⟩)).find? d.isFile
    return named.or ((r.candidates (base.join ⟨indexName⟩)).find? d.isFile)

/-- The first file at the first of some bases that has one. -/
def findFirst? (d : Disk) (r : Resolution) : List Path → Except FileError (Option Path)
  | [] => return none
  | base :: rest => do
    match ← find? d r base with
    | some p => return some p
    | none => findFirst? d r rest

/-- The canonical path of the file that a reference of an importer stands for. -/
def resolve (d : Disk) (root : Path) (r : Resolution) (importer : Path) (reference : String) :
    Except ResolveError Path := do
  let directory := importer.parent?.getD root
  match ← (findFirst? d r (r.bases root directory reference)).mapError .file with
  | some p => (d.canonicalize p).mapError .file
  | none => throw (.notFound importer reference)

end Resolution

end Bundler
