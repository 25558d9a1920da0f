import Bundler.ModuleGraph

set_option autoImplicit false

/-! # Ids of modules

The id of a module is its project-relative path, or a digest of that path and of the module's
digest, of which the first eight digits are taken. A module whose digits are taken by a module
before it, in the order of paths, gets two digits more until they are free. -/

namespace Bundler.ModuleGraph

/-- The project-relative path of a module. -/
def relativePath (g : ModuleGraph) (root : Path) (i : Nat) : String :=
  ((g.module? i).map fun m => Path.relativeTo root m.path).getD ""

/-- Some modules with their project-relative paths, in the order of the paths. Modules whose paths
    are the same when seen from the root stay in their order. -/
def sortedByPath (g : ModuleGraph) (root : Path) (modules : List Nat) : List (Nat × String) :=
  (modules.map fun i => (i, g.relativePath root i)).mergeSort fun a b => decide (a.2 ≤ b.2)

/-- All modules with their project-relative paths, in the order of the paths. -/
def byRelativePath (g : ModuleGraph) (root : Path) : List (Nat × String) :=
  g.sortedByPath root (List.range g.size)

/-- The digits of a digest that an id takes at first. -/
def shortestId : Nat := 8

/-- The digits that a taken id is lengthened by. -/
def idStep : Nat := 2

/-- The shortest start of some digits, of at least `length` of them, that is not taken; all of them
    if there is none. -/
def freeStart (taken : List String) (digits : List Char) (length : Nat) : String :=
  if taken.contains (.ofList (digits.take length)) && length < digits.length then
    freeStart taken digits (length + idStep)
  else .ofList (digits.take length)
termination_by digits.length - length
decreasing_by
  simp only [Bool.and_eq_true, decide_eq_true_eq] at *
  simp only [idStep]
  omega

/-- The digits that the id of a module is taken from. -/
def idDigits (relativePath : String) (m : Module) : List Char :=
  (Digest.ofParts [relativePath.toUTF8, m.digest.toUTF8]).toList

/-- The ids of some modules after those that are taken. -/
def digestIds (g : ModuleGraph) (taken : List String) :
    List (Nat × String) → List (Nat × String)
  | [] => []
  | (i, relativePath) :: rest =>
    match g.module? i with
    | some m =>
      let id := freeStart taken (idDigits relativePath m) shortestId
      (i, id) :: g.digestIds (id :: taken) rest
    | none => g.digestIds taken rest

/-- The id of each module by its number. -/
def moduleIds (g : ModuleGraph) (root : Path) (deterministic : Bool) : List (Nat × String) :=
  let modules := g.byRelativePath root
  if deterministic then g.digestIds [] modules else modules

end Bundler.ModuleGraph
