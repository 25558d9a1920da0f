import Bundler.Digest
import Bundler.Transform.Basic

set_option autoImplicit false

/-! # Modules

A module is a file after its transforms. It is identified by its path, and its digest follows from
its content alone. It refers to each other module once, however often its text does. -/

namespace Bundler

/-- The members of a list without those that came before are different from each other. -/
theorem nodup_eraseDups {α : Type} [BEq α] [LawfulBEq α] (l : List α) : l.eraseDups.Nodup := by
  match l with
  | [] => simp
  | a :: rest =>
    rw [List.eraseDups_cons, List.nodup_cons]
    refine ⟨fun h => ?_, nodup_eraseDups (rest.filter fun b => !b == a)⟩
    have := (List.mem_filter.1 (List.mem_eraseDups.1 h)).2
    simp at this
termination_by l.length
decreasing_by
  exact Nat.lt_succ_of_le (List.length_filter_le _ _)

/-- A file after its transforms. -/
structure Module where
  path : Path
  content : String
  references : List String
  assets : List Asset
  transforms : List String
  references_nodup : references.Nodup

namespace Module

/-- The module of some content, which may give a reference more than once. -/
def ofContent (path : Path) (content : String) (references : List String) (assets : List Asset)
    (transforms : List String) : Module where
  path := path
  content := content
  references := references.eraseDups
  assets := assets
  transforms := transforms
  references_nodup := nodup_eraseDups references

/-- The digest of the content of a module. -/
def digest (m : Module) : String := Digest.ofContent m.content.toUTF8

end Module

end Bundler
