import Bundler.Proofs.Chunk.Partition

set_option autoImplicit false

/-! # Every module has an id

Ids are given to the modules in the order of their paths, and no module is left out
(`exists_moduleId?`), whether ids are digests or paths. -/

namespace Bundler.ModuleGraph

variable (g : ModuleGraph)

theorem map_fst_digestIds (taken : List String) {modules : List (Nat × String)}
    (h : ∀ x ∈ modules, x.1 < g.size) :
    (g.digestIds taken modules).map (·.1) = modules.map (·.1) := by
  induction modules generalizing taken with
  | nil => rfl
  | cons x rest ih =>
    obtain ⟨i, relativePath⟩ := x
    obtain ⟨m, hm⟩ := exists_module_of_lt (h _ List.mem_cons_self)
    unfold digestIds
    rw [show g.module? i = some m from hm]
    show i :: List.map _ _ = _
    rw [ih _ fun x hx => h x (List.mem_cons_of_mem _ hx)]
    rfl

/-- Ids are given to all modules, each once. -/
theorem map_fst_moduleIds (root : Path) (deterministic : Bool) :
    ((g.moduleIds root deterministic).map (·.1)).Perm (List.range g.size) := by
  have hperm := g.map_fst_byRelativePath root
  unfold moduleIds
  split
  · rw [map_fst_digestIds g [] fun x hx =>
      List.mem_range.1 (hperm.mem_iff.1 (List.mem_map_of_mem hx))]
    exact hperm
  · exact hperm

theorem exists_moduleId? (root : Path) (optimization : Optimization) {i : Nat} (hi : i < g.size) :
    ∃ id, (g.assignChunks root optimization).moduleId? i = some id := by
  have hmem : i ∈ (g.moduleIds root optimization.deterministicIds).map (·.1) :=
    (g.map_fst_moduleIds root _).mem_iff.2 (List.mem_range.2 hi)
  show ∃ id, (g.moduleIds root optimization.deterministicIds).lookup i = some id
  cases hlookup : (g.moduleIds root optimization.deterministicIds).lookup i with
  | some id => exact ⟨id, rfl⟩
  | none =>
    obtain ⟨x, hx, rfl⟩ := List.mem_map.1 hmem
    have := List.lookup_eq_none_iff.1 hlookup x hx
    simp at this

end Bundler.ModuleGraph
