import Bundler.Proofs.Chunk.Shape
import Bundler.Proofs.Output.Emission
import Bundler.Proofs.Output.Order

set_option autoImplicit false

/-! # Scripts of graphs of one shape

A chunk has the same script in two graphs of one shape if the modules that it names have the same
ids and the modules that it holds have the same contents (`script_of_sameShape`). -/

namespace Bundler.Emit

open ModuleGraph (SameShape)

variable {g g' : ModuleGraph} {root root' : Path} {optimization : Optimization} {c : Chunk}

/-- Whether the script of a chunk names a module: one that the chunk holds, one that such a module
    depends on, or the one that the chunk starts. -/
def Names (g : ModuleGraph) (c : Chunk) (i : Nat) : Prop :=
  i ∈ c.modules ∨ (∃ j ∈ c.modules, i ∈ g.targets j) ∨ i ∈ c.entry

/-- A chunk names modules of the graph if those that it holds and those of entries are such. -/
theorem Names.lt_size {i : Nat} (h : Names g c i) (hg : g.WellFormed) {found : List Nat}
    (hfound : ∀ i ∈ found, i < g.size)
    (hc : c ∈ (g.assignChunksFrom root optimization found).chunks) : i < g.size := by
  have hheld : ∀ j ∈ c.modules, j < g.size := fun j hj =>
    hfound j (ModuleGraph.mem_found_of_mem_chunks root optimization hc hj).1
  rcases h with hi | ⟨j, hj, hi⟩ | hi
  · exact hheld i hi
  · exact hg.edgesInRange j (hheld j hj) i hi
  · obtain ⟨e, he, rfl⟩ := ModuleGraph.exists_of_mem_entry root optimization hc hi
    exact hg.entry_lt e he

/-- Scripts do not ask for the order in which modules are found. -/
theorem script_assignChunksFrom (mode : Mode) (found : List Nat) (c : Chunk) :
    script mode g (g.assignChunksFrom root optimization found) c
      = script mode g (g.assignChunks root optimization) c := rfl

/-- A chunk has the same script if ids and contents are the same as far as it shows them. -/
theorem script_of_sameShape (mode : Mode) (h : SameShape root root' optimization g g')
    (hnames : ∀ i, Names g c i → i < g.size)
    (hids : ∀ i, Names g c i → (g'.assignChunks root' optimization).moduleId? i
      = (g.assignChunks root optimization).moduleId? i)
    (hcontents : ∀ i ∈ c.modules,
      (g'.module? i).map (·.content) = (g.module? i).map (·.content)) :
    script mode g' (g'.assignChunks root' optimization) c
      = script mode g (g.assignChunks root optimization) c := by
  have hmoduleId : ∀ i, Names g c i → moduleId g' (g'.assignChunks root' optimization) i
      = moduleId g (g.assignChunks root optimization) i := by
    intro i hi
    obtain ⟨id, hid⟩ := g.exists_moduleId? root optimization (hnames i hi)
    rw [moduleId_eq_ok_iff.2 hid, moduleId_eq_ok_iff.2 ((hids i hi).trans hid)]
  have hscript : script mode g' (g'.assignChunks root' optimization) (c.renumber id)
      = script mode g (g.assignChunks root optimization) c := by
    refine script_congr mode (fun i hi => ?_) fun i hi => hmoduleId i (.inr (.inr hi))
    refine registration_congr ?_ (hmoduleId i (.inl hi)) (hcontents i hi)
    refine dependencyIds_congr (h.dependencies_eq i) fun d hd => ?_
    exact hmoduleId d.2 (.inr (.inl ⟨i, hi, ModuleGraph.mem_targets_iff.2 ⟨d, hd, rfl⟩⟩))
  rwa [Chunk.renumber_id] at hscript

end Bundler.Emit
