import Bundler.Proofs.Chunk.Exact

set_option autoImplicit false

/-! # What chunks are made from

Which modules go to which chunk, and in which order, follows from their project-relative paths, from
whether their paths are those of packages, and from edges and entries. Graphs that have these in
common have the same chunks (`SameShape.chunks_eq`), wherever their projects lie and whatever their
modules contain. -/

namespace Bundler.ModuleGraph

/-- Whether two graphs have in common what chunks are made from, each seen from a root directory. -/
structure SameShape (root root' : Path) (optimization : Optimization) (g g' : ModuleGraph) :
    Prop where
  relativePaths : g'.modules.map (fun m => Path.relativeTo root' m.path)
    = g.modules.map fun m => Path.relativeTo root m.path
  vendors : g'.modules.map (fun m => optimization.vendor.isMatch m.path.text)
    = g.modules.map fun m => optimization.vendor.isMatch m.path.text
  references : g'.modules.map (·.references) = g.modules.map (·.references)
  edges : g'.edges = g.edges
  entries : g'.entries = g.entries

variable {g g' : ModuleGraph} {root root' : Path} {optimization : Optimization}

/-- What all modules have in common, each of them has. -/
theorem map_module?_eq {β : Type} {f f' : Module → β} (h : g'.modules.map f' = g.modules.map f)
    (i : Nat) : (g'.module? i).map f' = (g.module? i).map f := by
  have hplace := congrArg (fun l : List β => l[i]?) h
  simpa [module?] using hplace

namespace SameShape

theorem size_eq (h : SameShape root root' optimization g g') : g'.size = g.size := by
  have hlength := congrArg List.length h.references
  simpa [size] using hlength

theorem relativePath_eq (h : SameShape root root' optimization g g') (i : Nat) :
    g'.relativePath root' i = g.relativePath root i := by
  unfold relativePath
  rw [map_module?_eq h.relativePaths i]

theorem reached_eq (h : SameShape root root' optimization g g') : g'.reached = g.reached := by
  have htargets : g'.targets = g.targets := by
    funext i
    unfold targets edgesOf
    rw [h.edges]
  unfold reached reachable
  rw [h.entries, htargets, h.size_eq]

theorem dependencies_eq (h : SameShape root root' optimization g g') (i : Nat) :
    g'.dependencies i = g.dependencies i := by
  have hplace : ∀ (g : ModuleGraph) reference, g.referencePlace i reference
      = (((g.module? i).map (·.references)).map (List.idxOf reference)).getD 0 := by
    intro g reference
    unfold referencePlace
    cases g.module? i <;> rfl
  unfold dependencies edgesOf
  simp only [hplace, h.edges, map_module?_eq h.references i]

theorem destination_eq (h : SameShape root root' optimization g g') (reached : List (List Nat))
    (i : Nat) : g'.destination optimization reached i = g.destination optimization reached i := by
  have hany : ∀ (g : ModuleGraph),
      (g.module? i).any (fun m => optimization.vendor.isMatch m.path.text)
        = ((g.module? i).map fun m => optimization.vendor.isMatch m.path.text).getD false := by
    intro g
    cases g.module? i <;> rfl
  unfold destination
  rw [hany g', hany g, map_module?_eq h.vendors i]

theorem sortedByPath_eq (h : SameShape root root' optimization g g') (modules : List Nat) :
    g'.sortedByPath root' modules = g.sortedByPath root modules := by
  unfold sortedByPath
  simp only [h.relativePath_eq]

theorem byRelativePath_eq (h : SameShape root root' optimization g g') :
    g'.byRelativePath root' = g.byRelativePath root := by
  unfold byRelativePath
  rw [h.sortedByPath_eq, h.size_eq]

theorem owned_eq (h : SameShape root root' optimization g g') : g'.owned = g.owned := by
  unfold owned
  rw [h.reached_eq, h.size_eq]

/-- The chunks hold the same modules in the same order, if the modules are found in one order. -/
theorem chunksFrom_eq (h : SameShape root root' optimization g g') (found : List Nat) :
    (g'.assignChunksFrom root' optimization found).chunks
      = (g.assignChunksFrom root optimization found).chunks := by
  have hsent : ∀ d, g'.sentTo root' optimization found d = g.sentTo root optimization found d := by
    intro d
    unfold sentTo
    simp only [h.sortedByPath_eq, h.reached_eq, h.destination_eq]
  rw [chunks_assignChunksFrom, chunks_assignChunksFrom]
  simp only [hsent, h.entries]

theorem chunks_eq (h : SameShape root root' optimization g g') :
    (g'.assignChunks root' optimization).chunks = (g.assignChunks root optimization).chunks := by
  unfold assignChunks
  rw [h.owned_eq, h.chunksFrom_eq]

end SameShape

end Bundler.ModuleGraph
