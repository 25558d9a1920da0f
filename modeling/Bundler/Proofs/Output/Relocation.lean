import Bundler.Proofs.Build.Known
import Bundler.Proofs.Output.Shape
import Bundler.Proofs.Path.Relative

set_option autoImplicit false

/-! # The output wherever the project lies

A graph whose modules moved to another root directory has the same output (`emit_eq_of_moves`), if
the vendor pattern takes the same modules for those of packages as before. Paths are seen from the
root in ids, in the order of modules and in scripts. Below an absolute root, no two modules have the
same project-relative path, so that the order in which modules are found does not count either. -/

namespace Bundler

/-- Whether a module is another one after the project moved from one root to another. -/
structure Module.Moves (root root' : Path) (m m' : Module) : Prop where
  startsWith : m.path.startsWith root = true
  startsWith' : m'.path.startsWith root' = true
  relativePath : Path.relativeTo root' m'.path = Path.relativeTo root m.path
  content : m'.content = m.content
  references : m'.references = m.references
  assets : m'.assets = m.assets

namespace ModuleGraph

/-- Whether a graph is another one after the project moved from one root to another. -/
structure Moves (root root' : Path) (g g' : ModuleGraph) : Prop where
  modules : List.Forall₂ (Module.Moves root root') g.modules g'.modules
  edges : g'.edges = g.edges
  entries : g'.entries = g.entries

/-- Whether a pattern takes the same modules of two graphs for those of packages. -/
def VendorsAgree (optimization : Optimization) (g g' : ModuleGraph) : Prop :=
  g'.modules.map (fun m => optimization.vendor.isMatch m.path.text)
    = g.modules.map fun m => optimization.vendor.isMatch m.path.text

variable {g g' : ModuleGraph} {root root' : Path} {optimization : Optimization}

/-! ## What a move keeps -/

theorem Moves.map_eq {β : Type} (h : g.Moves root root' g') {f f' : Module → β}
    (hf : ∀ m m', m.Moves root root' m' → f' m' = f m) : g'.modules.map f' = g.modules.map f :=
  (Result.map_eq_map h.modules fun m m' hm => (hf m m' hm).symm).symm

theorem Moves.sameShape (h : g.Moves root root' g') (hvendors : VendorsAgree optimization g g') :
    SameShape root root' optimization g g' where
  relativePaths := h.map_eq fun _ _ hm => hm.relativePath
  vendors := hvendors
  references := h.map_eq fun _ _ hm => hm.references
  edges := h.edges
  entries := h.entries

/-- Ids are taken from what a move keeps. -/
theorem Moves.moduleIds_eq (h : g.Moves root root' g') (hvendors : VendorsAgree optimization g g')
    (deterministic : Bool) : g'.moduleIds root' deterministic = g.moduleIds root deterministic := by
  have hdigests : g'.modules.map Module.digest = g.modules.map Module.digest := by
    refine h.map_eq fun m m' hm => ?_
    unfold Module.digest
    rw [hm.content]
  unfold moduleIds
  rw [(h.sameShape hvendors).byRelativePath_eq]
  cases deterministic with
  | false => rfl
  | true =>
    have hids : g'.digestIds [] ((g.byRelativePath root).map fun x => (id x.1, x.2))
        = (g.digestIds [] (g.byRelativePath root)).map fun x => (id x.1, x.2) :=
      digestIds_map_eq (fun x _ => map_module?_eq hdigests x.1) []
    simpa using hids

/-- A graph has the same chunks after a move, and its modules have the same ids. -/
theorem Moves.assignChunks_eq (h : g.Moves root root' g')
    (hvendors : VendorsAgree optimization g g') :
    g'.assignChunks root' optimization = g.assignChunks root optimization := by
  have hids := h.moduleIds_eq hvendors optimization.deterministicIds
  exact congrArg₂ ChunkSet.mk (h.sameShape hvendors).chunks_eq hids

/-! ## Distinct paths -/

/-- Below an absolute root, the project-relative paths of modules are different. -/
theorem hasDistinctPaths_of_isAbsolute (hroot : root.isAbsolute = true) (hg : g.WellFormed)
    (hbelow : ∀ m ∈ g.modules, m.path.startsWith root = true) : g.HasDistinctPaths root := by
  refine List.pairwise_map.2 ((List.pairwise_map.1 hg.distinct).imp_of_mem ?_)
  intro m m' hm hm' hdistinct heq
  rw [Path.same_of_relativeTo_eq hroot (hbelow m hm) (hbelow m' hm') heq] at hdistinct
  cases hdistinct

/-- Paths are different if they are different when seen from the root. -/
theorem HasDistinctPaths.allDistinct (h : g.HasDistinctPaths root) :
    Path.AllDistinct (g.modules.map (·.path)) := by
  refine List.pairwise_map.2 ((List.pairwise_map.1 h).imp ?_)
  intro m m' hne
  exact Bool.eq_false_iff.2 fun hsame => hne (Path.relativeTo_eq_of_same hsame root)

theorem Moves.hasDistinctPaths (h : g.Moves root root' g') (hpaths : g.HasDistinctPaths root) :
    g'.HasDistinctPaths root' := by
  unfold HasDistinctPaths
  rw [h.map_eq fun _ _ hm => hm.relativePath]
  exact hpaths

theorem Moves.wellFormed (h : g.Moves root root' g') (hg : g.WellFormed)
    (hpaths : g.HasDistinctPaths root) : g'.WellFormed where
  distinct := (h.hasDistinctPaths hpaths).allDistinct
  importer_lt := by
    rw [h.edges, size, ← h.modules.length_eq]
    exact hg.importer_lt
  target_lt := by
    rw [h.edges, size, ← h.modules.length_eq]
    exact hg.target_lt
  nodup := by
    rw [h.edges]
    exact hg.nodup
  entry_lt := by
    rw [h.entries, size, ← h.modules.length_eq]
    exact hg.entry_lt

end ModuleGraph

/-! ## Outputs -/

variable {g g' : ModuleGraph} {root' : Path}

/-- A graph has the same output after a move to another root, under ids of both kinds, and if the
    root is absolute, in whatever order the modules that entries reach are found. -/
theorem emit_eq_of_moves (c : Configuration) (template : Option String) (hg : g.Built)
    (h : g.Moves c.root root' g') (hvendors : ModuleGraph.VendorsAgree c.optimization g g') :
    let c' := { c with root := root' }
    ∃ o, emit c g (g.assignChunks c.root c.optimization) template = .ok o ∧
      emit c' g' (g'.assignChunks c'.root c'.optimization) template = .ok o ∧
      (c.root.isAbsolute = true →
        (∀ found, g.ListsOwned found →
          emit c g (g.assignChunksFrom c.root c.optimization found) template = .ok o) ∧
        ∀ found, g'.ListsOwned found →
          emit c' g' (g'.assignChunksFrom c'.root c'.optimization found) template = .ok o) := by
  intro c'
  have hwell := hg.wellFormed
  obtain ⟨o, ho⟩ := Emit.exists_emit c hwell.edgesInRange hwell.entry_lt template
  have ho' : emit c' g' (g'.assignChunks c'.root c'.optimization) template = .ok o := by
    have hchunks := h.assignChunks_eq hvendors
    have hscripts : ∀ chunk ∈ (g.assignChunks c.root c.optimization).chunks,
        Emit.script c.context.mode g' (g.assignChunks c.root c.optimization) (chunk.renumber id)
          = Emit.script c.context.mode g (g.assignChunks c.root c.optimization) chunk := by
      intro chunk hchunk
      have hscript := Emit.script_of_sameShape c.context.mode (h.sameShape hvendors)
        (fun i hi => hi.lt_size hwell (fun _ hj => g.lt_size_of_mem_owned hj) hchunk)
        (fun i _ => by rw [hchunks])
        (fun i _ => ModuleGraph.map_module?_eq (h.map_eq fun _ _ hm => hm.content) i)
      rw [Chunk.renumber_id]
      rwa [hchunks] at hscript
    have hassets : g'.modules.flatMap (·.assets) = g.modules.flatMap (·.assets) := by
      rw [List.flatMap_def, List.flatMap_def, h.map_eq fun _ _ hm => hm.assets]
    have hfiles := Emit.foldlM_addChunk_congr hscripts .empty
    rw [List.map_congr_left fun chunk _ => chunk.renumber_id, List.map_id'] at hfiles
    rw [← ho]
    show emit c g' (g'.assignChunks root' c.optimization) template = _
    unfold emit Emit.addAssets
    rw [hchunks, hfiles, hassets]
  refine ⟨o, ho, ho', fun hroot => ?_⟩
  have hbelow : ∀ m ∈ g.modules, m.path.startsWith c.root = true := by
    intro m hm
    obtain ⟨_, _, hmoves⟩ := Result.exists_of_mem_left h.modules hm
    exact hmoves.startsWith
  have hpaths := ModuleGraph.hasDistinctPaths_of_isAbsolute hroot hwell hbelow
  refine ⟨fun found hfound => ?_, fun found hfound => ?_⟩
  · rwa [ModuleGraph.assignChunksFrom_eq hpaths hwell hfound]
  · rwa [ModuleGraph.assignChunksFrom_eq (h.hasDistinctPaths hpaths) (h.wellFormed hwell hpaths)
      hfound]

/-! ## Two modules below another root -/

namespace ModuleGraph

/-- The importing module below `/x`. -/
def movedImporting : Module := { importing with path := ⟨"/x/a.js"⟩ }

/-- The imported module below `/x`. -/
def movedImported : Module := { imported with path := ⟨"/x/b.js"⟩ }

theorem moves_linkedPair : (linkedPair importing imported 0 1).Moves ⟨"/"⟩ ⟨"/x"⟩
    (linkedPair movedImporting movedImported 0 1) where
  modules := by
    refine .cons ⟨?_, ?_, ?_, rfl, rfl, rfl⟩ (.cons ⟨?_, ?_, ?_, rfl, rfl, rfl⟩ .nil)
    all_goals decide
  edges := rfl
  entries := rfl

end ModuleGraph

open ModuleGraph in
/-- Two modules that move from `/` to `/x` have the same output. -/
theorem emit_eq_of_moves_linkedPair :
    let c := BuildContext.loneConfiguration
    let c' := { c with root := ⟨"/x"⟩ }
    let g := linkedPair importing imported 0 1
    let g' := linkedPair movedImporting movedImported 0 1
    (g.Built ∧ g.Moves c.root ⟨"/x"⟩ g' ∧ VendorsAgree c.optimization g g' ∧
      c.root.isAbsolute = true) ∧
    ∃ o, emit c g (g.assignChunks c.root c.optimization) none = .ok o ∧
      emit c' g' (g'.assignChunks c'.root c'.optimization) none = .ok o ∧
      (c.root.isAbsolute = true →
        (∀ found, g.ListsOwned found →
          emit c g (g.assignChunksFrom c.root c.optimization found) none = .ok o) ∧
        ∀ found, g'.ListsOwned found →
          emit c' g' (g'.assignChunksFrom c'.root c'.optimization found) none = .ok o) := by
  intro c c' g g'
  have hroot : c.root = ⟨"/"⟩ := BuildContext.root_lone
  have hg : g.Built := built_linkedPair (by decide) (by decide) (by decide)
  have hmoves : g.Moves c.root ⟨"/x"⟩ g' := hroot ▸ moves_linkedPair
  have hvendors : VendorsAgree c.optimization g g' := by
    unfold VendorsAgree
    decide
  exact ⟨⟨hg, hmoves, hvendors, by rw [hroot]; decide⟩,
    emit_eq_of_moves c none hg hmoves hvendors⟩

end Bundler
