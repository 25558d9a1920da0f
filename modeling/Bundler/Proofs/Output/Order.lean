import Bundler.Proofs.Build.Known
import Bundler.Proofs.Chunk.Order
import Bundler.Proofs.Output.Emission

set_option autoImplicit false

/-! # The output in whatever order modules are found

Graphs with the same contents have the same output (`emit_eq_of_sameContents`), provided that
project-relative paths are different and that assets of one name are the same: scripts name modules
by ids, list them by paths and write dependencies in the order of their names, so that numbers show
up nowhere. -/

namespace Bundler

/-- Files of different names may be inserted in any order. -/
theorem BuildOutput.insert_comm (o : BuildOutput) {name name' : String} {content content' : ByteArray}
    (h : name = name' → content = content') :
    (o.insert name content).insert name' content'
      = (o.insert name' content').insert name content := by
  unfold BuildOutput.insert
  dsimp only
  rw [NameMap.insert_comm o.files h]

namespace ModuleGraph

/-- Whether assets of one file name have one content. -/
def AssetsAgree (g : ModuleGraph) : Prop :=
  ∀ a ∈ g.modules.flatMap (·.assets), ∀ b ∈ g.modules.flatMap (·.assets),
    a.fileName = b.fileName → a.content = b.content

end ModuleGraph

namespace Emit

variable {g g' : ModuleGraph} {σ : Nat → Nat} {root : Path} {optimization : Optimization}

/-! ## Scripts -/

/-- What a script says of a module depends on its id, its dependencies and its content. -/
theorem registration_congr {chunks chunks' : ChunkSet} {i i' : Nat}
    (hdependencies : dependencyIds g' chunks' i' = dependencyIds g chunks i)
    (hid : moduleId g' chunks' i' = moduleId g chunks i)
    (hcontent : (g'.module? i').map (·.content) = (g.module? i).map (·.content)) :
    registration g' chunks' i' = registration g chunks i := by
  unfold registration
  rw [hdependencies, hid, hcontent]

theorem dependencyIds_congr {chunks chunks' : ChunkSet} {i : Nat}
    (h : g'.dependencies i = g.dependencies i)
    (hids : ∀ d ∈ g.dependencies i, moduleId g' chunks' d.2 = moduleId g chunks d.2) :
    dependencyIds g' chunks' i = dependencyIds g chunks i := by
  unfold dependencyIds
  rw [h]
  congr 1
  refine Result.mapM_congr fun d hd => ?_
  show (moduleId g' chunks' d.2 >>= _) = moduleId g chunks d.2 >>= _
  rw [hids d hd]

theorem mapM_map_congr {α β ε γ : Type} {f : α → Except ε β} {f' : γ → Except ε β} {next : α → γ}
    {l : List α} (h : ∀ a ∈ l, f' (next a) = f a) : (l.map next).mapM f' = l.mapM f := by
  rw [List.mapM_map]
  exact Result.mapM_congr h

/-- The script of a chunk depends on what it says of its modules and on the id of its entry. -/
theorem script_congr (mode : Mode) {chunks chunks' : ChunkSet} {c : Chunk}
    (hmodules : ∀ i ∈ c.modules, registration g' chunks' (σ i) = registration g chunks i)
    (hentry : ∀ i ∈ c.entry, moduleId g' chunks' (σ i) = moduleId g chunks i) :
    script mode g' chunks' (c.renumber σ) = script mode g chunks c := by
  have hentries : (c.renumber σ).entry.toList.mapM (moduleId g' chunks')
      = c.entry.toList.mapM (moduleId g chunks) := by
    unfold Chunk.renumber
    rw [Option.toList_map]
    exact mapM_map_congr fun i hi => hentry i (Option.mem_toList.1 hi)
  have hmodule : moduleScript g' chunks' (c.renumber σ) = moduleScript g chunks c := by
    unfold moduleScript
    rw [hentries]
    unfold Chunk.renumber
    rw [mapM_map_congr hmodules]
  unfold script
  rw [hmodule]
  rfl

/-- Chunks with the same scripts give the same files. -/
theorem foldlM_addChunk_congr {mode : Mode} {chunks chunks' : ChunkSet} {l : List Chunk}
    (h : ∀ c ∈ l, script mode g' chunks' (c.renumber σ) = script mode g chunks c)
    (o : BuildOutput) :
    (l.map (Chunk.renumber σ)).foldlM (addChunk mode g' chunks') o
      = l.foldlM (addChunk mode g chunks) o := by
  induction l generalizing o with
  | nil => rfl
  | cons c rest ih =>
    have hfirst : addChunk mode g' chunks' o (c.renumber σ) = addChunk mode g chunks o c := by
      unfold addChunk
      rw [h c List.mem_cons_self]
      rfl
    rw [List.map_cons, List.foldlM_cons, List.foldlM_cons, hfirst]
    congr 1
    funext next
    exact ih (fun c hc => h c (List.mem_cons_of_mem _ hc)) next

/-! ## Scripts of renumbered modules -/

theorem moduleId_renumber (h : ModuleGraph.Renumbers σ g g') (hpaths : g'.HasDistinctPaths root)
    {i : Nat} (hi : i < g.size) :
    moduleId g' (g'.assignChunks root optimization) (σ i)
      = moduleId g (g.assignChunks root optimization) i := by
  unfold moduleId
  rw [h.moduleId?_eq hpaths hi, h.module?_eq i hi]

/-- The object of dependencies is written in the order of their names. -/
theorem dependencyIds_renumber (h : ModuleGraph.Renumbers σ g g') (hg : g.WellFormed)
    (hpaths : g'.HasDistinctPaths root) {i : Nat} (hi : i < g.size) :
    dependencyIds g' (g'.assignChunks root optimization) (σ i)
      = dependencyIds g (g.assignChunks root optimization) i := by
  have hlt : ∀ d ∈ g.dependencies i, d.2 < g.size := fun d hd =>
    hg.edgesInRange i hi _ (ModuleGraph.mem_targets_iff.2 ⟨d, hd, rfl⟩)
  have hperm := h.perm_dependencies hg hi
  generalize hchunks : g.assignChunks root optimization = chunks
  generalize hchunks' : g'.assignChunks root optimization = chunks'
  have hids : ∀ d ∈ g.dependencies i,
      chunks.moduleId? d.2 = some ((chunks.moduleId? d.2).getD "") := by
    intro d hd
    obtain ⟨id, hid⟩ := g.exists_moduleId? root optimization (hlt d hd)
    rw [← hchunks, hid]
    rfl
  have hids' : ∀ d ∈ g'.dependencies (σ i),
      chunks'.moduleId? d.2 = some ((chunks'.moduleId? d.2).getD "") := by
    intro d' hd'
    obtain ⟨d, hd, rfl⟩ := List.mem_map.1 (hperm.mem_iff.1 hd')
    rw [← hchunks', h.moduleId?_eq hpaths (hlt d hd), hchunks]
    exact hids d hd
  rw [dependencyIds_of_ids (fun j => (chunks.moduleId? j).getD "") hids,
    dependencyIds_of_ids (fun j => (chunks'.moduleId? j).getD "") hids']
  congr 1
  -- the same pairs in another order, and no name twice: that makes the same map
  have hentries : ((g'.dependencies (σ i)).map fun d => (d.1, (chunks'.moduleId? d.2).getD "")).Perm
      ((g.dependencies i).map fun d => (d.1, (chunks.moduleId? d.2).getD "")) := by
    refine (hperm.map _).trans (.of_eq ?_)
    rw [List.map_map]
    refine List.map_congr_left fun d hd => ?_
    rw [← hchunks, ← hchunks', ← h.moduleId?_eq hpaths (hlt d hd)]
    rfl
  have hnodup : ((((g'.dependencies (σ i)).map fun d =>
      (d.1, (chunks'.moduleId? d.2).getD "")).map (·.1))).Nodup := by
    rw [(hentries.map _).nodup_iff, List.map_map]
    exact hg.nodup_dependencies i
  refine NameMap.ofList_eq_of_perm hentries fun e he e' he' heq => ?_
  rw [List.inj_on_of_nodup_map hnodup he he' heq]

/-- Every chunk has the same script under the new numbers. -/
theorem script_renumber (mode : Mode) (h : ModuleGraph.Renumbers σ g g') (hg : g.WellFormed)
    (hpaths : g'.HasDistinctPaths root) {c : Chunk}
    (hc : c ∈ (g.assignChunks root optimization).chunks) :
    script mode g' (g'.assignChunks root optimization) (c.renumber σ)
      = script mode g (g.assignChunks root optimization) c := by
  refine script_congr mode (fun i hi => ?_) fun i hi => ?_
  · have hlt := (ModuleGraph.lt_size_of_mem_chunks root optimization hc hi).1
    refine registration_congr (dependencyIds_renumber h hg hpaths hlt)
      (moduleId_renumber h hpaths hlt) ?_
    rw [h.module?_eq i hlt]
  · obtain ⟨e, he, rfl⟩ := ModuleGraph.exists_of_mem_entry root optimization hc hi
    exact moduleId_renumber h hpaths (hg.entry_lt e he)

/-! ## Assets and the document -/

theorem addAssets_eq_of_perm (h : g.modules.Perm g'.modules) (hassets : g.AssetsAgree)
    (o : BuildOutput) : addAssets g o = addAssets g' o :=
  (h.flatMap_right _).foldl_eq'
    (fun a ha b hb o => BuildOutput.insert_comm o (hassets a ha b hb)) o

/-- The document asks for the names and the kinds of chunks only. -/
theorem addDocument_congr (c : Configuration) {chunks chunks' : ChunkSet}
    (h : chunks'.chunks = chunks.chunks.map (Chunk.renumber σ)) (template : Option String)
    (o : BuildOutput) : addDocument c chunks' template o = addDocument c chunks template o := by
  have hscripts : ∀ entry, ((chunks'.entryChunks entry).filterMap fun chunk =>
        o.chunkFile? chunk.name)
      = (chunks.entryChunks entry).filterMap fun chunk => o.chunkFile? chunk.name := by
    intro entry
    unfold ChunkSet.entryChunks
    rw [h, List.filter_map, List.filterMap_map]
    rfl
  unfold addDocument
  simp only [hscripts]

end Emit

/-! ## Graphs with the same contents -/

variable {g g' : ModuleGraph}

/-- Graphs with the same contents have the same output, in whatever order their modules and edges
    were added and in whatever order the modules that entries reach are found. -/
theorem emit_eq_of_sameContents (c : Configuration) (template : Option String) (hg : g.Built)
    (hg' : g'.Built) (h : g.SameContents g') (hpaths : g.HasDistinctPaths c.root)
    (hassets : g.AssetsAgree) :
    ∃ o, emit c g (g.assignChunks c.root c.optimization) template = .ok o ∧
      emit c g' (g'.assignChunks c.root c.optimization) template = .ok o ∧
      (∀ found, g.ListsOwned found →
        emit c g (g.assignChunksFrom c.root c.optimization found) template = .ok o) ∧
      ∀ found, g'.ListsOwned found →
        emit c g' (g'.assignChunksFrom c.root c.optimization found) template = .ok o := by
  have hwell := hg.wellFormed
  have hwell' := hg'.wellFormed
  have hpaths' : g'.HasDistinctPaths c.root := (h.modules.map _).nodup_iff.1 hpaths
  obtain ⟨σ, hσ⟩ := h.exists_renumbers hwell hwell'
  obtain ⟨o, ho⟩ := Emit.exists_emit c hwell.edgesInRange hwell.entry_lt template
  have ho' : emit c g' (g'.assignChunks c.root c.optimization) template = .ok o := by
    have hchunks : (g'.assignChunks c.root c.optimization).chunks
        = (g.assignChunks c.root c.optimization).chunks.map (Chunk.renumber σ) :=
      hσ.chunks_eq hwell hwell' hpaths'
    rw [← ho]
    unfold emit
    rw [hchunks, Emit.foldlM_addChunk_congr fun chunk hchunk =>
      Emit.script_renumber c.context.mode hσ hwell hpaths' hchunk]
    simp only [Emit.addDocument_congr c hchunks, Emit.addAssets_eq_of_perm h.modules hassets]
  refine ⟨o, ho, ho', fun found hfound => ?_, fun found hfound => ?_⟩
  · rwa [ModuleGraph.assignChunksFrom_eq hpaths hwell hfound]
  · rwa [ModuleGraph.assignChunksFrom_eq hpaths' hwell' hfound]

/-! ## Two modules in both orders -/

namespace ModuleGraph

/-- Two modules, of which one refers to the other and is where the application starts. -/
def linkedPair (first second : Module) (importer target : Nat) : ModuleGraph where
  modules := [first, second]
  edges := [⟨importer, "./b", target⟩]
  indexes := [(second.path, 1), (first.path, 0)]
  entries := [("main", importer)]

theorem built_linkedPair {first second : Module} (h : first.path.same second.path = false)
    {importer target : Nat} (himporter : importer < 2) (htarget : target < 2) :
    (linkedPair first second importer target).Built := by
  have hfirst := Built.empty.addModule_of_distinct (m := first) (by simp)
  have hmodules := hfirst.addModule_of_distinct (m := second) (by simpa using h)
  exact (hmodules.addDependency importer target "./b" himporter htarget).addEntry "main" importer
    himporter

/-- A module that refers to another, and that other, with the same asset. -/
def importing : Module := ⟨⟨"/a.js"⟩, "A", ["./b"], [⟨"logo.svg", .empty⟩], [], by decide⟩

/-- See `importing`. -/
def imported : Module := ⟨⟨"/b.js"⟩, "B", [], [⟨"logo.svg", .empty⟩], [], List.nodup_nil⟩

theorem sameContents_linkedPair :
    (linkedPair importing imported 0 1).SameContents (linkedPair imported importing 1 0) where
  modules := .swap _ _ _
  edges := by simp [HasEdge, linkedPair, module?]
  entries := rfl

end ModuleGraph

open ModuleGraph in
/-- Both orders of two modules give the output. -/
theorem emit_eq_of_sameContents_linkedPair :
    let c := BuildContext.loneConfiguration
    let g := linkedPair importing imported 0 1
    let g' := linkedPair imported importing 1 0
    (g.Built ∧ g'.Built ∧ g.SameContents g' ∧ g.HasDistinctPaths c.root ∧ g.AssetsAgree) ∧
    ∃ o, emit c g (g.assignChunks c.root c.optimization) none = .ok o ∧
      emit c g' (g'.assignChunks c.root c.optimization) none = .ok o ∧
      (∀ found, g.ListsOwned found →
        emit c g (g.assignChunksFrom c.root c.optimization found) none = .ok o) ∧
      ∀ found, g'.ListsOwned found →
        emit c g' (g'.assignChunksFrom c.root c.optimization found) none = .ok o := by
  intro c g g'
  have hg : g.Built := built_linkedPair (by decide) (by decide) (by decide)
  have hg' : g'.Built := built_linkedPair (by decide) (by decide) (by decide)
  have hpaths : g.HasDistinctPaths c.root := by
    unfold HasDistinctPaths
    decide
  have hassets : g.AssetsAgree := by
    intro a ha b hb _
    simp [g, linkedPair, importing, imported] at ha hb
    rw [ha, hb]
  exact ⟨⟨hg, hg', sameContents_linkedPair, hpaths, hassets⟩,
    emit_eq_of_sameContents c none hg hg' sameContents_linkedPair hpaths hassets⟩

end Bundler
