import Bundler.Proofs.Chunk.Exact
import Bundler.Proofs.Chunk.ModuleId
import Bundler.Proofs.Graph.Renumbering

set_option autoImplicit false

/-! # Chunks in whatever order modules are found

If project-relative paths are different from each other, there is one way to list some modules in
the order of their paths (`Lists.eq`). The chunks are therefore the same in whatever order the
modules that entries reach are found (`assignChunksFrom_eq`), and new numbers of the modules are the
only thing that changes in the chunks and the ids when modules are numbered anew
(`chunks_renumber`, `moduleId?_renumber`). -/

namespace Bundler

/-- A chunk with the new numbers of its modules. -/
def Chunk.renumber (σ : Nat → Nat) (c : Chunk) : Chunk :=
  { c with modules := c.modules.map σ, entry := c.entry.map σ }

theorem Chunk.renumber_id (c : Chunk) : c.renumber id = c := by
  cases c
  simp [Chunk.renumber]

/-- Whether two chunks are the same up to the order of their modules. -/
structure Chunk.SameModules (c c' : Chunk) : Prop where
  name : c.name = c'.name
  kind : c.kind = c'.kind
  modules : c.modules.Perm c'.modules
  entry : c.entry = c'.entry

theorem Chunk.SameModules.eq {c c' : Chunk} (h : c.SameModules c')
    (hmodules : c.modules = c'.modules) : c = c' := by
  cases c
  cases c'
  obtain ⟨rfl, rfl, -, rfl⟩ := h
  exact congrArg (Chunk.mk _ _ · _) hmodules

namespace ModuleGraph

/-- Whether the project-relative paths of the modules are different from each other. -/
def HasDistinctPaths (g : ModuleGraph) (root : Path) : Prop :=
  (g.modules.map fun m => Path.relativeTo root m.path).Nodup

variable {g g' : ModuleGraph} {root : Path} {optimization : Optimization}

/-! ## One order of paths -/

theorem HasDistinctPaths.eq_of_relativePath_eq (h : g.HasDistinctPaths root) {i j : Nat}
    (hi : i < g.size) (hj : j < g.size) (heq : g.relativePath root i = g.relativePath root j) :
    i = j := by
  unfold HasDistinctPaths at h
  rw [← g.map_range_module? _ ""] at h
  exact List.inj_on_of_nodup_map h (List.mem_range.2 hi) (List.mem_range.2 hj) heq

/-- There is one way to list some modules in the order of their paths. -/
theorem Lists.eq (h : g.HasDistinctPaths root) {P : Nat → Prop} (hP : ∀ i, P i → i < g.size)
    {modules modules' : List Nat} (hl : g.Lists root P modules) (hl' : g.Lists root P modules') :
    modules = modules' := by
  have hperm : modules.Perm modules' :=
    (List.perm_ext_iff_of_nodup hl.nodup hl'.nodup).2 fun i =>
      (hl.mem_iff i).trans (hl'.mem_iff i).symm
  refine hperm.eq_of_pairwise (fun i j hi hj hij hji => ?_) hl.sorted hl'.sorted
  exact h.eq_of_relativePath_eq (hP i ((hl.mem_iff i).1 hi)) (hP j ((hl'.mem_iff j).1 hj))
    (String.le_antisymm hij hji)

/-- There is one exact division, as far as chunks show it. -/
theorem Division.IsExact.chunks_eq (h : g.HasDistinctPaths root) (hg : g.WellFormed)
    {d d' : Division} (hd : d.IsExact g root optimization)
    (hd' : d'.IsExact g root optimization) : d.chunks g.entries = d'.chunks g.entries := by
  have hvendor : d.vendor = d'.vendor :=
    hd.vendor.eq h (fun i ⟨_, _, hk⟩ => hk.lt_size hg) hd'.vendor
  have hcommon : d.common = d'.common :=
    hd.common.eq h (fun i ⟨_, _, _, _, hk, _⟩ => hk.lt_size hg) hd'.common
  have hown : ∀ k < g.entries.length, d.own k = d'.own k := fun k hk =>
    (hd.own k hk).eq h (fun i hi => ((hi.2 k).2 rfl).lt_size hg) (hd'.own k hk)
  unfold Division.chunks
  rw [hvendor, hcommon]
  congr 2
  refine List.map_congr_left fun x hx => ?_
  have hk := (List.getElem?_eq_some_iff.1 (List.mk_mem_zipIdx_iff_getElem?.1 hx)).1
  rw [hown x.2 hk]

/-- The order in which modules are found does not count. -/
theorem assignChunksFrom_eq (h : g.HasDistinctPaths root) (hg : g.WellFormed) {found : List Nat}
    (hfound : g.ListsOwned found) :
    g.assignChunksFrom root optimization found = g.assignChunks root optimization := by
  have hchunks : (g.assignChunksFrom root optimization found).chunks
      = (g.assignChunks root optimization).chunks := by
    rw [chunks_assignChunksFrom, chunks_assignChunks]
    exact (isExact_division hg hfound).chunks_eq h hg (isExact_division hg (listsOwned_owned hg))
  exact congrArg (ChunkSet.mk · _) hchunks

/-! ## Every order in which modules are found -/

theorem perm_sentTo {found found' : List Nat} (h : found.Perm found') (d : Destination) :
    (g.sentTo root optimization found d).Perm (g.sentTo root optimization found' d) :=
  (((g.perm_map_fst_sortedByPath root found).trans h).trans
    (g.perm_map_fst_sortedByPath root found').symm).filter _

theorem forall₂_chunkUnlessEmpty {modules modules' : List Nat} (h : modules.Perm modules')
    (name : String) (kind : ChunkKind) : List.Forall₂ Chunk.SameModules
      (chunkUnlessEmpty name kind modules) (chunkUnlessEmpty name kind modules') := by
  unfold chunkUnlessEmpty
  rw [h.isEmpty_eq]
  split
  · exact .nil
  · exact .cons ⟨rfl, rfl, h, rfl⟩ .nil

/-- The chunks hold the same modules in whatever order these are found. -/
theorem forall₂_chunks (g : ModuleGraph) (root : Path) (optimization : Optimization)
    {found found' : List Nat} (h : found.Perm found') :
    List.Forall₂ Chunk.SameModules (g.assignChunksFrom root optimization found).chunks
      (g.assignChunksFrom root optimization found').chunks := by
  rw [chunks_assignChunksFrom, chunks_assignChunksFrom]
  refine .cons ⟨rfl, rfl, .nil, rfl⟩ (List.rel_append (List.rel_append ?_ ?_) ?_)
  · exact forall₂_chunkUnlessEmpty (perm_sentTo h .vendor) _ _
  · exact forall₂_chunkUnlessEmpty (perm_sentTo h .common) _ _
  · refine List.forall₂_map_left_iff.2 (List.forall₂_map_right_iff.2 (List.forall₂_same.2 ?_))
    exact fun x _ => ⟨rfl, rfl, perm_sentTo h _, rfl⟩

/-- The modules of a chunk stand in the order of their paths. -/
theorem sorted_of_mem_chunks {found : List Nat} {c : Chunk}
    (hc : c ∈ (g.assignChunksFrom root optimization found).chunks) :
    c.modules.Pairwise fun i j => g.relativePath root i ≤ g.relativePath root j := by
  have hsent : ∀ d, (g.sentTo root optimization found d).Pairwise fun i j =>
      g.relativePath root i ≤ g.relativePath root j :=
    fun d => (g.pairwise_sortedByPath root found).filter _
  rcases mem_chunks_cases root optimization hc with rfl | rfl | rfl | ⟨k, e, -, rfl⟩
  · exact .nil
  · exact hsent _
  · exact hsent _
  · exact hsent _

/-- Different paths have one order, so that a chunk is the same in whatever order its modules are
    found. -/
theorem chunks_getElem?_eq {found found' : List Nat} (h : found.Perm found') {place : Nat}
    {c : Chunk} (hc : (g.assignChunksFrom root optimization found).chunks[place]? = some c)
    (hpaths : (c.modules.map (g.relativePath root)).Nodup) :
    (g.assignChunksFrom root optimization found').chunks[place]? = some c := by
  have hall := forall₂_chunks g root optimization h
  obtain ⟨hlt, rfl⟩ := List.getElem?_eq_some_iff.1 hc
  have hlt' := hall.length_eq ▸ hlt
  have hsame := hall.get hlt hlt'
  rw [List.getElem?_eq_getElem hlt']
  refine congrArg some (hsame.eq ?_).symm
  refine hsame.modules.eq_of_pairwise (fun i j hi hj hij hji => ?_)
    (sorted_of_mem_chunks (List.getElem_mem _)) (sorted_of_mem_chunks (List.getElem_mem _))
  exact List.inj_on_of_nodup_map hpaths hi (hsame.modules.mem_iff.2 hj) (String.le_antisymm hij hji)

/-- The modules of a chunk have different paths if all modules have. -/
theorem HasDistinctPaths.nodup_of_mem_chunks (h : g.HasDistinctPaths root) (hg : g.WellFormed)
    {found : List Nat} (hfound : g.ListsOwned found) {c : Chunk}
    (hc : c ∈ (g.assignChunksFrom root optimization found).chunks) :
    (c.modules.map (g.relativePath root)).Nodup := by
  have hlt : ∀ i ∈ c.modules, i < g.size := fun i hi =>
    hfound.lt_size hg (mem_found_of_mem_chunks root optimization hc hi).1
  have hnodup : c.modules.Nodup := by
    rcases mem_chunks_cases root optimization hc with rfl | rfl | rfl | ⟨k, e, -, rfl⟩
    · exact .nil
    · exact g.nodup_sentTo root optimization hfound.nodup _
    · exact g.nodup_sentTo root optimization hfound.nodup _
    · exact g.nodup_sentTo root optimization hfound.nodup _
  exact hnodup.map_on fun i hi j hj => h.eq_of_relativePath_eq (hlt i hi) (hlt j hj)

/-! ## Chunks of renumbered modules -/

variable {σ : Nat → Nat}

theorem Renumbers.relativePath_eq (h : Renumbers σ g g') {i : Nat} (hi : i < g.size) :
    g'.relativePath root (σ i) = g.relativePath root i := by
  unfold relativePath
  rw [h.module?_eq i hi]

theorem Renumbers.owns_iff (h : Renumbers σ g g') (hg : g.WellFormed) {k i : Nat}
    (hi : i < g.size) : g'.Owns k (σ i) ↔ g.Owns k i := by
  unfold Owns
  rw [h.entries]
  simp only [List.getElem?_map, Option.map_eq_some_iff]
  constructor
  · rintro ⟨-, ⟨e, he, rfl⟩, hreaches⟩
    exact ⟨e, he, (h.reaches_iff hg (hg.entry_lt e (List.mem_of_getElem? he)) hi).1 hreaches⟩
  · rintro ⟨e, he, hreaches⟩
    exact ⟨_, ⟨e, he, rfl⟩, h.reaches hg (hg.entry_lt e (List.mem_of_getElem? he)) hreaches⟩

theorem Renumbers.isVendor_iff (h : Renumbers σ g g') {i : Nat} (hi : i < g.size) :
    g'.IsVendor optimization (σ i) ↔ g.IsVendor optimization i := by
  unfold IsVendor
  rw [h.module?_eq i hi]

/-- The new numbers of listed modules are listed. -/
theorem Lists.renumber (h : Renumbers σ g g') {P P' : Nat → Prop} {modules : List Nat}
    (hl : g.Lists root P modules) (hP : ∀ i, P i → i < g.size) (hP' : ∀ j, P' j → j < g'.size)
    (hiff : ∀ i < g.size, P' (σ i) ↔ P i) : g'.Lists root P' (modules.map σ) where
  mem_iff j := by
    rw [List.mem_map]
    constructor
    · rintro ⟨i, hi, rfl⟩
      have hPi := (hl.mem_iff i).1 hi
      exact (hiff i (hP i hPi)).2 hPi
    · intro hj
      obtain ⟨i, hi, rfl⟩ := h.exists_eq j (hP' j hj)
      exact ⟨i, (hl.mem_iff i).2 ((hiff i hi).1 hj), rfl⟩
  nodup := by
    refine hl.nodup.map_on fun i hi j hj heq => ?_
    exact h.inj i (hP i ((hl.mem_iff i).1 hi)) j (hP j ((hl.mem_iff j).1 hj)) heq
  sorted := by
    refine List.pairwise_map.2 (hl.sorted.imp_of_mem fun hi hj hle => ?_)
    rwa [h.relativePath_eq (hP _ ((hl.mem_iff _).1 hi)),
      h.relativePath_eq (hP _ ((hl.mem_iff _).1 hj))]

/-- A division with the new numbers of the modules. -/
def Division.renumber (σ : Nat → Nat) (d : Division) : Division :=
  ⟨d.vendor.map σ, d.common.map σ, fun k => (d.own k).map σ⟩

theorem Division.IsExact.renumber (h : Renumbers σ g g') (hg : g.WellFormed) (hg' : g'.WellFormed)
    {d : Division} (hd : d.IsExact g root optimization) :
    (d.renumber σ).IsExact g' root optimization where
  vendor := by
    refine hd.vendor.renumber h (fun i ⟨_, _, hk⟩ => hk.lt_size hg)
      (fun j ⟨_, _, hk⟩ => hk.lt_size hg') fun i hi => ?_
    simp only [h.isVendor_iff hi, h.owns_iff hg hi]
  common := by
    refine hd.common.renumber h (fun i ⟨_, _, _, _, hk, _⟩ => hk.lt_size hg)
      (fun j ⟨_, _, _, _, hk, _⟩ => hk.lt_size hg') fun i hi => ?_
    simp only [h.isVendor_iff hi, h.owns_iff hg hi]
  own := by
    intro k hk
    rw [h.entries, List.length_map] at hk
    refine (hd.own k hk).renumber h (fun i hi => ((hi.2 k).2 rfl).lt_size hg)
      (fun j hj => ((hj.2 k).2 rfl).lt_size hg') fun i hi => ?_
    simp only [h.isVendor_iff hi, h.owns_iff hg hi]

theorem chunkUnlessEmpty_map (name : String) (kind : ChunkKind) (modules : List Nat) :
    chunkUnlessEmpty name kind (modules.map σ)
      = (chunkUnlessEmpty name kind modules).map (Chunk.renumber σ) := by
  unfold chunkUnlessEmpty
  cases modules <;> rfl

theorem Division.chunks_renumber (d : Division) (entries : List (String × Nat)) :
    (d.renumber σ).chunks (entries.map fun e => (e.1, σ e.2))
      = (d.chunks entries).map (Chunk.renumber σ) := by
  unfold Division.chunks Division.renumber
  dsimp only
  rw [chunkUnlessEmpty_map, chunkUnlessEmpty_map, List.zipIdx_map, List.map_map, List.map_cons,
    List.map_append, List.map_append, List.map_map]
  rfl

/-- The chunks hold the new numbers of the same modules. -/
theorem Renumbers.chunks_eq (h : Renumbers σ g g') (hg : g.WellFormed) (hg' : g'.WellFormed)
    (hpaths : g'.HasDistinctPaths root) :
    (g'.assignChunks root optimization).chunks
      = (g.assignChunks root optimization).chunks.map (Chunk.renumber σ) := by
  rw [chunks_assignChunks, chunks_assignChunks]
  show (g'.division root optimization g'.owned).chunks g'.entries
    = ((g.division root optimization g.owned).chunks g.entries).map (Chunk.renumber σ)
  rw [← Division.chunks_renumber, ← h.entries]
  exact (isExact_division hg' (listsOwned_owned hg')).chunks_eq hpaths hg'
    ((isExact_division hg (listsOwned_owned hg)).renumber h hg hg')

/-! ## Ids of renumbered modules -/

/-- All modules are listed in the order of their paths. -/
theorem lists_byRelativePath (g : ModuleGraph) (root : Path) :
    g.Lists root (· < g.size) ((g.byRelativePath root).map (·.1)) := by
  unfold byRelativePath
  have hlists : g.Lists root (· < g.size)
      (((g.sortedByPath root (List.range g.size)).map (·.1)).filter fun _ => true) :=
    lists_filter_sortedByPath List.nodup_range (by simp)
  simpa using hlists

theorem byRelativePath_eq_map (g : ModuleGraph) (root : Path) :
    g.byRelativePath root
      = ((g.byRelativePath root).map (·.1)).map fun i => (i, g.relativePath root i) := by
  rw [List.map_map]
  symm
  refine (List.map_congr_left fun x hx => ?_).trans (List.map_id _)
  obtain ⟨i, -, rfl⟩ := List.mem_map.1 (List.mem_mergeSort.1 hx)
  rfl

theorem Renumbers.byRelativePath_eq (h : Renumbers σ g g') (hpaths : g'.HasDistinctPaths root) :
    g'.byRelativePath root = (g.byRelativePath root).map fun x => (σ x.1, x.2) := by
  have hnumbers : (g'.byRelativePath root).map (·.1)
      = ((g.byRelativePath root).map (·.1)).map σ := by
    refine (g'.lists_byRelativePath root).eq hpaths (fun _ hi => hi) ?_
    exact (g.lists_byRelativePath root).renumber h (fun _ hi => hi) (fun _ hj => hj)
      fun i hi => ⟨fun _ => hi, fun _ => h.lt_size hi⟩
  rw [byRelativePath_eq_map g', hnumbers, byRelativePath_eq_map g]
  simp only [List.map_map]
  refine List.map_congr_left fun x hx => ?_
  have hlt := ((g.lists_byRelativePath root).mem_iff x.1).1 (List.mem_map_of_mem hx)
  simp [h.relativePath_eq hlt]

/-- Ids are taken from paths and contents alone. -/
theorem digestIds_map_eq {modules : List (Nat × String)}
    (h : ∀ x ∈ modules, (g'.module? (σ x.1)).map (·.digest) = (g.module? x.1).map (·.digest))
    (taken : List String) :
    g'.digestIds taken (modules.map fun x => (σ x.1, x.2))
      = (g.digestIds taken modules).map fun x => (σ x.1, x.2) := by
  induction modules generalizing taken with
  | nil => rfl
  | cons x rest ih =>
    obtain ⟨i, relativePath⟩ := x
    have hrest := fun taken => ih (fun x hx => h x (List.mem_cons_of_mem _ hx)) taken
    have hdigest := h _ List.mem_cons_self
    rw [List.map_cons, digestIds, digestIds]
    cases hm : g.module? i with
    | none =>
      rw [hm] at hdigest
      rw [Option.map_eq_none_iff.1 hdigest]
      exact hrest taken
    | some m =>
      rw [hm] at hdigest
      obtain ⟨m', hm', hsame⟩ := Option.map_eq_some_iff.1 hdigest
      simp only [hm', idDigits, hsame, List.map_cons, hrest]

theorem Renumbers.moduleIds_eq (h : Renumbers σ g g') (hpaths : g'.HasDistinctPaths root)
    (deterministic : Bool) :
    g'.moduleIds root deterministic
      = (g.moduleIds root deterministic).map fun x => (σ x.1, x.2) := by
  unfold moduleIds
  rw [h.byRelativePath_eq hpaths]
  cases deterministic with
  | false => rfl
  | true =>
    refine digestIds_map_eq (fun x hx => ?_) []
    rw [h.module?_eq x.1 (((g.lists_byRelativePath root).mem_iff x.1).1 (List.mem_map_of_mem hx))]

theorem lookup_map_of_inj {β : Type} {l : List (Nat × β)} {i : Nat}
    (h : ∀ x ∈ l, σ x.1 = σ i → x.1 = i) :
    (l.map fun x => (σ x.1, x.2)).lookup (σ i) = l.lookup i := by
  induction l with
  | nil => rfl
  | cons x rest ih =>
    have hx := h x List.mem_cons_self
    have hrest := ih fun y hy => h y (List.mem_cons_of_mem _ hy)
    rw [List.map_cons, List.lookup_cons, List.lookup_cons, hrest]
    by_cases heq : i = x.1
    · rw [heq, beq_self_eq_true, beq_self_eq_true]
    · have hne : σ i ≠ σ x.1 := fun hσ => heq (hx hσ.symm).symm
      rw [beq_false_of_ne heq, beq_false_of_ne hne]

/-- A module keeps its id under its new number. -/
theorem Renumbers.moduleId?_eq (h : Renumbers σ g g') (hpaths : g'.HasDistinctPaths root) {i : Nat}
    (hi : i < g.size) :
    (g'.assignChunks root optimization).moduleId? (σ i)
      = (g.assignChunks root optimization).moduleId? i := by
  show (g'.moduleIds root optimization.deterministicIds).lookup (σ i)
    = (g.moduleIds root optimization.deterministicIds).lookup i
  rw [h.moduleIds_eq hpaths]
  refine lookup_map_of_inj fun x hx heq => ?_
  have hlt := (g.map_fst_moduleIds root _).mem_iff.1 (List.mem_map_of_mem hx)
  exact h.inj x.1 (List.mem_range.1 hlt) i hi heq

end ModuleGraph

end Bundler
