import Bundler.Chunk.Assignment
import Bundler.Proofs.Graph.Reachability
import Mathlib.Data.List.Nodup

set_option autoImplicit false

/-! # Where modules go

Every module goes to one destination, and the chunk of a destination lists each module that was
found and goes there once (`mem_sentTo_iff`, `nodup_sentTo`). A module that an entry reaches goes to
the packages, to the shared modules or to that entry, so that it stands exactly once in the chunks
that the entry needs, provided that no other entry has its name (`count_entryChunks`). -/

namespace Bundler.ModuleGraph

variable (g : ModuleGraph) (root : Path) (optimization : Optimization)

/-- The modules that go to a destination, among those that were found, in the order of their
    paths. -/
def sentTo (found : List Nat) (d : Destination) : List Nat :=
  ((g.sortedByPath root found).map (·.1)).filter fun i =>
    g.destination optimization g.reached i = d

/-! ## Lists of modules -/

theorem perm_map_fst_sortedByPath (modules : List Nat) :
    ((g.sortedByPath root modules).map (·.1)).Perm modules := by
  refine ((List.mergeSort_perm _ _).map _).trans (.of_eq ?_)
  rw [List.map_map]
  exact List.map_id _

theorem map_fst_byRelativePath : ((g.byRelativePath root).map (·.1)).Perm (List.range g.size) :=
  g.perm_map_fst_sortedByPath root _

theorem mem_sentTo_iff {found : List Nat} {d : Destination} {i : Nat} :
    i ∈ g.sentTo root optimization found d ↔
      i ∈ found ∧ g.destination optimization g.reached i = d := by
  unfold sentTo
  rw [List.mem_filter, (g.perm_map_fst_sortedByPath root found).mem_iff, decide_eq_true_iff]

theorem nodup_sentTo {found : List Nat} (h : found.Nodup) (d : Destination) :
    (g.sentTo root optimization found d).Nodup :=
  ((g.perm_map_fst_sortedByPath root found).nodup_iff.2 h).filter _

theorem mem_owned_iff {i : Nat} : i ∈ g.owned ↔ i < g.size ∧ ∃ k, k ∈ owners g.reached i := by
  unfold owned
  rw [List.mem_filter, List.mem_range]
  refine and_congr_right fun _ => ?_
  cases owners g.reached i <;> simp

theorem nodup_owned : g.owned.Nodup := List.nodup_range.filter _

theorem lt_size_of_mem_owned {i : Nat} (h : i ∈ g.owned) : i < g.size := (g.mem_owned_iff.1 h).1

theorem chunks_assignChunksFrom (found : List Nat) :
    (g.assignChunksFrom root optimization found).chunks =
      ⟨runtimeName, .runtime, [], none⟩ ::
        (chunkUnlessEmpty vendorName .vendor (g.sentTo root optimization found .vendor) ++
          chunkUnlessEmpty commonName .common (g.sentTo root optimization found .common) ++
          g.entries.zipIdx.map fun x =>
            ⟨x.1.1, .entry, g.sentTo root optimization found (.entry x.2), some x.1.2⟩) := by
  have hsent : ∀ d : Destination,
      (((g.sortedByPath root found).map fun x =>
        (x.1, g.destination optimization g.reached x.1)).filter (·.2 = d)).map (·.1)
        = g.sentTo root optimization found d := by
    intro d
    unfold sentTo
    rw [List.filter_map, List.filter_map, List.map_map]
    rfl
  unfold assignChunksFrom
  simp only [← hsent]

theorem chunks_assignChunks :
    (g.assignChunks root optimization).chunks =
      ⟨runtimeName, .runtime, [], none⟩ ::
        (chunkUnlessEmpty vendorName .vendor (g.sentTo root optimization g.owned .vendor) ++
          chunkUnlessEmpty commonName .common (g.sentTo root optimization g.owned .common) ++
          g.entries.zipIdx.map fun x =>
            ⟨x.1.1, .entry, g.sentTo root optimization g.owned (.entry x.2), some x.1.2⟩) :=
  g.chunks_assignChunksFrom root optimization g.owned

/-! ## Destinations -/

theorem mem_owners_iff {reached : List (List Nat)} {i k : Nat} :
    k ∈ owners reached i ↔ k < reached.length ∧ i ∈ reached.getD k [] := by
  unfold owners
  rw [List.mem_filter, List.mem_range, List.contains_iff_mem]

/-- A module that an entry reaches goes to one of three places. -/
theorem destination_of_mem_owners {reached : List (List Nat)} {i k : Nat}
    (h : k ∈ owners reached i) :
    g.destination optimization reached i = .vendor ∨
      g.destination optimization reached i = .common ∨
      g.destination optimization reached i = .entry k := by
  unfold destination
  split
  · next hnone =>
    rw [hnone] at h
    cases h
  · next first more howners =>
    split
    · exact .inl rfl
    · split
      · next halone =>
        rw [howners, List.isEmpty_iff.1 halone] at h
        rw [List.mem_singleton.1 h]
        exact .inr (.inr rfl)
      · exact .inr (.inl rfl)

/-! ## The chunks of an entry -/

theorem flatMap_modules_chunkUnlessEmpty (name : String) (kind : ChunkKind) (modules : List Nat) :
    (chunkUnlessEmpty name kind modules).flatMap (·.modules) = modules := by
  unfold chunkUnlessEmpty
  split
  · next h => exact (List.isEmpty_iff.1 h).symm
  · exact List.append_nil _

theorem eq_of_mem_chunkUnlessEmpty {name : String} {kind : ChunkKind} {modules : List Nat}
    {c : Chunk} (h : c ∈ chunkUnlessEmpty name kind modules) : c = ⟨name, kind, modules, none⟩ := by
  unfold chunkUnlessEmpty at h
  split at h
  · cases h
  · exact List.mem_singleton.1 h

theorem kind_of_mem_chunkUnlessEmpty {name : String} {kind : ChunkKind} {modules : List Nat}
    {c : Chunk} (h : c ∈ chunkUnlessEmpty name kind modules) : c.kind = kind := by
  rw [eq_of_mem_chunkUnlessEmpty h]

/-- Only one of some entries with different names has the name of a given one. -/
theorem filter_zipIdx_of_nodup {entries : List (String × Nat)} (h : (entries.map (·.1)).Nodup)
    {k : Nat} {e : String × Nat} (he : entries[k]? = some e) :
    entries.zipIdx.filter (fun x => x.1.1 = e.1) = [(e, k)] := by
  have hnodup : entries.zipIdx.Nodup := by
    refine List.Nodup.of_map (·.2) ?_
    rw [List.zipIdx_map_snd]
    exact List.nodup_range'
  refine List.perm_singleton.1 ((List.perm_ext_iff_of_nodup (hnodup.filter _)
    (List.pairwise_singleton _ _)).2 fun x => ?_)
  obtain ⟨e', k'⟩ := x
  rw [List.mem_filter, List.mk_mem_zipIdx_iff_getElem?, decide_eq_true_iff, List.mem_singleton]
  constructor
  · rintro ⟨he', hname⟩
    obtain ⟨hk, rfl⟩ := List.getElem?_eq_some_iff.1 he
    obtain ⟨hk', rfl⟩ := List.getElem?_eq_some_iff.1 he'
    have hi : k' < (entries.map (·.1)).length := by rwa [List.length_map]
    have hj : k < (entries.map (·.1)).length := by rwa [List.length_map]
    have heq : (entries.map (·.1))[k'] = (entries.map (·.1))[k] := by
      rw [List.getElem_map, List.getElem_map, hname]
    have hplace : k' = k := h.getElem_inj_iff.1 heq
    subst hplace
    rfl
  · intro heq
    cases heq
    exact ⟨he, rfl⟩

variable {g}

/-- The chunks that an entry needs, if no other entry has its name. -/
theorem entryChunks_assignChunks (hnames : (g.entries.map (·.1)).Nodup) {k : Nat}
    {e : String × Nat} (he : g.entries[k]? = some e) :
    (g.assignChunks root optimization).entryChunks e.1 =
      ⟨runtimeName, .runtime, [], none⟩ ::
        (chunkUnlessEmpty vendorName .vendor (g.sentTo root optimization g.owned .vendor) ++
          chunkUnlessEmpty commonName .common (g.sentTo root optimization g.owned .common) ++
          [⟨e.1, .entry, g.sentTo root optimization g.owned (.entry k), some e.2⟩]) := by
  have hshared : ∀ {name kind} (modules : List Nat), kind ≠ ChunkKind.entry →
      (chunkUnlessEmpty name kind modules).filter (fun c => c.kind ≠ .entry ∨ c.name = e.1)
        = chunkUnlessEmpty name kind modules := by
    intro name kind modules hkind
    refine List.filter_eq_self.2 fun c hc => ?_
    rw [kind_of_mem_chunkUnlessEmpty hc]
    exact decide_eq_true (.inl hkind)
  unfold ChunkSet.entryChunks
  rw [chunks_assignChunks, List.filter_cons_of_pos (by simp), List.filter_append,
    List.filter_append, hshared _ (by simp), hshared _ (by simp), List.filter_map]
  have hown : ((fun c : Chunk => decide (c.kind ≠ .entry ∨ c.name = e.1)) ∘
      fun x : (String × Nat) × Nat =>
        (⟨x.1.1, .entry, g.sentTo root optimization g.owned (.entry x.2), some x.1.2⟩ : Chunk)) =
      fun x => decide (x.1.1 = e.1) := by
    funext x
    simp
  rw [hown, filter_zipIdx_of_nodup hnames he]
  rfl

/-- Of the chunks that an entry needs, one is its own. -/
theorem filter_entryChunks (hnames : (g.entries.map (·.1)).Nodup) {k : Nat} {e : String × Nat}
    (he : g.entries[k]? = some e) :
    ((g.assignChunks root optimization).entryChunks e.1).filter (·.kind = .entry) =
      [⟨e.1, .entry, g.sentTo root optimization g.owned (.entry k), some e.2⟩] := by
  have hshared : ∀ {name kind} (modules : List Nat), kind ≠ ChunkKind.entry →
      (chunkUnlessEmpty name kind modules).filter (·.kind = .entry) = [] := by
    intro name kind modules hkind
    refine List.filter_eq_nil_iff.2 fun c hc => ?_
    rw [kind_of_mem_chunkUnlessEmpty hc]
    simpa using hkind
  rw [entryChunks_assignChunks root optimization hnames he, List.filter_cons_of_neg (by simp),
    List.filter_append, List.filter_append, hshared _ (by simp), hshared _ (by simp)]
  rfl

/-- A chunk is that of the loader, that of the packages, that of the shared modules, or that of an
    entry. -/
theorem mem_chunks_cases {found : List Nat} {c : Chunk}
    (hc : c ∈ (g.assignChunksFrom root optimization found).chunks) :
    c = ⟨runtimeName, .runtime, [], none⟩ ∨
      c = ⟨vendorName, .vendor, g.sentTo root optimization found .vendor, none⟩ ∨
      c = ⟨commonName, .common, g.sentTo root optimization found .common, none⟩ ∨
      ∃ k e, g.entries[k]? = some e ∧
        c = ⟨e.1, .entry, g.sentTo root optimization found (.entry k), some e.2⟩ := by
  rw [chunks_assignChunksFrom] at hc
  rcases List.mem_cons.1 hc with hc | hc
  · exact .inl hc
  rcases List.mem_append.1 hc with hc | hc
  · rcases List.mem_append.1 hc with hc | hc
    · exact .inr (.inl (eq_of_mem_chunkUnlessEmpty hc))
    · exact .inr (.inr (.inl (eq_of_mem_chunkUnlessEmpty hc)))
  · obtain ⟨⟨e, k⟩, he, rfl⟩ := List.mem_map.1 hc
    exact .inr (.inr (.inr ⟨k, e, List.mk_mem_zipIdx_iff_getElem?.1 he, rfl⟩))

/-- The chunks hold modules that were found, and the chunk of the loader holds none. -/
theorem mem_found_of_mem_chunks {found : List Nat} {c : Chunk}
    (hc : c ∈ (g.assignChunksFrom root optimization found).chunks) {i : Nat} (hi : i ∈ c.modules) :
    i ∈ found ∧ c.kind ≠ .runtime := by
  have hsent : ∀ {d}, i ∈ g.sentTo root optimization found d → i ∈ found :=
    fun hi => ((g.mem_sentTo_iff root optimization).1 hi).1
  rcases mem_chunks_cases root optimization hc with rfl | rfl | rfl | ⟨k, e, -, rfl⟩
  · cases hi
  · exact ⟨hsent hi, by simp⟩
  · exact ⟨hsent hi, by simp⟩
  · exact ⟨hsent hi, by simp⟩

theorem lt_size_of_mem_chunks {c : Chunk} (hc : c ∈ (g.assignChunks root optimization).chunks)
    {i : Nat} (hi : i ∈ c.modules) : i < g.size ∧ c.kind ≠ .runtime := by
  obtain ⟨howned, hkind⟩ := mem_found_of_mem_chunks root optimization hc hi
  exact ⟨g.lt_size_of_mem_owned howned, hkind⟩

/-- A chunk has the name of an entry and starts its module, or has one of the other names and starts
    none. -/
theorem name_of_mem_chunks {found : List Nat} {c : Chunk}
    (hc : c ∈ (g.assignChunksFrom root optimization found).chunks) :
    c.name ∈ [runtimeName, vendorName, commonName] ∧ c.entry = none ∨
      ∃ e ∈ g.entries, c.name = e.1 ∧ c.entry = some e.2 := by
  rcases mem_chunks_cases root optimization hc with rfl | rfl | rfl | ⟨k, e, he, rfl⟩
  · exact .inl ⟨by simp, rfl⟩
  · exact .inl ⟨by simp, rfl⟩
  · exact .inl ⟨by simp, rfl⟩
  · exact .inr ⟨e, List.mem_of_getElem? he, rfl, rfl⟩

/-- What the chunks start are modules of entries. -/
theorem exists_of_mem_entry {found : List Nat} {c : Chunk}
    (hc : c ∈ (g.assignChunksFrom root optimization found).chunks) {i : Nat} (hi : i ∈ c.entry) :
    ∃ e ∈ g.entries, e.2 = i := by
  rcases name_of_mem_chunks root optimization hc with ⟨-, hnone⟩ | ⟨e, he, -, hentry⟩
  · rw [hnone] at hi
    cases hi
  · rw [hentry] at hi
    exact ⟨e, he, Option.some.inj hi⟩

/-- A module that an entry reaches stands exactly once in the chunks that the entry needs. -/
theorem count_entryChunks (hg : g.EdgesInRange) (hnames : (g.entries.map (·.1)).Nodup) {k : Nat}
    {e : String × Nat} (he : g.entries[k]? = some e) (hsize : e.2 < g.size) {j : Nat}
    (hj : g.Reaches e.2 j) :
    (((g.assignChunks root optimization).entryChunks e.1).flatMap (·.modules)).count j = 1 := by
  have howner : k ∈ owners g.reached j := by
    refine mem_owners_iff.2 ⟨?_, ?_⟩
    · unfold reached
      rw [List.length_map]
      exact (List.getElem?_eq_some_iff.1 he).1
    · unfold reached
      rw [List.getD_eq_getElem?_getD, List.getElem?_map, he]
      exact (mem_reachable_iff hg hsize).2 hj
  have howned : j ∈ g.owned := g.mem_owned_iff.2 ⟨hj.lt_size hg hsize, k, howner⟩
  have hcount : ∀ d, (g.sentTo root optimization g.owned d).count j =
      if g.destination optimization g.reached j = d then 1 else 0 := by
    intro d
    rw [(g.nodup_sentTo root optimization g.nodup_owned d).count]
    simp only [mem_sentTo_iff, howned, true_and]
  rw [entryChunks_assignChunks root optimization hnames he, List.flatMap_cons, List.nil_append,
    List.flatMap_append, List.flatMap_append, flatMap_modules_chunkUnlessEmpty,
    flatMap_modules_chunkUnlessEmpty, List.flatMap_singleton, List.count_append, List.count_append,
    hcount, hcount, hcount]
  rcases g.destination_of_mem_owners optimization howner with h | h | h
  · simp [h]
  · simp [h]
  · simp [h]

end Bundler.ModuleGraph
