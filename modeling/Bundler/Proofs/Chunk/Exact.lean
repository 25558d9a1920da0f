import Bundler.Proofs.Chunk.Partition
import Bundler.Proofs.Graph.Built

set_option autoImplicit false

/-! # What each chunk holds

The chunks of a graph divide the modules that entries reach (`assignChunks_exact`): modules of
packages, modules that more than one entry reaches, and for each entry those that it alone reaches.
Entries are told apart by their places, so that two entries at one module share all they reach. -/

namespace Bundler.ModuleGraph

/-! ## Divisions -/

/-- Whether the entry at a place reaches a module. -/
def Owns (g : ModuleGraph) (k i : Nat) : Prop := ∃ e, g.entries[k]? = some e ∧ g.Reaches e.2 i

/-- Whether a module belongs to the packages, if they are kept together. -/
def IsVendor (g : ModuleGraph) (optimization : Optimization) (i : Nat) : Prop :=
  optimization.splitVendor = true ∧
    ∃ m, g.module? i = some m ∧ optimization.vendor.isMatch m.path.text = true

/-- Whether a list holds just the modules with a property, each once, in the order of their
    project-relative paths. -/
structure Lists (g : ModuleGraph) (root : Path) (P : Nat → Prop) (modules : List Nat) : Prop where
  mem_iff : ∀ i, i ∈ modules ↔ P i
  nodup : modules.Nodup
  sorted : modules.Pairwise fun i j => g.relativePath root i ≤ g.relativePath root j

/-- Modules in groups: those of packages, those that are shared, and those of each entry. -/
structure Division where
  vendor : List Nat
  common : List Nat
  own : Nat → List Nat

/-- The chunks of a division: that of the loader, those of the first two groups unless they are
    empty, and one for each entry. -/
def Division.chunks (d : Division) (entries : List (String × Nat)) : List Chunk :=
  ⟨runtimeName, .runtime, [], none⟩ ::
    (chunkUnlessEmpty vendorName .vendor d.vendor ++ chunkUnlessEmpty commonName .common d.common ++
      entries.zipIdx.map fun x => ⟨x.1.1, .entry, d.own x.2, some x.1.2⟩)

/-- Whether each group of a division holds what it should. -/
structure Division.IsExact (d : Division) (g : ModuleGraph) (root : Path)
    (optimization : Optimization) : Prop where
  vendor : g.Lists root (fun i => g.IsVendor optimization i ∧ ∃ k, g.Owns k i) d.vendor
  common : g.Lists root
    (fun i => ¬ g.IsVendor optimization i ∧ ∃ k k', k ≠ k' ∧ g.Owns k i ∧ g.Owns k' i) d.common
  own : ∀ k < g.entries.length, g.Lists root
    (fun i => ¬ g.IsVendor optimization i ∧ ∀ k', g.Owns k' i ↔ k' = k) (d.own k)

/-! ## Owners -/

variable {g : ModuleGraph} {root : Path} {optimization : Optimization}

theorem Owns.lt_size (hg : g.WellFormed) {k i : Nat} (h : g.Owns k i) : i < g.size := by
  obtain ⟨e, he, hreaches⟩ := h
  exact hreaches.lt_size hg.edgesInRange (hg.entry_lt e (List.mem_of_getElem? he))

/-- The owners of a module are the places of the entries that reach it. -/
theorem mem_owners_reached_iff (hg : g.WellFormed) {k i : Nat} :
    k ∈ owners g.reached i ↔ g.Owns k i := by
  rw [mem_owners_iff]
  unfold reached Owns
  rw [List.length_map, List.getD_eq_getElem?_getD, List.getElem?_map]
  cases he : g.entries[k]? with
  | none =>
    rw [List.getElem?_eq_none_iff] at he
    simp
  | some e =>
    have hlt := (List.getElem?_eq_some_iff.1 he).1
    have hentry := hg.entry_lt e (List.mem_of_getElem? he)
    simp [hlt, mem_reachable_iff hg.edgesInRange hentry]

theorem nodup_owners (reached : List (List Nat)) (i : Nat) : (owners reached i).Nodup :=
  List.nodup_range.filter _

/-! ## Destinations -/

/-- The four ways in which a module goes somewhere. -/
theorem destination_cases (g : ModuleGraph) (optimization : Optimization)
    (reached : List (List Nat)) (i : Nat) :
    (owners reached i = [] ∧ g.destination optimization reached i = .nowhere) ∨
    (owners reached i ≠ [] ∧ g.IsVendor optimization i ∧
      g.destination optimization reached i = .vendor) ∨
    (∃ k, owners reached i = [k] ∧ ¬ g.IsVendor optimization i ∧
      g.destination optimization reached i = .entry k) ∨
    ∃ k k' rest, owners reached i = k :: k' :: rest ∧ ¬ g.IsVendor optimization i ∧
      g.destination optimization reached i = .common := by
  have hvendor : (optimization.splitVendor &&
      (g.module? i).any fun m => optimization.vendor.isMatch m.path.text) = true ↔
        g.IsVendor optimization i := by
    unfold IsVendor
    simp [Option.any_eq_true]
  rw [← hvendor]
  unfold destination
  generalize (optimization.splitVendor &&
    (g.module? i).any fun m => optimization.vendor.isMatch m.path.text) = isVendor
  cases owners reached i with
  | nil => simp
  | cons first more =>
    cases isVendor with
    | true => simp
    | false => cases more <;> simp

theorem destination_eq_vendor_iff {reached : List (List Nat)} {i : Nat} :
    g.destination optimization reached i = .vendor ↔
      g.IsVendor optimization i ∧ ∃ k, k ∈ owners reached i := by
  rcases g.destination_cases optimization reached i with
    ⟨howners, h⟩ | ⟨howners, hvendor, h⟩ | ⟨k, -, hvendor, h⟩ | ⟨k, k', rest, -, hvendor, h⟩
  · simp [h, howners]
  · simp only [h, hvendor, true_and, true_iff]
    exact List.exists_mem_of_ne_nil _ howners
  · simp [h, hvendor]
  · simp [h, hvendor]

theorem destination_eq_common_iff {reached : List (List Nat)} {i : Nat} :
    g.destination optimization reached i = .common ↔
      ¬ g.IsVendor optimization i ∧
        ∃ k k', k ≠ k' ∧ k ∈ owners reached i ∧ k' ∈ owners reached i := by
  have hnodup := nodup_owners reached i
  rcases g.destination_cases optimization reached i with
    ⟨howners, h⟩ | ⟨-, hvendor, h⟩ | ⟨k, howners, hvendor, h⟩ | ⟨k, k', rest, howners, hvendor, h⟩
  · simp [h, howners]
  · simp [h, hvendor]
  · -- one owner is not two
    simp only [h, howners, List.mem_singleton, reduceCtorEq, false_iff]
    rintro ⟨-, l, l', hne, rfl, rfl⟩
    exact hne rfl
  · rw [howners] at hnodup
    have hne : k ≠ k' := by
      rintro rfl
      simp at hnodup
    simp only [h, hvendor, howners, not_false_eq_true, true_and, true_iff]
    exact ⟨k, k', hne, by simp, by simp⟩

theorem destination_eq_entry_iff {reached : List (List Nat)} {i k : Nat} :
    g.destination optimization reached i = .entry k ↔
      ¬ g.IsVendor optimization i ∧ ∀ k', k' ∈ owners reached i ↔ k' = k := by
  have hnodup := nodup_owners reached i
  rcases g.destination_cases optimization reached i with
    ⟨howners, h⟩ | ⟨-, hvendor, h⟩ | ⟨l, howners, hvendor, h⟩ | ⟨l, l', rest, howners, hvendor, h⟩
  · simp only [h, howners, reduceCtorEq, false_iff]
    rintro ⟨-, hall⟩
    exact List.not_mem_nil ((hall k).2 rfl)
  · simp [h, hvendor]
  · simp only [h, hvendor, howners, List.mem_singleton, Destination.entry.injEq,
      not_false_eq_true, true_and]
    constructor
    · rintro rfl k'
      rfl
    · intro hall
      exact (hall l).1 rfl
  · simp only [h, howners, reduceCtorEq, false_iff]
    rintro ⟨-, hall⟩
    -- two owners are not one
    rw [howners, (hall l).1 (by simp), (hall l').1 (by simp)] at hnodup
    simp at hnodup

/-! ## The order of paths -/

/-- What all modules have, by their numbers or as they stand. -/
theorem map_range_module? {β : Type} (g : ModuleGraph) (f : Module → β) (d : β) :
    (List.range g.size).map (fun i => ((g.module? i).map f).getD d) = g.modules.map f := by
  refine List.ext_getElem (by simp [size]) fun i hi _ => ?_
  have hlt : i < g.modules.length := by simpa [size] using hi
  simp [module?, List.getElem?_eq_getElem hlt]

theorem pairwise_sortedByPath (g : ModuleGraph) (root : Path) (modules : List Nat) :
    ((g.sortedByPath root modules).map (·.1)).Pairwise fun i j =>
      g.relativePath root i ≤ g.relativePath root j := by
  have hpaths : ∀ x ∈ g.sortedByPath root modules, x.2 = g.relativePath root x.1 := by
    intro x hx
    obtain ⟨i, -, rfl⟩ := List.mem_map.1 (List.mem_mergeSort.1 hx)
    rfl
  have hsorted : (g.sortedByPath root modules).Pairwise fun a b => a.2 ≤ b.2 := by
    refine (List.pairwise_mergeSort ?_ ?_ _).imp of_decide_eq_true
    · intro a b c hab hbc
      simp only [decide_eq_true_eq] at *
      exact String.le_trans hab hbc
    · intro a b
      simpa using String.le_total a.2 b.2
  refine List.pairwise_map.2 (hsorted.imp_of_mem fun ha hb hle => ?_)
  rwa [← hpaths _ ha, ← hpaths _ hb]

/-- The modules with a property among some that are sorted by their paths. -/
theorem lists_filter_sortedByPath {modules : List Nat} (hnodup : modules.Nodup) {p : Nat → Bool}
    {P : Nat → Prop} (hP : ∀ i, i ∈ modules ∧ p i = true ↔ P i) :
    g.Lists root P (((g.sortedByPath root modules).map (·.1)).filter p) where
  mem_iff i := by
    rw [List.mem_filter, (g.perm_map_fst_sortedByPath root modules).mem_iff]
    exact hP i
  nodup := ((g.perm_map_fst_sortedByPath root modules).nodup_iff.2 hnodup).filter _
  sorted := (g.pairwise_sortedByPath root modules).filter _

/-- What goes to a destination is listed in the order of paths. -/
theorem lists_sentTo {found : List Nat} (hnodup : found.Nodup) {d : Destination} {P : Nat → Prop}
    (hP : ∀ i, i ∈ found ∧ g.destination optimization g.reached i = d ↔ P i) :
    g.Lists root P (g.sentTo root optimization found d) := by
  refine lists_filter_sortedByPath hnodup fun i => ?_
  rw [decide_eq_true_iff]
  exact hP i

/-! ## The division of a graph -/

/-- Whether a list names the modules that some entry reaches, each once, in any order. -/
structure ListsOwned (g : ModuleGraph) (found : List Nat) : Prop where
  nodup : found.Nodup
  mem_iff : ∀ i, i ∈ found ↔ ∃ k, g.Owns k i

theorem listsOwned_owned (hg : g.WellFormed) : g.ListsOwned g.owned where
  nodup := g.nodup_owned
  mem_iff i := by
    simp only [mem_owned_iff, mem_owners_reached_iff hg]
    exact and_iff_right_of_imp fun ⟨_, hk⟩ => hk.lt_size hg

theorem ListsOwned.lt_size {found : List Nat} (h : g.ListsOwned found) (hg : g.WellFormed) {i : Nat}
    (hi : i ∈ found) : i < g.size :=
  ((h.mem_iff i).1 hi).elim fun _ hk => hk.lt_size hg

theorem ListsOwned.reverse {found : List Nat} (h : g.ListsOwned found) :
    g.ListsOwned found.reverse :=
  ⟨List.nodup_reverse.2 h.nodup, fun i => List.mem_reverse.trans (h.mem_iff i)⟩

/-- The modules that were found, by where they go. -/
def division (g : ModuleGraph) (root : Path) (optimization : Optimization) (found : List Nat) :
    Division where
  vendor := g.sentTo root optimization found .vendor
  common := g.sentTo root optimization found .common
  own k := g.sentTo root optimization found (.entry k)

theorem isExact_division (hg : g.WellFormed) {found : List Nat} (hfound : g.ListsOwned found) :
    (g.division root optimization found).IsExact g root optimization where
  vendor := by
    refine lists_sentTo hfound.nodup fun i => ?_
    simp only [hfound.mem_iff, destination_eq_vendor_iff, mem_owners_reached_iff hg]
    constructor
    · exact fun h => h.2
    · exact fun h => ⟨h.2, h⟩
  common := by
    refine lists_sentTo hfound.nodup fun i => ?_
    simp only [hfound.mem_iff, destination_eq_common_iff, mem_owners_reached_iff hg]
    constructor
    · exact fun h => h.2
    · intro h
      obtain ⟨k, -, -, hk, -⟩ := h.2
      exact ⟨⟨k, hk⟩, h⟩
  own := by
    intro k _
    refine lists_sentTo hfound.nodup fun i => ?_
    simp only [hfound.mem_iff, destination_eq_entry_iff, mem_owners_reached_iff hg]
    constructor
    · exact fun h => h.2
    · exact fun h => ⟨⟨k, (h.2 k).2 rfl⟩, h⟩

/-- What a chunk of an exact division holds is owned. -/
theorem Division.IsExact.owned {d : Division} (h : d.IsExact g root optimization) {c : Chunk}
    (hc : c ∈ d.chunks g.entries) {i : Nat} (hi : i ∈ c.modules) : ∃ k, g.Owns k i := by
  have hshared : ∀ {name kind modules}, c ∈ chunkUnlessEmpty name kind modules → i ∈ modules := by
    intro name kind modules hc
    rw [← flatMap_modules_chunkUnlessEmpty name kind modules]
    exact List.mem_flatMap.2 ⟨c, hc, hi⟩
  unfold Division.chunks at hc
  rcases List.mem_cons.1 hc with rfl | hc
  · cases hi
  rcases List.mem_append.1 hc with hc | hc
  · rcases List.mem_append.1 hc with hc | hc
    · exact ((h.vendor.mem_iff i).1 (hshared hc)).2
    · obtain ⟨-, k, -, -, hk, -⟩ := (h.common.mem_iff i).1 (hshared hc)
      exact ⟨k, hk⟩
  · obtain ⟨⟨e, k⟩, he, rfl⟩ := List.mem_map.1 hc
    have hk := (List.getElem?_eq_some_iff.1 (List.mk_mem_zipIdx_iff_getElem?.1 he)).1
    exact ⟨k, (((h.own k hk).mem_iff i).1 hi).2 k |>.2 rfl⟩

/-- The chunks of a graph are those of an exact division: the chunk of the loader without a module,
    the packages, the shared modules, and a chunk for each entry, in the order of the entries. No
    other module is in a chunk. -/
theorem assignChunks_exact (hg : g.Built) (root : Path) (optimization : Optimization) :
    (∃ d : Division, (g.assignChunks root optimization).chunks = d.chunks g.entries ∧
      d.IsExact g root optimization) ∧
    ∀ i, (∀ k, ¬ g.Owns k i) → ∀ c ∈ (g.assignChunks root optimization).chunks, i ∉ c.modules := by
  have hchunks : (g.assignChunks root optimization).chunks
      = (g.division root optimization g.owned).chunks g.entries :=
    g.chunks_assignChunks root optimization
  have hexact : (g.division root optimization g.owned).IsExact g root optimization :=
    isExact_division hg.wellFormed (listsOwned_owned hg.wellFormed)
  refine ⟨⟨_, hchunks, hexact⟩, fun i hnone c hc hi => ?_⟩
  rw [hchunks] at hc
  obtain ⟨k, hk⟩ := hexact.owned hc hi
  exact hnone k hk

/-! ## The chunks of a ring -/

/-- Packages kept together: those with a `v` in their paths. -/
def ringOptimization : Optimization where
  splitVendor := true
  vendor := ⟨"v", .set (.single 'v')⟩
  deterministicIds := true
  compression := ⟨⟨"", .empty⟩, 0⟩

theorem assignChunks_exact_ring :
    ring.Built ∧
    (∃ d : Division, (ring.assignChunks ⟨"/"⟩ ringOptimization).chunks = d.chunks ring.entries ∧
      d.IsExact ring ⟨"/"⟩ ringOptimization) ∧
    ∀ i, (∀ k, ¬ ring.Owns k i) →
      ∀ c ∈ (ring.assignChunks ⟨"/"⟩ ringOptimization).chunks, i ∉ c.modules :=
  ⟨built_ring, assignChunks_exact built_ring ⟨"/"⟩ ringOptimization⟩

end Bundler.ModuleGraph
