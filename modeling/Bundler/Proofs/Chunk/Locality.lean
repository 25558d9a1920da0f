import Bundler.Proofs.Chunk.Order
import Bundler.Proofs.Chunk.Shape

set_option autoImplicit false

/-! # Chunks and ids after a change of content

Which modules go to which chunk follows from paths, edges and entries, and these are the same in a
graph that differs from another in the content and the assets of one module (`DiffersAt.sameShape`,
`DiffersAt.perm_found`). If the digits that ids begin with are different, every module has the id
that it would have alone (`moduleId?_eq_ownId`), and only the module that changed can get another
one (`DiffersAt.moduleId?_eq`). -/

namespace Bundler.ModuleGraph

/-- Whether a graph differs from another at most in the content, the assets and the transforms of
    the module of a number. -/
structure DiffersAt (k : Nat) (g g' : ModuleGraph) : Prop where
  paths : g'.modules.map (·.path) = g.modules.map (·.path)
  references : g'.modules.map (·.references) = g.modules.map (·.references)
  others : ∀ i, i ≠ k → g'.module? i = g.module? i
  edges : g'.edges = g.edges
  entries : g'.entries = g.entries

variable {g g' : ModuleGraph} {k : Nat} {root : Path} {optimization : Optimization}

/-! ## What does not change -/

theorem DiffersAt.size_eq (h : DiffersAt k g g') : g'.size = g.size := by
  have hlength := congrArg List.length h.paths
  simpa [size] using hlength

/-- Chunks are made from what does not change. -/
theorem DiffersAt.sameShape (h : DiffersAt k g g') (root : Path) (optimization : Optimization) :
    SameShape root root optimization g g' where
  relativePaths := by
    have hpaths := congrArg (List.map (Path.relativeTo root)) h.paths
    rwa [List.map_map, List.map_map] at hpaths
  vendors := by
    have hpaths := congrArg (List.map fun p : Path => optimization.vendor.isMatch p.text) h.paths
    rwa [List.map_map, List.map_map] at hpaths
  references := h.references
  edges := h.edges
  entries := h.entries

theorem DiffersAt.wellFormed (h : DiffersAt k g g') (hg : g.WellFormed) : g'.WellFormed where
  distinct := by rw [h.paths]; exact hg.distinct
  importer_lt := by rw [h.edges, h.size_eq]; exact hg.importer_lt
  target_lt := by rw [h.edges, h.size_eq]; exact hg.target_lt
  nodup := by rw [h.edges]; exact hg.nodup
  entry_lt := by rw [h.entries, h.size_eq]; exact hg.entry_lt

/-- Entries reach the same modules. -/
theorem DiffersAt.owns_iff (h : DiffersAt k g g') {place i : Nat} :
    g'.Owns place i ↔ g.Owns place i := by
  have htargets : g'.targets = g.targets := by
    funext i
    unfold targets edgesOf
    rw [h.edges]
  unfold Owns Reaches
  rw [h.entries, htargets]

/-- The modules that entries reach are the same, in whatever orders they are found. -/
theorem DiffersAt.perm_found (h : DiffersAt k g g') {found found' : List Nat}
    (hfound : g.ListsOwned found) (hfound' : g'.ListsOwned found') : found.Perm found' := by
  refine (List.perm_ext_iff_of_nodup hfound.nodup hfound'.nodup).2 fun i => ?_
  rw [hfound.mem_iff, hfound'.mem_iff]
  simp only [h.owns_iff]

/-! ## Ids -/

/-- The first digits of the digest that an id is taken from. -/
def firstDigits (root : Path) (m : Module) : List Char :=
  (idDigits (Path.relativeTo root m.path) m).take shortestId

/-- Whether the digests of different modules begin with different digits. -/
def HasDistinctDigits (g : ModuleGraph) (root : Path) : Prop :=
  (g.modules.map (firstDigits root)).Nodup

/-- The id that a module has if no other module is in its way. -/
def ownId (g : ModuleGraph) (root : Path) (deterministic : Bool) (i : Nat) : String :=
  if deterministic then .ofList (((g.module? i).map (firstDigits root)).getD [])
  else g.relativePath root i

/-- Ids that are free are not lengthened. -/
theorem digestIds_of_free (taken : List String) {modules : List Nat}
    (hlt : ∀ i ∈ modules, i < g.size)
    (hfree : (taken ++ modules.map (g.ownId root true)).Nodup) :
    g.digestIds taken (modules.map fun i => (i, g.relativePath root i))
      = modules.map fun i => (i, g.ownId root true i) := by
  induction modules generalizing taken with
  | nil => rfl
  | cons i rest ih =>
    obtain ⟨m, hm⟩ := exists_module_of_lt (hlt i List.mem_cons_self)
    have hid : g.ownId root true i = .ofList (firstDigits root m) := by
      simp [ownId, hm]
    have hpath : g.relativePath root i = Path.relativeTo root m.path := by
      simp [relativePath, hm]
    have hperm : (taken ++ g.ownId root true i :: rest.map (g.ownId root true)).Perm
        ((g.ownId root true i :: taken) ++ rest.map (g.ownId root true)) := List.perm_middle
    rw [List.map_cons, hperm.nodup_iff] at hfree
    have hnew : g.ownId root true i ∉ taken := by
      intro hmem
      rw [List.cons_append, List.nodup_cons] at hfree
      exact hfree.1 (List.mem_append_left _ hmem)
    have hstart : freeStart taken (idDigits (g.relativePath root i) m) shortestId
        = g.ownId root true i := by
      unfold freeStart
      rw [hpath, hid, if_neg]
      · rfl
      · rw [hid, firstDigits] at hnew
        simp [hnew]
    simp only [List.map_cons, digestIds, hm, hstart]
    rw [ih _ (fun j hj => hlt j (List.mem_cons_of_mem _ hj)) hfree]

theorem nodup_ownId (h : g.HasDistinctDigits root) :
    ((List.range g.size).map (g.ownId root true)).Nodup := by
  unfold HasDistinctDigits at h
  rw [← g.map_range_module? _ []] at h
  have hids : (List.range g.size).map (g.ownId root true)
      = ((List.range g.size).map fun i =>
          ((g.module? i).map (firstDigits root)).getD []).map String.ofList := by
    rw [List.map_map]
    rfl
  rw [hids]
  exact h.map fun a b hab => by simpa using congrArg String.toList hab

/-- If no two digests begin alike, every module has the id that it would have alone. -/
theorem moduleId?_eq_ownId
    (h : optimization.deterministicIds = true → g.HasDistinctDigits root) {i : Nat}
    (hi : i < g.size) :
    (g.assignChunks root optimization).moduleId? i
      = some (g.ownId root optimization.deterministicIds i) := by
  have hlists := g.lists_byRelativePath root
  have hids : g.moduleIds root optimization.deterministicIds
      = ((g.byRelativePath root).map (·.1)).map fun i =>
          (i, g.ownId root optimization.deterministicIds i) := by
    unfold moduleIds
    cases hdeterministic : optimization.deterministicIds with
    | false => exact g.byRelativePath_eq_map root
    | true =>
      have hfree : (((g.byRelativePath root).map (·.1)).map (g.ownId root true)).Nodup :=
        ((g.map_fst_byRelativePath root).map _).nodup_iff.2 (nodup_ownId (h hdeterministic))
      have hdigest := digestIds_of_free [] (fun i hi => (hlists.mem_iff i).1 hi) hfree
      rwa [← byRelativePath_eq_map] at hdigest
  show (g.moduleIds root optimization.deterministicIds).lookup i = _
  rw [hids]
  exact List.lookup_graph _ ((hlists.mem_iff i).2 hi)

/-- Only the module that changed can get another id, and only if ids are taken from digests. -/
theorem DiffersAt.moduleId?_eq (h : DiffersAt k g g')
    (hdigits : optimization.deterministicIds = true →
      g.HasDistinctDigits root ∧ g'.HasDistinctDigits root)
    {i : Nat} (hi : i < g.size) (hkept : optimization.deterministicIds = true → i ≠ k) :
    (g'.assignChunks root optimization).moduleId? i
      = (g.assignChunks root optimization).moduleId? i := by
  have hi' : i < g'.size := h.size_eq ▸ hi
  rw [moduleId?_eq_ownId (fun hd => (hdigits hd).1) hi,
    moduleId?_eq_ownId (fun hd => (hdigits hd).2) hi']
  unfold ownId
  cases hdeterministic : optimization.deterministicIds with
  | false => simp [(h.sameShape root optimization).relativePath_eq]
  | true => simp [h.others i (hkept hdeterministic)]

end Bundler.ModuleGraph
