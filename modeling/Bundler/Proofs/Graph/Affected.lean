import Bundler.Proofs.Graph.Built

set_option autoImplicit false

/-! # What a change affects

`dependents` searches along the edges backwards from one module, `reachable` forwards. Both follow
the same ways: a module is among the dependents of another exactly if it reaches it
(`WellFormed.mem_dependents_iff`), also on a ring of edges or an edge from a module to itself. The
affected paths are therefore the given ones and those of all modules that reach a module at one of
them (`Built.affectedPaths_exact`). -/

namespace Bundler.ModuleGraph

variable {g : ModuleGraph}

/-! ## Dependents -/

/-- The importers of a module are those that have it as a target. -/
theorem mem_importers_iff {i j : Nat} : i ∈ g.importers j ↔ j ∈ g.targets i := by
  unfold importers targets edgesOf
  simp only [List.mem_map, List.mem_filter, beq_iff_eq]
  constructor
  · rintro ⟨e, ⟨he, htarget⟩, himporter⟩
    exact ⟨e, ⟨he, himporter⟩, htarget⟩
  · rintro ⟨e, ⟨he, himporter⟩, htarget⟩
    exact ⟨e, ⟨he, htarget⟩, himporter⟩

theorem WellFormed.importers_lt (h : g.WellFormed) {i j : Nat} (hi : i ∈ g.importers j) :
    i < g.size := by
  obtain ⟨e, he, rfl⟩ := List.mem_map.1 hi
  exact h.importer_lt e (List.mem_filter.1 he).1

/-- The dependents of a module are those that reach it. -/
theorem WellFormed.mem_dependents_iff (h : g.WellFormed) {i j : Nat} (hj : j < g.size) :
    i ∈ g.dependents j ↔ g.Reaches i j := by
  have hback : (fun a b => b ∈ g.importers a) = Function.swap fun a b => b ∈ g.targets a := by
    funext a b
    exact propext mem_importers_iff
  unfold dependents Reaches
  rw [mem_closeUnder_iff (fun _ _ _ hi => h.importers_lt hi) (List.pairwise_singleton _ j)
    (by simpa using hj)]
  simp only [List.mem_singleton, exists_eq_left]
  rw [hback, Relation.reflTransGen_swap]

/-! ## Affected paths -/

/-- What a path affects, up to sameness: itself, and the paths of the modules that reach the module
    at it. -/
theorem Built.exists_affectedBy_iff (h : g.Built) {p q : Path} :
    (∃ r ∈ g.affectedBy p, r.same q = true) ↔
      p.same q = true ∨ ∃ j, g.index? p = some j ∧
        ∃ i m, g.module? i = some m ∧ m.path.same q = true ∧ g.Reaches i j := by
  unfold affectedBy
  cases hindex : g.index? p with
  | none => simp
  | some j =>
    have hdependent := fun i => h.wellFormed.mem_dependents_iff (i := i) (h.indexed.lt_size hindex)
    simp only [List.mem_cons, exists_eq_or_imp, Option.some.injEq, exists_eq_left']
    refine or_congr_right ?_
    constructor
    · rintro ⟨r, hr, hsame⟩
      obtain ⟨m, hm, rfl⟩ := List.mem_map.1 hr
      obtain ⟨i, hi, him⟩ := List.mem_filterMap.1 hm
      exact ⟨i, m, him, hsame, (hdependent i).1 hi⟩
    · rintro ⟨i, m, him, hsame, hreaches⟩
      refine ⟨m.path, List.mem_map_of_mem ?_, hsame⟩
      exact List.mem_filterMap.2 ⟨i, (hdependent i).2 hreaches, him⟩

theorem Built.exists_affectedPaths_iff (h : g.Built) {paths : List Path} {q : Path} :
    (∃ r ∈ g.affectedPaths paths, r.same q = true) ↔
      (∃ p ∈ paths, p.same q = true) ∨ ∃ p ∈ paths, ∃ j, g.index? p = some j ∧
        ∃ i m, g.module? i = some m ∧ m.path.same q = true ∧ g.Reaches i j := by
  have hsplit : (∃ r ∈ paths.flatMap g.affectedBy, r.same q = true) ↔
      ∃ p ∈ paths, ∃ r ∈ g.affectedBy p, r.same q = true := by
    simp only [List.mem_flatMap]
    constructor
    · rintro ⟨r, ⟨p, hp, hr⟩, hsame⟩
      exact ⟨p, hp, r, hr, hsame⟩
    · rintro ⟨p, hp, r, hr, hsame⟩
      exact ⟨r, ⟨p, hp, hr⟩, hsame⟩
  rw [affectedPaths, Path.sameSet_distinctPaths _ q, hsplit]
  simp only [h.exists_affectedBy_iff, and_or_left, exists_or]

/-- The affected paths are different from each other. They are the given ones, whether there is a
    module at them or not, and those of all modules from which a module at a given path is
    reachable, which means that a way of edges leads from the one to the other. The path of a module
    is thus affected by itself and by all that the module depends on, and by nothing else. -/
theorem Built.affectedPaths_exact (h : g.Built) (paths : List Path) :
    Path.AllDistinct (g.affectedPaths paths) ∧
    (∀ q : Path, (∃ r ∈ g.affectedPaths paths, r.same q = true) ↔
      (∃ p ∈ paths, p.same q = true) ∨
        ∃ i m, g.module? i = some m ∧ m.path.same q = true ∧
          ∃ p ∈ paths, ∃ j ∈ g.reachable i, g.index? p = some j) ∧
    (∀ i < g.size, (g.reachable i).Nodup ∧ ∀ j, j ∈ g.reachable i ↔ g.Reaches i j) ∧
    ∀ i m, g.module? i = some m →
      ((∃ r ∈ g.affectedPaths paths, r.same m.path = true) ↔
        ∃ p ∈ paths, ∃ j, g.index? p = some j ∧ g.Reaches i j) := by
  have hg := h.wellFormed
  have hreachable : ∀ i < g.size, ∀ j, j ∈ g.reachable i ↔ g.Reaches i j :=
    fun i hi j => mem_reachable_iff hg.edgesInRange hi
  refine ⟨allDistinct_distinctPaths _, fun q => ?_,
    fun i hi => ⟨g.nodup_reachable i, hreachable i hi⟩, fun i m hm => ?_⟩
  · rw [h.exists_affectedPaths_iff]
    refine or_congr_right ?_
    constructor
    · rintro ⟨p, hp, j, hj, i, m, hm, hsame, hreaches⟩
      have hi := (List.getElem?_eq_some_iff.1 hm).1
      exact ⟨i, m, hm, hsame, p, hp, j, (hreachable i hi j).2 hreaches, hj⟩
    · rintro ⟨i, m, hm, hsame, p, hp, j, hj, hindex⟩
      have hi := (List.getElem?_eq_some_iff.1 hm).1
      exact ⟨p, hp, j, hindex, i, m, hm, hsame, (hreachable i hi j).1 hj⟩
  · rw [h.exists_affectedPaths_iff]
    constructor
    · rintro (⟨p, hp, hsame⟩ | ⟨p, hp, j, hj, i', m', hm', hsame, hreaches⟩)
      · exact ⟨p, hp, i, h.indexed.index?_of_module? hm (by rwa [Path.same_comm]), .refl⟩
      · -- there is one module at a path
        obtain rfl := h.indexed.eq_of_same hm' hm hsame
        exact ⟨p, hp, j, hj, hreaches⟩
    · rintro ⟨p, hp, j, hj, hreaches⟩
      exact .inr ⟨p, hp, j, hj, i, m, hm, Path.same_self _, hreaches⟩

theorem affectedPaths_exact_ring :
    ring.Built ∧
    ring.affectedPaths [⟨"/b.js"⟩, ⟨"/new.js"⟩] = [⟨"/b.js"⟩, ⟨"/a.js"⟩, ⟨"/new.js"⟩] ∧
    ∀ q : Path, (∃ r ∈ ring.affectedPaths [⟨"/b.js"⟩, ⟨"/new.js"⟩], r.same q = true) ↔
      (∃ p ∈ [⟨"/b.js"⟩, ⟨"/new.js"⟩], Path.same p q = true) ∨
        ∃ i m, ring.module? i = some m ∧ m.path.same q = true ∧
          ∃ p ∈ [⟨"/b.js"⟩, ⟨"/new.js"⟩], ∃ j ∈ ring.reachable i, ring.index? p = some j :=
  ⟨built_ring, by decide, (built_ring.affectedPaths_exact _).2.1⟩

end Bundler.ModuleGraph
