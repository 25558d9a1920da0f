import Bundler.Proofs.Graph.Assembly
import Bundler.Proofs.Graph.Reachability

set_option autoImplicit false

/-! # Graphs that are built

A graph is built by adding modules, edges between modules and entries at modules, in any order. Each
addition keeps the numbers of paths in step with the modules (`Built.indexed`) and the graph
well-formed (`Built.wellFormed`): paths are different, numbers are those of modules, and a reference
of a module has one target. The graph of a build is built in this way (`built_ofLoaded`). -/

namespace Bundler.ModuleGraph

/-- Whether a graph comes about by adding modules, edges between modules and entries at modules. -/
inductive Built : ModuleGraph → Prop
  | empty : Built {}
  | addModule {g : ModuleGraph} (m : Module) (h : Built g) : Built (g.addModule m).1
  | addDependency {g : ModuleGraph} (importer target : Nat) (reference : String) (h : Built g)
      (himporter : importer < g.size) (htarget : target < g.size) :
      Built (g.addDependency importer target reference)
  | addEntry {g : ModuleGraph} (name : String) (i : Nat) (h : Built g) (hi : i < g.size) :
      Built (g.addEntry name i)

/-- What every graph that is built has. -/
structure WellFormed (g : ModuleGraph) : Prop where
  /-- No two modules have the same path. -/
  distinct : Path.AllDistinct (g.modules.map (·.path))
  importer_lt : ∀ e ∈ g.edges, e.importer < g.size
  target_lt : ∀ e ∈ g.edges, e.target < g.size
  /-- A reference of a module has one target. -/
  nodup : (g.edges.map fun e => (e.importer, e.reference)).Nodup
  entry_lt : ∀ e ∈ g.entries, e.2 < g.size

/-! ## What additions keep -/

variable {g : ModuleGraph}

theorem wellFormed_empty : WellFormed {} where
  distinct := .nil
  importer_lt := by simp
  target_lt := by simp
  nodup := .nil
  entry_lt := by simp

/-- The numbers of paths stay those of the modules at them. -/
theorem Built.indexed (h : g.Built) : g.Indexed := by
  induction h with
  | empty => exact indexed_empty
  | addModule m _ ih => exact ih.addModule m
  | addDependency _ _ _ _ _ _ ih =>
    exact ih.of_eq (modules_addDependency _ _ _ _) (indexes_addDependency _ _ _ _)
  | addEntry _ _ _ _ ih => exact ih.of_eq rfl rfl

/-- A new module gets the next number, so that the numbers in use stay those of modules. -/
theorem WellFormed.addModule (h : g.WellFormed) (hindexed : g.Indexed) (m : Module) :
    (g.addModule m).1.WellFormed := by
  obtain ⟨i, -, heq⟩ | ⟨hindex, heq⟩ := g.addModule_cases m
  · rw [heq]
    exact h
  · have hnew := hindexed.index?_eq_none_iff.1 hindex
    have hsize : ∀ {i}, i < g.size → i < size { g with
        modules := g.modules ++ [m], indexes := (m.path, g.size) :: g.indexes } := by
      intro i hi
      simp only [size, List.length_append] at *
      omega
    rw [heq]
    exact {
      distinct := by
        rw [List.map_append]
        refine List.pairwise_append.2 ⟨h.distinct, List.pairwise_singleton _ _, ?_⟩
        intro p hp q hq
        obtain ⟨m', hm', rfl⟩ := List.mem_map.1 hp
        rw [List.mem_singleton.1 hq]
        exact hnew m' hm'
      importer_lt := fun e he => hsize (h.importer_lt e he)
      target_lt := fun e he => hsize (h.target_lt e he)
      nodup := h.nodup
      entry_lt := fun e he => hsize (h.entry_lt e he) }

theorem WellFormed.addDependency (h : g.WellFormed) {importer target : Nat} (reference : String)
    (himporter : importer < g.size) (htarget : target < g.size) :
    (g.addDependency importer target reference).WellFormed := by
  obtain ⟨-, heq⟩ | ⟨hnew, heq⟩ := g.addDependency_cases importer target reference
  · rw [heq]
    exact h
  · have hfresh : (importer, reference) ∉ g.edges.map fun e => (e.importer, e.reference) := by
      intro hmem
      obtain ⟨e, he, hpair⟩ := List.mem_map.1 hmem
      exact hnew e he (Prod.mk.inj hpair)
    rw [heq]
    exact {
      distinct := h.distinct
      importer_lt := by simpa using ⟨himporter, h.importer_lt⟩
      target_lt := by simpa using ⟨htarget, h.target_lt⟩
      nodup := List.nodup_cons.2 ⟨hfresh, h.nodup⟩
      entry_lt := h.entry_lt }

theorem WellFormed.addEntry (h : g.WellFormed) (name : String) {i : Nat} (hi : i < g.size) :
    (g.addEntry name i).WellFormed where
  distinct := h.distinct
  importer_lt := h.importer_lt
  target_lt := h.target_lt
  nodup := h.nodup
  entry_lt := by
    intro e he
    rcases List.mem_append.1 he with he | he
    · exact h.entry_lt e he
    · rw [List.mem_singleton.1 he]
      exact hi

theorem Built.wellFormed (h : g.Built) : g.WellFormed := by
  induction h with
  | empty => exact wellFormed_empty
  | addModule m hg ih => exact ih.addModule hg.indexed m
  | addDependency _ _ reference _ himporter htarget ih =>
    exact ih.addDependency reference himporter htarget
  | addEntry name _ _ hi ih => exact ih.addEntry name hi

/-- A module at a new path is added after the others. -/
theorem Built.addModule_of_distinct (h : g.Built) {m : Module}
    (hnew : ∀ m' ∈ g.modules, m'.path.same m.path = false) :
    Built { g with modules := g.modules ++ [m], indexes := (m.path, g.size) :: g.indexes } :=
  ModuleGraph.addModule_of_distinct h.indexed hnew ▸ h.addModule m

/-! ## Edges and dependencies of well-formed graphs -/

theorem WellFormed.edgesInRange (h : g.WellFormed) : g.EdgesInRange := by
  intro i _ j hj
  obtain ⟨e, he, rfl⟩ := List.mem_map.1 hj
  exact h.target_lt e (List.mem_filter.1 he).1

/-- The references of the dependencies of a module are different from each other. -/
theorem WellFormed.nodup_dependencies (h : g.WellFormed) (i : Nat) :
    ((g.dependencies i).map (·.1)).Nodup := by
  have hedges : ((g.edgesOf i).map (·.reference)).Nodup := by
    have hpairs : ((g.edgesOf i).map fun e => (e.importer, e.reference)).Nodup :=
      h.nodup.sublist (List.filter_sublist.map _)
    refine List.Nodup.of_map (fun reference => (i, reference)) ?_
    rw [List.map_map]
    refine (List.map_congr_left fun e he => ?_) ▸ hpairs
    have himporter : e.importer = i := by simpa using (List.mem_filter.1 he).2
    simp [himporter]
  rw [((g.perm_dependencies i).map _).nodup_iff, List.map_map]
  exact hedges

/-! ## The graph of a build -/

theorem built_addDependencyAt (h : g.Built) {importer : Nat} (himporter : importer < g.size)
    (d : String × Path) : (g.addDependencyAt importer d).Built := by
  unfold addDependencyAt
  split
  · next target htarget => exact h.addDependency _ _ d.1 himporter (h.indexed.lt_size htarget)
  · exact h

theorem built_addDependencies (h : g.Built) (l : Loaded) : (g.addDependencies l).Built := by
  unfold addDependencies
  split
  · exact h
  · next importer hindex =>
    have himporter := h.indexed.lt_size hindex
    clear hindex
    generalize l.dependencies = dependencies
    induction dependencies generalizing g with
    | nil => exact h
    | cons d rest ih =>
      have hsize : (g.addDependencyAt importer d).size = g.size :=
        congrArg List.length (sameNodes_addDependencyAt importer g d).modules
      exact ih (built_addDependencyAt h himporter d) (hsize ▸ himporter)

theorem built_addEntryAt (h : g.Built) (entry : String × Path) : (g.addEntryAt entry).Built := by
  unfold addEntryAt
  split
  · next i hi => exact h.addEntry entry.1 i (h.indexed.lt_size hi)
  · exact h

/-- Whatever was loaded, the graph of it is built. -/
theorem built_ofLoaded (loaded : List Loaded) (entries : List (String × Path)) :
    (ofLoaded loaded entries).Built := by
  unfold ofLoaded
  refine List.foldlRecOn entries _ ?_ fun g hg entry _ => built_addEntryAt hg entry
  refine List.foldlRecOn loaded _ ?_ fun g hg l _ => built_addDependencies hg l
  exact List.foldlRecOn loaded _ .empty fun g hg l _ => hg.addModule l.module

/-! ## A graph with a ring -/

/-- Two modules that refer to each other, a package that the second of them refers to, and a module
    that nothing refers to. Two entries are at the first module. -/
def ring : ModuleGraph :=
  let add (g : ModuleGraph) (path : String) := (g.addModule ⟨⟨path⟩, "", [], [], [], .nil⟩).1
  let modules := ["/a.js", "/b.js", "/vendor.js", "/c.js"].foldl add {}
  let linked := ((modules.addDependency 0 1 "b").addDependency 1 0 "a").addDependency 1 2 "vendor"
  ((linked.addEntry "main" 0).addEntry "again" 0).addEntry "other" 1

theorem built_ring : ring.Built := by
  have hmodules := (((Built.empty.addModule ⟨⟨"/a.js"⟩, "", [], [], [], .nil⟩).addModule
    ⟨⟨"/b.js"⟩, "", [], [], [], .nil⟩).addModule ⟨⟨"/vendor.js"⟩, "", [], [], [], .nil⟩).addModule
      ⟨⟨"/c.js"⟩, "", [], [], [], .nil⟩
  have hlinked := ((hmodules.addDependency 0 1 "b" (by decide) (by decide)).addDependency 1 0 "a"
    (by decide) (by decide)).addDependency 1 2 "vendor" (by decide) (by decide)
  exact ((hlinked.addEntry "main" 0 (by decide)).addEntry "again" 0 (by decide)).addEntry "other" 1
    (by decide)

end Bundler.ModuleGraph
