import Bundler.Proofs.Graph.Built

set_option autoImplicit false

/-! # Graphs with the same contents

Two graphs may hold the same modules, edges and entries and still number the modules differently,
since numbers follow the order in which modules were added. If both are well-formed, there is a
renumbering from one to the other (`SameContents.exists_renumbers`), and what a module refers to and
reaches is renumbered with it (`Renumbers.perm_edgesOf`, `Renumbers.reaches_iff`). -/

namespace Bundler

/-- An edge between the new numbers of its modules. -/
def Edge.renumber (σ : Nat → Nat) (e : Edge) : Edge := ⟨σ e.importer, e.reference, σ e.target⟩

namespace ModuleGraph

/-- Whether a reference of a module stands for another module. -/
def HasEdge (g : ModuleGraph) (importer : Module) (reference : String) (target : Module) : Prop :=
  ∃ e ∈ g.edges, g.module? e.importer = some importer ∧ e.reference = reference ∧
    g.module? e.target = some target

/-- The entries with their modules. -/
def namedModules (g : ModuleGraph) : List (String × Option Module) :=
  g.entries.map fun e => (e.1, g.module? e.2)

/-- Whether two graphs hold the same modules, the same edges and the same list of entries, in
    whatever order modules and edges were added. -/
structure SameContents (g g' : ModuleGraph) : Prop where
  modules : g.modules.Perm g'.modules
  edges : ∀ importer reference target,
    g.HasEdge importer reference target ↔ g'.HasEdge importer reference target
  entries : g.namedModules = g'.namedModules

/-- Whether new numbers of the modules make one graph into another. -/
structure Renumbers (σ : Nat → Nat) (g g' : ModuleGraph) : Prop where
  module?_eq : ∀ i < g.size, g'.module? (σ i) = g.module? i
  inj : ∀ i < g.size, ∀ j < g.size, σ i = σ j → i = j
  exists_eq : ∀ j < g'.size, ∃ i < g.size, σ i = j
  edges : g'.edges.Perm (g.edges.map (Edge.renumber σ))
  entries : g'.entries = g.entries.map fun e => (e.1, σ e.2)

/-! ## The renumbering of the same contents -/

variable {g g' : ModuleGraph}

/-- The module of a number is the first at its path. -/
theorem WellFormed.findIdx?_of_module? (h : g.WellFormed) {i : Nat} {m : Module}
    (hm : g.module? i = some m) : g.modules.findIdx? (·.path.same m.path) = some i := by
  obtain ⟨hi, hget⟩ := List.getElem?_eq_some_iff.1 hm
  refine List.findIdx?_eq_some_iff_getElem.2
    ⟨hi, by rw [hget]; exact Path.same_self m.path, fun j hj hsame => ?_⟩
  have hne := List.pairwise_iff_getElem.1 h.distinct j i (by simp; omega) (by simpa using hi) hj
  rw [List.getElem_map, List.getElem_map, hget, hsame] at hne
  cases hne

theorem WellFormed.eq_of_module?_eq (h : g.WellFormed) {i j : Nat} {m : Module}
    (hi : g.module? i = some m) (hj : g.module? j = some m) : i = j := by
  have hfirst := h.findIdx?_of_module? hi
  rw [h.findIdx?_of_module? hj] at hfirst
  exact (Option.some_inj.1 hfirst).symm

theorem WellFormed.nodup_edges (h : g.WellFormed) : g.edges.Nodup := h.nodup.of_map _

/-- The number that the module of a number has in another graph. -/
def newNumber (g g' : ModuleGraph) (i : Nat) : Nat :=
  ((g.module? i).bind fun m => g'.modules.findIdx? (·.path.same m.path)).getD i

theorem module?_newNumber (hg' : g'.WellFormed) (h : g.modules.Perm g'.modules) {i : Nat}
    (hi : i < g.size) : g'.module? (newNumber g g' i) = g.module? i := by
  obtain ⟨m, hm⟩ := exists_module_of_lt hi
  obtain ⟨j, hj⟩ := List.getElem?_of_mem (h.mem_iff.1 (List.mem_of_getElem? hm))
  unfold newNumber
  rw [hm, Option.bind_some, hg'.findIdx?_of_module? hj]
  exact hj

/-- Members that are determined by what equal lists make of them. -/
theorem eq_map_of_map_eq_map {α β γ : Type} {l : List α} {l' : List β} {f : α → γ} {f' : β → γ}
    {next : α → β} (h : l.map f = l'.map f') (hnext : ∀ a ∈ l, ∀ b ∈ l', f a = f' b → b = next a) :
    l' = l.map next := by
  induction l generalizing l' with
  | nil => simpa using h.symm
  | cons a rest ih =>
    cases l' with
    | nil => simp at h
    | cons b rest' =>
      obtain ⟨hhead, htail⟩ := List.cons_eq_cons.1 h
      rw [List.map_cons, hnext a (by simp) b (by simp) hhead]
      congr 1
      exact ih htail fun a ha b hb => hnext a (by simp [ha]) b (by simp [hb])

/-- A number of the other graph with the module of `i` is the new number of `i`. -/
theorem SameContents.eq_newNumber (h : g.SameContents g') (hg' : g'.WellFormed) {i j : Nat}
    {m : Module} (hi : g.module? i = some m) (hj : g'.module? j = some m) :
    j = newNumber g g' i := by
  have hnew := module?_newNumber hg' h.modules (List.getElem?_eq_some_iff.1 hi).1
  rw [hi] at hnew
  exact hg'.eq_of_module?_eq hj hnew

theorem SameContents.newNumber_inj (h : g.SameContents g') (hg : g.WellFormed)
    (hg' : g'.WellFormed) {i j : Nat} (hi : i < g.size) (hj : j < g.size)
    (heq : newNumber g g' i = newNumber g g' j) : i = j := by
  obtain ⟨m, hm⟩ := exists_module_of_lt hi
  refine hg.eq_of_module?_eq hm ?_
  rw [← module?_newNumber hg' h.modules hj, ← heq, module?_newNumber hg' h.modules hi, hm]

theorem SameContents.nodup_renumbered (h : g.SameContents g') (hg : g.WellFormed)
    (hg' : g'.WellFormed) : (g.edges.map (Edge.renumber (newNumber g g'))).Nodup := by
  refine hg.nodup_edges.map_on fun e he e' he' heq => ?_
  obtain ⟨himporter, hreference, htarget⟩ := Edge.mk.injEq .. ▸ heq
  cases e
  cases e'
  rw [Edge.mk.injEq]
  exact ⟨h.newNumber_inj hg hg' (hg.importer_lt _ he) (hg.importer_lt _ he') himporter, hreference,
    h.newNumber_inj hg hg' (hg.target_lt _ he) (hg.target_lt _ he') htarget⟩

/-- The edges of the other graph are the edges with new numbers. -/
theorem SameContents.perm_edges (h : g.SameContents g') (hg : g.WellFormed) (hg' : g'.WellFormed) :
    g'.edges.Perm (g.edges.map (Edge.renumber (newNumber g g'))) := by
  refine (List.perm_ext_iff_of_nodup hg'.nodup_edges (h.nodup_renumbered hg hg')).2 fun e' => ?_
  rw [List.mem_map]
  constructor
  · intro he'
    obtain ⟨m, hm⟩ := exists_module_of_lt (hg'.importer_lt e' he')
    obtain ⟨m', hm'⟩ := exists_module_of_lt (hg'.target_lt e' he')
    obtain ⟨e, he, himporter, hreference, htarget⟩ :=
      (h.edges m e'.reference m').2 ⟨e', he', hm, rfl, hm'⟩
    refine ⟨e, he, ?_⟩
    unfold Edge.renumber
    rw [← h.eq_newNumber hg' himporter hm, hreference, ← h.eq_newNumber hg' htarget hm']
  · rintro ⟨e, he, rfl⟩
    obtain ⟨m, hm⟩ := exists_module_of_lt (hg.importer_lt e he)
    obtain ⟨m', hm'⟩ := exists_module_of_lt (hg.target_lt e he)
    obtain ⟨e', he', himporter, hreference, htarget⟩ :=
      (h.edges m e.reference m').1 ⟨e, he, hm, rfl, hm'⟩
    unfold Edge.renumber
    rwa [← h.eq_newNumber hg' hm himporter, ← hreference, ← h.eq_newNumber hg' hm' htarget]

theorem SameContents.exists_renumbers (h : g.SameContents g') (hg : g.WellFormed)
    (hg' : g'.WellFormed) : ∃ σ, Renumbers σ g g' := by
  refine ⟨newNumber g g', fun i hi => module?_newNumber hg' h.modules hi,
    fun i hi j hj => h.newNumber_inj hg hg' hi hj, fun j hj => ?_, h.perm_edges hg hg', ?_⟩
  · obtain ⟨m, hm⟩ := exists_module_of_lt hj
    obtain ⟨i, hi⟩ := List.getElem?_of_mem (h.modules.mem_iff.2 (List.mem_of_getElem? hm))
    exact ⟨i, (List.getElem?_eq_some_iff.1 hi).1, (h.eq_newNumber hg' hi hm).symm⟩
  · refine eq_map_of_map_eq_map h.entries fun e he e' he' heq => ?_
    obtain ⟨hname, hmodules⟩ := Prod.mk.inj heq
    obtain ⟨m, hm⟩ := exists_module_of_lt (hg.entry_lt e he)
    rw [Prod.ext_iff]
    exact ⟨hname.symm, h.eq_newNumber hg' hm (hmodules ▸ hm)⟩

/-! ## What is renumbered with the modules -/

variable {σ : Nat → Nat}

theorem Renumbers.lt_size (h : Renumbers σ g g') {i : Nat} (hi : i < g.size) :
    σ i < g'.size := by
  obtain ⟨m, hm⟩ := exists_module_of_lt hi
  have hnew := h.module?_eq i hi
  rw [hm] at hnew
  exact (List.getElem?_eq_some_iff.1 hnew).1

theorem Renumbers.perm_edgesOf (h : Renumbers σ g g') (hg : g.WellFormed) {i : Nat}
    (hi : i < g.size) : (g'.edgesOf (σ i)).Perm ((g.edgesOf i).map (Edge.renumber σ)) := by
  unfold edgesOf
  refine (h.edges.filter _).trans (.of_eq ?_)
  rw [List.filter_map]
  congr 1
  refine List.filter_congr fun e he => ?_
  have hiff : σ e.importer = σ i ↔ e.importer = i :=
    ⟨h.inj _ (hg.importer_lt e he) _ hi, congrArg σ⟩
  simp [Edge.renumber, hiff]

theorem Renumbers.mem_targets_iff (h : Renumbers σ g g') (hg : g.WellFormed) {i : Nat}
    (hi : i < g.size) {j' : Nat} : j' ∈ g'.targets (σ i) ↔ ∃ j ∈ g.targets i, σ j = j' := by
  unfold targets
  rw [((h.perm_edgesOf hg hi).map _).mem_iff]
  simp [Edge.renumber]

/-- What the renumbered module reaches are the renumbered modules that it reached. -/
theorem Renumbers.exists_reaches (h : Renumbers σ g g') (hg : g.WellFormed) {i j' : Nat}
    (hi : i < g.size) (hreaches : g'.Reaches (σ i) j') : ∃ j, g.Reaches i j ∧ σ j = j' := by
  induction hreaches with
  | refl => exact ⟨i, .refl, rfl⟩
  | tail _ hstep ih =>
    obtain ⟨k, hk, rfl⟩ := ih
    obtain ⟨j, hj, rfl⟩ :=
      (h.mem_targets_iff hg (hk.lt_size hg.edgesInRange hi)).1 hstep
    exact ⟨j, hk.tail hj, rfl⟩

theorem Renumbers.reaches (h : Renumbers σ g g') (hg : g.WellFormed) {i j : Nat}
    (hi : i < g.size) (hreaches : g.Reaches i j) : g'.Reaches (σ i) (σ j) := by
  induction hreaches with
  | refl => exact .refl
  | tail hk hj ih =>
    have hk' := Reaches.lt_size hg.edgesInRange hi hk
    exact ih.tail ((h.mem_targets_iff hg hk').2 ⟨_, hj, rfl⟩)

theorem Renumbers.reaches_iff (h : Renumbers σ g g') (hg : g.WellFormed) {i j : Nat}
    (hi : i < g.size) (hj : j < g.size) : g'.Reaches (σ i) (σ j) ↔ g.Reaches i j := by
  constructor
  · intro hreaches
    obtain ⟨k, hk, heq⟩ := h.exists_reaches hg hi hreaches
    rwa [← h.inj k (hk.lt_size hg.edgesInRange hi) j hj heq]
  · exact h.reaches hg hi

/-- The dependencies of a module are renumbered, though edges for references that the module does
    not list may change places. -/
theorem Renumbers.perm_dependencies (h : Renumbers σ g g') (hg : g.WellFormed) {i : Nat}
    (hi : i < g.size) :
    (g'.dependencies (σ i)).Perm ((g.dependencies i).map fun d => (d.1, σ d.2)) := by
  have hedges : ((g'.edgesOf (σ i)).map fun e => (e.reference, e.target)).Perm
      (((g.edgesOf i).map fun e => (e.reference, e.target)).map fun d => (d.1, σ d.2)) := by
    refine ((h.perm_edgesOf hg hi).map _).trans (.of_eq ?_)
    rw [List.map_map, List.map_map]
    rfl
  exact (g'.perm_dependencies (σ i)).trans
    (hedges.trans ((g.perm_dependencies i).symm.map _))

end ModuleGraph

end Bundler
