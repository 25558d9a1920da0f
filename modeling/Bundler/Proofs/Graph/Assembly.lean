import Bundler.Proofs.Path.Distinct
import Mathlib.Data.List.Nodup

set_option autoImplicit false

/-! # Assembling a graph

The numbers of paths are kept beside the modules, and every addition keeps them in step with the
modules (`Indexed.addModule`): a path has a number exactly if the module of that number has it.

`ModuleGraph.ofLoaded` joins the modules that were loaded with the paths that their references stand
for. If the modules have different paths, they are numbered as they come (`modules_ofLoaded`); if
moreover each path that is asked for has its module, then no edge is lost, and the dependencies of a
module are its references in their order (`forall₂_dependencies_ofLoaded`). -/

namespace Bundler.ModuleGraph

open Bundler.Path (AllDistinct)

/-! ## Additions -/

@[simp] theorem modules_addDependency (g : ModuleGraph) (importer target : Nat)
    (reference : String) : (g.addDependency importer target reference).modules = g.modules := by
  unfold addDependency
  split <;> rfl

@[simp] theorem modules_addEntry (g : ModuleGraph) (name : String) (i : Nat) :
    (g.addEntry name i).modules = g.modules := rfl

@[simp] theorem edges_addModule (g : ModuleGraph) (m : Module) :
    (g.addModule m).1.edges = g.edges := by
  unfold addModule
  split <;> rfl

@[simp] theorem entries_addModule (g : ModuleGraph) (m : Module) :
    (g.addModule m).1.entries = g.entries := by
  unfold addModule
  split <;> rfl

@[simp] theorem indexes_addDependency (g : ModuleGraph) (importer target : Nat)
    (reference : String) : (g.addDependency importer target reference).indexes = g.indexes := by
  unfold addDependency
  split <;> rfl

@[simp] theorem indexes_addEntry (g : ModuleGraph) (name : String) (i : Nat) :
    (g.addEntry name i).indexes = g.indexes := rfl

@[simp] theorem edges_addEntry (g : ModuleGraph) (name : String) (i : Nat) :
    (g.addEntry name i).edges = g.edges := rfl

theorem index?_eq_of_indexes_eq {g g' : ModuleGraph} (h : g'.indexes = g.indexes) :
    g'.index? = g.index? := by
  unfold index?
  rw [h]

theorem index?_congr (g : ModuleGraph) {p q : Path} (h : p.same q = true) :
    g.index? p = g.index? q := by
  unfold index?
  simp only [Path.same_congr_right h]

/-- A module whose path is known changes nothing and gets the number of the path; any other gets
    the next number, which is kept for its path. -/
theorem addModule_cases (g : ModuleGraph) (m : Module) :
    (∃ i, g.index? m.path = some i ∧ g.addModule m = (g, i)) ∨
      g.index? m.path = none ∧ g.addModule m =
        ({ g with modules := g.modules ++ [m], indexes := (m.path, g.size) :: g.indexes },
          g.size) := by
  unfold addModule
  cases hindex : g.index? m.path with
  | some i => exact .inl ⟨i, rfl, rfl⟩
  | none => exact .inr ⟨rfl, rfl⟩

/-- A reference that has a target keeps it; any other gets an edge, which is the newest. -/
theorem addDependency_cases (g : ModuleGraph) (importer target : Nat) (reference : String) :
    ((∃ e ∈ g.edges, e.importer = importer ∧ e.reference = reference) ∧
      g.addDependency importer target reference = g) ∨
    ((∀ e ∈ g.edges, ¬ (e.importer = importer ∧ e.reference = reference)) ∧
      g.addDependency importer target reference
        = { g with edges := ⟨importer, reference, target⟩ :: g.edges }) := by
  unfold addDependency
  split
  · next hany => exact .inl ⟨by simpa using hany, rfl⟩
  · next hany => exact .inr ⟨by simpa using hany, rfl⟩

/-! ## Numbers of paths -/

/-- Whether the numbers of paths are those of the modules at them. -/
def Indexed (g : ModuleGraph) : Prop :=
  ∀ p i, g.index? p = some i ↔ ∃ m, g.module? i = some m ∧ m.path.same p = true

namespace Indexed

variable {g : ModuleGraph} {p : Path} {i : Nat}

theorem exists_module (h : g.Indexed) (hi : g.index? p = some i) :
    ∃ m, g.module? i = some m ∧ m.path.same p = true :=
  (h p i).1 hi

theorem lt_size (h : g.Indexed) (hi : g.index? p = some i) : i < g.size := by
  obtain ⟨m, hm, -⟩ := h.exists_module hi
  exact (List.getElem?_eq_some_iff.1 hm).1

/-- Every module is found at its path. -/
theorem index?_of_module? (h : g.Indexed) {m : Module} (hm : g.module? i = some m)
    (hp : m.path.same p = true) : g.index? p = some i :=
  (h p i).2 ⟨m, hm, hp⟩

theorem exists_index?_of_mem (h : g.Indexed) {m : Module} (hm : m ∈ g.modules)
    (hp : m.path.same p = true) : ∃ i, g.index? p = some i := by
  obtain ⟨i, hi⟩ := List.getElem?_of_mem hm
  exact ⟨i, h.index?_of_module? hi hp⟩

/-- A path has no number if no module has it. -/
theorem index?_eq_none_iff (h : g.Indexed) :
    g.index? p = none ↔ ∀ m ∈ g.modules, m.path.same p = false := by
  constructor
  · intro hnone m hm
    refine Bool.eq_false_iff.2 fun hsame => ?_
    obtain ⟨i, hi⟩ := h.exists_index?_of_mem hm hsame
    rw [hnone] at hi
    cases hi
  · intro hnew
    cases hindex : g.index? p with
    | none => rfl
    | some i =>
      obtain ⟨m, hm, hsame⟩ := h.exists_module hindex
      rw [hnew m (List.mem_of_getElem? hm)] at hsame
      cases hsame

/-- A path has one module. -/
theorem eq_of_same (h : g.Indexed) {j : Nat} {m m' : Module} (hm : g.module? i = some m)
    (hm' : g.module? j = some m') (hsame : m.path.same m'.path = true) : i = j := by
  have hi := h.index?_of_module? hm hsame
  rw [h.index?_of_module? hm' (Path.same_self _)] at hi
  exact (Option.some_inj.1 hi).symm

theorem of_eq (h : g.Indexed) {g' : ModuleGraph} (hmodules : g'.modules = g.modules)
    (hindexes : g'.indexes = g.indexes) : g'.Indexed := by
  unfold Indexed module?
  rw [index?_eq_of_indexes_eq hindexes, hmodules]
  exact h

end Indexed

/-- The number of a path after a module has been added whose path is new. -/
theorem index?_cons (g : ModuleGraph) (m : Module) (p : Path) :
    index? { g with modules := g.modules ++ [m], indexes := (m.path, g.size) :: g.indexes } p
      = if m.path.same p then some g.size else g.index? p := by
  unfold index?
  rw [List.find?_cons]
  cases m.path.same p <;> rfl

theorem indexed_empty : ({} : ModuleGraph).Indexed := by
  intro p i
  simp [index?, module?]

/-- A new path gets the number of its module, and no other path gets another one. -/
theorem Indexed.addModule {g : ModuleGraph} (h : g.Indexed) (m : Module) :
    (g.addModule m).1.Indexed := by
  obtain ⟨i, -, heq⟩ | ⟨hnone, heq⟩ := g.addModule_cases m
  · rw [heq]
    exact h
  · rw [heq]
    intro p i
    rw [index?_cons]
    have hnew := h.index?_eq_none_iff.1 hnone
    unfold module? size
    dsimp only
    constructor
    · intro hi
      split at hi
      · next hsame =>
        obtain rfl := Option.some_inj.1 hi
        exact ⟨m, by simp, hsame⟩
      · obtain ⟨m', hm', hsame⟩ := h.exists_module hi
        exact ⟨m', (List.getElem?_append_left (h.lt_size hi)).trans hm', hsame⟩
    · rintro ⟨m', hm', hsame⟩
      rcases Nat.lt_or_ge i g.modules.length with hlt | hge
      · -- the path is that of a module from before, so that it is not the new one
        rw [List.getElem?_append_left hlt] at hm'
        have hother := hnew m' (List.mem_of_getElem? hm')
        rw [Path.same_congr_left hsame, Path.same_comm] at hother
        rw [hother]
        exact h.index?_of_module? hm' hsame
      · rw [List.getElem?_append_right hge] at hm'
        obtain ⟨hzero, rfl⟩ := List.getElem?_eq_some_iff.1 hm'
        have hlast : i = g.modules.length := by
          rw [List.length_singleton] at hzero
          omega
        rw [List.getElem_singleton] at hsame
        rw [if_pos hsame, hlast]

/-- A name and the number of the path that it stands for, if there is a module at it. -/
def numbered? (g : ModuleGraph) (d : String × Path) : Option (String × Nat) :=
  (g.index? d.2).map fun i => (d.1, i)

/-- Nothing is lost if all paths have their modules. -/
theorem forall₂_numbered? {g : ModuleGraph} {l : List (String × Path)}
    (h : ∀ d ∈ l, ∃ i, g.index? d.2 = some i) :
    List.Forall₂ (fun d n => n.1 = d.1 ∧ g.index? d.2 = some n.2) l (l.filterMap g.numbered?) := by
  induction l with
  | nil => exact .nil
  | cons d rest ih =>
    obtain ⟨i, hi⟩ := h d List.mem_cons_self
    have hd : g.numbered? d = some (d.1, i) := by
      unfold numbered?
      rw [hi]
      rfl
    rw [List.filterMap_cons_some hd]
    exact .cons ⟨rfl, hi⟩ (ih fun d' hd' => h d' (List.mem_cons_of_mem _ hd'))

/-! ## Modules -/

theorem addModule_of_distinct {g : ModuleGraph} (hg : g.Indexed) {m : Module}
    (h : ∀ m' ∈ g.modules, m'.path.same m.path = false) :
    (g.addModule m).1
      = { g with modules := g.modules ++ [m], indexes := (m.path, g.size) :: g.indexes } := by
  have hnone := hg.index?_eq_none_iff.2 h
  obtain ⟨i, hi, -⟩ | ⟨-, heq⟩ := g.addModule_cases m
  · rw [hnone] at hi
    cases hi
  · rw [heq]

/-- The graph of some loaded modules, before their dependencies are added. -/
def ofModules (loaded : List Loaded) : ModuleGraph :=
  loaded.foldl (fun (g : ModuleGraph) l => (g.addModule l.module).1) {}

theorem indexed_ofModules (loaded : List Loaded) : (ofModules loaded).Indexed :=
  List.foldlRecOn loaded _ indexed_empty fun _ hg l _ => hg.addModule l.module

theorem edges_ofModules (loaded : List Loaded) : (ofModules loaded).edges = [] :=
  List.foldlRecOn (motive := fun g : ModuleGraph => g.edges = []) loaded _ rfl
    fun g hg l _ => (g.edges_addModule l.module).trans hg

theorem entries_ofModules (loaded : List Loaded) : (ofModules loaded).entries = [] :=
  List.foldlRecOn (motive := fun g : ModuleGraph => g.entries = []) loaded _ rfl
    fun g hg l _ => (g.entries_addModule l.module).trans hg

theorem modules_foldl_addModule {g : ModuleGraph} (hg : g.Indexed) {loaded : List Loaded}
    (h : AllDistinct (g.modules.map (·.path) ++ loaded.map (·.module.path))) :
    (loaded.foldl (fun (g : ModuleGraph) l => (g.addModule l.module).1) g).modules
      = g.modules ++ loaded.map (·.module) := by
  induction loaded generalizing g with
  | nil => simp
  | cons l rest ih =>
    have hnew : ∀ m ∈ g.modules, m.path.same l.module.path = false := by
      intro m hm
      exact (List.pairwise_append.1 h).2.2 m.path (List.mem_map_of_mem hm) l.module.path
        (List.mem_map_of_mem List.mem_cons_self)
    have hadded := addModule_of_distinct hg hnew
    rw [List.foldl_cons, ih (hg.addModule l.module)]
    · simp [hadded]
    · simpa [hadded] using h

/-- Modules with different paths are numbered as they come. -/
theorem modules_ofModules {loaded : List Loaded} (h : AllDistinct (loaded.map (·.module.path))) :
    (ofModules loaded).modules = loaded.map (·.module) :=
  modules_foldl_addModule indexed_empty (by simpa using h)

/-! ## Edges -/

/-- The edge of a module for a reference and the path that it stands for. -/
def edge? (g : ModuleGraph) (importer : Nat) (d : String × Path) : Option Edge :=
  (g.numbered? d).map fun n => ⟨importer, n.1, n.2⟩

/-- Whether a graph differs from another at most in its edges. -/
structure SameNodes (g g' : ModuleGraph) : Prop where
  modules : g.modules = g'.modules
  indexes : g.indexes = g'.indexes
  entries : g.entries = g'.entries

theorem SameNodes.refl (g : ModuleGraph) : g.SameNodes g := ⟨rfl, rfl, rfl⟩

theorem SameNodes.trans {g g' g'' : ModuleGraph} (h : g.SameNodes g') (h' : g'.SameNodes g'') :
    g.SameNodes g'' :=
  ⟨h.modules.trans h'.modules, h.indexes.trans h'.indexes, h.entries.trans h'.entries⟩

theorem SameNodes.index?_eq {g g' : ModuleGraph} (h : g.SameNodes g') (p : Path) :
    g.index? p = g'.index? p :=
  congrFun (index?_eq_of_indexes_eq h.indexes) p

theorem SameNodes.indexed {g g' : ModuleGraph} (h : g.SameNodes g') (hg : g'.Indexed) :
    g.Indexed :=
  hg.of_eq h.modules h.indexes

theorem sameNodes_addDependencyAt (importer : Nat) (g : ModuleGraph) (d : String × Path) :
    (g.addDependencyAt importer d).SameNodes g := by
  unfold addDependencyAt addDependency
  split
  · split <;> exact ⟨rfl, rfl, rfl⟩
  · exact .refl g

theorem addDependencyAt_eq {g : ModuleGraph} {importer : Nat} {d : String × Path}
    (hnew : ∀ e ∈ g.edges, ¬ (e.importer = importer ∧ e.reference = d.1)) :
    g.addDependencyAt importer d
      = { g with edges := (g.edge? importer d).toList ++ g.edges } := by
  unfold addDependencyAt edge? numbered?
  cases g.index? d.2 with
  | none => rfl
  | some target =>
    show addDependency g importer target d.1 = _
    obtain ⟨⟨e, he, hsame⟩, -⟩ | ⟨-, heq⟩ := g.addDependency_cases importer target d.1
    · exact absurd hsame (hnew e he)
    · rw [heq]
      rfl

/-- The dependencies of a module are added one after another, each to a graph without an edge for
    its reference. -/
theorem foldl_addDependencyAt {g : ModuleGraph} {importer : Nat}
    {dependencies : List (String × Path)} (hnodup : (dependencies.map (·.1)).Nodup)
    (hnew : ∀ d ∈ dependencies, ∀ e ∈ g.edges, ¬ (e.importer = importer ∧ e.reference = d.1)) :
    dependencies.foldl (addDependencyAt importer) g
      = { g with edges := (dependencies.filterMap (g.edge? importer)).reverse ++ g.edges } := by
  induction dependencies generalizing g with
  | nil => rfl
  | cons d rest ih =>
    obtain ⟨hd, hrest⟩ := List.nodup_cons.1 hnodup
    rw [List.foldl_cons, addDependencyAt_eq (hnew d List.mem_cons_self), ih hrest]
    · show ModuleGraph.mk _ ((rest.filterMap (g.edge? importer)).reverse ++ _) _ _ = _
      rw [List.filterMap_cons]
      cases g.edge? importer d with
      | none => rfl
      | some e => simp
    · intro d' hd' e he
      rcases List.mem_append.1 he with he | he
      · obtain ⟨n, hn, rfl⟩ := Option.map_eq_some_iff.1 (Option.mem_toList.1 he)
        obtain ⟨target, -, rfl⟩ := Option.map_eq_some_iff.1 hn
        rintro ⟨-, heq⟩
        exact hd (List.mem_map.2 ⟨d', hd', heq.symm⟩)
      · exact hnew d' (List.mem_cons_of_mem _ hd') e he

theorem sameNodes_addDependencies (g : ModuleGraph) (l : Loaded) :
    (g.addDependencies l).SameNodes g := by
  unfold addDependencies
  split
  · exact .refl g
  · next importer _ =>
    generalize l.dependencies = dependencies
    clear * -
    induction dependencies generalizing g with
    | nil => exact .refl g
    | cons d rest ih => exact (ih _).trans (sameNodes_addDependencyAt importer g d)

theorem sameNodes_foldl_addDependencies (g : ModuleGraph) (loaded : List Loaded) :
    (loaded.foldl addDependencies g).SameNodes g := by
  induction loaded generalizing g with
  | nil => exact .refl g
  | cons l rest ih => exact (ih _).trans (sameNodes_addDependencies g l)

/-- The edges of a module after its dependencies have been added. -/
theorem edgesOf_addDependencies {g : ModuleGraph} {l : Loaded} {i : Nat}
    (hi : g.index? l.module.path = some i) (hnodup : (l.dependencies.map (·.1)).Nodup)
    (hnone : g.edgesOf i = []) :
    (g.addDependencies l).edgesOf i = (l.dependencies.filterMap (g.edge? i)).reverse := by
  have hnew : ∀ d ∈ l.dependencies, ∀ e ∈ g.edges, ¬ (e.importer = i ∧ e.reference = d.1) := by
    rintro d - e he ⟨himporter, -⟩
    have : e ∈ g.edgesOf i := List.mem_filter.2 ⟨he, by simpa using himporter⟩
    rw [hnone] at this
    cases this
  unfold addDependencies
  rw [hi]
  show edgesOf (l.dependencies.foldl _ g) i = _
  rw [foldl_addDependencyAt hnodup hnew]
  show List.filter _ (_ ++ g.edges) = _
  rw [List.filter_append, show g.edges.filter _ = [] from hnone, List.append_nil,
    List.filter_eq_self]
  intro e he
  obtain ⟨d, -, hd⟩ := List.mem_filterMap.1 (List.mem_reverse.1 he)
  obtain ⟨target, -, rfl⟩ := Option.map_eq_some_iff.1 hd
  simp

/-- The edges of the other modules stay. -/
theorem edgesOf_addDependencies_of_ne {g : ModuleGraph} {l : Loaded} {j : Nat}
    (hj : g.index? l.module.path ≠ some j) : (g.addDependencies l).edgesOf j = g.edgesOf j := by
  unfold addDependencies
  split
  · rfl
  · next importer himporter =>
    have hne : importer ≠ j := fun heq => hj (heq ▸ himporter)
    generalize l.dependencies = dependencies
    clear * - hne
    induction dependencies generalizing g with
    | nil => rfl
    | cons d rest ih =>
      rw [List.foldl_cons, ih]
      unfold addDependencyAt addDependency
      split
      · split
        · rfl
        · show List.filter _ (_ :: _) = _
          rw [List.filter_cons_of_neg (by simpa using hne)]
          rfl
      · rfl

theorem edgesOf_foldl_of_ne {g : ModuleGraph} {loaded : List Loaded} {j : Nat}
    (hj : ∀ l ∈ loaded, g.index? l.module.path ≠ some j) :
    (loaded.foldl addDependencies g).edgesOf j = g.edgesOf j := by
  induction loaded generalizing g with
  | nil => rfl
  | cons l rest ih =>
    rw [List.foldl_cons, ih, edgesOf_addDependencies_of_ne (hj l List.mem_cons_self)]
    intro l' hl'
    rw [(sameNodes_addDependencies g l).index?_eq]
    exact hj l' (List.mem_cons_of_mem _ hl')

/-- The edges of a module after the dependencies of all modules have been added, its own among
    them. -/
theorem edgesOf_foldl_addDependencies {g : ModuleGraph} (hg : g.Indexed) {loaded : List Loaded}
    {l : Loaded} {i : Nat} (hloaded : AllDistinct (loaded.map (·.module.path))) (hl : l ∈ loaded)
    (hi : g.index? l.module.path = some i) (hnodup : (l.dependencies.map (·.1)).Nodup)
    (hnone : g.edgesOf i = []) :
    (loaded.foldl addDependencies g).edgesOf i
      = (l.dependencies.filterMap (g.edge? i)).reverse := by
  -- only the module itself changes its edges, not those loaded before and after it
  obtain ⟨before, after, rfl⟩ := List.append_of_mem hl
  have hother : ∀ l' : Loaded, l'.module.path.same l.module.path = false →
      g.index? l'.module.path ≠ some i := by
    intro l' hne hi'
    obtain ⟨m, hm, hsame⟩ := hg.exists_module hi
    obtain ⟨m', hm', hsame'⟩ := hg.exists_module hi'
    obtain rfl : m = m' := Option.some_inj.1 (hm.symm.trans hm')
    rw [← Path.same_congr_left hsame', hsame] at hne
    cases hne
  rw [List.map_append, List.map_cons] at hloaded
  obtain ⟨-, hafter, hbefore⟩ := List.pairwise_append.1 hloaded
  have hbefore' := sameNodes_foldl_addDependencies g before
  rw [List.foldl_append, List.foldl_cons, edgesOf_foldl_of_ne,
    edgesOf_addDependencies (by rwa [hbefore'.index?_eq]) hnodup]
  · congr 2
    funext d
    unfold edge? numbered?
    rw [hbefore'.index?_eq]
  · rw [edgesOf_foldl_of_ne, hnone]
    intro l' hl'
    exact hother l' (hbefore _ (List.mem_map_of_mem hl') _ List.mem_cons_self)
  · intro l' hl'
    rw [((sameNodes_addDependencies _ l).trans hbefore').index?_eq]
    apply hother
    rw [Path.same_comm]
    exact (List.pairwise_cons.1 hafter).1 _ (List.mem_map_of_mem hl')

/-! ## Dependencies in order -/

/-- Different references of a module have their places in order. -/
theorem pairwise_idxOf_of_nodup {l : List String} (h : l.Nodup) :
    l.Pairwise fun a b => l.idxOf a ≤ l.idxOf b := by
  rw [List.pairwise_iff_getElem]
  intro i j hi hj hij
  rw [h.idxOf_getElem, h.idxOf_getElem]
  exact Nat.le_of_lt hij

/-- Places are ordered as numbers are. -/
theorem place_trans {α : Type} {place : α → Nat} (a b c : α) (hab : decide (place a ≤ place b) = true)
    (hbc : decide (place b ≤ place c) = true) : decide (place a ≤ place c) = true :=
  decide_eq_true (Nat.le_trans (of_decide_eq_true hab) (of_decide_eq_true hbc))

theorem place_total {α : Type} {place : α → Nat} (a b : α) :
    (decide (place a ≤ place b) || decide (place b ≤ place a)) = true := by
  simpa using Nat.le_total _ _

theorem referencePlace_eq {g : ModuleGraph} {i : Nat} {m : Module} (hm : g.module? i = some m)
    (reference : String) : g.referencePlace i reference = m.references.idxOf reference := by
  unfold referencePlace
  rw [hm]

/-- The dependencies of a module follow its references, in whatever order its edges are kept. -/
theorem dependencies_eq {g : ModuleGraph} {i : Nat} {m : Module} {d : List (String × Path)}
    (hm : g.module? i = some m) (hd : d.map (·.1) = m.references)
    (hedges : (g.edgesOf i).Perm (d.filterMap (g.edge? i))) :
    g.dependencies i = d.filterMap g.numbered? := by
  have hnodup : (d.map (·.1)).Nodup := hd ▸ m.references_nodup
  have hplace := referencePlace_eq hm
  have hreference : ∀ a e, g.edge? i a = some e → e.reference = a.1 := by
    intro a e he
    obtain ⟨n, hn, rfl⟩ := Option.map_eq_some_iff.1 he
    obtain ⟨target, -, rfl⟩ := Option.map_eq_some_iff.1 hn
    rfl
  have hsorted : (d.filterMap (g.edge? i)).Pairwise fun a b =>
      decide (g.referencePlace i a.reference ≤ g.referencePlace i b.reference) = true := by
    refine List.pairwise_filterMap.2 ?_
    refine (List.pairwise_map.1 (pairwise_idxOf_of_nodup hnodup)).imp fun hle e he e' he' => ?_
    rw [hreference _ e he, hreference _ e' he', hplace, hplace, ← hd]
    exact decide_eq_true hle
  -- sorting the edges gives the one order in which they are sorted
  have hmem := (List.mergeSort_perm (g.edgesOf i) fun a b =>
    decide (g.referencePlace i a.reference ≤ g.referencePlace i b.reference)).trans hedges
  unfold dependencies
  rw [List.Perm.eq_of_pairwise ?_ (List.pairwise_mergeSort place_trans place_total _) hsorted hmem,
    List.map_filterMap]
  · apply List.filterMap_congr
    intro a _
    unfold edge?
    cases g.numbered? a <;> rfl
  · -- edges with one place have one reference, and there is one edge for each
    intro e e' he he' hle hle'
    obtain ⟨a, ha, hedge⟩ := List.mem_filterMap.1 (hmem.mem_iff.1 he)
    obtain ⟨a', ha', hedge'⟩ := List.mem_filterMap.1 he'
    have hle := of_decide_eq_true hle
    have hle' := of_decide_eq_true hle'
    rw [hreference _ e hedge, hreference _ e' hedge', hplace, hplace, ← hd] at hle hle'
    have heq : a.1 = a'.1 :=
      (List.idxOf_inj (List.mem_map_of_mem ha)).1 (Nat.le_antisymm hle hle')
    rw [List.inj_on_of_nodup_map hnodup ha ha' heq, hedge'] at hedge
    exact (Option.some_inj.1 hedge).symm

/-! ## Entries -/

theorem addEntryAt_eq (g : ModuleGraph) (entry : String × Path) :
    g.addEntryAt entry = { g with entries := g.entries ++ (g.numbered? entry).toList } := by
  unfold addEntryAt numbered?
  cases g.index? entry.2 with
  | none => simp
  | some i => rfl

theorem foldl_addEntryAt (g : ModuleGraph) (entries : List (String × Path)) :
    entries.foldl addEntryAt g
      = { g with entries := g.entries ++ entries.filterMap g.numbered? } := by
  induction entries generalizing g with
  | nil => simp
  | cons entry rest ih =>
    rw [List.foldl_cons, addEntryAt_eq, ih, List.filterMap_cons]
    show ModuleGraph.mk _ _ _ ((_ ++ _) ++ rest.filterMap g.numbered?) = _
    rw [List.append_assoc]
    cases g.numbered? entry <;> rfl

/-! ## The assembled graph -/

variable {loaded : List Loaded}

theorem sameNodes_linked (loaded : List Loaded) :
    (loaded.foldl addDependencies (ofModules loaded)).SameNodes (ofModules loaded) :=
  sameNodes_foldl_addDependencies _ loaded

theorem ofLoaded_eq (loaded : List Loaded) (entries : List (String × Path)) :
    ofLoaded loaded entries
      = { loaded.foldl addDependencies (ofModules loaded) with
          entries := entries.filterMap (ofModules loaded).numbered? } := by
  have hlinked := sameNodes_linked loaded
  have hnumbered : (loaded.foldl addDependencies (ofModules loaded)).numbered?
      = (ofModules loaded).numbered? := by
    funext entry
    unfold numbered?
    rw [hlinked.index?_eq]
  show entries.foldl addEntryAt (loaded.foldl addDependencies (ofModules loaded)) = _
  rw [foldl_addEntryAt, hlinked.entries, entries_ofModules, List.nil_append, hnumbered]

theorem numbered?_ofLoaded (loaded : List Loaded) (entries : List (String × Path)) :
    (ofLoaded loaded entries).numbered? = (ofModules loaded).numbered? := by
  funext entry
  rw [ofLoaded_eq]
  unfold numbered?
  rw [← (sameNodes_linked loaded).index?_eq]
  rfl

theorem indexed_ofLoaded (loaded : List Loaded) (entries : List (String × Path)) :
    (ofLoaded loaded entries).Indexed := by
  rw [ofLoaded_eq]
  exact ((sameNodes_linked loaded).indexed (indexed_ofModules loaded)).of_eq rfl rfl

/-- The modules are those that were loaded, in their order. -/
theorem modules_ofLoaded (h : AllDistinct (loaded.map (·.module.path)))
    (entries : List (String × Path)) :
    (ofLoaded loaded entries).modules = loaded.map (·.module) := by
  rw [ofLoaded_eq]
  exact (sameNodes_linked loaded).modules.trans (modules_ofModules h)

/-- Whatever their paths, no module is there that was not loaded. -/
theorem exists_of_mem_ofLoaded {entries : List (String × Path)} {m : Module}
    (h : m ∈ (ofLoaded loaded entries).modules) : ∃ l ∈ loaded, l.module = m := by
  have hmodules : ∀ m ∈ (ofModules loaded).modules, ∃ l ∈ loaded, l.module = m := by
    refine List.foldlRecOn
      (motive := fun g : ModuleGraph => ∀ m ∈ g.modules, ∃ l ∈ loaded, l.module = m)
      loaded _ (fun m h => absurd h List.not_mem_nil) fun g hg l hl m hm => ?_
    obtain ⟨i, -, heq⟩ | ⟨-, heq⟩ := g.addModule_cases l.module
    · rw [heq] at hm
      exact hg m hm
    · rw [heq] at hm
      rcases List.mem_append.1 hm with hm | hm
      · exact hg m hm
      · exact ⟨l, hl, (List.mem_singleton.1 hm).symm⟩
  rw [ofLoaded_eq] at h
  exact hmodules m ((sameNodes_linked loaded).modules ▸ h)

/-- The entries are those whose path has a module, in their order. -/
theorem entries_ofLoaded (loaded : List Loaded) (entries : List (String × Path)) :
    (ofLoaded loaded entries).entries = entries.filterMap (ofLoaded loaded entries).numbered? := by
  rw [numbered?_ofLoaded, ofLoaded_eq]

/-- The dependencies of a module are those that it was loaded with and whose path has a module, in
    their order. -/
theorem dependencies_ofLoaded (h : AllDistinct (loaded.map (·.module.path)))
    (hreferences : ∀ l ∈ loaded, l.dependencies.map (·.1) = l.module.references)
    (entries : List (String × Path)) {i : Nat} {l : Loaded} (hl : loaded[i]? = some l) :
    (ofLoaded loaded entries).dependencies i
      = l.dependencies.filterMap (ofLoaded loaded entries).numbered? := by
  have hmem := List.mem_of_getElem? hl
  have hloaded : (loaded.map (·.module))[i]? = some l.module := by
    rw [List.getElem?_map, hl]
    rfl
  have hmodule : (ofLoaded loaded entries).module? i = some l.module := by
    unfold module?
    rwa [modules_ofLoaded h]
  have hnodup : (l.dependencies.map (·.1)).Nodup :=
    hreferences l hmem ▸ l.module.references_nodup
  refine dependencies_eq hmodule (hreferences l hmem) ?_
  have hi : (ofModules loaded).index? l.module.path = some i := by
    refine (indexed_ofModules loaded).index?_of_module? (m := l.module) ?_ (Path.same_self _)
    unfold module?
    rwa [modules_ofModules h]
  have hnone : (ofModules loaded).edgesOf i = [] := by
    unfold edgesOf
    rw [edges_ofModules]
    rfl
  have hedges := edgesOf_foldl_addDependencies (indexed_ofModules loaded) h hmem hi hnodup hnone
  have hedge? : (ofLoaded loaded entries).edge? i = (ofModules loaded).edge? i := by
    unfold edge?
    rw [numbered?_ofLoaded]
  rw [hedge?, ofLoaded_eq]
  -- edges are kept last first
  exact .trans (.of_eq hedges) (List.reverse_perm _)

end Bundler.ModuleGraph
