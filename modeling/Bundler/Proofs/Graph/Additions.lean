import Bundler.Proofs.Graph.Built

set_option autoImplicit false

/-! # Graphs and what was added to them

A graph is told by the additions that made it, whatever their order: a path has a number exactly if
the module of that number has it (`Adds.indexed`), the module at a path is the first that was added
with it (`Adds.bind_module?_index?`), the target of a reference is the first that was added for it
(`Adds.edgesFor_eq`), and every addition of a module returned the number of its path
(`Adds.forall₂_index?`). The dependencies of a module are a stable sort of its edges, newest first:
those that it refers to come in the order of its references, and then all others
(`dependencies_eq_flatMap`). -/

namespace Bundler.ModuleGraph

/-! ## Additions -/

/-- Something that is added to a graph. -/
inductive Addition
  | module (m : Module)
  | dependency (importer target : Nat) (reference : String)
  | entry (name : String) (i : Nat)

namespace Addition

/-- The module that is added, if one is. -/
def module? : Addition → Option Module
  | .module m => some m
  | _ => none

/-- The target that is added for a reference of a module, if one is. -/
def target? (importer : Nat) (reference : String) : Addition → Option Nat
  | .dependency i j r => if i = importer ∧ r = reference then some j else none
  | _ => none

end Addition

/-- The modules that are added, in their order, whether their paths are known or not. -/
def addedModules (additions : List Addition) : List Module := additions.filterMap Addition.module?

/-- The first target that is added for a reference of a module. -/
def firstTarget? (additions : List Addition) (importer : Nat) (reference : String) : Option Nat :=
  additions.findSome? (Addition.target? importer reference)

/-- Additions to the empty graph, the graph that they make, and the numbers that the additions of
    modules return. An addition names only numbers that were returned before it. -/
inductive Adds : List Addition → ModuleGraph → List Nat → Prop
  | empty : Adds [] {} []
  | module {additions : List Addition} {g : ModuleGraph} {returned : List Nat} (m : Module)
      (h : Adds additions g returned) :
      Adds (additions ++ [.module m]) (g.addModule m).1 (returned ++ [(g.addModule m).2])
  | dependency {additions : List Addition} {g : ModuleGraph} {returned : List Nat}
      (importer target : Nat) (reference : String) (h : Adds additions g returned)
      (himporter : importer ∈ returned) (htarget : target ∈ returned) :
      Adds (additions ++ [.dependency importer target reference])
        (g.addDependency importer target reference) returned
  | entry {additions : List Addition} {g : ModuleGraph} {returned : List Nat} (name : String)
      (i : Nat) (h : Adds additions g returned) (hi : i ∈ returned) :
      Adds (additions ++ [.entry name i]) (g.addEntry name i) returned

theorem addedModules_concat (additions : List Addition) (a : Addition) :
    addedModules (additions ++ [a]) = addedModules additions ++ a.module?.toList := by
  unfold addedModules
  rw [List.filterMap_append]
  cases a <;> rfl

theorem firstTarget?_concat (additions : List Addition) (a : Addition) (importer : Nat)
    (reference : String) :
    firstTarget? (additions ++ [a]) importer reference
      = (firstTarget? additions importer reference).or (a.target? importer reference) := by
  unfold firstTarget?
  rw [List.findSome?_append, List.findSome?_singleton]

/-! ## Modules and their numbers -/

variable {g : ModuleGraph}

/-- Known paths keep their numbers. -/
theorem index?_addModule_of_some {p : Path} {i : Nat} (h : g.index? p = some i) (m : Module) :
    (g.addModule m).1.index? p = some i := by
  obtain ⟨j, -, heq⟩ | ⟨hnone, heq⟩ := g.addModule_cases m
  · rw [heq]
    exact h
  · rw [heq, index?_cons, if_neg, h]
    intro hsame
    rw [index?_congr g hsame, h] at hnone
    cases hnone

/-- The number that is returned is that of the path. -/
theorem index?_addModule_self (g : ModuleGraph) (m : Module) :
    (g.addModule m).1.index? m.path = some (g.addModule m).2 := by
  obtain ⟨i, hi, heq⟩ | ⟨-, heq⟩ := g.addModule_cases m
  · rw [heq]
    exact hi
  · rw [heq, index?_cons, if_pos (Path.same_self m.path)]

variable {additions : List Addition} {returned : List Nat}

/-- Every addition of a module returned the number of its path. -/
theorem Adds.forall₂_index? (h : Adds additions g returned) :
    List.Forall₂ (fun m i => g.index? m.path = some i) (addedModules additions) returned := by
  induction h with
  | empty => exact .nil
  | module m h ih =>
    rw [addedModules_concat]
    exact List.rel_append (ih.imp fun m' i hi => index?_addModule_of_some hi m)
      (.cons (index?_addModule_self _ m) .nil)
  | dependency importer target reference h _ _ ih =>
    rw [addedModules_concat, index?_eq_of_indexes_eq (indexes_addDependency _ _ _ _)]
    simpa [Addition.module?] using ih
  | entry name i h _ ih =>
    rw [addedModules_concat, index?_eq_of_indexes_eq (indexes_addEntry _ _ _)]
    simpa [Addition.module?] using ih

/-- Over all additions, the numbers of paths stay in step with the modules. -/
theorem Adds.indexed (h : Adds additions g returned) : g.Indexed := by
  induction h with
  | empty => exact indexed_empty
  | module m _ ih => exact ih.addModule m
  | dependency importer target reference _ _ _ ih =>
    exact ih.of_eq (modules_addDependency _ _ _ _) (indexes_addDependency _ _ _ _)
  | entry name i _ _ ih => exact ih.of_eq rfl rfl

/-- The module at a path is the first that was added with it. -/
theorem Adds.bind_module?_index? (h : Adds additions g returned) (p : Path) :
    (g.index? p).bind g.module? = (addedModules additions).find? (·.path.same p) := by
  induction h with
  | empty => rfl
  | @module additions g returned m h ih =>
    rw [addedModules_concat, List.find?_append, ← ih]
    obtain ⟨i, hi, heq⟩ | ⟨hnone, heq⟩ := g.addModule_cases m
    · rw [heq]
      cases hp : m.path.same p with
      | false => simp [Addition.module?, hp]
      | true =>
        -- the path has its module already
        obtain ⟨m', hm', -⟩ := h.indexed.exists_module hi
        rw [← g.index?_congr hp, hi, Option.bind_some, hm', Option.some_or]
    · rw [heq, index?_cons]
      cases hp : m.path.same p with
      | true =>
        rw [← g.index?_congr hp, hnone]
        simp [Addition.module?, hp, module?, size]
      | false =>
        cases hindex : g.index? p with
        | none => simp [Addition.module?, hp]
        | some i =>
          have hlt := h.indexed.lt_size hindex
          simp [Addition.module?, hp, module?, List.getElem?_append_left hlt]
  | dependency importer target reference h _ _ ih =>
    rw [addedModules_concat, index?_eq_of_indexes_eq (indexes_addDependency _ _ _ _)]
    unfold module? at ih ⊢
    rw [modules_addDependency, ih]
    simp [Addition.module?]
  | entry name i h _ ih =>
    rw [addedModules_concat, index?_eq_of_indexes_eq (indexes_addEntry _ _ _)]
    unfold module? at ih ⊢
    rw [modules_addEntry, ih]
    simp [Addition.module?]

theorem Adds.lt_size (h : Adds additions g returned) {i : Nat} (hi : i ∈ returned) :
    i < g.size := by
  obtain ⟨m, -, hindex⟩ := Result.exists_of_mem_right h.forall₂_index? hi
  exact h.indexed.lt_size hindex

theorem Adds.built (h : Adds additions g returned) : g.Built := by
  induction h with
  | empty => exact .empty
  | module m h ih => exact ih.addModule m
  | dependency importer target reference h himporter htarget ih =>
    exact ih.addDependency importer target reference (h.lt_size himporter) (h.lt_size htarget)
  | entry name i h hi ih => exact ih.addEntry name i (h.lt_size hi)

/-! ## Edges -/

/-- The edges of a module for a reference. -/
def edgesFor (g : ModuleGraph) (importer : Nat) (reference : String) : List Edge :=
  g.edges.filter fun e => e.importer == importer && e.reference == reference

theorem mem_edgesFor_iff {importer : Nat} {reference : String} {e : Edge} :
    e ∈ g.edgesFor importer reference ↔
      e ∈ g.edges ∧ e.importer = importer ∧ e.reference = reference := by
  simp [edgesFor]

/-- A reference of a module has one edge if a target was added for it, and that edge leads to the
    first of them. -/
theorem Adds.edgesFor_eq (h : Adds additions g returned) (importer : Nat) (reference : String) :
    g.edgesFor importer reference
      = ((firstTarget? additions importer reference).map (Edge.mk importer reference)).toList := by
  induction h with
  | empty => rfl
  | module m h ih =>
    rw [firstTarget?_concat, edgesFor, edges_addModule]
    simpa [Addition.target?, edgesFor] using ih
  | @dependency additions g returned i j r h _ _ ih =>
    rw [firstTarget?_concat]
    by_cases hsame : i = importer ∧ r = reference
    · obtain ⟨rfl, rfl⟩ := hsame
      have htarget : (Addition.dependency i j r).target? i r = some j := if_pos ⟨rfl, rfl⟩
      rw [htarget]
      obtain ⟨⟨e, he, hfor⟩, heq⟩ | ⟨hnone, heq⟩ := g.addDependency_cases i j r
      · -- there is an edge, so that a target was added before
        rw [heq, ih]
        have hmem := mem_edgesFor_iff.2 ⟨he, hfor⟩
        rw [ih] at hmem
        cases hfirst : firstTarget? additions i r with
        | none =>
          rw [hfirst] at hmem
          cases hmem
        | some target => rfl
      · have hempty : g.edgesFor i r = [] :=
          List.filter_eq_nil_iff.2 fun e he => by simpa using hnone e he
        rw [hempty] at ih
        have hfirst : firstTarget? additions i r = none := by simpa using ih.symm
        rw [heq, hfirst, edgesFor, List.filter_cons_of_pos (by simp)]
        exact congrArg (_ :: ·) hempty
    · have htarget : (Addition.dependency i j r).target? importer reference = none := if_neg hsame
      rw [htarget, Option.or_none, ← ih]
      obtain ⟨-, heq⟩ | ⟨-, heq⟩ := g.addDependency_cases i j r
      · rw [heq]
      · rw [heq, edgesFor, List.filter_cons_of_neg (by simpa using hsame)]
        rfl
  | entry name i h _ ih =>
    rw [firstTarget?_concat, edgesFor, edges_addEntry]
    simpa [Addition.target?, edgesFor] using ih

/-! ## Dependencies in order -/

/-- A list in which no member that has a property comes after one without it. -/
theorem eq_filter_append_filter {α : Type} {p : α → Bool} {l : List α}
    (h : l.Pairwise fun a b => p b = true → p a = true) : l = l.filter p ++ l.filter (!p ·) := by
  induction l with
  | nil => rfl
  | cons a rest ih =>
    obtain ⟨hfirst, hrest⟩ := List.pairwise_cons.1 h
    cases ha : p a with
    | true =>
      rw [List.filter_cons_of_pos ha, List.filter_cons_of_neg (by simp [ha]), List.cons_append]
      exact congrArg (a :: ·) (ih hrest)
    | false =>
      have hnone : ∀ b ∈ a :: rest, p b = false := by
        intro b hb
        rcases List.mem_cons.1 hb with rfl | hb
        · exact ha
        · exact Bool.eq_false_iff.2 fun hpb => by simp [hfirst b hb hpb] at ha
      rw [List.filter_eq_nil_iff.2 fun b hb => by simp [hnone b hb], List.nil_append,
        List.filter_eq_self.2 fun b hb => by simp [hnone b hb]]

/-- Sorting keeps the order of members that have equal places. -/
theorem filter_mergeSort {α : Type} {place : α → Nat} {p : α → Bool} {l : List α} {k : Nat}
    (hp : ∀ a ∈ l, p a = true → place a = k) :
    (l.mergeSort fun a b => place a ≤ place b).filter p = l.filter p := by
  have hequal : (l.filter p).Pairwise fun a b => decide (place a ≤ place b) = true := by
    refine List.pairwise_of_forall_mem_list fun a ha b hb => decide_eq_true (Nat.le_of_eq ?_)
    obtain ⟨hal, ha⟩ := List.mem_filter.1 ha
    obtain ⟨hbl, hb⟩ := List.mem_filter.1 hb
    rw [hp a hal ha, hp b hbl hb]
  have hsub := (List.sublist_mergeSort place_trans place_total hequal List.filter_sublist).filter p
  rw [List.filter_filter] at hsub
  simp only [Bool.and_self] at hsub
  exact (hsub.eq_of_length ((List.mergeSort_perm _ _).symm.filter p).length_eq).symm

/-- Edges that are sorted by some different references are those of the first reference, those of the
    second and so on, and then all others. -/
theorem eq_flatMap_filter_append {references : List String} (hnodup : references.Nodup)
    {l : List Edge}
    (h : l.Pairwise fun a b => references.idxOf a.reference ≤ references.idxOf b.reference) :
    l = references.flatMap (fun r => l.filter (·.reference == r)) ++
      l.filter (!references.contains ·.reference) := by
  induction references generalizing l with
  | nil => simp
  | cons first rest ih =>
    obtain ⟨hfirst, hrest⟩ := List.nodup_cons.1 hnodup
    have hsplit : l = l.filter (·.reference == first) ++ l.filter (!·.reference == first) := by
      refine eq_filter_append_filter (h.imp fun {a b} hab hb => ?_)
      rw [beq_iff_eq] at hb ⊢
      by_contra hne
      rw [hb, List.idxOf_cons_self, List.idxOf_cons_ne _ (Ne.symm hne)] at hab
      omega
    -- without the first reference the places of all others are one less
    have hothers : (l.filter (!·.reference == first)).Pairwise fun a b =>
        rest.idxOf a.reference ≤ rest.idxOf b.reference := by
      have hne : ∀ e ∈ l.filter (!·.reference == first), first ≠ e.reference := by
        intro e he heq
        simp [heq] at he
      refine (h.filter _).imp_of_mem fun {a b} ha hb hab => ?_
      rw [List.idxOf_cons_ne _ (hne a ha), List.idxOf_cons_ne _ (hne b hb)] at hab
      omega
    conv_lhs => rw [hsplit, ih hrest hothers]
    rw [List.flatMap_cons, List.append_assoc]
    congr 2
    · refine List.flatMap_congr fun r hr => ?_
      rw [List.filter_filter]
      refine List.filter_congr fun e _ => ?_
      have hne : r ≠ first := fun heq => hfirst (heq ▸ hr)
      by_cases he : e.reference = r <;> simp [he, hne]
    · rw [List.filter_filter]
      refine List.filter_congr fun e _ => ?_
      by_cases he : e.reference = first <;> simp [he]

theorem filter_edgesOf (g : ModuleGraph) (i : Nat) (r : String) :
    (g.edgesOf i).filter (·.reference == r) = g.edgesFor i r := by
  unfold edgesOf edgesFor
  rw [List.filter_filter]
  exact List.filter_congr fun e _ => Bool.and_comm _ _

/-- The dependencies of a module are those for its references in their order, and then all others,
    newest first. -/
theorem dependencies_eq_flatMap {i : Nat} {m : Module} (hm : g.module? i = some m) :
    g.dependencies i
      = (m.references.flatMap (g.edgesFor i) ++
          (g.edgesOf i).filter (!m.references.contains ·.reference)).map
            fun e => (e.reference, e.target) := by
  have hsorted : ((g.edgesOf i).mergeSort fun a b =>
      m.references.idxOf a.reference ≤ m.references.idxOf b.reference).Pairwise fun a b =>
        decide (m.references.idxOf a.reference ≤ m.references.idxOf b.reference) = true :=
    List.pairwise_mergeSort place_trans place_total _
  unfold dependencies
  simp only [referencePlace_eq hm]
  rw [eq_flatMap_filter_append m.references_nodup (hsorted.imp of_decide_eq_true)]
  congr 2
  · refine List.flatMap_congr fun r _ => ?_
    rw [← filter_edgesOf]
    exact filter_mergeSort (k := m.references.idxOf r) fun e _ he => by rw [beq_iff_eq.1 he]
  · refine filter_mergeSort (k := m.references.length) fun e _ he => ?_
    exact List.idxOf_eq_length (by simpa using he)

/-! ## What the additions say -/

/-- Graphs that are built are those that additions make. -/
theorem built_iff_exists_adds : g.Built ↔ ∃ additions returned, Adds additions g returned := by
  constructor
  · intro h
    suffices h' : ∃ additions returned, Adds additions g returned ∧ ∀ i < g.size, i ∈ returned by
      obtain ⟨additions, returned, hadds, -⟩ := h'
      exact ⟨additions, returned, hadds⟩
    induction h with
    | empty => exact ⟨[], [], .empty, fun i hi => absurd hi (Nat.not_lt_zero i)⟩
    | @addModule g m h ih =>
      obtain ⟨additions, returned, hadds, hall⟩ := ih
      refine ⟨_, _, hadds.module m, fun i hi => ?_⟩
      obtain ⟨k, hk, heq⟩ | ⟨-, heq⟩ := g.addModule_cases m
      · rw [heq] at hi
        exact List.mem_append_left _ (hall i hi)
      · rw [heq] at hi ⊢
        have hlt : i < g.size + 1 := by simpa [size] using hi
        rcases Nat.lt_succ_iff_lt_or_eq.1 hlt with hi | rfl
        · exact List.mem_append_left _ (hall i hi)
        · exact List.mem_append_right _ List.mem_cons_self
    | addDependency importer target reference h himporter htarget ih =>
      obtain ⟨additions, returned, hadds, hall⟩ := ih
      refine ⟨_, _, hadds.dependency importer target reference (hall _ himporter)
        (hall _ htarget), fun i hi => hall i ?_⟩
      simpa [size] using hi
    | addEntry name k h hk ih =>
      obtain ⟨additions, returned, hadds, hall⟩ := ih
      exact ⟨_, _, hadds.entry name k (hall k hk), hall⟩
  · rintro ⟨additions, returned, h⟩
    exact h.built

/-- After any additions no two modules have the same path, and a path has a number exactly if the
    module of that number has it. Every addition of a module returned the number of its path, where
    the first module that was added with the path stands. A reference of a module has at most one
    edge, which leads to the first target that was added for it. The dependencies of a module are
    its edges, each once: those for its references in their order, and then all others. -/
theorem Adds.represents (h : Adds additions g returned) :
    (∀ i j m m', g.module? i = some m → g.module? j = some m' → m.path.same m'.path = true →
      i = j) ∧
    (∀ p i, g.index? p = some i ↔ ∃ m, g.module? i = some m ∧ m.path.same p = true) ∧
    List.Forall₂ (fun m i => g.index? m.path = some i ∧
      g.module? i = (addedModules additions).find? (·.path.same m.path))
      (addedModules additions) returned ∧
    (∀ importer reference,
      g.edges.filter (fun e => e.importer == importer && e.reference == reference)
        = ((firstTarget? additions importer reference).map
            (Edge.mk importer reference)).toList) ∧
    ∀ i m, g.module? i = some m →
      (g.dependencies i).Perm ((g.edgesOf i).map fun e => (e.reference, e.target)) ∧
      g.dependencies i
        = (m.references.filterMap fun r => (firstTarget? additions i r).map fun j => (r, j)) ++
          ((g.edgesOf i).filter (!m.references.contains ·.reference)).map
            fun e => (e.reference, e.target) := by
  refine ⟨fun i j m m' hi hj hsame => h.indexed.eq_of_same hi hj hsame, h.indexed, ?_,
    h.edgesFor_eq, fun i m hm => ⟨g.perm_dependencies i, ?_⟩⟩
  · refine h.forall₂_index?.imp fun m i hi => ⟨hi, ?_⟩
    rw [← h.bind_module?_index?, hi]
    rfl
  · rw [dependencies_eq_flatMap hm, List.map_append, List.map_flatMap,
      List.filterMap_eq_flatMap_toList]
    congr 1
    refine List.flatMap_congr fun r _ => ?_
    rw [h.edgesFor_eq]
    cases firstTarget? additions i r <;> rfl

/-! ## Additions that repeat -/

theorem nodup_repeated : ["./b", "./c"].Nodup := by decide

/-- Two modules, of which the first is added again with another text of its path and other content.
    The first has three edges besides one for a reference that has a target already. -/
def repeated : List Addition :=
  [.module ⟨⟨"/a.js"⟩, "1", ["./b", "./c"], [], [], nodup_repeated⟩,
    .module ⟨⟨"/b.js"⟩, "", [], [], [], List.nodup_nil⟩,
    .module ⟨⟨"//a.js"⟩, "2", [], [], [], List.nodup_nil⟩,
    .dependency 0 1 "./c", .dependency 0 0 "./c", .dependency 0 1 "./x", .dependency 0 0 "./b"]

/-- The graph of the repeated additions. -/
def repeatedGraph : ModuleGraph where
  modules := [⟨⟨"/a.js"⟩, "1", ["./b", "./c"], [], [], nodup_repeated⟩,
    ⟨⟨"/b.js"⟩, "", [], [], [], List.nodup_nil⟩]
  edges := [⟨0, "./b", 0⟩, ⟨0, "./x", 1⟩, ⟨0, "./c", 1⟩]
  indexes := [(⟨"/b.js"⟩, 1), (⟨"/a.js"⟩, 0)]

theorem adds_repeated : Adds repeated repeatedGraph [0, 1, 0] := by
  have hmodules : Adds (repeated.take 3)
      { modules := repeatedGraph.modules, indexes := repeatedGraph.indexes } [0, 1, 0] :=
    ((Adds.empty.module _).module _).module _
  have hlinked := ((hmodules.dependency 0 1 "./c" (by decide) (by decide)).dependency 0 0 "./c"
    (by decide) (by decide)).dependency 0 1 "./x" (by decide) (by decide)
  exact hlinked.dependency 0 0 "./b" (by decide) (by decide)

theorem represents_repeated :
    Adds repeated repeatedGraph [0, 1, 0] ∧
    (∀ p i, repeatedGraph.index? p = some i ↔
      ∃ m, repeatedGraph.module? i = some m ∧ m.path.same p = true) ∧
    repeatedGraph.edges.filter (fun e => e.importer == 0 && e.reference == "./c")
      = [⟨0, "./c", 1⟩] ∧
    repeatedGraph.dependencies 0 = [("./b", 0), ("./c", 1), ("./x", 1)] := by
  obtain ⟨-, hindex, -, hedges, hdependencies⟩ := adds_repeated.represents
  exact ⟨adds_repeated, hindex, hedges 0 "./c", (hdependencies 0 _ rfl).2⟩

end Bundler.ModuleGraph
