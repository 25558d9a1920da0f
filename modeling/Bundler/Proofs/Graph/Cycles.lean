import Bundler.Proofs.Graph.Affected
import Mathlib.Data.List.Flatten

set_option autoImplicit false

/-! # Circular dependencies

The strongly connected components of a graph divide its modules, and two modules are in one of them
exactly if each reaches the other (`IsComponents`). However they are found and in whatever order,
keeping those of more than one module and those whose module refers to itself leaves the circular
dependencies (`Built.cycles_exact`): a module of a larger component leads back to itself through
another one, and the only module of a component has no way back but an edge to itself. -/

namespace Bundler.ModuleGraph

variable {g : ModuleGraph}

/-- Whether a module is at the end of a way of one edge or more from another. -/
def DependsOn (g : ModuleGraph) : Nat → Nat → Prop :=
  Relation.TransGen fun i j => j ∈ g.targets i

/-- Whether some groups are the strongly connected components of a graph, in any order. -/
structure IsComponents (g : ModuleGraph) (components : List (List Nat)) : Prop where
  /-- Every module is in one component, and once. -/
  perm : components.flatten.Perm (List.range g.size)
  not_nil : [] ∉ components
  /-- A component is all that one of its modules reaches and that reaches it. -/
  mem_iff : ∀ c ∈ components, ∀ i ∈ c, ∀ j, j ∈ c ↔ g.Reaches i j ∧ g.Reaches j i

/-! ## Components -/

theorem WellFormed.mem_component_iff (h : g.WellFormed) {i j : Nat} (hi : i < g.size) :
    j ∈ g.component i ↔ g.Reaches i j ∧ g.Reaches j i := by
  unfold component
  simp only [List.mem_filter, List.mem_range, Bool.and_eq_true, List.contains_iff_mem,
    mem_reachable_iff h.edgesInRange hi, h.mem_dependents_iff hi]
  exact and_iff_right_of_imp fun hj => hj.1.lt_size h.edgesInRange hi

/-- Modules that reach each other have the same component, in the same order. -/
theorem WellFormed.component_eq (h : g.WellFormed) {i j : Nat} (hi : i < g.size)
    (hij : g.Reaches i j) (hji : g.Reaches j i) : g.component i = g.component j := by
  have hj := hij.lt_size h.edgesInRange hi
  unfold component
  refine List.filter_congr fun k _ => ?_
  rw [Bool.eq_iff_iff]
  simp only [Bool.and_eq_true, List.contains_iff_mem, mem_reachable_iff h.edgesInRange hi,
    mem_reachable_iff h.edgesInRange hj, h.mem_dependents_iff hi, h.mem_dependents_iff hj]
  exact ⟨fun hk => ⟨hji.trans hk.1, hk.2.trans hij⟩, fun hk => ⟨hij.trans hk.1, hk.2.trans hji⟩⟩

theorem mem_components_iff {c : List Nat} :
    c ∈ g.components ↔ ∃ i < g.size, g.component i = c := by
  unfold components
  rw [List.mem_eraseDups]
  simp only [List.mem_map, List.mem_range]

/-- The component of a module is the one that it is in. -/
theorem WellFormed.eq_component_of_mem (h : g.WellFormed) {c : List Nat} (hc : c ∈ g.components)
    {i : Nat} (hi : i ∈ c) : c = g.component i := by
  obtain ⟨k, hk, rfl⟩ := mem_components_iff.1 hc
  obtain ⟨hki, hik⟩ := (h.mem_component_iff hk).1 hi
  exact h.component_eq hk hki hik

theorem WellFormed.nodup_flatten_components (h : g.WellFormed) : g.components.flatten.Nodup := by
  refine List.nodup_flatten.2 ⟨fun c hc => ?_, ?_⟩
  · obtain ⟨i, -, rfl⟩ := mem_components_iff.1 hc
    exact List.nodup_range.filter _
  · refine (nodup_eraseDups _).imp_of_mem fun {c c'} hc hc' hne => ?_
    intro i hi hi'
    exact hne ((h.eq_component_of_mem hc hi).trans (h.eq_component_of_mem hc' hi').symm)

theorem WellFormed.isComponents_components (h : g.WellFormed) : g.IsComponents g.components where
  perm := by
    refine (List.perm_ext_iff_of_nodup h.nodup_flatten_components List.nodup_range).2 fun i => ?_
    rw [List.mem_flatten, List.mem_range]
    constructor
    · rintro ⟨c, hc, hi⟩
      obtain ⟨k, -, rfl⟩ := mem_components_iff.1 hc
      exact List.mem_range.1 (List.mem_filter.1 hi).1
    · intro hi
      exact ⟨_, mem_components_iff.2 ⟨i, hi, rfl⟩, (h.mem_component_iff hi).2 ⟨.refl, .refl⟩⟩
  not_nil := by
    intro hnil
    obtain ⟨i, hi, heq⟩ := mem_components_iff.1 hnil
    have hself := (h.mem_component_iff hi).2 ⟨.refl, .refl⟩
    rw [heq] at hself
    cases hself
  mem_iff := by
    intro c hc i hi j
    obtain ⟨k, hk, rfl⟩ := mem_components_iff.1 hc
    have hlt : i < g.size := List.mem_range.1 (List.mem_filter.1 hi).1
    rw [h.eq_component_of_mem hc hi]
    exact h.mem_component_iff hlt

/-! ## Circular components -/

theorem containsEdge_iff {i j : Nat} : g.containsEdge i j = true ↔ j ∈ g.targets i := by
  unfold containsEdge targets edgesOf
  simp only [List.any_eq_true, List.mem_map, List.mem_filter, Bool.and_eq_true, beq_iff_eq]
  constructor
  · rintro ⟨e, he, himporter, htarget⟩
    exact ⟨e, ⟨he, himporter⟩, htarget⟩
  · rintro ⟨e, ⟨he, himporter⟩, htarget⟩
    exact ⟨e, he, himporter, htarget⟩

/-- A component is kept if it holds two different modules, or one that refers to itself. -/
theorem mem_cyclesAmong_iff {components : List (List Nat)} {c : List Nat} :
    c ∈ g.cyclesAmong components ↔ c ∈ components ∧
      ((∃ i j rest, c = i :: j :: rest) ∨ ∃ i rest, c = i :: rest ∧ i ∈ g.targets i) := by
  unfold cyclesAmong
  rw [List.mem_filter, Bool.or_eq_true, decide_eq_true_iff]
  refine and_congr_right fun _ => ?_
  rcases c with _ | ⟨i, _ | ⟨j, rest⟩⟩
  · simp
  · simp [containsEdge_iff]
  · simp

theorem WellFormed.lt_size_of_dependsOn (h : g.WellFormed) {i : Nat} (hi : g.DependsOn i i) :
    i < g.size := by
  obtain ⟨j, hj, -⟩ := Relation.TransGen.head'_iff.1 hi
  exact h.importers_lt (mem_importers_iff.2 hj)

namespace IsComponents

variable {components : List (List Nat)} (hc : g.IsComponents components)

include hc

theorem nodup_flatten : components.flatten.Nodup := hc.perm.nodup_iff.2 List.nodup_range

theorem exists_mem {i : Nat} (hi : i < g.size) : ∃ c ∈ components, i ∈ c :=
  List.mem_flatten.1 (hc.perm.mem_iff.2 (List.mem_range.2 hi))

/-- Two different modules of a component depend on themselves, each through the other. -/
theorem dependsOn_of_two {c : List Nat} (h : c ∈ components) {i j : Nat} (hi : i ∈ c)
    (hj : j ∈ c) (hne : i ≠ j) : g.DependsOn i i := by
  obtain ⟨hij, hji⟩ := (hc.mem_iff c h i hi j).1 hj
  obtain rfl | hij := Relation.reflTransGen_iff_eq_or_transGen.1 hij
  · exact absurd rfl hne
  · exact hij.trans_left hji

/-- All modules of a component that is kept depend on themselves. -/
theorem dependsOn_of_mem_cycles {c : List Nat} (h : c ∈ g.cyclesAmong components) {i : Nat}
    (hi : i ∈ c) : g.DependsOn i i := by
  obtain ⟨hmem, ⟨first, second, rest, rfl⟩ | ⟨first, rest, rfl, hself⟩⟩ := mem_cyclesAmong_iff.1 h
  · have hnodup : (first :: second :: rest).Nodup := (List.nodup_flatten.1 hc.nodup_flatten).1 _ hmem
    have hne : first ≠ second := fun heq => (List.nodup_cons.1 hnodup).1 (by simp [heq])
    by_cases heq : i = first
    · exact heq ▸ hc.dependsOn_of_two hmem (by simp) (List.mem_cons_of_mem _ List.mem_cons_self) hne
    · exact hc.dependsOn_of_two hmem hi List.mem_cons_self heq
  · by_cases heq : i = first
    · exact heq ▸ .single hself
    · exact hc.dependsOn_of_two hmem hi List.mem_cons_self heq

/-- The component of a module that depends on itself is kept. -/
theorem mem_cycles_of_dependsOn {c : List Nat} (h : c ∈ components) {i : Nat} (hi : i ∈ c)
    (hcyclic : g.DependsOn i i) : c ∈ g.cyclesAmong components := by
  refine mem_cyclesAmong_iff.2 ⟨h, ?_⟩
  -- the first module on the way back is in the component too
  obtain ⟨j, hj, hback⟩ := Relation.TransGen.head'_iff.1 hcyclic
  have hmem : j ∈ c := (hc.mem_iff c h i hi j).2 ⟨.single hj, hback⟩
  rcases c with _ | ⟨first, _ | ⟨second, rest⟩⟩
  · cases hi
  · obtain rfl := List.mem_singleton.1 hi
    obtain rfl := List.mem_singleton.1 hmem
    exact .inr ⟨j, [], rfl, hj⟩
  · exact .inl ⟨first, second, rest, rfl⟩

end IsComponents

/-- Let some groups be the strongly connected components of a graph, such as `components`. The
    modules in those that are kept are the ones that depend on themselves, directly or not. Each is
    in one group and once, and two modules are in one group exactly if each reaches the other. No
    group is empty, and a module that is alone in its group refers to itself. -/
theorem Built.cycles_exact (h : g.Built) :
    g.IsComponents g.components ∧ ∀ components, g.IsComponents components →
      let cycles := g.cyclesAmong components
      [] ∉ cycles ∧ (∀ i, [i] ∈ cycles → i ∈ g.targets i) ∧
      (∀ i, (∃ group ∈ cycles, i ∈ group) ↔ g.DependsOn i i) ∧
      cycles.flatten.Nodup ∧
      ∀ i j, i ≠ j →
        ((∃ group ∈ cycles, i ∈ group ∧ j ∈ group) ↔ g.Reaches i j ∧ g.Reaches j i) := by
  have hg := h.wellFormed
  refine ⟨hg.isComponents_components, fun components hc => ?_⟩
  intro cycles
  have hsub : cycles.Sublist components := List.filter_sublist
  refine ⟨fun hnil => hc.not_nil (hsub.subset hnil), fun i hi => ?_, fun i => ?_,
    hc.nodup_flatten.sublist hsub.flatten, fun i j hne => ?_⟩
  · obtain ⟨-, ⟨first, second, rest, heq⟩ | ⟨first, rest, heq, hself⟩⟩ := mem_cyclesAmong_iff.1 hi
    · simp at heq
    · obtain ⟨rfl, -⟩ := List.cons_eq_cons.1 heq
      exact hself
  · constructor
    · rintro ⟨group, hgroup, hi⟩
      exact hc.dependsOn_of_mem_cycles hgroup hi
    · intro hi
      obtain ⟨c, hmem, hic⟩ := hc.exists_mem (hg.lt_size_of_dependsOn hi)
      exact ⟨c, hc.mem_cycles_of_dependsOn hmem hic hi, hic⟩
  · constructor
    · rintro ⟨group, hgroup, hi, hj⟩
      exact (hc.mem_iff group (hsub.subset hgroup) i hi j).1 hj
    · rintro ⟨hij, hji⟩
      -- the way from one to the other and back has an edge, since they are different
      have hcyclic : g.DependsOn i i := by
        obtain rfl | hij' := Relation.reflTransGen_iff_eq_or_transGen.1 hij
        · exact absurd rfl hne
        · exact hij'.trans_left hji
      obtain ⟨c, hmem, hic⟩ := hc.exists_mem (hg.lt_size_of_dependsOn hcyclic)
      exact ⟨c, hc.mem_cycles_of_dependsOn hmem hic hcyclic, hic,
        (hc.mem_iff c hmem i hic j).2 ⟨hij, hji⟩⟩

/-- In the ring, the two modules that refer to each other are the only group, whichever comes
    first among the components. -/
theorem cycles_exact_ring :
    ring.Built ∧ ring.cycles = [[0, 1]] ∧
    ring.IsComponents ring.components ∧ ∀ components, ring.IsComponents components →
      let cycles := ring.cyclesAmong components
      [] ∉ cycles ∧ (∀ i, [i] ∈ cycles → i ∈ ring.targets i) ∧
      (∀ i, (∃ group ∈ cycles, i ∈ group) ↔ ring.DependsOn i i) ∧
      cycles.flatten.Nodup ∧
      ∀ i j, i ≠ j →
        ((∃ group ∈ cycles, i ∈ group ∧ j ∈ group) ↔ ring.Reaches i j ∧ ring.Reaches j i) :=
  ⟨built_ring, by decide, built_ring.cycles_exact⟩

end Bundler.ModuleGraph
