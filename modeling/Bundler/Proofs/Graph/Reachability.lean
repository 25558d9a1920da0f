import Bundler.ModuleGraph
import Mathlib.Data.List.Perm.Subperm
import Mathlib.Logic.Relation

set_option autoImplicit false

/-! # Reachability in a graph

`closeUnder` takes rounds: each adds what the newest members lead to. A round that adds something
adds a number that was not there, so that as many rounds as there are numbers are enough, and what
comes out is exactly what the first members lead to (`mem_closeUnder_iff`). `reachable` therefore
holds exactly the modules at the end of a way of edges (`mem_reachable_iff`), each once. -/

namespace Bundler.ModuleGraph

variable {next : Nat → List Nat} {bound : Nat}

/-! ## Closing -/

/-- What the newest members add in one round. -/
theorem nodup_append_round {members fresh : List Nat} (h : (members ++ fresh).Nodup) :
    ((members ++ fresh) ++ (fresh.flatMap next).eraseDups.filter
      fun i => !(members ++ fresh).contains i).Nodup := by
  refine List.nodup_append.2 ⟨h, (nodup_eraseDups _).filter _, ?_⟩
  rintro i hi j hj rfl
  have hnew := (List.mem_filter.1 hj).2
  rw [List.contains_iff_mem.2 hi] at hnew
  cases hnew

theorem nodup_closeUnder {n : Nat} {members fresh : List Nat} (h : (members ++ fresh).Nodup) :
    (closeUnder next n members fresh).Nodup := by
  induction n generalizing members fresh with
  | zero => exact h
  | succ n ih =>
    unfold closeUnder
    split
    · exact (List.nodup_append.1 h).1
    · exact ih (nodup_append_round h)

theorem mem_closeUnder_of_mem {n : Nat} {members fresh : List Nat} {i : Nat}
    (h : i ∈ members ++ fresh) : i ∈ closeUnder next n members fresh := by
  induction n generalizing members fresh with
  | zero => exact h
  | succ n ih =>
    unfold closeUnder
    split
    · next hempty =>
      rw [List.isEmpty_iff.1 hempty, List.append_nil] at h
      exact h
    · exact ih (List.mem_append_left _ h)

/-- Only what the first members lead to comes in. -/
theorem exists_of_mem_closeUnder {n : Nat} {members fresh : List Nat} {j : Nat}
    (h : j ∈ closeUnder next n members fresh) :
    ∃ i ∈ members ++ fresh, Relation.ReflTransGen (fun a b => b ∈ next a) i j := by
  induction n generalizing members fresh with
  | zero => exact ⟨j, h, .refl⟩
  | succ n ih =>
    unfold closeUnder at h
    split at h
    · exact ⟨j, List.mem_append_left _ h, .refl⟩
    · obtain ⟨i, hi, hij⟩ := ih h
      rcases List.mem_append.1 hi with hi | hi
      · exact ⟨i, hi, hij⟩
      · obtain ⟨k, hk, hki⟩ := List.mem_flatMap.1 (List.mem_eraseDups.1 (List.mem_filter.1 hi).1)
        exact ⟨k, List.mem_append_right _ hk, .head hki hij⟩

theorem length_le_of_lt {l : List Nat} (hnodup : l.Nodup) (hlt : ∀ i ∈ l, i < bound) :
    l.length ≤ bound := by
  have hsubset : l ⊆ List.range bound := fun i hi => List.mem_range.2 (hlt i hi)
  have hlength := (List.subperm_of_subset hnodup hsubset).length_le
  rwa [List.length_range] at hlength

/-- With a round for each number, everything that a member leads to comes in. -/
theorem closed_closeUnder {n : Nat} {members fresh : List Nat}
    (hnext : ∀ i < bound, ∀ j ∈ next i, j < bound) (hnodup : (members ++ fresh).Nodup)
    (hlt : ∀ i ∈ members ++ fresh, i < bound)
    (hclosed : ∀ i ∈ members, ∀ j ∈ next i, j ∈ members ++ fresh)
    (hrounds : bound ≤ n + members.length) :
    ∀ i ∈ closeUnder next n members fresh, ∀ j ∈ next i, j ∈ closeUnder next n members fresh := by
  induction n generalizing members fresh with
  | zero =>
    -- the members are all numbers, so that there are no fresh ones
    have hlength := length_le_of_lt hnodup hlt
    rw [List.length_append] at hlength
    have hfresh : fresh = [] := List.length_eq_zero_iff.1 (by omega)
    rw [hfresh, List.append_nil] at hclosed
    show ∀ i ∈ members ++ fresh, ∀ j ∈ next i, j ∈ members ++ fresh
    rw [hfresh, List.append_nil]
    exact hclosed
  | succ n ih =>
    unfold closeUnder
    split
    · next hempty =>
      rw [List.isEmpty_iff.1 hempty, List.append_nil] at hclosed
      exact hclosed
    · next hsome =>
      have hpos : 0 < fresh.length :=
        List.length_pos_iff.2 fun h => hsome (List.isEmpty_iff.2 h)
      refine ih (nodup_append_round hnodup) ?_ ?_ (by rw [List.length_append]; omega)
      · intro i hi
        rcases List.mem_append.1 hi with hi | hi
        · exact hlt i hi
        · obtain ⟨k, hk, hki⟩ := List.mem_flatMap.1 (List.mem_eraseDups.1 (List.mem_filter.1 hi).1)
          exact hnext k (hlt k (List.mem_append_right _ hk)) i hki
      · intro i hi j hj
        by_cases hknown : j ∈ members ++ fresh
        · exact List.mem_append_left _ hknown
        · rcases List.mem_append.1 hi with hi | hi
          · exact absurd (hclosed i hi j hj) hknown
          · refine List.mem_append_right _ (List.mem_filter.2 ⟨?_, ?_⟩)
            · exact List.mem_eraseDups.2 (List.mem_flatMap.2 ⟨i, hi, hj⟩)
            · simpa using hknown

/-- With a round for each number, what comes in is what the first members lead to. -/
theorem mem_closeUnder_iff (hnext : ∀ i < bound, ∀ j ∈ next i, j < bound) {first : List Nat}
    (hnodup : first.Nodup) (hlt : ∀ i ∈ first, i < bound) {j : Nat} :
    j ∈ closeUnder next bound [] first ↔
      ∃ i ∈ first, Relation.ReflTransGen (fun a b => b ∈ next a) i j := by
  refine ⟨exists_of_mem_closeUnder, ?_⟩
  rintro ⟨i, hi, hij⟩
  have hclosed : ∀ k ∈ closeUnder next bound [] first, ∀ j ∈ next k,
      j ∈ closeUnder next bound [] first :=
    closed_closeUnder hnext hnodup hlt (fun k hk => by cases hk) (Nat.le_add_right _ _)
  induction hij with
  | refl => exact mem_closeUnder_of_mem hi
  | tail _ hstep ih => exact hclosed _ ih _ hstep

/-! ## Reachable modules -/

theorem exists_module_of_lt {g : ModuleGraph} {i : Nat} (h : i < g.size) :
    ∃ m, g.module? i = some m :=
  ⟨g.modules[i], List.getElem?_eq_getElem h⟩

/-- The dependencies of a module are its edges, in another order. -/
theorem perm_dependencies (g : ModuleGraph) (i : Nat) :
    (g.dependencies i).Perm ((g.edgesOf i).map fun e => (e.reference, e.target)) :=
  (List.mergeSort_perm _ _).map _

theorem mem_targets_iff {g : ModuleGraph} {i j : Nat} :
    j ∈ g.targets i ↔ ∃ d ∈ g.dependencies i, d.2 = j := by
  unfold targets
  simp [(g.perm_dependencies i).mem_iff]

/-- Whether a module is at the end of a way of edges from another. -/
def Reaches (g : ModuleGraph) : Nat → Nat → Prop :=
  Relation.ReflTransGen fun i j => j ∈ g.targets i

/-- Whether the edges of all modules lead to modules. -/
def EdgesInRange (g : ModuleGraph) : Prop := ∀ i < g.size, ∀ j ∈ g.targets i, j < g.size

theorem nodup_reachable (g : ModuleGraph) (i : Nat) : (g.reachable i).Nodup :=
  nodup_closeUnder (List.pairwise_singleton _ i)

/-- The reachable modules are those at the end of a way of edges. -/
theorem mem_reachable_iff {g : ModuleGraph} (hg : g.EdgesInRange) {i j : Nat} (hi : i < g.size) :
    j ∈ g.reachable i ↔ g.Reaches i j := by
  unfold reachable
  rw [mem_closeUnder_iff hg (List.pairwise_singleton _ i) (by simpa using hi)]
  simp only [List.mem_singleton, exists_eq_left]
  rfl

theorem Reaches.lt_size {g : ModuleGraph} (hg : g.EdgesInRange) {i j : Nat} (hi : i < g.size)
    (h : g.Reaches i j) : j < g.size := by
  induction h with
  | refl => exact hi
  | tail _ hjk ih => exact hg _ ih _ hjk

end Bundler.ModuleGraph
