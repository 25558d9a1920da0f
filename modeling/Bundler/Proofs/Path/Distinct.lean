import Bundler.Build.Graph
import Bundler.Proofs.Path.Location
import Bundler.Proofs.Result
import Mathlib.Data.List.Pairwise

set_option autoImplicit false

/-! # Lists of different paths

`distinctPaths` keeps one path of those that are the same, and `freshPaths` moreover leaves out those
that are queued already. What they keep are different paths (`allDistinct_append_freshPaths`), and
nothing is lost up to sameness (`exists_same_of_mem`). -/

namespace Bundler

namespace Path

/-- Whether no two paths of a list are the same. -/
def AllDistinct (paths : List Path) : Prop := paths.Pairwise fun p q => p.same q = false

theorem AllDistinct.eq_of_same {paths : List Path} (h : AllDistinct paths) {p q : Path}
    (hp : p ∈ paths) (hq : q ∈ paths) (hpq : p.same q = true) : p = q := by
  by_contra hne
  have : Std.Symm fun a b : Path => a.same b = false := ⟨fun a b hab => by rwa [same_comm]⟩
  have hfalse := h.forall hp hq hne
  rw [hpq] at hfalse
  cases hfalse

theorem AllDistinct.nodup {paths : List Path} (h : AllDistinct paths) : paths.Nodup := by
  refine h.imp fun hpq heq => ?_
  rw [heq, same_self] at hpq
  cases hpq

theorem AllDistinct.of_forall₂ {paths paths' : List Path} (h : AllDistinct paths)
    (hsame : List.Forall₂ (fun p p' => p'.same p = true) paths paths') : AllDistinct paths' := by
  induction hsame with
  | nil => exact .nil
  | cons hp hrest ih =>
    obtain ⟨hfirst, hdistinct⟩ := List.pairwise_cons.1 h
    refine .cons (fun q' hq' => ?_) (ih hdistinct)
    obtain ⟨q, hq, hsame⟩ := Result.exists_of_mem_right hrest hq'
    rw [same_congr_left hp, same_congr_right hsame]
    exact hfirst q hq

end Path

namespace ModuleGraph

theorem distinctPaths_cons (p : Path) (rest : List Path) :
    distinctPaths (p :: rest) = p :: distinctPaths (rest.filter fun q => !q.same p) := by
  unfold distinctPaths
  rw [List.eraseDupsBy_cons]
  simp

theorem mem_of_mem_distinctPaths {paths : List Path} {p : Path} (h : p ∈ distinctPaths paths) :
    p ∈ paths := by
  match paths with
  | [] => exact h
  | first :: rest =>
    rw [distinctPaths_cons] at h
    rcases List.mem_cons.1 h with rfl | h
    · exact List.mem_cons_self
    · exact List.mem_cons_of_mem _ (List.mem_filter.1 (mem_of_mem_distinctPaths h)).1
termination_by paths.length
decreasing_by exact Nat.lt_succ_of_le (List.length_filter_le _ _)

theorem allDistinct_distinctPaths (paths : List Path) :
    Path.AllDistinct (distinctPaths paths) := by
  match paths with
  | [] => exact .nil
  | first :: rest =>
    rw [distinctPaths_cons]
    refine .cons (fun p hp => ?_) (allDistinct_distinctPaths _)
    have hp := (List.mem_filter.1 (mem_of_mem_distinctPaths hp)).2
    rw [Path.same_comm]
    simpa using hp
termination_by paths.length
decreasing_by exact Nat.lt_succ_of_le (List.length_filter_le _ _)

theorem exists_same_of_mem {paths : List Path} {p : Path} (h : p ∈ paths) :
    ∃ q ∈ distinctPaths paths, q.same p = true := by
  match paths with
  | first :: rest =>
    rw [distinctPaths_cons]
    by_cases hp : p.same first = true
    · exact ⟨first, List.mem_cons_self, by rwa [Path.same_comm]⟩
    · have hne : p ≠ first := fun heq => hp (heq ▸ Path.same_self p)
      have hrest : p ∈ rest.filter fun q => !q.same first :=
        List.mem_filter.2 ⟨(List.mem_cons.1 h).resolve_left hne, by simpa using hp⟩
      obtain ⟨q, hq, hsame⟩ := exists_same_of_mem hrest
      exact ⟨q, List.mem_cons_of_mem _ hq, hsame⟩
termination_by paths.length
decreasing_by exact Nat.lt_succ_of_le (List.length_filter_le _ _)

/-- Paths that are the same as others before are left out at once or later. -/
theorem distinctPaths_append_distinctPaths (paths later : List Path) :
    distinctPaths (distinctPaths paths ++ later) = distinctPaths (paths ++ later) := by
  match paths with
  | [] => rfl
  | first :: rest =>
    have hkept : (distinctPaths (rest.filter fun q => !q.same first)).filter (!·.same first) =
        distinctPaths (rest.filter fun q => !q.same first) :=
      List.filter_eq_self.2 fun q hq => (List.mem_filter.1 (mem_of_mem_distinctPaths hq)).2
    rw [distinctPaths_cons, List.cons_append, List.cons_append, distinctPaths_cons,
      distinctPaths_cons, List.filter_append, List.filter_append, hkept,
      distinctPaths_append_distinctPaths]
termination_by paths.length
decreasing_by exact Nat.lt_succ_of_le (List.length_filter_le _ _)

end ModuleGraph

/-! ## Sets of paths -/

namespace Path

/-- Whether two lists have the same paths, in any order and any number. -/
def SameSet (paths paths' : List Path) : Prop :=
  ∀ p : Path, (∃ q ∈ paths, q.same p = true) ↔ ∃ q ∈ paths', q.same p = true

theorem sameSet_distinctPaths (paths : List Path) :
    SameSet (ModuleGraph.distinctPaths paths) paths := by
  refine fun p => ⟨?_, ?_⟩
  · rintro ⟨q, hq, hqp⟩
    exact ⟨q, ModuleGraph.mem_of_mem_distinctPaths hq, hqp⟩
  · rintro ⟨q, hq, hqp⟩
    obtain ⟨r, hr, hrq⟩ := ModuleGraph.exists_same_of_mem hq
    exact ⟨r, hr, same_trans hrq hqp⟩

theorem SameSet.symm {paths paths' : List Path} (h : SameSet paths paths') :
    SameSet paths' paths := fun p => (h p).symm

theorem SameSet.trans {paths paths' paths'' : List Path} (h : SameSet paths paths')
    (h' : SameSet paths' paths'') : SameSet paths paths'' := fun p => (h p).trans (h' p)

theorem SameSet.flatMap {paths paths' : List Path} (h : SameSet paths paths')
    {f : Path → List Path} (hf : ∀ p q, p.same q = true → SameSet (f p) (f q)) :
    SameSet (paths.flatMap f) (paths'.flatMap f) := by
  have hsub : ∀ {paths paths' : List Path}, SameSet paths paths' → ∀ p,
      (∃ q ∈ paths.flatMap f, q.same p = true) → ∃ q ∈ paths'.flatMap f, q.same p = true := by
    rintro paths paths' h p ⟨q, hq, hqp⟩
    obtain ⟨r, hr, hqr⟩ := List.mem_flatMap.1 hq
    obtain ⟨r', hr', hsame⟩ := (h r).1 ⟨r, hr, same_self r⟩
    obtain ⟨q', hq', hqp'⟩ := (hf r' r hsame p).2 ⟨q, hqr, hqp⟩
    exact ⟨q', List.mem_flatMap.2 ⟨r', hr', hq'⟩, hqp'⟩
  exact fun p => ⟨hsub h p, hsub h.symm p⟩

/-- The number of different paths does not depend on their order. -/
theorem SameSet.length_eq {paths paths' : List Path} (h : SameSet paths paths') :
    (ModuleGraph.distinctPaths paths).length = (ModuleGraph.distinctPaths paths').length := by
  have hnodup : ∀ paths, ((ModuleGraph.distinctPaths paths).map components).Nodup := by
    intro paths
    refine List.pairwise_map.2 ((ModuleGraph.allDistinct_distinctPaths paths).imp fun hpq heq => ?_)
    rw [same_iff.2 heq] at hpq
    cases hpq
  have hsub : ∀ {paths paths' : List Path}, SameSet paths paths' →
      ∀ x ∈ (ModuleGraph.distinctPaths paths).map components,
        x ∈ (ModuleGraph.distinctPaths paths').map components := by
    intro paths paths' h x hx
    obtain ⟨p, hp, rfl⟩ := List.mem_map.1 hx
    obtain ⟨q, hq, hqp⟩ := (((sameSet_distinctPaths paths).trans h).trans
      (sameSet_distinctPaths paths').symm p).1 ⟨p, hp, same_self p⟩
    exact List.mem_map.2 ⟨q, hq, same_iff.1 hqp⟩
  have hperm := (List.perm_ext_iff_of_nodup (hnodup paths) (hnodup paths')).2
    fun x => ⟨hsub h x, hsub h.symm x⟩
  rw [← List.length_map, hperm.length_eq, List.length_map]

end Path

/-! ## Fresh paths -/

theorem mem_of_mem_freshPaths {queued paths : List Path} {p : Path}
    (h : p ∈ freshPaths queued paths) : p ∈ paths ∧ ∀ q ∈ queued, q.same p = false := by
  obtain ⟨hmem, hfresh⟩ := List.mem_filter.1 (ModuleGraph.mem_of_mem_distinctPaths h)
  exact ⟨hmem, by simpa using hfresh⟩

theorem allDistinct_freshPaths (queued paths : List Path) :
    Path.AllDistinct (freshPaths queued paths) :=
  ModuleGraph.allDistinct_distinctPaths _

theorem allDistinct_append_freshPaths {queued : List Path} (h : Path.AllDistinct queued)
    (paths : List Path) : Path.AllDistinct (queued ++ freshPaths queued paths) := by
  refine List.pairwise_append.2 ⟨h, allDistinct_freshPaths queued paths, ?_⟩
  intro p hp q hq
  exact (mem_of_mem_freshPaths hq).2 p hp

/-- A path is queued or fresh, up to sameness. -/
theorem exists_same_queued_or_fresh (queued : List Path) {paths : List Path} {p : Path}
    (h : p ∈ paths) : ∃ q ∈ queued ++ freshPaths queued paths, q.same p = true := by
  by_cases hqueued : ∃ q ∈ queued, q.same p = true
  · obtain ⟨q, hq, hsame⟩ := hqueued
    exact ⟨q, List.mem_append_left _ hq, hsame⟩
  · have hfresh : p ∈ paths.filter fun p => !queued.any (·.same p) := by
      refine List.mem_filter.2 ⟨h, ?_⟩
      simpa using hqueued
    obtain ⟨q, hq, hsame⟩ := ModuleGraph.exists_same_of_mem hfresh
    exact ⟨q, List.mem_append_right _ hq, hsame⟩

end Bundler
