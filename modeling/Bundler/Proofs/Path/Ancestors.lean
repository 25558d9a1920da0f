import Bundler.Proofs.Path.Parent
import Bundler.Proofs.Path.Relative
import Mathlib.Data.List.Infix

set_option autoImplicit false

/-! # The directories above a path

The components of an absolute path and of the directories above it are all the prefixes of the
components of the path, from the longest one to that of the root (`map_components_ancestors`). So
every absolute path that a path starts with is above it in some spelling (`exists_same_ancestor`),
and each of them lies deeper than those that come after it (`pairwise_ancestors`). -/

namespace Bundler.Path

variable {p q : Path} {reversed : List (List Char)}

/-- Whether a path lies in another one and is not the same. -/
def IsDeeper (p q : Path) : Prop := p.startsWith q = true ∧ p.same q = false

theorem startsWith_trans {r : Path} (hpq : p.startsWith q = true) (hqr : q.startsWith r = true) :
    p.startsWith r = true :=
  List.isPrefixOf_iff_prefix.2
    ((List.isPrefixOf_iff_prefix.1 hqr).trans (List.isPrefixOf_iff_prefix.1 hpq))

theorem same_of_startsWith (hpq : p.startsWith q = true) (hqp : q.startsWith p = true) :
    p.same q = true := by
  have hstarts := List.isPrefixOf_iff_prefix.1 hqp
  exact same_iff.2 (hstarts.eq_of_length_le (List.isPrefixOf_iff_prefix.1 hpq).length_le)

theorem startsWith_of_same (h : p.same q = true) : p.startsWith q = true := by
  unfold startsWith
  rw [same_iff.1 h, List.isPrefixOf_iff_prefix]

/-! ## Components above reversed segments -/

theorem countsLast_iff {segment : List Char} {before : List (List Char)} :
    countsLast false segment before = true ↔ innerComponent segment ≠ none := by
  unfold countsLast innerComponent
  by_cases hempty : segment = []
  · simp [hempty]
  · by_cases hdot : segment = ['.']
    · simp [hdot]
    · simp only [hempty, hdot, or_self, if_false]
      split <;> simp [hempty, hdot]

theorem filterMap_dropUncounted (reversed : List (List Char)) :
    (dropUncounted false reversed).filterMap innerComponent
      = reversed.filterMap innerComponent := by
  induction reversed with
  | nil => rfl
  | cons segment before ih =>
    unfold dropUncounted
    split
    · rfl
    · next hcounts =>
      rw [ih, List.filterMap_cons_none (not_not.1 fun h => hcounts (countsLast_iff.2 h))]

theorem reverse_components_ofReversed (h : IsTrimmed false reversed) :
    (ofReversed false reversed).components.reverse
      = reversed.filterMap innerComponent ++ [.root] := by
  rw [components_of_isAbsolute (isAbsolute_ofReversed h), List.reverse_cons]
  by_cases hne : reversed = []
  · rw [hne]
    decide
  · rw [segments_ofReversed h hne, List.filterMap_reverse, List.reverse_reverse]

/-- The directories above some segments have the components of fewer and fewer of them. -/
theorem map_components_above (h : ∀ segment ∈ reversed, '/' ∉ segment) :
    (above false reversed).map (·.components.reverse)
      = ((reversed.filterMap innerComponent).tails.map (· ++ [.root])).tail := by
  induction reversed with
  | nil => rfl
  | cons segment before ih =>
    have hbefore : ∀ segment ∈ before, '/' ∉ segment :=
      fun s hs => h s (List.mem_cons_of_mem _ hs)
    unfold above
    split
    · next hcounts =>
      obtain ⟨c, hc⟩ := Option.ne_none_iff_exists'.1 (countsLast_iff.1 hcounts)
      have htrimmed : IsTrimmed false (dropUncounted false before) :=
        isTrimmed_dropUncounted hbefore (fun h => absurd h Bool.false_ne_true)
      rw [List.map_cons, ih hbefore, reverse_components_ofReversed htrimmed,
        filterMap_dropUncounted, List.filterMap_cons_some hc, List.tails_cons, List.map_cons,
        List.tail_cons]
      cases before.filterMap innerComponent <;> simp
    · next hcounts =>
      rw [ih hbefore, List.filterMap_cons_none (not_not.1 fun h => hcounts (countsLast_iff.2 h))]

/-! ## Ancestors -/

/-- The components of a path and of the directories above it, read backwards. -/
theorem map_components_ancestors (hp : p.isAbsolute = true) :
    p.ancestors.map (·.components.reverse)
      = (p.segments.filterMap innerComponent).reverse.tails.map (· ++ [.root]) := by
  have hslash : ∀ segment ∈ p.segments.reverse, '/' ∉ segment :=
    fun s hs => slash_not_mem_of_mem_segments (List.mem_reverse.1 hs)
  unfold ancestors
  rw [hp, Bool.not_true, List.map_cons, map_components_above hslash, List.filterMap_reverse,
    components_of_isAbsolute hp, List.reverse_cons]
  cases (p.segments.filterMap innerComponent).reverse <;> simp

theorem exists_of_mem_ancestors (hp : p.isAbsolute = true) {d : Path} (hd : d ∈ p.ancestors) :
    ∃ inner, inner <:+ (p.segments.filterMap innerComponent).reverse ∧
      d.components = .root :: inner.reverse := by
  have hmem := List.mem_map_of_mem (f := fun d : Path => d.components.reverse) hd
  rw [map_components_ancestors hp] at hmem
  obtain ⟨inner, hinner, heq⟩ := List.mem_map.1 hmem
  refine ⟨inner, (List.mem_tails _ _).1 hinner, ?_⟩
  rw [← List.reverse_reverse d.components, ← heq]
  simp

theorem startsWith_of_mem_ancestors (hp : p.isAbsolute = true) {d : Path} (hd : d ∈ p.ancestors) :
    d.isAbsolute = true ∧ p.startsWith d = true := by
  obtain ⟨inner, hinner, hcomponents⟩ := exists_of_mem_ancestors hp hd
  constructor
  · rw [isAbsolute_iff_head?, hcomponents]
    rfl
  · unfold startsWith
    rw [hcomponents, components_of_isAbsolute hp, List.isPrefixOf_iff_prefix, List.cons_prefix_cons]
    refine ⟨rfl, ?_⟩
    rwa [← List.reverse_suffix, List.reverse_reverse]

/-- What a path starts with is above it, in some spelling. -/
theorem exists_same_ancestor (hp : p.isAbsolute = true) (hq : q.isAbsolute = true)
    (h : p.startsWith q = true) : ∃ d ∈ p.ancestors, d.same q = true := by
  unfold startsWith at h
  rw [components_of_isAbsolute hp, components_of_isAbsolute hq, List.isPrefixOf_iff_prefix,
    List.cons_prefix_cons] at h
  have hmem : (q.segments.filterMap innerComponent).reverse ++ [.root]
      ∈ p.ancestors.map (·.components.reverse) := by
    rw [map_components_ancestors hp]
    exact List.mem_map_of_mem ((List.mem_tails _ _).2 (List.reverse_suffix.2 h.2))
  obtain ⟨d, hd, heq⟩ := List.mem_map.1 hmem
  refine ⟨d, hd, same_iff.2 ?_⟩
  rw [← List.reverse_reverse d.components, heq, components_of_isAbsolute hq]
  simp

theorem pairwise_tails {α : Type} (l : List α) :
    l.tails.Pairwise fun s t => t <:+ s ∧ s ≠ t := by
  induction l with
  | nil => simp
  | cons a rest ih =>
    rw [List.tails_cons, List.pairwise_cons]
    refine ⟨fun t ht => ?_, ih⟩
    have hsuffix := (List.mem_tails _ _).1 ht
    refine ⟨hsuffix.trans (List.suffix_cons a rest), ?_⟩
    rintro rfl
    have hlength := hsuffix.length_le
    rw [List.length_cons] at hlength
    omega

/-- Every directory lies deeper than those that come after it. -/
theorem pairwise_ancestors (hp : p.isAbsolute = true) : p.ancestors.Pairwise IsDeeper := by
  have hpairwise : (p.ancestors.map (·.components.reverse)).Pairwise
      fun s t => t <:+ s ∧ s ≠ t := by
    rw [map_components_ancestors hp, List.pairwise_map]
    refine (pairwise_tails _).imp fun ⟨hsuffix, hne⟩ => ⟨?_, fun heq => hne ?_⟩
    · obtain ⟨more, hmore⟩ := hsuffix
      exact ⟨more, by rw [← hmore, List.append_assoc]⟩
    · exact List.append_cancel_right heq
  refine (List.pairwise_map.1 hpairwise).imp fun ⟨hsuffix, hne⟩ => ⟨?_, ?_⟩
  · exact List.isPrefixOf_iff_prefix.2 (List.reverse_suffix.1 hsuffix)
  · rw [Bool.eq_false_iff]
    intro hsame
    exact hne (congrArg List.reverse (same_iff.1 hsame))

end Bundler.Path
