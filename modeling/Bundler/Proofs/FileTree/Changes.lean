import Bundler.FileTree.Walk
import Mathlib.Data.List.Induction

set_option autoImplicit false

/-! # What changes do to a file tree

A tree is seen through what stands at each location. Something that is put shows at its location
only (`node?_put`), what is removed is gone with everything below it (`node?_remove`), and what is
moved shows at its new place with everything below it (`node?_move`).

A tree is part of another if all that stands in it stands in the other as well (`IsPart`). A tree
stays part of a tree that changes only where nothing of it stands. -/

namespace Bundler

namespace FileTree

variable {t t' : FileTree} {l k : Location} {n : Node}

/-! ## Looking a location up -/

@[simp] theorem node?_nil (t : FileTree) : t.node? [] = some .directory := rfl

theorem isDirectory_iff : t.isDirectory l = true ↔ t.node? l = some .directory := by
  unfold isDirectory
  exact beq_iff_eq

/-- What stands at a location besides the root is listed there. -/
theorem mem_nodes_of_node? (hl : l ≠ []) (h : t.node? l = some n) : (l, n) ∈ t.nodes := by
  unfold node? at h
  rw [if_neg hl] at h
  obtain ⟨before, after, heq, -⟩ := List.lookup_eq_some_iff.1 h
  rw [heq]
  simp

theorem lookup_filter (keep : Location → Bool) (nodes : List (Location × Node)) (k : Location) :
    (nodes.filter fun e => keep e.1).lookup k = if keep k then nodes.lookup k else none := by
  induction nodes with
  | nil => simp
  | cons e rest ih =>
    obtain ⟨l, n⟩ := e
    rw [List.filter_cons, List.lookup_cons]
    by_cases hk : k = l
    · subst hk
      by_cases hkeep : keep k
      · simp [hkeep]
      · simp [hkeep, ih]
    · rw [beq_false_of_ne hk]
      by_cases hkeep : keep l
      · rw [if_pos hkeep, List.lookup_cons, beq_false_of_ne hk, ih]
      · rw [if_neg hkeep, ih]

/-! ## Changes -/

theorem node?_put (hl : l ≠ []) (n : Node) (k : Location) :
    (t.put l n).node? k = if k = l then some n else t.node? k := by
  unfold node? put
  rw [List.lookup_cons]
  by_cases hk : k = l
  · rw [if_pos hk, hk, if_neg hl, beq_self_eq_true]
  · rw [if_neg hk, beq_false_of_ne hk, lookup_filter fun k => k != l]
    simp [hk]

theorem node?_remove (hl : l ≠ []) (k : Location) :
    (t.remove l).node? k = if l <+: k then none else t.node? k := by
  unfold node? remove Location.isBelow
  by_cases hk : k = []
  · subst hk
    simp [hl]
  · rw [if_neg hk, if_neg hk, lookup_filter fun k => !l.isPrefixOf k]
    by_cases hbelow : l <+: k
    · rw [if_pos hbelow, List.isPrefixOf_iff_prefix.2 hbelow]
      rfl
    · rw [if_neg hbelow, Bool.eq_false_iff.2 (mt List.isPrefixOf_iff_prefix.1 hbelow)]
      rfl

theorem lookup_moved (source target k : Location) (nodes : List (Location × Node)) :
    ((nodes.filter fun e => e.1.isBelow source).map
        fun e => (target ++ e.1.drop source.length, e.2)).lookup k =
      if target <+: k then nodes.lookup (source ++ k.drop target.length) else none := by
  induction nodes with
  | nil => simp
  | cons e rest ih =>
    obtain ⟨l, n⟩ := e
    by_cases hl : source <+: l
    · obtain ⟨below, rfl⟩ := hl
      rw [List.filter_cons_of_pos (by simp [Location.isBelow]), List.map_cons, List.lookup_cons, ih,
        List.lookup_cons, List.drop_left]
      by_cases hk : k = target ++ below
      · subst hk
        simp
      · rw [beq_false_of_ne hk]
        by_cases hbelow : target <+: k
        · obtain ⟨below', rfl⟩ := hbelow
          have hne : source ++ below' ≠ source ++ below :=
            fun h => hk (List.append_cancel_left h ▸ rfl)
          rw [if_pos (List.prefix_append _ _), if_pos (List.prefix_append _ _), List.drop_left,
            beq_false_of_ne hne]
        · rw [if_neg hbelow, if_neg hbelow]
    · rw [List.filter_cons_of_neg (by simpa [Location.isBelow] using hl), ih, List.lookup_cons]
      by_cases hk : source ++ k.drop target.length = l
      · exact absurd ⟨_, hk⟩ hl
      · rw [beq_false_of_ne hk]

theorem node?_move {source target : Location} (hsource : source ≠ []) (htarget : target ≠ [])
    (k : Location) :
    (t.move source target).node? k =
      if target <+: k then t.node? (source ++ k.drop target.length)
      else if source <+: k then none
      else t.node? k := by
  have hothers : k ≠ [] →
      ((t.remove target).nodes.filter fun e => !e.1.isBelow source).lookup k =
        if source <+: k then none else (t.remove target).node? k := by
    intro hk
    have h := node?_remove (t := t.remove target) hsource k
    unfold node? at h
    rwa [if_neg hk] at h
  unfold move
  by_cases hk : k = []
  · subst hk
    simp [hsource, htarget]
  · show (if k = [] then _ else List.lookup k (_ ++ _)) = _
    rw [if_neg hk, List.lookup_append, lookup_moved, hothers hk, node?_remove htarget]
    by_cases ht : target <+: k
    · simp [node?, ht, hsource]
    · simp [ht]

/-- What is moved stands at its new place. -/
theorem node?_move_append {source target : Location} (hsource : source ≠ []) (htarget : target ≠ [])
    (below : Location) :
    (t.move source target).node? (target ++ below) = t.node? (source ++ below) := by
  rw [node?_move hsource htarget, if_pos (List.prefix_append target below), List.drop_left]

/-- A directory does not stand below something in it. -/
theorem not_concat_prefix (l : Location) (name : String) : ¬ l ++ [name] <+: l := by
  intro hprefix
  have hlength := hprefix.length_le
  rw [List.length_append] at hlength
  exact absurd hlength (Nat.not_succ_le_self _)

/-! ## Grounded trees -/

/-- Whether all that stands in a tree stands in a directory. -/
def IsGrounded (t : FileTree) : Prop :=
  ∀ l name, t.node? (l ++ [name]) ≠ none → t.node? l = some .directory

theorem isGrounded_of_nodes (h : ∀ e ∈ t.nodes, t.node? e.1.dropLast = some .directory) :
    t.IsGrounded := by
  intro l name hnode
  obtain ⟨n, hn⟩ := Option.ne_none_iff_exists'.1 hnode
  have hparent := h _ (mem_nodes_of_node? (by simp) hn)
  rwa [List.dropLast_concat] at hparent

theorem IsGrounded.node?_append (h : t.IsGrounded) (hl : t.node? l ≠ some .directory)
    {below : Location} (hbelow : below ≠ []) : t.node? (l ++ below) = none := by
  induction below using List.reverseRecOn with
  | nil => exact absurd rfl hbelow
  | append_singleton rest name ih =>
    by_contra hnode
    rw [← List.append_assoc] at hnode
    have hdirectory := h (l ++ rest) name hnode
    by_cases hrest : rest = []
    · rw [hrest, List.append_nil] at hdirectory
      exact hl hdirectory
    · rw [ih hrest] at hdirectory
      cases hdirectory

/-- Where nothing stands, nothing stands below. -/
theorem IsGrounded.node?_append_of_none (h : t.IsGrounded) (hl : t.node? l = none)
    (below : Location) : t.node? (l ++ below) = none := by
  by_cases hbelow : below = []
  · rw [hbelow, List.append_nil, hl]
  · refine h.node?_append ?_ hbelow
    rw [hl]
    exact (Option.some_ne_none _).symm

theorem IsGrounded.put_directory (h : t.IsGrounded) {parent : Location} {name : String}
    (hparent : t.node? parent = some .directory) :
    (t.put (parent ++ [name]) .directory).IsGrounded := by
  have hne : parent ++ [name] ≠ [] := by simp
  intro l child hnode
  rw [node?_put hne] at hnode ⊢
  split
  · rfl
  · split at hnode
    · next heq =>
      rw [(List.append_inj' heq rfl).1]
      exact hparent
    · exact h l child hnode

theorem IsGrounded.remove (h : t.IsGrounded) (hl : l ≠ []) : (t.remove l).IsGrounded := by
  intro k child hnode
  rw [node?_remove hl] at hnode ⊢
  split at hnode
  · exact absurd rfl hnode
  · next hbelow =>
    rw [if_neg fun hk => hbelow (hk.trans (List.prefix_append k [child]))]
    exact h k child hnode

/-- What is moved to a place in a directory stands in a directory, and so does all below it. -/
theorem IsGrounded.move (h : t.IsGrounded) {source parent : Location} {name : String}
    (hsource : source ≠ []) (hparent : t.node? parent = some .directory)
    (hbelow : ¬ source <+: parent) : (t.move source (parent ++ [name])).IsGrounded := by
  intro k child hnode
  rw [node?_move hsource (by simp)] at hnode ⊢
  by_cases htarget : parent ++ [name] <+: k
  · obtain ⟨below, rfl⟩ := htarget
    rw [if_pos (List.prefix_append _ _), List.drop_left]
    rw [List.append_assoc (parent ++ [name]), if_pos (List.prefix_append _ _), List.drop_left,
      ← List.append_assoc] at hnode
    exact h _ child hnode
  · rw [if_neg htarget]
    by_cases hchild : parent ++ [name] <+: k ++ [child]
    · have heq := (List.prefix_concat_iff.1 hchild).resolve_right htarget
      rw [← (List.append_inj' heq rfl).1, if_neg hbelow]
      exact hparent
    · rw [if_neg hchild] at hnode
      split at hnode
      · exact absurd rfl hnode
      · next hk =>
        rw [if_neg fun hbelow => hk (hbelow.trans (List.prefix_append k [child]))]
        exact h k child hnode

/-! ## Parts of a tree -/

/-- Whether all that stands in a tree stands in another one as well. -/
def IsPart (t t' : FileTree) : Prop := ∀ l n, t.node? l = some n → t'.node? l = some n

theorem IsPart.refl (t : FileTree) : t.IsPart t := fun _ _ h => h

theorem IsPart.trans {t'' : FileTree} (h : t.IsPart t') (h' : t'.IsPart t'') : t.IsPart t'' :=
  fun l n hn => h' l n (h l n hn)

theorem IsPart.isDirectory (h : t.IsPart t') (hl : t.isDirectory l = true) :
    t'.isDirectory l = true :=
  isDirectory_iff.2 (h l _ (isDirectory_iff.1 hl))

theorem isPart_remove (hl : l ≠ []) : (t.remove l).IsPart t := by
  intro k n hk
  rw [node?_remove hl] at hk
  split at hk
  · cases hk
  · exact hk

theorem isPart_put (hnode : t.node? l = none) (hl : l ≠ []) (n : Node) : t.IsPart (t.put l n) := by
  intro k m hk
  rw [node?_put hl, if_neg, hk]
  rintro rfl
  rw [hnode] at hk
  cases hk

/-- Whether nothing stands at a location and below it. -/
def IsFree (t : FileTree) (l : Location) : Prop := ∀ below, t.node? (l ++ below) = none

theorem IsFree.not_prefix (h : t.IsFree l) (hk : t.node? k ≠ none) : ¬ l <+: k := by
  rintro ⟨below, rfl⟩
  exact hk (h below)

theorem IsPart.remove (h : t.IsPart t') (hl : l ≠ []) (hfree : t.IsFree l) :
    t.IsPart (t'.remove l) := by
  intro k n hk
  rw [node?_remove hl, if_neg (hfree.not_prefix (by rw [hk]; exact Option.some_ne_none n))]
  exact h k n hk

theorem IsPart.move (h : t.IsPart t') {source target : Location} (hsource : source ≠ [])
    (htarget : target ≠ []) (hfs : t.IsFree source) (hft : t.IsFree target) :
    t.IsPart (t'.move source target) := by
  intro k n hk
  have hne : t.node? k ≠ none := by
    rw [hk]
    exact Option.some_ne_none n
  rw [node?_move hsource htarget, if_neg (hft.not_prefix hne), if_neg (hfs.not_prefix hne)]
  exact h k n hk

end FileTree

end Bundler
