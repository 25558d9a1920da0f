import Bundler.FileTree.Walk
import Mathlib.Data.List.Basic

set_option autoImplicit false

/-! # Locations and the paths that name them

A name is plain if a path can hold it as one segment that stands for itself: it is not empty, neither
`.` nor `..`, and holds no slash. A location whose names are plain is read back from its path:
`components_path` gives its names again, and two such locations have the same path only if they are
equal (`same_path_iff`). These are the canonical paths. -/

namespace Bundler

/-! ## Plain names -/

/-- Whether a name stands for itself as a segment of a path. -/
def IsPlainName (name : String) : Prop :=
  name ≠ "" ∧ name ≠ "." ∧ name ≠ ".." ∧ '/' ∉ name.toList

instance (name : String) : Decidable (IsPlainName name) :=
  inferInstanceAs (Decidable (_ ∧ _))

theorem IsPlainName.toList_ne {name : String} (h : IsPlainName name) :
    name.toList ≠ [] ∧ name.toList ≠ ['.'] ∧ name.toList ≠ ['.', '.'] :=
  ⟨fun heq => h.1 (String.toList_inj.1 heq), fun heq => h.2.1 (String.toList_inj.1 heq),
    fun heq => h.2.2.1 (String.toList_inj.1 heq)⟩

/-- Whether all names of a location stand for themselves. -/
def Location.IsPlain (l : Location) : Prop := ∀ name ∈ l, IsPlainName name

instance (l : Location) : Decidable l.IsPlain :=
  inferInstanceAs (Decidable (∀ name ∈ l, IsPlainName name))

namespace Path

/-! ## Segments -/

theorem splitSlash_cons_slash (text : List Char) :
    splitSlash ('/' :: text) = [] :: splitSlash text := by
  simp [splitSlash]

theorem splitSlash_ne_nil (text : List Char) : splitSlash text ≠ [] := by
  induction text with
  | nil => simp [splitSlash]
  | cons c rest ih =>
    show (if c = '/' then _ else _) ≠ []
    split
    · simp
    · split <;> simp

theorem splitSlash_cons {c : Char} (hc : c ≠ '/') (text : List Char) :
    splitSlash (c :: text) = (splitSlash text).modifyHead (c :: ·) := by
  show (if c = '/' then _ else _) = _
  rw [if_neg hc]
  split
  · next first rest h =>
    rw [show splitSlash text = first :: rest from h]
    rfl
  · next h => exact absurd h (splitSlash_ne_nil text)

theorem splitSlash_eq_splitOn (text : List Char) : splitSlash text = text.splitOn '/' := by
  induction text with
  | nil => simp [splitSlash]
  | cons c rest ih =>
    rw [List.splitOn_cons_eq_if_modifyHead]
    by_cases hc : c = '/'
    · rw [hc, splitSlash_cons_slash, ih]
      simp
    · rw [splitSlash_cons hc, ih, if_neg (by simpa using hc)]

/-! ## The path of a location -/

@[simp] theorem toList_text_path (l : Location) :
    l.path.text.toList = '/' :: ['/'].intercalate (l.map String.toList) := by
  simp [Location.path, String.toList_append, String.toList_intercalate]

@[simp] theorem isAbsolute_path (l : Location) : l.path.isAbsolute = true := by
  simp [isAbsolute]

theorem segments_path {l : Location} (hne : l ≠ []) (hl : l.IsPlain) :
    l.path.segments = l.map String.toList := by
  unfold segments
  rw [toList_text_path]
  show splitSlash _ = _
  rw [splitSlash_eq_splitOn, List.splitOn_intercalate]
  · intro segment hsegment
    obtain ⟨name, hname, rfl⟩ := List.mem_map.1 hsegment
    exact (hl name hname).2.2.2
  · simpa using hne

theorem segments_path_nil : (Location.path []).segments = [[]] := by
  unfold segments
  rw [toList_text_path]
  rfl

/-- A plain name is a component of its own. -/
theorem innerComponent_toList {name : String} (h : IsPlainName name) :
    innerComponent name.toList = some (.name name) := by
  obtain ⟨hempty, hdot, hdots⟩ := h.toList_ne
  simp [innerComponent, hempty, hdot, hdots]

theorem components_path {l : Location} (hl : l.IsPlain) :
    l.path.components = .root :: l.map .name := by
  unfold components
  rw [isAbsolute_path, if_pos rfl]
  congr 1
  by_cases hne : l = []
  · rw [hne, segments_path_nil]
    rfl
  · rw [segments_path hne hl, List.filterMap_map, ← List.filterMap_eq_map]
    apply List.filterMap_congr
    intro name hname
    exact innerComponent_toList (hl name hname)

/-- Canonical paths are the same only if they are equal. -/
theorem same_path_iff {l l' : Location} (hl : l.IsPlain) (hl' : l'.IsPlain) :
    l.path.same l'.path = true ↔ l = l' := by
  unfold same
  rw [components_path hl, components_path hl', beq_iff_eq, List.cons_inj_right]
  exact ⟨fun h => List.map_injective_iff.2 (fun _ _ => Component.name.inj) h, fun h => h ▸ rfl⟩

/-! ## Sameness of paths -/

@[simp] theorem same_self (p : Path) : p.same p = true := by
  simp [same]

theorem same_comm (p q : Path) : p.same q = q.same p := by
  unfold same
  rw [Bool.eq_iff_iff, beq_iff_eq, beq_iff_eq]
  exact eq_comm

theorem same_iff {p q : Path} : p.same q = true ↔ p.components = q.components := by
  simp [same]

/-- Same paths are the same as the same paths. -/
theorem same_congr_left {p q : Path} (h : p.same q = true) (r : Path) : p.same r = q.same r := by
  unfold same
  rw [same_iff.1 h]

theorem same_congr_right {p q : Path} (h : p.same q = true) (r : Path) : r.same p = r.same q := by
  unfold same
  rw [same_iff.1 h]

theorem same_trans {p q r : Path} (hpq : p.same q = true) (hqr : q.same r = true) :
    p.same r = true := by
  rw [same_congr_left hpq]
  exact hqr

/-- Whether a path is the path of a location with plain names. -/
def IsCanonical (p : Path) : Prop := ∃ l : Location, l.IsPlain ∧ p = l.path

theorem IsCanonical.eq_of_same {p q : Path} (hp : p.IsCanonical) (hq : q.IsCanonical)
    (h : p.same q = true) : p = q := by
  obtain ⟨l, hl, rfl⟩ := hp
  obtain ⟨l', hl', rfl⟩ := hq
  rw [(same_path_iff hl hl').1 h]

end Path

end Bundler
