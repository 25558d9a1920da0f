import Bundler.NameMap
import Mathlib.Data.List.Nodup

set_option autoImplicit false

/-! # Looking names up

What a map from names gives after names have been set: the value that a name was set to last
(`get?_insert`, `get?_ofList`). If a map is made from entries with different names, it holds exactly
these entries (`get?_ofList_eq_some_iff`). Maps that give the same for every name are equal
(`ext_get?`), so that different names may be set in any order (`insert_comm`). -/

namespace Bundler.NameMap

variable {α : Type}

/-! ## Setting a name -/

theorem lookup_cons_eq_if (entry : String × α) (rest : List (String × α)) (k : String) :
    (entry :: rest).lookup k = if k = entry.1 then some entry.2 else rest.lookup k := by
  rw [List.lookup_cons]
  by_cases hk : k = entry.1
  · rw [if_pos hk, beq_iff_eq.2 hk]
  · rw [if_neg hk, beq_false_of_ne hk]

theorem lookup_insertSorted (name : String) (value : α) (entries : List (String × α)) (k : String) :
    (insertSorted name value entries).lookup k =
      if k = name then some value else entries.lookup k := by
  induction entries with
  | nil => exact lookup_cons_eq_if (name, value) [] k
  | cons entry rest ih =>
    unfold insertSorted
    split
    · rw [lookup_cons_eq_if]
    · split
      · next heq =>
        rw [lookup_cons_eq_if, lookup_cons_eq_if, heq]
        split <;> rfl
      · next hne =>
        rw [lookup_cons_eq_if, lookup_cons_eq_if, ih]
        by_cases hk : k = name
        · rw [if_pos hk, if_pos hk, if_neg fun heq => hne (hk ▸ heq)]
        · rw [if_neg hk, if_neg hk]

theorem get?_insert (m : NameMap α) (name : String) (value : α) (k : String) :
    (m.insert name value).get? k = if k = name then some value else m.get? k :=
  lookup_insertSorted name value m.toList k

theorem get?_foldl_insert (entries : List (String × α)) (m : NameMap α) (k : String) :
    (entries.foldl (fun m e => m.insert e.1 e.2) m).get? k
      = (entries.reverse.lookup k).or (m.get? k) := by
  induction entries generalizing m with
  | nil => rfl
  | cons e rest ih =>
    rw [List.foldl_cons, ih, get?_insert, List.reverse_cons, List.lookup_append,
      lookup_cons_eq_if, Option.or_assoc]
    congr 1
    split <;> rfl

/-- The value of a name is that of its last entry. -/
theorem get?_ofList (entries : List (String × α)) (k : String) :
    (ofList entries).get? k = entries.reverse.lookup k := by
  unfold ofList
  rw [get?_foldl_insert]
  exact Option.or_none

/-! ## Names -/

theorem lookup_of_mem {entries : List (String × α)} (h : (entries.map (·.1)).Nodup)
    {name : String} {value : α} (hmem : (name, value) ∈ entries) :
    entries.lookup name = some value := by
  induction entries with
  | nil => cases hmem
  | cons e rest ih =>
    obtain ⟨he, hrest⟩ := List.nodup_cons.1 h
    rw [lookup_cons_eq_if]
    rcases List.mem_cons.1 hmem with rfl | hmem
    · rw [if_pos rfl]
    · have hne : name ≠ e.1 := fun heq => he (List.mem_map.2 ⟨_, hmem, heq⟩)
      rw [if_neg hne, ih hrest hmem]

theorem mem_of_lookup {entries : List (String × α)} {name : String} {value : α}
    (h : entries.lookup name = some value) : (name, value) ∈ entries := by
  obtain ⟨before, after, heq, -⟩ := List.lookup_eq_some_iff.1 h
  rw [heq]
  exact List.mem_append_right _ List.mem_cons_self

theorem nodup_names (m : NameMap α) : m.names.Nodup := by
  refine List.pairwise_map.2 (m.sorted.imp fun hlt heq => ?_)
  rw [heq] at hlt
  exact String.lt_irrefl _ hlt

theorem mem_names_iff {m : NameMap α} {name : String} :
    name ∈ m.names ↔ ∃ value, m.get? name = some value := by
  constructor
  · intro h
    obtain ⟨e, he, rfl⟩ := List.mem_map.1 h
    exact ⟨e.2, lookup_of_mem m.nodup_names he⟩
  · rintro ⟨value, h⟩
    exact List.mem_map.2 ⟨(name, value), mem_of_lookup h, rfl⟩

/-- Entries with different names are all there, and nothing else is. -/
theorem get?_ofList_eq_some_iff {entries : List (String × α)} (h : (entries.map (·.1)).Nodup)
    {name : String} {value : α} :
    (ofList entries).get? name = some value ↔ (name, value) ∈ entries := by
  rw [get?_ofList]
  constructor
  · intro hlookup
    exact List.mem_reverse.1 (mem_of_lookup hlookup)
  · intro hmem
    refine lookup_of_mem ?_ (List.mem_reverse.2 hmem)
    rw [List.map_reverse]
    exact List.nodup_reverse.2 h

/-! ## Equal maps -/

theorem mem_toList_iff {m : NameMap α} {name : String} {value : α} :
    (name, value) ∈ m.toList ↔ m.get? name = some value :=
  ⟨lookup_of_mem m.nodup_names, mem_of_lookup⟩

theorem ext_get? {m m' : NameMap α} (h : ∀ name, m.get? name = m'.get? name) : m = m' := by
  have hnodup : ∀ m : NameMap α, m.toList.Nodup := fun m => m.nodup_names.of_map _
  have hmem : ∀ e, e ∈ m.toList ↔ e ∈ m'.toList := by
    rintro ⟨name, value⟩
    rw [mem_toList_iff, mem_toList_iff, h]
  -- both lists are in strict order, and there is only one such order
  have hlists : m.toList = m'.toList := by
    refine List.Perm.eq_of_pairwise ?_ m.sorted m'.sorted
      ((List.perm_ext_iff_of_nodup (hnodup m) (hnodup m')).2 hmem)
    intro a b _ _ hab hba
    exact absurd (String.lt_trans hab hba) (String.lt_irrefl _)
  cases m
  cases m'
  cases hlists
  rfl

theorem insert_comm (m : NameMap α) {name name' : String} {value value' : α}
    (h : name = name' → value = value') :
    (m.insert name value).insert name' value' = (m.insert name' value').insert name value := by
  refine ext_get? fun k => ?_
  simp only [get?_insert]
  by_cases hk : k = name
  · by_cases hk' : k = name'
    · simp [← hk, ← hk', h (hk.symm.trans hk')]
    · simp [hk, hk'.imp hk.trans]
  · simp [hk]

/-- A map does not depend on the order of its entries if equal names have equal values. -/
theorem ofList_eq_of_perm {entries entries' : List (String × α)} (h : entries.Perm entries')
    (hvalues : ∀ e ∈ entries, ∀ e' ∈ entries, e.1 = e'.1 → e.2 = e'.2) :
    ofList entries = ofList entries' :=
  h.foldl_eq' (fun e he e' he' m => insert_comm m (hvalues e he e' he')) empty

end Bundler.NameMap
