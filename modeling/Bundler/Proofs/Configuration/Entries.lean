import Bundler.Configuration.OfStatements
import Bundler.Proofs.Result

set_option autoImplicit false

/-! # The entries of a configuration

A settings file is refused if it names an entry twice or none at all, so that every configuration
that is made from statements has entries of different names (`nodup_entries_ofStatements`), one of
which the document starts (`exists_startEntry_ofStatements`). -/

namespace Bundler.Configuration

variable {root : Path} {environment : NameMap String} {overrides : Overrides} {registry : Registry}

/-- Whether no two entries of a draft have the same name. -/
def Draft.HasDistinctEntries (draft : Draft) : Prop := (draft.entries.map (·.name)).Nodup

/-- A statement leaves the entries alone or names one more, whose name is new. -/
theorem Draft.entries_add {draft draft' : Draft} {s : Settings.Statement}
    (h : draft.add root environment registry s = .ok draft') :
    draft'.entries = draft.entries ∨ ∃ name path, s = .entry name path ∧
      (∀ e ∈ draft.entries, e.name ≠ name) ∧
      draft'.entries = draft.entries ++ [⟨name, root.join ⟨path⟩⟩] := by
  unfold Draft.add at h
  split at h
  · cases h
    exact .inl rfl
  · cases h
    exact .inl rfl
  · next name path =>
    split at h
    · cases h
    · next hnew =>
      cases h
      refine .inr ⟨name, path, rfl, fun e he hname => hnew ?_, rfl⟩
      exact List.any_eq_true.2 ⟨e, he, decide_eq_true hname⟩
  · split at h
    · cases h
    · cases h
      exact .inl rfl
  · obtain ⟨rule, -, h⟩ := Result.bind_eq_ok_iff.1 h
    cases h
    exact .inl rfl
  · split at h
    · cases h
      exact .inl rfl
    · cases h

theorem Draft.hasDistinctEntries_add {draft draft' : Draft} {s : Settings.Statement}
    (h : draft.add root environment registry s = .ok draft') (hd : draft.HasDistinctEntries) :
    draft'.HasDistinctEntries := by
  unfold HasDistinctEntries
  obtain hsame | ⟨name, path, -, hnew, hentries⟩ := entries_add h
  · rw [hsame]
    exact hd
  · rw [hentries, List.map_append, List.nodup_append]
    refine ⟨hd, List.pairwise_singleton _ _, ?_⟩
    rintro a ha b hb rfl
    rw [List.map_singleton, List.mem_singleton] at hb
    obtain ⟨e, he, hname⟩ := List.mem_map.1 ha
    exact hnew e he (hname.trans hb)

/-- What every statement keeps is kept by all of them. -/
theorem Draft.foldlM_preserves {P : Draft → Prop} (hadd : ∀ draft draft' s,
      Draft.add root environment registry draft s = .ok draft' → P draft → P draft')
    {statements : List Settings.Statement} {draft draft' : Draft}
    (h : statements.foldlM (Draft.add root environment registry) draft = .ok draft')
    (hd : P draft) : P draft' := by
  induction statements generalizing draft with
  | nil =>
    cases h
    exact hd
  | cons s rest ih =>
    rw [List.foldlM_cons] at h
    obtain ⟨next, hnext, h⟩ := Result.bind_eq_ok_iff.1 h
    exact ih h (hadd _ _ _ hnext hd)

theorem Draft.exists_of_mem_foldlM {statements : List Settings.Statement} {draft draft' : Draft}
    (h : statements.foldlM (Draft.add root environment registry) draft = .ok draft') {e : Entry}
    (he : e ∈ draft'.entries) : e ∈ draft.entries ∨ ∃ path, .entry e.name path ∈ statements := by
  induction statements generalizing draft with
  | nil =>
    cases h
    exact .inl he
  | cons s rest ih =>
    rw [List.foldlM_cons] at h
    obtain ⟨next, hnext, h⟩ := Result.bind_eq_ok_iff.1 h
    rcases ih h with he | ⟨path, hpath⟩
    · obtain hsame | ⟨name, path, rfl, -, hentries⟩ := entries_add hnext
      · exact .inl (hsame ▸ he)
      · rw [hentries] at he
        refine (List.mem_append.1 he).imp id fun he => ⟨path, ?_⟩
        rw [List.mem_singleton.1 he]
        exact List.mem_cons_self
    · exact .inr ⟨path, List.mem_cons_of_mem _ hpath⟩

/-- What a draft says about entries, rules and references stays when it is finished. -/
theorem Draft.fields_of_finish {draft : Draft} {c : Configuration}
    (h : draft.finish root overrides = .ok c) :
    c.entries = draft.entries ∧ c.rules = draft.rules ∧ c.resolution = .ofAliases draft.aliases
      (extensions ((draft.settings.get? "extensions").getD defaultExtensions)) := by
  unfold Draft.finish at h
  dsimp only at h
  split at h
  · cases h
  split at h
  · cases h
  obtain ⟨policy, -, h⟩ := Result.bind_eq_ok_iff.1 h
  obtain ⟨splitVendor, -, h⟩ := Result.bind_eq_ok_iff.1 h
  obtain ⟨vendor, -, h⟩ := Result.bind_eq_ok_iff.1 h
  obtain ⟨deterministicIds, -, h⟩ := Result.bind_eq_ok_iff.1 h
  obtain ⟨compress, -, h⟩ := Result.bind_eq_ok_iff.1 h
  obtain ⟨threshold, -, h⟩ := Result.bind_eq_ok_iff.1 h
  -- the rest is the same whether the port comes from the settings or from outside
  split at h
  all_goals
    obtain ⟨port, -, h⟩ := Result.bind_eq_ok_iff.1 h
    obtain ⟨historyFallback, -, h⟩ := Result.bind_eq_ok_iff.1 h
    cases h
    exact ⟨rfl, rfl, rfl⟩

theorem Draft.entries_of_finish {draft : Draft} {c : Configuration}
    (h : draft.finish root overrides = .ok c) : c.entries = draft.entries :=
  (fields_of_finish h).1

/-- The entries of a configuration have different names. -/
theorem nodup_entries_ofStatements {statements : List Settings.Statement} {c : Configuration}
    (h : ofStatements root environment overrides registry statements = .ok c) :
    (c.entries.map (·.name)).Nodup := by
  obtain ⟨draft, hdraft, h⟩ := Result.bind_eq_ok_iff.1 h
  rw [Draft.entries_of_finish h]
  exact Draft.foldlM_preserves (fun _ _ _ => Draft.hasDistinctEntries_add) hdraft .nil

/-- The entries of a configuration are those that the statements name. -/
theorem exists_of_mem_entries_ofStatements {statements : List Settings.Statement}
    {c : Configuration} (h : ofStatements root environment overrides registry statements = .ok c)
    {e : Entry} (he : e ∈ c.entries) : ∃ path, .entry e.name path ∈ statements := by
  obtain ⟨draft, hdraft, h⟩ := Result.bind_eq_ok_iff.1 h
  rw [Draft.entries_of_finish h] at he
  exact (Draft.exists_of_mem_foldlM hdraft he).resolve_left List.not_mem_nil

theorem Draft.entries_ne_nil_of_finish {draft : Draft} {c : Configuration}
    (h : draft.finish root overrides = .ok c) : draft.entries ≠ [] := by
  intro hnil
  unfold Draft.finish at h
  rw [hnil] at h
  cases h

/-- The document starts one of the entries of a configuration. -/
theorem exists_startEntry_ofStatements {statements : List Settings.Statement} {c : Configuration}
    (h : ofStatements root environment overrides registry statements = .ok c) :
    ∃ e ∈ c.entries, c.startEntry = some e := by
  obtain ⟨draft, -, h⟩ := Result.bind_eq_ok_iff.1 h
  have hne := Draft.entries_ne_nil_of_finish h
  rw [← Draft.entries_of_finish h] at hne
  unfold startEntry
  cases hmain : c.entries.find? (·.name = mainEntryName) with
  | some e => exact ⟨e, List.mem_of_find?_eq_some hmain, rfl⟩
  | none =>
    obtain ⟨first, rest, hentries⟩ := List.exists_cons_of_ne_nil hne
    rw [hentries]
    exact ⟨first, List.mem_cons_self, rfl⟩

end Bundler.Configuration
