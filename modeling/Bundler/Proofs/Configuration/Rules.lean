import Bundler.Proofs.Configuration.Entries

set_option autoImplicit false

/-! # The rules of a configuration

A settings file is refused if a rule names a transform that is not registered, so that every
transform that a rule of a configuration names can be found by its name
(`isRegistered_of_mem_rules`). -/

namespace Bundler

/-- Whether all transforms of a rule are registered. -/
def Rule.IsRegistered (r : Rule) (registry : Registry) : Prop :=
  ∀ name ∈ r.transforms, ∃ t, registry.get? name = some t

namespace Configuration

variable {root : Path} {environment : NameMap String} {overrides : Overrides} {registry : Registry}
  {statements : List Settings.Statement} {draft draft' : Draft} {r : Rule}

theorem isRegistered_of_ruleOf {name : String} {settings : List Settings.Setting}
    (h : ruleOf registry name settings = .ok r) : r.IsRegistered registry := by
  obtain ⟨ruleDraft, -, h⟩ := Result.bind_eq_ok_iff.1 h
  split at h
  · cases h
  · obtain ⟨transforms, htransforms, h⟩ := Result.bind_eq_ok_iff.1 h
    split at h
    · cases h
    · cases h
      intro transform hmem
      obtain ⟨word, -, hword⟩ :=
        Result.exists_of_mem_right (Result.mapM_eq_ok_iff.1 htransforms) hmem
      unfold registered at hword
      split at hword
      · next hcontains =>
        cases hword
        exact Option.isSome_iff_exists.1 hcontains
      · cases hword

/-- A statement leaves the rules alone or adds one whose transforms are registered. -/
theorem Draft.rules_add {s : Settings.Statement}
    (h : draft.add root environment registry s = .ok draft') :
    draft'.rules = draft.rules ∨
      ∃ r : Rule, r.IsRegistered registry ∧ draft'.rules = draft.rules ++ [r] := by
  unfold Draft.add at h
  split at h
  · cases h
    exact .inl rfl
  · cases h
    exact .inl rfl
  · split at h
    · cases h
    · cases h
      exact .inl rfl
  · split at h
    · cases h
    · cases h
      exact .inl rfl
  · obtain ⟨rule, hrule, h⟩ := Result.bind_eq_ok_iff.1 h
    cases h
    exact .inr ⟨rule, isRegistered_of_ruleOf hrule, rfl⟩
  · split at h
    · cases h
      exact .inl rfl
    · cases h

theorem Draft.isRegistered_add {s : Settings.Statement}
    (h : draft.add root environment registry s = .ok draft')
    (hdraft : ∀ r ∈ draft.rules, r.IsRegistered registry) :
    ∀ r ∈ draft'.rules, r.IsRegistered registry := by
  obtain hsame | ⟨added, hadded, hrules⟩ := rules_add h
  · rwa [hsame]
  · rw [hrules]
    intro r hr
    rcases List.mem_append.1 hr with hr | hr
    · exact hdraft r hr
    · rwa [List.mem_singleton.1 hr]

/-- The transforms of the rules of a configuration are registered. -/
theorem isRegistered_of_mem_rules {c : Configuration}
    (h : ofStatements root environment overrides registry statements = .ok c) (hr : r ∈ c.rules) :
    r.IsRegistered registry := by
  obtain ⟨draft, hdraft, h⟩ := Result.bind_eq_ok_iff.1 h
  rw [(Draft.fields_of_finish h).2.1] at hr
  exact Draft.foldlM_preserves (fun _ _ _ => Draft.isRegistered_add) hdraft
    (fun _ hr => absurd hr List.not_mem_nil) r hr

end Configuration

end Bundler
