import Bundler.Proofs.Settings.RoundTrip
import Mathlib.Data.List.TakeWhile

set_option autoImplicit false

/-! # Names in a settings file

The name of an entry that is read from a settings file is an identifier (`isIdentifier_of_read`),
whatever else is in the file. -/

namespace Bundler.Settings

theorem isIdentifier_of_identifier? {text rest : List Char} {name : String}
    (h : identifier? text = some (name, rest)) : IsIdentifier name := by
  unfold identifier? at h
  dsimp only at h
  split at h
  · next hhead =>
    obtain ⟨rfl, -⟩ := Prod.mk.inj (Option.some.inj h)
    rw [IsIdentifier, String.toList_ofList]
    refine ⟨?_, fun c hc => List.mem_takeWhile_imp hc⟩
    cases htext : skipBlank text with
    | nil =>
      rw [htext] at hhead
      cases hhead
    | cons c tail =>
      rw [htext] at hhead
      have hword : isWordChar c = true := by
        unfold isWordChar
        rcases Bool.or_eq_true_iff.1 hhead with hletter | hsign
        · simp [hletter]
        · simp [hsign]
      rw [List.takeWhile_cons_of_pos hword]
      exact hhead
  · cases h

/-- Only the reader of entries gives an entry. -/
theorem isIdentifier_of_statement? {text rest : List Char} {name path : String}
    (h : statement? text = some (.entry name path, rest)) : IsIdentifier name := by
  rw [statement?_eq_some_iff] at h
  rcases h with halias | hdefine | hentry | henvironment | hrule | ⟨_, _, -, hsetting⟩
  · simp [aliasLine?, declarationLine?, Option.bind_eq_some_iff] at halias
  · simp [defineLine?, declarationLine?, Option.bind_eq_some_iff] at hdefine
  · simp only [entryLine?, declarationLine?, Option.bind_eq_bind, Option.bind_eq_some_iff] at hentry
    obtain ⟨_, -, ⟨name', _⟩, hname, _, -, ⟨path', _⟩, -, _, -, heq⟩ := hentry
    obtain ⟨hstatement, -⟩ := Prod.mk.inj (Option.some.inj heq)
    obtain ⟨rfl, -⟩ := Statement.entry.inj hstatement
    exact isIdentifier_of_identifier? hname
  · simp [environmentLine?, Option.bind_eq_some_iff] at henvironment
  · simp [ruleLines?, Option.bind_eq_some_iff] at hrule
  · cases hsetting

theorem isIdentifier_of_mem_statements {text : List Char} {name path : String}
    (h : .entry name path ∈ (statements text).1) : IsIdentifier name := by
  fun_induction statements text with
  | case1 text s rest hstatement found rest' hrest ih =>
    rw [hrest] at ih
    rcases List.mem_cons.1 h with rfl | h
    · exact isIdentifier_of_statement? hstatement
    · exact ih h
  | case2 text hnone => cases h

theorem isIdentifier_of_read {source : String} {found : List Statement}
    (h : read source = .ok found) {name path : String} (hentry : .entry name path ∈ found) :
    IsIdentifier name := by
  unfold read at h
  dsimp only at h
  split at h
  · obtain rfl := Except.ok.inj h
    exact isIdentifier_of_mem_statements hentry
  · cases h

end Bundler.Settings
