import Bundler.Proofs.Text.Starts
import Bundler.Text.Words
import Mathlib.Data.List.DropRight

set_option autoImplicit false

/-! # White space around texts -/

namespace Bundler.Text

theorem trim_eq_nil_iff {text : List Char} :
    trim text = [] ↔ ∀ c ∈ text, Unicode.isSpace c = true := by
  unfold trim trimEnd trimStart
  rw [List.reverse_eq_nil_iff, List.dropWhile_eq_nil_iff]
  simp only [List.mem_reverse]
  refine ⟨fun h => ?_, fun h c hc => h c ((List.dropWhile_suffix _).subset hc)⟩
  rw [← List.dropWhile_eq_nil_iff]
  have hhead := any_head?_dropWhile Unicode.isSpace text
  cases hstart : text.dropWhile Unicode.isSpace with
  | nil => rfl
  | cons c rest =>
    rw [hstart] at h hhead
    exact absurd ((h c List.mem_cons_self).symm.trans hhead) (by decide)

theorem trim_concat_of_isSpace {c : Char} (h : Unicode.isSpace c = true) (text : List Char) :
    trim (text ++ [c]) = trim text := by
  unfold trim trimEnd trimStart
  rw [List.dropWhile_append]
  split
  · next hempty => rw [List.isEmpty_iff.1 hempty, List.dropWhile_cons_of_pos h, List.dropWhile_nil]
  · rw [List.reverse_concat, List.dropWhile_cons_of_pos h]

end Bundler.Text
