import Mathlib.Data.List.Infix
import Mathlib.Data.List.TakeWhile

set_option autoImplicit false

/-! # Starts of texts

What a text starts with: a run of characters of a kind, which is taken as a whole if it is over
there, or several names, of which the one with more bytes begins with the other. -/

namespace Bundler.Text

/-! ## Runs of characters of a kind -/

/-- What a reader of characters of a kind takes from a text, if other characters follow. -/
theorem takeWhile_append_of_head {p : Char → Bool} {text rest : List Char}
    (htext : ∀ c ∈ text, p c = true) (hrest : rest.head?.any p = false) :
    (text ++ rest).takeWhile p = text ∧ (text ++ rest).dropWhile p = rest := by
  rw [List.takeWhile_append_of_pos htext, List.dropWhile_append_of_pos htext]
  cases rest with
  | nil => simp
  | cons c rest =>
    have hc : p c = false := hrest
    simp [hc]

/-- Behind a run there is no other character of its kind. -/
theorem any_head?_dropWhile (p : Char → Bool) (text : List Char) :
    (text.dropWhile p).head?.any p = false := by
  have h := List.head?_dropWhile_not p text
  cases hhead : (text.dropWhile p).head? with
  | none => rfl
  | some c =>
    rw [hhead] at h
    exact h

/-! ## Names at one place -/

/-- Among the starts of one text, more characters are more bytes. -/
theorem toList_prefix_of_utf8ByteSize_le {a b : String} {text : List Char}
    (ha : a.toList <+: text) (hb : b.toList <+: text) (hle : b.utf8ByteSize ≤ a.utf8ByteSize) :
    b.toList <+: a.toList := by
  rcases List.prefix_or_prefix_of_prefix hb ha with h | ⟨rest, h⟩
  · exact h
  · have htext : b = a ++ .ofList rest := by
      rw [← String.toList_inj, ← h]
      simp
    rw [htext, String.utf8ByteSize_append] at hle
    have hrest : String.ofList rest = "" := String.utf8ByteSize_eq_zero_iff.1 (by omega)
    rw [htext, hrest, String.append_empty]

end Bundler.Text
