import Bundler.Text.Words

set_option autoImplicit false

/-! # Imports of style sheets

An import is `@import`, white space, a quoted target that may stand in `url(…)`, and whatever
follows up to the end of the statement or line. Either quote opens and closes a target. Imports are
cut out of the sheet, and their targets become references of its module. White space after the
target belongs to the import even if it spans lines, and the line that then starts belongs to it
too. -/

namespace Bundler.Transform.StyleSheet

/-- The quotes of targets. -/
def isQuote (c : Char) : Bool := c == '"' || c == '\''

/-- The text after a word that it starts with. -/
def after? (word : String) (text : List Char) : Option (List Char) :=
  if word.toList.isPrefixOf text then some (text.drop word.length) else none

/-- The text without the white space at its start. -/
def skipSpace (text : List Char) : List Char := text.dropWhile Unicode.isSpace

/-- A quoted target, with the text after its second quote. -/
def target? : List Char → Option (List Char × List Char)
  | [] => none
  | quote :: rest =>
    let found := rest.takeWhile (!isQuote ·)
    match rest.dropWhile (!isQuote ·) with
    | _ :: after => if isQuote quote && !found.isEmpty then some (found, after) else none
    | [] => none

/-- The text after the rest of an import statement, from behind its target. -/
def statementEnd (text : List Char) : List Char :=
  let text := skipSpace text
  let text := if text.head? = some ')' then text.drop 1 else text
  let text := text.dropWhile fun c => c ≠ ';' ∧ c ≠ '\n'
  if text.head? = some ';' then text.drop 1 else text

/-- The target of the import that a text starts with, and the text after the import. -/
def import? (text : List Char) : Option (List Char × List Char) := do
  let text ← after? "@import" text
  guard (text.head?.any Unicode.isSpace)
  let text := skipSpace text
  let text := match after? "url(" text with
    | some inner => skipSpace inner
    | none => text
  let (found, text) ← target? text
  some (found, statementEnd text)

theorem length_statementEnd_le (text : List Char) :
    (statementEnd text).length ≤ text.length := by
  have h1 := (List.dropWhile_sublist (l := text) Unicode.isSpace).length_le
  unfold statementEnd skipSpace
  dsimp only
  generalize hu : (if (text.dropWhile Unicode.isSpace).head? = some ')' then
    (text.dropWhile Unicode.isSpace).drop 1 else text.dropWhile Unicode.isSpace) = u
  have h2 : u.length ≤ (text.dropWhile Unicode.isSpace).length := by
    subst hu
    split <;> simp
  have h3 := (List.dropWhile_sublist (l := u) (fun c => decide (c ≠ ';' ∧ c ≠ '\n'))).length_le
  split
  · simp only [List.length_drop]
    omega
  · omega

theorem length_target?_le {text found rest : List Char} (h : target? text = some (found, rest)) :
    rest.length < text.length := by
  unfold target? at h
  split at h
  · simp at h
  · next quote r =>
    have hle := (List.dropWhile_sublist (l := r) (!isQuote ·)).length_le
    dsimp only at h
    split at h
    · next c after heq =>
      split at h <;> simp only [Option.some.injEq, Prod.mk.injEq, reduceCtorEq] at h
      obtain ⟨_, rfl⟩ := h
      simp only [heq, List.length_cons] at hle ⊢
      omega
    · simp at h

theorem length_after?_le {word : String} {text rest : List Char}
    (h : after? word text = some rest) : rest.length ≤ text.length := by
  unfold after? at h
  split at h <;> simp only [Option.some.injEq, reduceCtorEq] at h
  subst h
  simp

/-- An import uses up at least one character. -/
theorem length_import?_lt {text found rest : List Char} (h : import? text = some (found, rest)) :
    rest.length < text.length := by
  obtain ⟨t, ht, h⟩ := Option.bind_eq_some_iff.1 h
  obtain ⟨_, _, h⟩ := Option.bind_eq_some_iff.1 h
  obtain ⟨⟨s, u⟩, hu, h⟩ := Option.bind_eq_some_iff.1 h
  simp only [Option.some.injEq, Prod.mk.injEq] at h
  obtain ⟨_, rfl⟩ := h
  have h1 := length_after?_le ht
  have h2 := (List.dropWhile_sublist (l := t) Unicode.isSpace).length_le
  have h3 := length_target?_le hu
  have h4 := length_statementEnd_le u
  have h5 : (match after? "url(" (skipSpace t) with
    | some inner => skipSpace inner
    | none => skipSpace t).length ≤ t.length := by
    split
    · next inner hi =>
      have h6 := length_after?_le hi
      have h7 := (List.dropWhile_sublist (l := inner) Unicode.isSpace).length_le
      unfold skipSpace at h6 ⊢
      omega
    · exact h2
  omega

/-- The targets of the imports of a text and the text without them, after the given ones, last one
    first. -/
def cut (targets : List (List Char)) (kept : List Char) :
    List Char → List (List Char) × List Char
  | [] => (targets.reverse, kept.reverse)
  | c :: rest =>
    match _h : import? (c :: rest) with
    | some (found, after) => cut (found :: targets) kept after
    | none => cut targets (c :: kept) rest
termination_by text => text.length
decreasing_by
  · exact length_import?_lt _h
  · simp

/-- The targets of the imports of a sheet, in order, and the sheet without its imports. -/
def cutImports (sheet : String) : List String × List Char :=
  let (targets, kept) := cut [] [] sheet.toList
  (targets.map String.ofList, kept)

end Bundler.Transform.StyleSheet
