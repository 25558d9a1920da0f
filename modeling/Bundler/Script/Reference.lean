import Bundler.Script.Lexeme

set_option autoImplicit false

/-! # References of scripts

The texts by which a script names other modules: `import "s"`, `import … from "s"`,
`export … from "s"`, `import("s")` and `require("s")`. They are looked for between comments,
strings and words, so none is found inside one of these, and a word that merely contains `import`
starts none. -/

namespace Bundler.Script

/-! ## Parts of a reference -/

/-- The text after a given word, which no word character may follow. -/
def keyword? (word : List Char) (text : List Char) : Option (List Char) :=
  if word.isPrefixOf text then
    let rest := text.drop word.length
    if rest.head?.any isWordChar then none else some rest
  else none

/-- The text after a gap, which may be empty. -/
def skipGap (text : List Char) : List Char := text.dropWhile isGap

/-- The text after a given sign. -/
def sign? (sign : Char) : List Char → Option (List Char)
  | [] => none
  | c :: rest => if c = sign then some rest else none

/-- The specifier between two equal quotes: at least one character, no backslash and no line feed. -/
def specifier? : List Char → Option (List Char × List Char)
  | [] => none
  | quote :: rest =>
    if quote = '"' ∨ quote = '\'' then
      let inside (c : Char) : Bool := c ≠ quote ∧ c ≠ '\\' ∧ c ≠ '\n'
      let found := rest.takeWhile inside
      match rest.dropWhile inside with
      | c :: after => if c = quote ∧ !found.isEmpty then some (found, after) else none
      | [] => none
    else none

/-- The text after one item of an import clause: a brace, comma or star, or a word but `from`. -/
def clauseItem? (text : List Char) : Option (List Char) :=
  match skipGap text with
  | [] => none
  | c :: rest =>
    if c = '\x7b' ∨ c = '\x7d' ∨ c = ',' ∨ c = '*' then some rest
    else if isWordChar c ∧ (c :: rest).takeWhile isWordChar ≠ "from".toList then
      some ((c :: rest).dropWhile isWordChar)
    else none

theorem length_clauseItem?_lt {text rest : List Char} (h : clauseItem? text = some rest) :
    rest.length < text.length := by
  have hle := (List.dropWhile_sublist (l := text) isGap).length_le
  unfold clauseItem? skipGap at h
  split at h
  · simp at h
  · next c r heq =>
    rw [heq, List.length_cons] at hle
    split at h
    · simp only [Option.some.injEq] at h
      subst h
      omega
    · split at h
      · next hc =>
        simp only [Option.some.injEq, List.dropWhile_cons, hc.1, if_true] at h
        have := (List.dropWhile_sublist (l := r) isWordChar).length_le
        subst h
        omega
      · simp at h

/-- The text after the items of an import clause. -/
def skipClause (text : List Char) : List Char :=
  match _h : clauseItem? text with
  | some rest => skipClause rest
  | none => text
termination_by text.length
decreasing_by exact length_clauseItem?_lt _h

/-- The text after an import clause of at least one item. -/
def clause? (text : List Char) : Option (List Char) := (clauseItem? text).map skipClause

/-- A specifier after `from`. -/
def from? (text : List Char) : Option (List Char × List Char) := do
  specifier? (skipGap (← keyword? "from".toList (skipGap text)))

/-! ## The forms of a reference -/

/-- A call such as `require("s")`. -/
def call? (name : List Char) (text : List Char) : Option (List Char × List Char) := do
  let text ← keyword? name text
  let text ← sign? '(' (skipGap text)
  let (found, text) ← specifier? (skipGap text)
  let text ← sign? ')' (skipGap text)
  some (found, text)

/-- `import "s"` or `import clause from "s"`. -/
def import? (text : List Char) : Option (List Char × List Char) := do
  let text := skipGap (← keyword? "import".toList text)
  specifier? text <|> (clause? text).bind from?

/-- `export clause from "s"`. -/
def export? (text : List Char) : Option (List Char × List Char) := do
  from? (← clause? (← keyword? "export".toList text))

/-- A reference of any form, with the text after it. -/
def reference? (text : List Char) : Option (List Char × List Char) :=
  call? "import".toList text <|> call? "require".toList text <|> import? text <|> export? text

/-! ## References use up text -/

theorem length_keyword?_le {word text rest : List Char} (h : keyword? word text = some rest) :
    rest.length ≤ text.length := by
  unfold keyword? at h
  split at h
  · simp only at h
    split at h <;> simp only [Option.some.injEq, reduceCtorEq] at h
    subst h
    simp
  · simp at h

theorem length_sign?_lt {sign : Char} {text rest : List Char} (h : sign? sign text = some rest) :
    rest.length < text.length := by
  unfold sign? at h
  split at h
  · simp at h
  · split at h <;> simp only [Option.some.injEq, reduceCtorEq] at h
    subst h
    simp

theorem length_specifier?_lt {text found rest : List Char}
    (h : specifier? text = some (found, rest)) : rest.length < text.length := by
  unfold specifier? at h
  split at h
  · simp at h
  · next quote r =>
    split at h
    · simp only at h
      split at h
      · next c after heq =>
        split at h <;> simp only [Option.some.injEq, Prod.mk.injEq, reduceCtorEq] at h
        have hle := (List.dropWhile_sublist (l := r)
          (fun c => decide (c ≠ quote ∧ c ≠ '\\' ∧ c ≠ '\n'))).length_le
        rw [heq, List.length_cons] at hle
        obtain ⟨_, rfl⟩ := h
        simp only [List.length_cons]
        omega
      · simp at h
    · simp at h

theorem length_skipGap_le (text : List Char) : (skipGap text).length ≤ text.length :=
  (List.dropWhile_sublist isGap).length_le

theorem length_skipClause_le (text : List Char) : (skipClause text).length ≤ text.length := by
  fun_induction skipClause text with
  | case1 text rest h ih =>
    have := length_clauseItem?_lt h
    omega
  | case2 text h => exact Nat.le_refl _

theorem length_clause?_lt {text rest : List Char} (h : clause? text = some rest) :
    rest.length < text.length := by
  obtain ⟨t, ht, rfl⟩ := Option.map_eq_some_iff.1 h
  have := length_clauseItem?_lt ht
  have := length_skipClause_le t
  omega

theorem length_from?_lt {text found rest : List Char} (h : from? text = some (found, rest)) :
    rest.length < text.length := by
  simp only [from?, Option.bind_eq_bind, Option.bind_eq_some_iff] at h
  obtain ⟨t, ht, h⟩ := h
  have := length_keyword?_le ht
  have := length_skipGap_le text
  have := length_skipGap_le t
  have := length_specifier?_lt h
  omega

theorem length_call?_lt {name text found rest : List Char}
    (h : call? name text = some (found, rest)) : rest.length < text.length := by
  simp only [call?, Option.bind_eq_bind, Option.bind_eq_some_iff] at h
  obtain ⟨t0, h0, t1, h1, ⟨s, t2⟩, h2, t3, h3, h4⟩ := h
  simp only [Option.some.injEq, Prod.mk.injEq] at h4
  obtain ⟨_, rfl⟩ := h4
  dsimp only at *
  have := length_keyword?_le h0
  have := length_skipGap_le t0
  have := length_sign?_lt h1
  have := length_skipGap_le t1
  have := length_specifier?_lt h2
  have := length_skipGap_le t2
  have := length_sign?_lt h3
  omega

theorem length_import?_lt {text found rest : List Char}
    (h : import? text = some (found, rest)) : rest.length < text.length := by
  simp only [import?, Option.bind_eq_bind, Option.bind_eq_some_iff, Option.orElse_eq_orElse,
    Option.orElse_eq_or, Option.or_eq_some_iff] at h
  obtain ⟨t, ht, h⟩ := h
  have := length_keyword?_le ht
  have := length_skipGap_le t
  rcases h with h | ⟨_, u, hu, h⟩
  · have := length_specifier?_lt h
    omega
  · have := length_clause?_lt hu
    have := length_from?_lt h
    omega

theorem length_export?_lt {text found rest : List Char}
    (h : export? text = some (found, rest)) : rest.length < text.length := by
  simp only [export?, Option.bind_eq_bind, Option.bind_eq_some_iff] at h
  obtain ⟨t, ht, u, hu, h⟩ := h
  have := length_keyword?_le ht
  have := length_clause?_lt hu
  have := length_from?_lt h
  omega

/-- Every reference uses up at least one character. -/
theorem length_reference?_lt {text found rest : List Char}
    (h : reference? text = some (found, rest)) : rest.length < text.length := by
  simp only [reference?, Option.orElse_eq_orElse, Option.orElse_eq_or, Option.or_eq_some_iff] at h
  rcases h with h | ⟨_, h | ⟨_, h | ⟨_, h⟩⟩⟩
  · exact length_call?_lt h
  · exact length_call?_lt h
  · exact length_import?_lt h
  · exact length_export?_lt h

/-! ## Scanning -/

/-- The references in the rest of a text, in order. A word is passed over as a whole, so none
    starts in the middle of one. -/
def scan : List Char → List (List Char)
  | [] => []
  | c :: rest =>
    match _h : comment? (c :: rest) with
    | some after => scan after
    | none =>
      match _h : reference? (c :: rest) with
      | some (found, after) => found :: scan after
      | none =>
        match _h : string? (c :: rest) with
        | some after => scan after
        | none => if isWordChar c then scan (rest.dropWhile isWordChar) else scan rest
termination_by text => text.length
decreasing_by
  · exact length_comment?_lt _h
  · exact length_reference?_lt _h
  · exact length_string?_lt _h
  · have := (List.dropWhile_sublist (l := rest) isWordChar).length_le
    simp only [List.length_cons]
    omega
  · simp

/-- The references of a script, in the order in which they stand. -/
def references (source : String) : List String := (scan source.toList).map String.ofList

end Bundler.Script
