import Bundler.Settings.Statement
import Bundler.Text.Words

set_option autoImplicit false

/-! # Reading a settings file

Each reader takes the characters that are left and gives what it read with the characters after it,
or nothing. Before every word and sign there may be blanks, and a comment that runs from `#` to the
end of the line. A value is the rest of its line without the white space around it, so a `#` inside
a value belongs to it.

A statement uses up at least one character (`length_statement?_lt`), which is why reading ends. The
first statement that cannot be read ends the list; what is left is then an error on the line where
the remaining text starts. -/

namespace Bundler.Settings

/-! ## Blanks and line ends -/

/-- Spaces and tabs. -/
def isBlank (c : Char) : Bool := c == ' ' || c == '\t'

/-- The text after blanks and a comment. -/
def skipBlank (text : List Char) : List Char :=
  match text.dropWhile isBlank with
  | '#' :: rest => rest.dropWhile (· ≠ '\n')
  | rest => rest

/-- The text after a line feed, with or without a carriage return before it. -/
def lineFeed? : List Char → Option (List Char)
  | '\n' :: rest => some rest
  | '\r' :: '\n' :: rest => some rest
  | _ => none

theorem length_skipBlank_le (text : List Char) : (skipBlank text).length ≤ text.length := by
  have h := (List.dropWhile_sublist (l := text) isBlank).length_le
  unfold skipBlank
  split
  · next rest heq =>
    have := (List.dropWhile_sublist (l := rest) (· ≠ '\n')).length_le
    simp [heq] at h
    omega
  · exact h

theorem length_lineFeed?_lt {text rest : List Char} (h : lineFeed? text = some rest) :
    rest.length < text.length := by
  unfold lineFeed? at h
  split at h <;> simp only [Option.some.injEq, reduceCtorEq] at h <;> subst h <;>
    simp only [List.length_cons]
  · exact Nat.lt_succ_self _
  · exact Nat.lt_succ_of_lt (Nat.lt_succ_self _)

/-- The text after all blank lines. -/
def skipLines (text : List Char) : List Char :=
  match _h : lineFeed? (skipBlank text) with
  | some rest => skipLines rest
  | none => text
termination_by text.length
decreasing_by
  exact Nat.lt_of_lt_of_le (length_lineFeed?_lt _h) (length_skipBlank_le text)

theorem length_skipLines_le (text : List Char) : (skipLines text).length ≤ text.length := by
  fun_induction skipLines text with
  | case1 text rest h ih =>
    have := length_lineFeed?_lt h
    have := length_skipBlank_le text
    omega
  | case2 text h => exact Nat.le_refl _

/-- The text after the end of a line and the blank lines that follow it. The end of the text counts
    as the end of a line only when nothing, not even a blank, is before it. -/
def lineEnd? (text : List Char) : Option (List Char) :=
  match lineFeed? (skipBlank text) with
  | some rest => some (skipLines rest)
  | none => if text.isEmpty then some [] else none

/-! ## Words and signs -/

/-- Characters of identifiers and keywords. -/
def isWordChar (c : Char) : Bool := Unicode.isAsciiLetter c || Unicode.isAsciiDigit c || c == '_'

/-- The text after a given word, which no word character may follow. -/
def keyword? (word : String) (text : List Char) : Option (List Char) :=
  let start := skipBlank text
  if word.toList.isPrefixOf start then
    let rest := start.drop word.length
    if rest.head?.any isWordChar then none else some rest
  else none

/-- An identifier: a letter or underscore, then word characters. -/
def identifier? (text : List Char) : Option (String × List Char) :=
  let start := skipBlank text
  if start.head?.any (fun c => Unicode.isAsciiLetter c || c == '_') then
    some (.ofList (start.takeWhile isWordChar), start.dropWhile isWordChar)
  else none

/-- Characters of the names of aliases and constants. -/
def isNameChar (c : Char) : Bool :=
  !(c == ' ' || c == '\t' || c == '\r' || c == '\n' || c == '=')

/-- The name of an alias or constant. -/
def name? (text : List Char) : Option (String × List Char) :=
  let start := skipBlank text
  if start.head?.any isNameChar then
    some (.ofList (start.takeWhile isNameChar), start.dropWhile isNameChar)
  else none

/-- The text after an equals sign. -/
def equals? (text : List Char) : Option (List Char) :=
  match skipBlank text with
  | '=' :: rest => some rest
  | _ => none

/-- The trimmed rest of a line, if at least one character is left on it. -/
def value? (text : List Char) : Option (String × List Char) :=
  if text.head?.any (· ≠ '\n') then
    some (.ofList (Text.trim (text.takeWhile (· ≠ '\n'))), text.dropWhile (· ≠ '\n'))
  else none

/-- The trimmed rest of a line, which may be empty. -/
def valueOrEmpty (text : List Char) : String × List Char := (value? text).getD ("", text)

/-! ## Statements -/

/-- `name = value`, where the value may be missing. -/
def settingLine? (text : List Char) : Option (Setting × List Char) := do
  let (name, text) ← identifier? text
  let text ← equals? text
  let (value, text) := valueOrEmpty text
  let text ← lineEnd? text
  some (⟨name, value⟩, text)

/-- A word, a name and a value: what the lines of entries, aliases and constants have in common. -/
def declarationLine? (word : String) (readName : List Char → Option (String × List Char))
    (make : String → String → Statement) (text : List Char) : Option (Statement × List Char) := do
  let text ← keyword? word text
  let (name, text) ← readName text
  let text ← equals? text
  let (value, text) ← value? text
  let text ← lineEnd? text
  some (make name value, text)

/-- `entry name = path`. -/
def entryLine? : List Char → Option (Statement × List Char) :=
  declarationLine? "entry" identifier? .entry

/-- `alias start = path`. -/
def aliasLine? : List Char → Option (Statement × List Char) :=
  declarationLine? "alias" name? .aliasFor

/-- `define name = literal`. -/
def defineLine? : List Char → Option (Statement × List Char) :=
  declarationLine? "define" name? .define

/-- The default of an environment variable, if an equals sign follows its name. -/
def default? (text : List Char) : Option String × List Char :=
  match equals? text with
  | some rest => let (value, rest) := valueOrEmpty rest; (some value, rest)
  | none => (none, text)

/-- `env name` or `env name = default`. -/
def environmentLine? (text : List Char) : Option (Statement × List Char) := do
  let text ← keyword? "env" text
  let (name, text) ← identifier? text
  let (default, text) := default? text
  let text ← lineEnd? text
  some (.environment name default, text)

/-- A setting after at least one blank. -/
def indented? (text : List Char) : Option (Setting × List Char) :=
  if text.head?.any isBlank then settingLine? (text.dropWhile isBlank) else none

theorem length_lineEnd?_le {text rest : List Char} (h : lineEnd? text = some rest) :
    rest.length ≤ text.length := by
  unfold lineEnd? at h
  split at h
  · next rest' heq =>
    have := length_lineFeed?_lt heq
    have := length_skipBlank_le text
    have := length_skipLines_le rest'
    simp only [Option.some.injEq] at h
    subst h
    omega
  · split at h <;> simp at h
    subst h
    simp

theorem length_keyword?_le {word : String} {text rest : List Char}
    (h : keyword? word text = some rest) : rest.length ≤ text.length := by
  have := length_skipBlank_le text
  unfold keyword? at h
  simp only at h
  split at h <;> try simp at h
  obtain ⟨_, rfl⟩ := h
  simp only [List.length_drop]
  omega

/-- A word read off the front of a text by a class that holds its first character is not empty. -/
theorem length_dropWhile_lt {p q : Char → Bool} {text : List Char} (h : text.head?.any p = true)
    (hpq : ∀ c, p c = true → q c = true) : (text.dropWhile q).length < text.length := by
  cases text with
  | nil => simp at h
  | cons c rest =>
    have hc : q c = true := hpq c (by simpa using h)
    have := (List.dropWhile_sublist (l := rest) q).length_le
    simp only [List.dropWhile_cons, hc, if_true, List.length_cons]
    omega

theorem length_identifier?_lt {text rest : List Char} {name : String}
    (h : identifier? text = some (name, rest)) : rest.length < text.length := by
  have hle := length_skipBlank_le text
  unfold identifier? at h
  simp only at h
  split at h <;> simp at h
  next hhead =>
  obtain ⟨_, rfl⟩ := h
  refine Nat.lt_of_lt_of_le (length_dropWhile_lt hhead ?_) hle
  intro c hc
  simp only [isWordChar, Bool.or_eq_true] at hc ⊢
  exact hc.elim (fun h => .inl (.inl h)) .inr

theorem length_name?_lt {text rest : List Char} {name : String}
    (h : name? text = some (name, rest)) : rest.length < text.length := by
  have hle := length_skipBlank_le text
  unfold name? at h
  simp only at h
  split at h <;> simp at h
  next hhead =>
  obtain ⟨_, rfl⟩ := h
  exact Nat.lt_of_lt_of_le (length_dropWhile_lt hhead fun _ hc => hc) hle

theorem length_equals?_lt {text rest : List Char} (h : equals? text = some rest) :
    rest.length < text.length := by
  have hle := length_skipBlank_le text
  unfold equals? at h
  split at h <;> simp at h
  next heq =>
  subst h
  simp [heq] at hle
  omega

theorem length_value?_le {text rest : List Char} {value : String}
    (h : value? text = some (value, rest)) : rest.length ≤ text.length := by
  unfold value? at h
  split at h <;> simp only [Option.some.injEq, Prod.mk.injEq, reduceCtorEq] at h
  obtain ⟨_, rfl⟩ := h
  exact (List.dropWhile_sublist _).length_le

theorem length_valueOrEmpty_le (text : List Char) :
    (valueOrEmpty text).2.length ≤ text.length := by
  unfold valueOrEmpty
  cases h : value? text with
  | none => simp
  | some found => exact length_value?_le h

theorem length_default?_le (text : List Char) : (default? text).2.length ≤ text.length := by
  unfold default?
  split
  · next rest h =>
    have := length_equals?_lt h
    have := length_valueOrEmpty_le rest
    simp only
    omega
  · exact Nat.le_refl _

theorem length_settingLine?_lt {text rest : List Char} {s : Setting}
    (h : settingLine? text = some (s, rest)) : rest.length < text.length := by
  simp only [settingLine?, Option.bind_eq_bind, Option.bind_eq_some_iff] at h
  obtain ⟨⟨name, t1⟩, h1, t2, h2, t3, h3, h4⟩ := h
  simp only [Option.some.injEq, Prod.mk.injEq] at h4
  obtain ⟨_, rfl⟩ := h4
  dsimp only at *
  have := length_identifier?_lt h1
  have := length_equals?_lt h2
  have := length_valueOrEmpty_le t2
  have := length_lineEnd?_le h3
  omega

theorem length_indented?_lt {text rest : List Char} {s : Setting}
    (h : indented? text = some (s, rest)) : rest.length < text.length := by
  unfold indented? at h
  split at h
  · exact Nat.lt_of_lt_of_le (length_settingLine?_lt h) (List.dropWhile_sublist _).length_le
  · simp at h

/-- The indented settings at the start of a text. -/
def indentedSettings (text : List Char) : List Setting × List Char :=
  match _h : indented? text with
  | some (s, rest) =>
    let (settings, rest) := indentedSettings rest
    (s :: settings, rest)
  | none => ([], text)
termination_by text.length
decreasing_by exact length_indented?_lt _h

theorem length_indentedSettings_le (text : List Char) :
    (indentedSettings text).2.length ≤ text.length := by
  fun_induction indentedSettings text with
  | case1 text s rest h settings rest' heq ih =>
    have := length_indented?_lt h
    simp only [heq] at ih
    simp only
    omega
  | case2 text h => exact Nat.le_refl _

/-- `rule name` and the indented settings after it. -/
def ruleLines? (text : List Char) : Option (Statement × List Char) := do
  let text ← keyword? "rule" text
  let (name, text) ← identifier? text
  let text ← lineEnd? text
  let (settings, text) := indentedSettings text
  some (.rule name settings, text)

/-- A statement of any kind. A word that starts no statement of its own kind may still be the name
    of a setting. -/
def statement? (text : List Char) : Option (Statement × List Char) :=
  aliasLine? text <|> defineLine? text <|> entryLine? text <|> environmentLine? text <|>
    ruleLines? text <|> (settingLine? text).map fun (s, rest) => (.setting s, rest)

theorem length_declarationLine?_lt {word : String}
    {readName : List Char → Option (String × List Char)} {make : String → String → Statement}
    (hname : ∀ {text rest name}, readName text = some (name, rest) → rest.length < text.length)
    {text rest : List Char} {s : Statement}
    (h : declarationLine? word readName make text = some (s, rest)) :
    rest.length < text.length := by
  simp only [declarationLine?, Option.bind_eq_bind, Option.bind_eq_some_iff] at h
  obtain ⟨gap, hword, ⟨name, sign⟩, hread, back, hsign, ⟨value, last⟩, hvalue, _, hlast, heq⟩ := h
  obtain ⟨-, rfl⟩ := Prod.mk.inj (Option.some.inj heq)
  have := length_keyword?_le hword
  have := hname hread
  have := length_equals?_lt hsign
  have := length_value?_le hvalue
  have := length_lineEnd?_le hlast
  dsimp only at *
  omega

theorem length_environmentLine?_lt {text rest : List Char} {s : Statement}
    (h : environmentLine? text = some (s, rest)) : rest.length < text.length := by
  simp only [environmentLine?, Option.bind_eq_bind, Option.bind_eq_some_iff] at h
  obtain ⟨gap, hword, ⟨name, sign⟩, hread, _, hlast, heq⟩ := h
  obtain ⟨-, rfl⟩ := Prod.mk.inj (Option.some.inj heq)
  have := length_keyword?_le hword
  have := length_identifier?_lt hread
  have := length_default?_le sign
  have := length_lineEnd?_le hlast
  dsimp only at *
  omega

theorem length_ruleLines?_lt {text rest : List Char} {s : Statement}
    (h : ruleLines? text = some (s, rest)) : rest.length < text.length := by
  simp only [ruleLines?, Option.bind_eq_bind, Option.bind_eq_some_iff] at h
  obtain ⟨gap, hword, ⟨name, last⟩, hread, next, hlast, heq⟩ := h
  obtain ⟨-, rfl⟩ := Prod.mk.inj (Option.some.inj heq)
  have := length_keyword?_le hword
  have := length_identifier?_lt hread
  have := length_lineEnd?_le hlast
  have := length_indentedSettings_le next
  dsimp only at *
  omega

/-- Every statement uses up at least one character. -/
theorem length_statement?_lt {text rest : List Char} {s : Statement}
    (h : statement? text = some (s, rest)) : rest.length < text.length := by
  simp only [statement?, Option.orElse_eq_orElse, Option.orElse_eq_or, Option.or_eq_some_iff] at h
  rcases h with
    halias | ⟨-, hdefine | ⟨-, hentry | ⟨-, henvironment | ⟨-, hrule | ⟨-, hsetting⟩⟩⟩⟩⟩
  · exact length_declarationLine?_lt length_name?_lt halias
  · exact length_declarationLine?_lt length_name?_lt hdefine
  · exact length_declarationLine?_lt length_identifier?_lt hentry
  · exact length_environmentLine?_lt henvironment
  · exact length_ruleLines?_lt hrule
  · obtain ⟨⟨setting, _⟩, hline, heq⟩ := Option.map_eq_some_iff.1 hsetting
    obtain ⟨-, rfl⟩ := Prod.mk.inj heq
    exact length_settingLine?_lt hline

/-! ## Files -/

/-- The statements at the start of a text. -/
def statements (text : List Char) : List Statement × List Char :=
  match _h : statement? text with
  | some (s, rest) =>
    let (found, rest) := statements rest
    (s :: found, rest)
  | none => ([], text)
termination_by text.length
decreasing_by exact length_statement?_lt _h

/-- A settings file that cannot be read, with the line where reading stopped. -/
structure ReadError where
  line : Nat
deriving DecidableEq, Repr

/-- The message for a settings file that cannot be read. -/
def ReadError.message (e : ReadError) : String :=
  "invalid configuration syntax at line " ++ toString e.line

/-- The statements of a settings file. -/
def read (source : String) : Except ReadError (List Statement) :=
  let text := source.toList
  let (found, rest) := statements (skipLines text)
  let rest := skipBlank rest
  if rest.isEmpty then .ok found
  else .error ⟨1 + (text.take (text.length - rest.length)).count '\n'⟩

end Bundler.Settings
