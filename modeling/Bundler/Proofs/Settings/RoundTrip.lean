import Bundler.Proofs.Text.Starts
import Bundler.Settings.Grammar
import Mathlib.Data.List.Basic

set_option autoImplicit false

/-! # Reading what was written

A settings file in its plain written form is read back as it was (`read_render`), provided that its
names and values are such that a reader of a line can tell where they end (`Statement.IsWritable`).
Each reader gives back what was written and stops at the text after it, whatever that text is, as
long as it does not go on with a character of the same kind. A line ends where the next one starts
with a word (`StartsWord`) or with a setting of a rule.

A word that starts a statement may also be the name of a setting: then an equals sign follows, where
the statement has a name. So where one reader finds a statement, the others find nothing
(`statement?_eq_some_iff`). -/

namespace Bundler.Settings

open Text (takeWhile_append_of_head)

/-! ## What can be written -/

/-- Whether a name is a letter or underscore, then letters, digits and underscores. -/
def IsIdentifier (name : String) : Prop :=
  name.toList.head?.any (fun c => Unicode.isAsciiLetter c || c == '_') = true ∧
    ∀ c ∈ name.toList, isWordChar c = true

-- only the characters of the name are looked at, not all that there are
instance (name : String) : Decidable (IsIdentifier name) :=
  haveI : Decidable (∀ c ∈ name.toList, isWordChar c = true) := List.decidableBAll _ _
  inferInstanceAs (Decidable (_ ∧ _))

/-- The words that start the statements other than settings. -/
def keywords : List String := ["alias", "define", "entry", "env", "rule"]

theorem isIdentifier_of_mem_keywords : ∀ word ∈ keywords, IsIdentifier word := by
  decide

/-- Whether a name of an alias or constant is a word of its own and no comment. -/
def IsName (name : String) : Prop :=
  name ≠ "" ∧ name.toList.head? ≠ some '#' ∧
    ∀ c ∈ name.toList, c ≠ ' ' ∧ c ≠ '\t' ∧ c ≠ '\r' ∧ c ≠ '\n' ∧ c ≠ '='

instance (name : String) : Decidable (IsName name) :=
  haveI : Decidable (∀ c ∈ name.toList, c ≠ ' ' ∧ c ≠ '\t' ∧ c ≠ '\r' ∧ c ≠ '\n' ∧ c ≠ '=') :=
    List.decidableBAll _ _
  inferInstanceAs (Decidable (_ ∧ _ ∧ _))

/-- Whether a value is on one line without white space around it. -/
def IsValue (value : String) : Prop :=
  '\n' ∉ value.toList ∧ Text.trim value.toList = value.toList

instance (value : String) : Decidable (IsValue value) :=
  inferInstanceAs (Decidable (_ ∧ _))

/-- Whether a setting can be read back. -/
def Setting.IsWritable (s : Setting) : Prop := IsIdentifier s.name ∧ IsValue s.value

instance (s : Setting) : Decidable s.IsWritable :=
  inferInstanceAs (Decidable (_ ∧ _))

/-- Whether a statement can be read back. -/
def Statement.IsWritable : Statement → Prop
  | .aliasFor start path => IsName start ∧ IsValue path
  | .define name literal => IsName name ∧ IsValue literal
  | .entry name path => IsIdentifier name ∧ IsValue path
  | .environment name default => IsIdentifier name ∧ ∀ value ∈ default, IsValue value
  | .rule name settings => IsIdentifier name ∧ ∀ s ∈ settings, s.IsWritable
  | .setting s => s.IsWritable

instance : (s : Statement) → Decidable s.IsWritable
  | .aliasFor _ _ => inferInstanceAs (Decidable (_ ∧ _))
  | .define _ _ => inferInstanceAs (Decidable (_ ∧ _))
  | .entry _ _ => inferInstanceAs (Decidable (_ ∧ _))
  | .environment _ _ => inferInstanceAs (Decidable (_ ∧ _))
  | .rule _ _ => inferInstanceAs (Decidable (_ ∧ _))
  | .setting s => inferInstanceAs (Decidable s.IsWritable)

/-! ## Where lines start -/

/-- Whether a text is empty or starts with a character of a word. -/
def StartsWord (text : List Char) : Prop := text.head?.all isWordChar = true

/-- Whether a text does not start with a blank line. -/
def StartsLine (text : List Char) : Prop := lineFeed? (skipBlank text) = none

theorem skipBlank_of_ne {c : Char} (hblank : isBlank c = false) (hcomment : c ≠ '#')
    (text : List Char) : skipBlank (c :: text) = c :: text := by
  unfold skipBlank
  rw [List.dropWhile_cons_of_neg (by simp [hblank])]
  split
  · next heq => exact absurd (List.cons.inj heq).1 hcomment
  · rfl

/-- No character of a word is a blank, a sign or the end of a line. -/
theorem ne_of_isWordChar {c : Char} (h : isWordChar c = true) :
    isBlank c = false ∧ c ≠ '#' ∧ c ≠ '\n' ∧ c ≠ '\r' := by
  refine ⟨?_, ?_, ?_, ?_⟩
  · rw [Bool.eq_false_iff]
    intro hblank
    rcases Bool.or_eq_true_iff.1 hblank with h' | h' <;> rw [eq_of_beq h'] at h <;> cases h
  all_goals
    rintro rfl
    cases h

theorem StartsWord.skipBlank_eq {text : List Char} (h : StartsWord text) :
    skipBlank text = text := by
  cases text with
  | nil => rfl
  | cons c rest =>
    obtain ⟨hblank, hcomment, -⟩ := ne_of_isWordChar h
    exact skipBlank_of_ne hblank hcomment rest

theorem StartsWord.dropWhile_eq {text : List Char} (h : StartsWord text) :
    text.dropWhile isBlank = text := by
  cases text with
  | nil => rfl
  | cons c rest =>
    have hblank : isBlank c = false := (ne_of_isWordChar h).1
    exact List.dropWhile_cons_of_neg (by simp [hblank])

theorem StartsWord.startsLine {text : List Char} (h : StartsWord text) : StartsLine text := by
  unfold StartsLine
  rw [h.skipBlank_eq]
  cases text with
  | nil => rfl
  | cons c rest =>
    obtain ⟨-, -, hfeed, hreturn⟩ := ne_of_isWordChar h
    unfold lineFeed?
    split
    · next heq => exact absurd (List.cons.inj heq).1 hfeed
    · next heq => exact absurd (List.cons.inj heq).1 hreturn
    · rfl

theorem StartsLine.skipLines_eq {text : List Char} (h : StartsLine text) :
    skipLines text = text := by
  rw [skipLines]
  split
  · next heq =>
    rw [h] at heq
    cases heq
  · rfl

theorem lineEnd?_newline {rest : List Char} (h : StartsLine rest) :
    lineEnd? ('\n' :: rest) = some rest := by
  show some (skipLines rest) = _
  rw [h.skipLines_eq]

/-! ## Words and signs -/

theorem IsIdentifier.startsWord {name : String} (h : IsIdentifier name) (rest : List Char) :
    StartsWord (name.toList ++ rest) := by
  obtain ⟨hfirst, hall⟩ := h
  cases hname : name.toList with
  | nil =>
    rw [hname] at hfirst
    cases hfirst
  | cons c more => exact hall c (hname ▸ List.mem_cons_self)

theorem identifier?_append {name : String} (h : IsIdentifier name) {rest : List Char}
    (hrest : rest.head?.any isWordChar = false) :
    identifier? (name.toList ++ rest) = some (name, rest) := by
  obtain ⟨htake, hdrop⟩ := takeWhile_append_of_head h.2 hrest
  have hfirst : (name.toList ++ rest).head?.any (fun c => Unicode.isAsciiLetter c || c == '_')
      = true := by
    rw [List.head?_append]
    exact Option.any_or_of_any_left h.1
  unfold identifier?
  rw [(h.startsWord rest).skipBlank_eq]
  simp only [hfirst, htake, hdrop, if_true, String.ofList_toList]

/-- A keyword is read where it is the first word of a text. -/
theorem keyword?_eq_ite {word : String} (hword : word ∈ keywords) (text : List Char) :
    keyword? word text = if (skipBlank text).takeWhile isWordChar = word.toList
      then some ((skipBlank text).dropWhile isWordChar) else none := by
  have hchars := (isIdentifier_of_mem_keywords word hword).2
  unfold keyword?
  generalize skipBlank text = start
  dsimp only
  by_cases hstart : word.toList <+: start
  · obtain ⟨rest, rfl⟩ := hstart
    rw [if_pos (List.isPrefixOf_iff_prefix.2 (List.prefix_append _ _)), ← String.length_toList,
      List.drop_left, List.takeWhile_append_of_pos hchars, List.dropWhile_append_of_pos hchars]
    cases rest with
    | nil => simp
    | cons c rest =>
      by_cases hc : isWordChar c = true
      · simp [hc]
      · simp [hc]
  · rw [if_neg (mt List.isPrefixOf_iff_prefix.1 hstart), if_neg]
    intro heq
    exact hstart (heq ▸ List.takeWhile_prefix _)

/-- A keyword is read off a word if the word is the keyword. -/
theorem keyword?_append {name : String} (h : IsIdentifier name) {rest : List Char}
    (hrest : rest.head?.any isWordChar = false) {word : String} (hword : word ∈ keywords) :
    keyword? word (name.toList ++ rest) = if name = word then some rest else none := by
  obtain ⟨htake, hdrop⟩ := takeWhile_append_of_head h.2 hrest
  rw [keyword?_eq_ite hword, (h.startsWord rest).skipBlank_eq, htake, hdrop]
  simp only [String.toList_inj]

theorem name?_append {name : String} (h : IsName name) {rest : List Char}
    (hrest : rest.head?.any isNameChar = false) :
    name? (name.toList ++ rest) = some (name, rest) := by
  obtain ⟨hne, hcomment, hall⟩ := h
  have hchars : ∀ c ∈ name.toList, isNameChar c = true := by
    intro c hc
    obtain ⟨h1, h2, h3, h4, h5⟩ := hall c hc
    simp [isNameChar, h1, h2, h3, h4, h5]
  obtain ⟨htake, hdrop⟩ := takeWhile_append_of_head hchars hrest
  have hskip : skipBlank (name.toList ++ rest) = name.toList ++ rest ∧
      (name.toList ++ rest).head?.any isNameChar = true := by
    cases hname : name.toList with
    | nil => exact absurd (String.toList_inj.1 hname) hne
    | cons c more =>
      have hc : c ∈ name.toList := hname ▸ List.mem_cons_self
      rw [hname] at hcomment
      have hblank : isBlank c = false := by simp [isBlank, hall c hc]
      exact ⟨skipBlank_of_ne hblank (fun heq => hcomment (congrArg some heq)) _, hchars c hc⟩
  unfold name?
  rw [hskip.1]
  simp only [hskip.2, htake, hdrop, if_true, String.ofList_toList]

/-! ## Assignments -/

/-- What follows a name on the line that gives it a value, and the text after that line. -/
def assignment (value : String) (rest : List Char) : List Char :=
  ' ' :: '=' :: ' ' :: (value.toList ++ '\n' :: rest)

theorem value?_append {value : String} (h : IsValue value) (rest : List Char) :
    value? (' ' :: (value.toList ++ '\n' :: rest)) = some (value, '\n' :: rest) := by
  obtain ⟨hline, htrim⟩ := h
  have hchars : ∀ c ∈ ' ' :: value.toList, decide (c ≠ '\n') = true := by
    intro c hc
    rw [decide_eq_true_iff]
    rintro rfl
    rcases List.mem_cons.1 hc with hc | hc
    · cases hc
    · exact hline hc
  have hend : ('\n' :: rest).head?.any (fun c => decide (c ≠ '\n')) = false := by simp
  obtain ⟨htake, hdrop⟩ := takeWhile_append_of_head hchars hend
  unfold value?
  rw [← List.cons_append, htake, hdrop, if_pos (by simp)]
  -- the space after the equals sign is not part of the value
  have hspace : Text.trim (' ' :: value.toList) = Text.trim value.toList := rfl
  rw [hspace, htrim, String.ofList_toList]

theorem equals?_assignment (value : String) (rest : List Char) :
    equals? (assignment value rest) = some (' ' :: (value.toList ++ '\n' :: rest)) := rfl

theorem valueOrEmpty_append {value : String} (h : IsValue value) (rest : List Char) :
    valueOrEmpty (' ' :: (value.toList ++ '\n' :: rest)) = (value, '\n' :: rest) := by
  unfold valueOrEmpty
  rw [value?_append h]
  rfl

/-! ## Settings -/

theorem Setting.toList_render (s : Setting) (rest : List Char) :
    s.render.toList ++ rest = s.name.toList ++ assignment s.value rest := by
  simp [render, assignment]

theorem settingLine?_render {s : Setting} (h : s.IsWritable) {rest : List Char}
    (hrest : StartsLine rest) : settingLine? (s.render.toList ++ rest) = some (s, rest) := by
  have hname : identifier? (s.name.toList ++ assignment s.value rest)
      = some (s.name, assignment s.value rest) := identifier?_append h.1 rfl
  unfold settingLine?
  simp only [s.toList_render, hname, equals?_assignment, valueOrEmpty_append h.2,
    lineEnd?_newline hrest, Option.bind_eq_bind, Option.bind_some]

/-- The text of the settings of a rule. -/
def indentedText (settings : List Setting) : List Char :=
  settings.flatMap fun s => ' ' :: ' ' :: s.render.toList

theorem Setting.IsWritable.startsWord {s : Setting} (h : s.IsWritable) (rest : List Char) :
    StartsWord (s.render.toList ++ rest) := by
  rw [s.toList_render]
  exact h.1.startsWord _

theorem indentedSettings_of_some {text rest : List Char} {s : Setting}
    (h : indented? text = some (s, rest)) :
    indentedSettings text = (s :: (indentedSettings rest).1, (indentedSettings rest).2) := by
  rw [indentedSettings]
  split
  · next heq =>
    rw [h] at heq
    cases heq
    rfl
  · next heq =>
    rw [h] at heq
    cases heq

theorem indentedSettings_of_none {text : List Char} (h : indented? text = none) :
    indentedSettings text = ([], text) := by
  rw [indentedSettings]
  split
  · next heq => cases heq.symm.trans h
  · rfl

theorem indentedSettings_of_startsWord {text : List Char} (h : StartsWord text) :
    indentedSettings text = ([], text) := by
  refine indentedSettings_of_none ?_
  unfold indented?
  cases text with
  | nil => rfl
  | cons c rest =>
    have hblank : isBlank c = false := (ne_of_isWordChar h).1
    simp [hblank]

/-- The settings of a rule end where a line is not indented. -/
theorem indentedSettings_append {settings : List Setting} (h : ∀ s ∈ settings, s.IsWritable)
    {rest : List Char} (hrest : StartsWord rest) :
    StartsLine (indentedText settings ++ rest) ∧
      indentedSettings (indentedText settings ++ rest) = (settings, rest) := by
  induction settings with
  | nil => exact ⟨hrest.startsLine, indentedSettings_of_startsWord hrest⟩
  | cons s others ih =>
    obtain ⟨hline, hothers⟩ := ih fun t ht => h t (List.mem_cons_of_mem _ ht)
    have hs := h s List.mem_cons_self
    have htext : indentedText (s :: others) ++ rest
        = ' ' :: ' ' :: (s.render.toList ++ (indentedText others ++ rest)) := by
      simp [indentedText]
    have hword := hs.startsWord (indentedText others ++ rest)
    have hfirst : indented? (' ' :: ' ' :: (s.render.toList ++ (indentedText others ++ rest)))
        = some (s, indentedText others ++ rest) := by
      show settingLine? ((s.render.toList ++ (indentedText others ++ rest)).dropWhile isBlank) = _
      rw [hword.dropWhile_eq, settingLine?_render hs hline]
    rw [htext, indentedSettings_of_some hfirst, hothers]
    exact ⟨hword.startsLine, rfl⟩

/-! ## Lines of keywords -/

theorem keyword?_self (word : String) (h : word ∈ keywords) (rest : List Char) :
    keyword? word (word.toList ++ ' ' :: rest) = some (' ' :: rest) := by
  rw [keyword?_append (isIdentifier_of_mem_keywords word h) rfl h, if_pos rfl]

theorem declarationLine?_append {word : String} (hword : word ∈ keywords)
    {readName : List Char → Option (String × List Char)} {make : String → String → Statement}
    {name value : String} (hvalue : IsValue value) {rest : List Char} (hrest : StartsLine rest)
    (hname : readName (' ' :: (name.toList ++ assignment value rest))
      = some (name, assignment value rest)) :
    declarationLine? word readName make
        (word.toList ++ ' ' :: (name.toList ++ assignment value rest))
      = some (make name value, rest) := by
  unfold declarationLine?
  simp only [keyword?_self word hword, hname, equals?_assignment, value?_append hvalue,
    lineEnd?_newline hrest, Option.bind_eq_bind, Option.bind_some]

theorem aliasLine?_append {start path : String} (hstart : IsName start) (hpath : IsValue path)
    {rest : List Char} (hrest : StartsLine rest) :
    aliasLine? ("alias".toList ++ ' ' :: (start.toList ++ assignment path rest))
      = some (.aliasFor start path, rest) :=
  declarationLine?_append (by decide) hpath hrest (name?_append hstart rfl)

theorem defineLine?_append {name literal : String} (hname : IsName name) (hliteral : IsValue literal)
    {rest : List Char} (hrest : StartsLine rest) :
    defineLine? ("define".toList ++ ' ' :: (name.toList ++ assignment literal rest))
      = some (.define name literal, rest) :=
  declarationLine?_append (by decide) hliteral hrest (name?_append hname rfl)

theorem entryLine?_append {name path : String} (hname : IsIdentifier name) (hpath : IsValue path)
    {rest : List Char} (hrest : StartsLine rest) :
    entryLine? ("entry".toList ++ ' ' :: (name.toList ++ assignment path rest))
      = some (.entry name path, rest) :=
  declarationLine?_append (by decide) hpath hrest (identifier?_append hname rfl)

/-- What follows the name of an environment variable on its line. -/
def defaultText (default : Option String) (rest : List Char) : List Char :=
  match default with
  | none => '\n' :: rest
  | some value => assignment value rest

theorem environmentLine?_append {name : String} {default : Option String} (hname : IsIdentifier name)
    (hdefault : ∀ value ∈ default, IsValue value) {rest : List Char} (hrest : StartsLine rest) :
    environmentLine? ("env".toList ++ ' ' :: (name.toList ++ defaultText default rest))
      = some (.environment name default, rest) := by
  have hread : identifier? (' ' :: (name.toList ++ defaultText default rest))
      = some (name, defaultText default rest) := by
    refine identifier?_append hname ?_
    cases default <;> rfl
  have hvalue : default? (defaultText default rest) = (default, '\n' :: rest) := by
    cases default with
    | none => rfl
    | some value =>
      unfold default? defaultText
      simp only [equals?_assignment, valueOrEmpty_append (hdefault value rfl)]
  unfold environmentLine?
  simp only [keyword?_self "env" (by decide), hread, hvalue, lineEnd?_newline hrest,
    Option.bind_eq_bind, Option.bind_some]

theorem ruleLines?_append {name : String} {settings : List Setting} (hname : IsIdentifier name)
    (hsettings : ∀ s ∈ settings, s.IsWritable) {rest : List Char} (hrest : StartsWord rest) :
    ruleLines? ("rule".toList ++ ' ' :: (name.toList ++ '\n' :: (indentedText settings ++ rest)))
      = some (.rule name settings, rest) := by
  obtain ⟨hline, hread⟩ := indentedSettings_append hsettings hrest
  have hreadName : identifier? (' ' :: (name.toList ++ '\n' :: (indentedText settings ++ rest)))
      = some (name, '\n' :: (indentedText settings ++ rest)) := identifier?_append hname rfl
  unfold ruleLines?
  simp only [keyword?_self "rule" (by decide), hreadName, lineEnd?_newline hline, hread,
    Option.bind_eq_bind, Option.bind_some]

/-! ## The order of the readers -/

/-- Where a keyword is read, no other one is. -/
theorem keyword?_eq_none_of_ne {word word' : String} {text rest : List Char}
    (hword : word ∈ keywords) (hword' : word' ∈ keywords) (h : keyword? word text = some rest)
    (hne : word ≠ word') : keyword? word' text = none := by
  rw [keyword?_eq_ite hword] at h
  rw [keyword?_eq_ite hword']
  split at h
  · next heq => rw [if_neg (heq ▸ mt String.toList_inj.1 hne)]
  · cases h

/-- Where a keyword is not read, no statement of that keyword is. -/
theorem lines_of_keyword?_eq_none (text : List Char) :
    (keyword? "alias" text = none → aliasLine? text = none) ∧
    (keyword? "define" text = none → defineLine? text = none) ∧
    (keyword? "entry" text = none → entryLine? text = none) ∧
    (keyword? "env" text = none → environmentLine? text = none) ∧
    (keyword? "rule" text = none → ruleLines? text = none) := by
  have hnone {word : String} {next : List Char → Option (Statement × List Char)}
      (h : keyword? word text = none) : (keyword? word text >>= next) = none := by
    rw [h]
    rfl
  exact ⟨hnone, hnone, hnone, hnone, hnone⟩

/-- A keyword starts only statements of its own kind. -/
theorem lines_of_keyword {word : String} (hword : word ∈ keywords) {text rest : List Char}
    (h : keyword? word text = some rest) :
    (word ≠ "alias" → aliasLine? text = none) ∧ (word ≠ "define" → defineLine? text = none) ∧
      (word ≠ "entry" → entryLine? text = none) ∧
      (word ≠ "env" → environmentLine? text = none) := by
  have hnone : ∀ word' ∈ keywords, word ≠ word' → keyword? word' text = none :=
    fun word' hword' hne => keyword?_eq_none_of_ne hword hword' h hne
  obtain ⟨halias, hdefine, hentry, henvironment, -⟩ := lines_of_keyword?_eq_none text
  exact ⟨fun hne => halias (hnone _ (by decide) hne), fun hne => hdefine (hnone _ (by decide) hne),
    fun hne => hentry (hnone _ (by decide) hne), fun hne => henvironment (hnone _ (by decide) hne)⟩

/-- A keyword is read where an identifier is only if it is that identifier. -/
theorem keyword?_of_identifier? {text rest : List Char} {name : String}
    (h : identifier? text = some (name, rest)) {word : String} (hword : word ∈ keywords) :
    keyword? word text = none ∨ keyword? word text = some rest := by
  unfold identifier? at h
  dsimp only at h
  split at h
  · obtain ⟨-, rfl⟩ := Prod.mk.inj (Option.some.inj h)
    rw [keyword?_eq_ite hword]
    split
    · exact .inr rfl
    · exact .inl rfl
  · cases h

theorem identifier?_eq_none_of_equals? {text rest : List Char} (h : equals? text = some rest) :
    identifier? text = none ∧ name? text = none := by
  unfold equals? at h
  split at h
  · next heq =>
    unfold identifier? name?
    rw [heq]
    exact ⟨rfl, rfl⟩
  · cases h

/-- Where a setting is read, no other statement is. -/
theorem statement?_of_settingLine? {text rest : List Char} {s : Setting}
    (h : settingLine? text = some (s, rest)) : statement? text = some (.setting s, rest) := by
  have hsetting := h
  simp only [settingLine?, Option.bind_eq_bind, Option.bind_eq_some_iff] at h
  obtain ⟨⟨name, gap⟩, hname, next, hequals, -⟩ := h
  obtain ⟨hidentifier, hstart⟩ := identifier?_eq_none_of_equals? hequals
  have hkeyword : ∀ word ∈ keywords, ∀ {β : Type} (next : List Char → Option β),
      next gap = none → (keyword? word text >>= next) = none := by
    intro word hword β next hnext
    rcases keyword?_of_identifier? hname hword with hnone | hsome
    · rw [hnone]
      rfl
    · rw [hsome]
      exact hnext
  have halias : aliasLine? text = none := hkeyword "alias" (by decide) _ (by rw [hstart]; rfl)
  have hdefine : defineLine? text = none := hkeyword "define" (by decide) _ (by rw [hstart]; rfl)
  have hentry : entryLine? text = none := hkeyword "entry" (by decide) _ (by rw [hidentifier]; rfl)
  have henvironment : environmentLine? text = none :=
    hkeyword "env" (by decide) _ (by rw [hidentifier]; rfl)
  have hrule : ruleLines? text = none := hkeyword "rule" (by decide) _ (by rw [hidentifier]; rfl)
  rw [statement?, halias, hdefine, hentry, henvironment, hrule, hsetting]
  rfl

/-- The order in which the readers are tried does not matter: where a keyword is read, the readers of
    other keywords find nothing. -/
theorem statement?_eq_some_iff {text : List Char} {found : Statement × List Char} :
    statement? text = some found ↔
      aliasLine? text = some found ∨ defineLine? text = some found ∨
      entryLine? text = some found ∨ environmentLine? text = some found ∨
      ruleLines? text = some found ∨
      ∃ s rest, settingLine? text = some (s, rest) ∧ (.setting s, rest) = found := by
  constructor
  · intro h
    simp only [statement?, Option.orElse_eq_orElse, Option.orElse_eq_or, Option.or_eq_some_iff,
      Option.map_eq_some_iff, Prod.exists] at h
    exact h.imp_right fun h => h.2.imp_right fun h => h.2.imp_right fun h => h.2.imp_right
      fun h => h.2.imp_right fun h => h.2
  · rintro (h | h | h | h | h | ⟨s, rest, h, rfl⟩)
    · rw [statement?, h]
      rfl
    · obtain ⟨gap, hword, -⟩ := Option.bind_eq_some_iff.1 h
      obtain ⟨halias, -⟩ := lines_of_keyword (by decide) hword
      rw [statement?, halias (by decide), h]
      rfl
    · obtain ⟨gap, hword, -⟩ := Option.bind_eq_some_iff.1 h
      obtain ⟨halias, hdefine, -⟩ := lines_of_keyword (by decide) hword
      rw [statement?, halias (by decide), hdefine (by decide), h]
      rfl
    · obtain ⟨gap, hword, -⟩ := Option.bind_eq_some_iff.1 h
      obtain ⟨halias, hdefine, hentry, -⟩ := lines_of_keyword (by decide) hword
      rw [statement?, halias (by decide), hdefine (by decide), hentry (by decide), h]
      rfl
    · obtain ⟨gap, hword, -⟩ := Option.bind_eq_some_iff.1 h
      obtain ⟨halias, hdefine, hentry, henvironment⟩ := lines_of_keyword (by decide) hword
      rw [statement?, halias (by decide), hdefine (by decide), hentry (by decide),
        henvironment (by decide), h]
      rfl
    · exact statement?_of_settingLine? h

/-! ## Statements -/

/-- The word that a statement starts with. -/
def Statement.word : Statement → String
  | .aliasFor _ _ => "alias"
  | .define _ _ => "define"
  | .entry _ _ => "entry"
  | .environment _ _ => "env"
  | .rule _ _ => "rule"
  | .setting s => s.name

/-- What follows the first word of a statement, and the text after its lines. -/
def Statement.afterWord (rest : List Char) : Statement → List Char
  | .aliasFor start path => ' ' :: (start.toList ++ assignment path rest)
  | .define name literal => ' ' :: (name.toList ++ assignment literal rest)
  | .entry name path => ' ' :: (name.toList ++ assignment path rest)
  | .environment name default => ' ' :: (name.toList ++ defaultText default rest)
  | .rule name settings => ' ' :: (name.toList ++ '\n' :: (indentedText settings ++ rest))
  | .setting s => assignment s.value rest

theorem Statement.toList_render (s : Statement) (rest : List Char) :
    s.render.toList ++ rest = s.word.toList ++ s.afterWord rest := by
  cases s with
  | aliasFor start path => simp [render, word, afterWord, assignment]
  | define name literal => simp [render, word, afterWord, assignment]
  | entry name path => simp [render, word, afterWord, assignment]
  | environment name default =>
    cases default <;> simp [render, word, afterWord, defaultText, assignment]
  | rule name settings =>
    simp [render, word, afterWord, indentedText, String.toList_join, List.flatMap_map]
  | setting s => exact s.toList_render rest

theorem Statement.IsWritable.startsWord {s : Statement} (h : s.IsWritable) (rest : List Char) :
    StartsWord (s.render.toList ++ rest) := by
  have hword : IsIdentifier s.word := by
    cases s with
    | aliasFor start path => exact isIdentifier_of_mem_keywords "alias" (by decide)
    | define name literal => exact isIdentifier_of_mem_keywords "define" (by decide)
    | entry name path => exact isIdentifier_of_mem_keywords "entry" (by decide)
    | environment name default => exact isIdentifier_of_mem_keywords "env" (by decide)
    | rule name settings => exact isIdentifier_of_mem_keywords "rule" (by decide)
    | setting s => exact h.1
  rw [s.toList_render]
  exact hword.startsWord _

/-- A statement is read back from its lines, whatever statement follows. -/
theorem statement?_render {s : Statement} (h : s.IsWritable) {rest : List Char}
    (hrest : StartsWord rest) : statement? (s.render.toList ++ rest) = some (s, rest) := by
  have hline := hrest.startsLine
  rw [s.toList_render, statement?_eq_some_iff]
  unfold Statement.word Statement.afterWord
  cases s with
  | aliasFor start path => exact .inl (aliasLine?_append h.1 h.2 hline)
  | define name literal => exact .inr (.inl (defineLine?_append h.1 h.2 hline))
  | entry name path => exact .inr (.inr (.inl (entryLine?_append h.1 h.2 hline)))
  | environment name default =>
    exact .inr (.inr (.inr (.inl (environmentLine?_append h.1 h.2 hline))))
  | rule name settings =>
    exact .inr (.inr (.inr (.inr (.inl (ruleLines?_append h.1 h.2 hrest)))))
  | setting s =>
    have hread := settingLine?_render h hline
    rw [s.toList_render] at hread
    exact .inr (.inr (.inr (.inr (.inr ⟨s, rest, hread, rfl⟩))))

/-! ## Files -/

theorem toList_render_cons (s : Statement) (others : List Statement) :
    (render (s :: others)).toList = s.render.toList ++ (render others).toList := by
  unfold render
  rw [List.map_cons, String.join_cons, String.toList_append]

theorem startsWord_render {statements : List Statement} (h : ∀ s ∈ statements, s.IsWritable) :
    StartsWord (render statements).toList := by
  cases statements with
  | nil => rfl
  | cons s others =>
    rw [toList_render_cons]
    exact (h s List.mem_cons_self).startsWord _

theorem statements_of_some {text rest : List Char} {s : Statement}
    (h : statement? text = some (s, rest)) :
    statements text = (s :: (statements rest).1, (statements rest).2) := by
  rw [statements]
  split
  · next heq =>
    rw [h] at heq
    cases heq
    rfl
  · next heq =>
    rw [h] at heq
    cases heq

theorem statements_render {l : List Statement} (h : ∀ s ∈ l, s.IsWritable) :
    statements (render l).toList = (l, []) := by
  induction l with
  | nil => decide +kernel
  | cons s others ih =>
    have hothers : ∀ t ∈ others, t.IsWritable := fun t ht => h t (List.mem_cons_of_mem _ ht)
    have hfirst := statement?_render (h s List.mem_cons_self) (startsWord_render hothers)
    rw [toList_render_cons, statements_of_some hfirst, ih hothers]

/-- Statements are read back from their plain written form. -/
theorem read_render (l : List Statement) (h : ∀ s ∈ l, s.IsWritable) :
    read (render l) = .ok l := by
  have hskip : skipLines (render l).toList = (render l).toList :=
    (startsWord_render h).startsLine.skipLines_eq
  unfold read
  simp only [hskip, statements_render h]
  rfl

/-- Settings that are named like keywords, values with signs and without characters, and a setting
    that follows a rule. -/
def ambiguous : List Statement :=
  [.setting ⟨"entry", "main = a.js"⟩, .setting ⟨"env", ""⟩, .setting ⟨"alias", "= #"⟩,
    .entry "rule" "", .aliasFor "@#/" "# a = b", .define "process.env.A" "\"a b\"",
    .environment "define" (some ""), .environment "_" none,
    .rule "env" [⟨"rule", "# = x"⟩, ⟨"use", ""⟩], .setting ⟨"rule", "a"⟩, .rule "empty" []]

theorem read_render_ambiguous :
    (∀ s ∈ ambiguous, s.IsWritable) ∧ read (render ambiguous) = .ok ambiguous := by
  have hwritable : ∀ s ∈ ambiguous, s.IsWritable := by decide
  exact ⟨hwritable, read_render ambiguous hwritable⟩

end Bundler.Settings
