import Bundler.Proofs.Settings.Lines
import Bundler.Proofs.Text.Trim

set_option autoImplicit false

/-! # Line ends with carriage returns

A line may end with a line feed alone, or with a carriage return before it. Texts that differ in
this only (`AddsReturns`) are read alike: every reader that finds something in the text without
carriage returns finds the same in the other one, and what the two leave over differs in this only.
So a file that can be read holds the same statements if all its lines get carriage returns
(`read_withReturns`).

A carriage return is a character, so behind an equals sign it may be all that there is on a line.
Then the text with it has an empty value where the other one has none, and a file that cannot be
read may be one that can. That is why the readers of values that have to be there, and of all that
holds such values, are followed in one direction only (`Keeps`), the others in both. -/

namespace Bundler.Settings

open Text (trim_concat_of_isSpace)

/-! ## Texts with carriage returns -/

/-- A text without carriage returns, and the same text with one before some of its line feeds. -/
inductive AddsReturns : List Char → List Char → Prop
  | nil : AddsReturns [] []
  | char {c : Char} {text text' : List Char} (hfeed : c ≠ '\n') (hreturn : c ≠ '\r')
      (h : AddsReturns text text') : AddsReturns (c :: text) (c :: text')
  | feed {text text' : List Char} (h : AddsReturns text text') :
      AddsReturns ('\n' :: text) ('\n' :: text')
  | returnFeed {text text' : List Char} (h : AddsReturns text text') :
      AddsReturns ('\n' :: text) ('\r' :: '\n' :: text')

namespace AddsReturns

variable {text text' : List Char}

theorem takeWhile_eq {p : Char → Bool} (hfeed : p '\n' = false) (hreturn : p '\r' = false)
    (h : AddsReturns text text') : text'.takeWhile p = text.takeWhile p := by
  induction h with
  | nil => rfl
  | char _ _ _ ih => rw [List.takeWhile_cons, List.takeWhile_cons, ih]
  | feed _ _ => simp [hfeed]
  | returnFeed _ _ => simp [hfeed, hreturn]

theorem dropWhile {p : Char → Bool} (hfeed : p '\n' = false) (hreturn : p '\r' = false)
    (h : AddsReturns text text') : AddsReturns (text.dropWhile p) (text'.dropWhile p) := by
  induction h with
  | nil => exact .nil
  | char hc hc' h ih =>
    rw [List.dropWhile_cons, List.dropWhile_cons]
    split
    · exact ih
    · exact .char hc hc' h
  | feed h _ => simpa [hfeed] using AddsReturns.feed h
  | returnFeed h _ => simpa [hfeed, hreturn] using AddsReturns.returnFeed h

theorem any_head?_eq {p : Char → Bool} (hfeed : p '\n' = false) (hreturn : p '\r' = false)
    (h : AddsReturns text text') : text'.head?.any p = text.head?.any p := by
  cases h with
  | nil | char _ _ _ => rfl
  | feed _ | returnFeed _ => simp [hfeed, hreturn]

theorem isEmpty_eq (h : AddsReturns text text') : text'.isEmpty = text.isEmpty := by
  cases h <;> rfl

/-- Up to the line feed itself, a carriage return before it belongs to the rest of a line. -/
theorem restOfLine (h : AddsReturns text text') :
    AddsReturns (text.dropWhile (· ≠ '\n')) (text'.dropWhile (· ≠ '\n')) := by
  induction h with
  | nil => exact .nil
  | char hc _ _ ih => simpa [hc] using ih
  | feed h _ => exact .feed h
  | returnFeed h _ => exact .feed h

theorem skipBlank (h : AddsReturns text text') : AddsReturns (skipBlank text) (skipBlank text') := by
  have hstart := h.dropWhile (p := isBlank) rfl rfl
  unfold Settings.skipBlank
  generalize text.dropWhile isBlank = start at hstart ⊢
  generalize text'.dropWhile isBlank = start' at hstart ⊢
  cases hstart with
  | nil => exact .nil
  | @char c rest rest' hc hc' h =>
    by_cases hcomment : c = '#'
    · subst hcomment
      exact h.restOfLine
    · simpa [hcomment] using AddsReturns.char hc hc' h
  | feed h => exact .feed h
  | returnFeed h => exact .returnFeed h

theorem rel_lineFeed? (h : AddsReturns text text') :
    Option.Rel AddsReturns (lineFeed? text) (lineFeed? text') := by
  cases h with
  | nil => exact .none
  | char hc hc' _ => simp [lineFeed?, hc, hc']
  | feed h => exact .some h
  | returnFeed h => exact .some h

end AddsReturns

/-! ## What is found in both texts -/

/-- Whether something that is found goes with something else that is found. -/
def Keeps {α β : Type} (R : α → β → Prop) (found : Option α) (found' : Option β) : Prop :=
  ∀ a, found = some a → ∃ b, found' = some b ∧ R a b

/-- What a reader found, with the texts that it left over. -/
def FoundAlike {α : Type} (found found' : α × List Char) : Prop :=
  found'.1 = found.1 ∧ AddsReturns found.2 found'.2

section

variable {α β γ δ : Type} {R : α → β → Prop} {S : γ → δ → Prop} {a : Option α} {b : Option β}
  {f : α → Option γ} {g : β → Option δ}

theorem keeps_of_rel (h : Option.Rel R a b) : Keeps R a b := by
  rintro x rfl
  cases h with
  | some h => exact ⟨_, rfl, h⟩

theorem eq_none_of_rel (h : Option.Rel R a b) (ha : a = none) : b = none := by
  subst ha
  cases h
  rfl

theorem rel_bind (h : Option.Rel R a b) (hnext : ∀ x y, R x y → Option.Rel S (f x) (g y)) :
    Option.Rel S (a >>= f) (b >>= g) := by
  cases h with
  | none => exact .none
  | some h => exact hnext _ _ h

theorem Keeps.bind (h : Keeps R a b) (hnext : ∀ x y, R x y → Keeps S (f x) (g y)) :
    Keeps S (a >>= f) (b >>= g) := by
  intro z hz
  obtain ⟨x, hx, hz⟩ := Option.bind_eq_some_iff.1 hz
  obtain ⟨y, rfl, hxy⟩ := h x hx
  exact hnext x y hxy z hz

end

/-! ## Readers of one line -/

section

variable {text text' : List Char} (h : AddsReturns text text')
include h

theorem AddsReturns.skipLines : AddsReturns (skipLines text) (skipLines text') := by
  fun_induction Settings.skipLines text generalizing text' with
  | case1 text rest hfeed ih =>
    obtain ⟨rest', hfeed', hrest⟩ := keeps_of_rel h.skipBlank.rel_lineFeed? rest hfeed
    rw [skipLines_of_feed hfeed']
    exact ih hrest
  | case2 text hnone =>
    have hnone' : StartsLine text' := eq_none_of_rel h.skipBlank.rel_lineFeed? hnone
    rwa [hnone'.skipLines_eq]

theorem rel_lineEnd? : Option.Rel AddsReturns (lineEnd? text) (lineEnd? text') := by
  have hfeed := h.skipBlank.rel_lineFeed?
  unfold lineEnd?
  generalize lineFeed? (skipBlank text) = found at hfeed ⊢
  generalize lineFeed? (skipBlank text') = found' at hfeed ⊢
  cases hfeed with
  | some hrest => exact .some hrest.skipLines
  | none =>
    dsimp only
    rw [h.isEmpty_eq]
    split
    · exact .some .nil
    · exact .none

theorem rel_keyword? {word : String} (hword : word ∈ keywords) :
    Option.Rel AddsReturns (keyword? word text) (keyword? word text') := by
  rw [keyword?_eq_ite hword, keyword?_eq_ite hword, h.skipBlank.takeWhile_eq rfl rfl]
  split
  · exact .some (h.skipBlank.dropWhile rfl rfl)
  · exact .none

theorem rel_equals? : Option.Rel AddsReturns (equals? text) (equals? text') := by
  have hstart := h.skipBlank
  unfold equals?
  generalize skipBlank text = start at hstart ⊢
  generalize skipBlank text' = start' at hstart ⊢
  cases hstart with
  | nil | feed _ | returnFeed _ => exact .none
  | @char c rest rest' _ _ hrest =>
    by_cases hc : c = '='
    · subst hc
      exact .some hrest
    · simp [hc]

/-- A run of characters of a kind that holds neither a line feed nor a carriage return. -/
theorem rel_run {α : Type} {p q : Char → Bool} (hp : p '\n' = false ∧ p '\r' = false)
    (hq : q '\n' = false ∧ q '\r' = false) (make : List Char → α) :
    Option.Rel FoundAlike
      (if text.head?.any p then some (make (text.takeWhile q), text.dropWhile q) else none)
      (if text'.head?.any p then some (make (text'.takeWhile q), text'.dropWhile q) else none) := by
  rw [h.any_head?_eq hp.1 hp.2, h.takeWhile_eq hq.1 hq.2]
  split
  · exact .some ⟨rfl, h.dropWhile hq.1 hq.2⟩
  · exact .none

theorem rel_identifier? : Option.Rel FoundAlike (identifier? text) (identifier? text') :=
  rel_run h.skipBlank (by decide) (by decide) String.ofList

theorem rel_name? : Option.Rel FoundAlike (name? text) (name? text') :=
  rel_run h.skipBlank (by decide) (by decide) String.ofList

/-- A carriage return before the end of a line is white space. -/
theorem trim_restOfLine : Text.trim (text'.takeWhile (· ≠ '\n'))
    = Text.trim (text.takeWhile (· ≠ '\n')) := by
  have hcases : text'.takeWhile (· ≠ '\n') = text.takeWhile (· ≠ '\n') ∨
      text'.takeWhile (· ≠ '\n') = text.takeWhile (· ≠ '\n') ++ ['\r'] := by
    induction h with
    | nil => exact .inl rfl
    | @char c rest rest' hc _ _ ih =>
      have htake : ∀ l : List Char,
          (c :: l).takeWhile (· ≠ '\n') = c :: l.takeWhile (· ≠ '\n') := fun l =>
        List.takeWhile_cons_of_pos (by simpa using hc)
      rw [htake, htake]
      exact ih.imp (congrArg (c :: ·)) (congrArg (c :: ·))
    | feed _ _ => exact .inl rfl
    | returnFeed _ _ => exact .inr rfl
  rcases hcases with heq | heq
  · rw [heq]
  · rw [heq, trim_concat_of_isSpace (by decide)]

theorem keeps_value? : Keeps FoundAlike (value? text) (value? text') := by
  rintro ⟨value, rest⟩ hvalue
  unfold value? at hvalue
  split at hvalue
  · next hhead =>
    obtain ⟨rfl, rfl⟩ := Prod.mk.inj (Option.some.inj hvalue)
    have hhead' : text'.head?.any (· ≠ '\n') = true := by
      cases h with
      | nil | feed _ | returnFeed _ => cases hhead
      | char _ _ _ => exact hhead
    refine ⟨_, if_pos hhead', ?_, h.restOfLine⟩
    rw [trim_restOfLine h]
  · cases hvalue

theorem foundAlike_valueOrEmpty : FoundAlike (valueOrEmpty text) (valueOrEmpty text') := by
  unfold valueOrEmpty
  cases hvalue : value? text with
  | some found =>
    obtain ⟨found', hvalue', hfound⟩ := keeps_value? h found hvalue
    rw [hvalue']
    exact hfound
  | none =>
    cases h with
    | nil => exact ⟨rfl, .nil⟩
    | char hc _ _ => simp [value?, hc] at hvalue
    | feed h => exact ⟨rfl, .feed h⟩
    | returnFeed h => exact ⟨rfl, .feed h⟩

theorem foundAlike_default? : FoundAlike (default? text) (default? text') := by
  have hequals := rel_equals? h
  unfold default?
  generalize equals? text = next at hequals ⊢
  generalize equals? text' = next' at hequals ⊢
  cases hequals with
  | none => exact ⟨rfl, h⟩
  | some hnext =>
    obtain ⟨hvalue, hrest⟩ := foundAlike_valueOrEmpty hnext
    exact ⟨congrArg some hvalue, hrest⟩

/-! ## Statements of one line -/

theorem rel_lineEnd?_map {α : Type} (a : α) : Option.Rel FoundAlike
    (lineEnd? text >>= fun text => some (a, text))
    (lineEnd? text' >>= fun text => some (a, text)) :=
  rel_bind (rel_lineEnd? h) fun _ _ hrest => .some ⟨rfl, hrest⟩

theorem rel_settingLine? : Option.Rel FoundAlike (settingLine? text) (settingLine? text') := by
  refine rel_bind (rel_identifier? h) ?_
  rintro ⟨name, gap⟩ ⟨_, gap'⟩ ⟨rfl, hgap⟩
  refine rel_bind (rel_equals? hgap) fun next next' hnext => ?_
  obtain ⟨hvalue, hrest⟩ := foundAlike_valueOrEmpty hnext
  dsimp only
  rw [hvalue]
  exact rel_lineEnd?_map hrest _

theorem keeps_declarationLine? {word : String} (hword : word ∈ keywords)
    {readName : List Char → Option (String × List Char)}
    (hname : ∀ {text text' : List Char}, AddsReturns text text' →
      Option.Rel FoundAlike (readName text) (readName text'))
    (make : String → String → Statement) :
    Keeps FoundAlike (declarationLine? word readName make text)
      (declarationLine? word readName make text') := by
  refine (keeps_of_rel (rel_keyword? h hword)).bind fun gap gap' hgap => ?_
  refine (keeps_of_rel (hname hgap)).bind ?_
  rintro ⟨name, sign⟩ ⟨_, sign'⟩ ⟨rfl, hsign⟩
  refine (keeps_of_rel (rel_equals? hsign)).bind fun back back' hback => ?_
  refine (keeps_value? hback).bind ?_
  rintro ⟨value, last⟩ ⟨_, last'⟩ ⟨rfl, hlast⟩
  exact keeps_of_rel (rel_lineEnd?_map hlast _)

theorem keeps_entryLine? : Keeps FoundAlike (entryLine? text) (entryLine? text') :=
  keeps_declarationLine? h (by decide) rel_identifier? _

theorem keeps_aliasLine? : Keeps FoundAlike (aliasLine? text) (aliasLine? text') :=
  keeps_declarationLine? h (by decide) rel_name? _

theorem keeps_defineLine? : Keeps FoundAlike (defineLine? text) (defineLine? text') :=
  keeps_declarationLine? h (by decide) rel_name? _

theorem keeps_environmentLine? :
    Keeps FoundAlike (environmentLine? text) (environmentLine? text') := by
  refine (keeps_of_rel (rel_keyword? h (by decide))).bind fun gap gap' hgap => ?_
  refine (keeps_of_rel (rel_identifier? hgap)).bind ?_
  rintro ⟨name, gap⟩ ⟨_, gap'⟩ ⟨rfl, hgap⟩
  obtain ⟨hdefault, hrest⟩ := foundAlike_default? hgap
  dsimp only
  rw [hdefault]
  exact keeps_of_rel (rel_lineEnd?_map hrest _)

/-! ## Rules and their settings -/

theorem rel_indented? : Option.Rel FoundAlike (indented? text) (indented? text') := by
  unfold indented?
  rw [h.any_head?_eq rfl rfl]
  split
  · exact rel_settingLine? (h.dropWhile rfl rfl)
  · exact .none

theorem foundAlike_indentedSettings :
    FoundAlike (indentedSettings text) (indentedSettings text') := by
  fun_induction indentedSettings text generalizing text' with
  | case1 text s rest hfirst settings rest' heq ih =>
    obtain ⟨⟨s', next⟩, hfirst', hs, hnext⟩ := keeps_of_rel (rel_indented? h) _ hfirst
    obtain ⟨hsettings, hrest⟩ := ih hnext
    rw [indentedSettings_of_some hfirst']
    rw [heq] at hsettings hrest
    exact ⟨congrArg₂ List.cons hs hsettings, hrest⟩
  | case2 text hnone =>
    rw [indentedSettings_of_none (eq_none_of_rel (rel_indented? h) hnone)]
    exact ⟨rfl, h⟩

theorem keeps_ruleLines? : Keeps FoundAlike (ruleLines? text) (ruleLines? text') := by
  refine (keeps_of_rel (rel_keyword? h (by decide))).bind fun gap gap' hgap => ?_
  refine (keeps_of_rel (rel_identifier? hgap)).bind ?_
  rintro ⟨name, gap⟩ ⟨_, gap'⟩ ⟨rfl, hgap⟩
  refine (keeps_of_rel (rel_lineEnd? hgap)).bind fun next next' hnext => ?_
  obtain ⟨hsettings, hrest⟩ := foundAlike_indentedSettings hnext
  rintro _ hrule
  obtain rfl := Option.some.inj hrule
  exact ⟨_, rfl, congrArg (Statement.rule _) hsettings, hrest⟩

end

/-! ## Statements of any kind -/

theorem keeps_statement? {text text' : List Char} (h : AddsReturns text text') :
    Keeps FoundAlike (statement? text) (statement? text') := by
  intro found hfound
  simp only [statement?_eq_some_iff] at hfound ⊢
  rcases hfound with
    halias | hdefine | hentry | henvironment | hrule | ⟨s, rest, hsetting, rfl⟩
  · obtain ⟨found', halias', hfound⟩ := keeps_aliasLine? h found halias
    exact ⟨found', .inl halias', hfound⟩
  · obtain ⟨found', hdefine', hfound⟩ := keeps_defineLine? h found hdefine
    exact ⟨found', .inr (.inl hdefine'), hfound⟩
  · obtain ⟨found', hentry', hfound⟩ := keeps_entryLine? h found hentry
    exact ⟨found', .inr (.inr (.inl hentry')), hfound⟩
  · obtain ⟨found', henvironment', hfound⟩ := keeps_environmentLine? h found henvironment
    exact ⟨found', .inr (.inr (.inr (.inl henvironment'))), hfound⟩
  · obtain ⟨found', hrule', hfound⟩ := keeps_ruleLines? h found hrule
    exact ⟨found', .inr (.inr (.inr (.inr (.inl hrule')))), hfound⟩
  · obtain ⟨⟨s', rest'⟩, hsetting', hs, hrest⟩ := keeps_of_rel (rel_settingLine? h) _ hsetting
    exact ⟨_, .inr (.inr (.inr (.inr (.inr ⟨s', rest', hsetting', rfl⟩)))),
      congrArg Statement.setting hs, hrest⟩

/-! ## Files -/

theorem statement?_eq_none_of_skipBlank {text : List Char} (h : skipBlank text = []) :
    statement? text = none := by
  have hword : ∀ word ∈ keywords, keyword? word text = none := by
    intro word hword
    rw [keyword?_eq_ite hword, h]
    exact if_neg fun heq => nomatch heq ▸ (isIdentifier_of_mem_keywords word hword).1
  have hidentifier : identifier? text = none := by
    rw [identifier?, h]
    rfl
  obtain ⟨halias, hdefine, hentry, henvironment, hrule⟩ := lines_of_keyword?_eq_none text
  rw [statement?, halias (hword _ (by decide)), hdefine (hword _ (by decide)),
    hentry (hword _ (by decide)), henvironment (hword _ (by decide)), hrule (hword _ (by decide)),
    settingLine?, hidentifier]
  rfl

theorem AddsReturns.eq_nil {text' : List Char} (h : AddsReturns [] text') : text' = [] := by
  cases h
  rfl

/-- If nothing is left of a text, nothing is left of it with carriage returns. The induction is on
    the statements of the text. -/
theorem statements_of_addsReturns {text text' : List Char} (h : AddsReturns text text')
    (hread : skipBlank (statements text).2 = []) :
    (statements text').1 = (statements text).1 ∧ skipBlank (statements text').2 = [] := by
  fun_induction statements text generalizing text' with
  | case1 text s rest hs found rest' heq ih =>
    obtain ⟨⟨s', next⟩, hs', rfl, hnext⟩ := keeps_statement? h _ hs
    obtain ⟨hfound, hleft⟩ := ih hnext (by rwa [heq])
    rw [statements_of_some hs', hfound, heq]
    exact ⟨rfl, hleft⟩
  | case2 text hnone =>
    have hskip := h.skipBlank
    rw [hread] at hskip
    have hblank := hskip.eq_nil
    rw [statements_of_none (statement?_eq_none_of_skipBlank hblank)]
    exact ⟨rfl, hblank⟩

/-- A text with a carriage return before each line feed. -/
def withReturns (source : String) : String :=
  .ofList (source.toList.flatMap fun c => if c = '\n' then ['\r', '\n'] else [c])

theorem addsReturns_withReturns {source : String} (h : '\r' ∉ source.toList) :
    AddsReturns source.toList (withReturns source).toList := by
  rw [withReturns, String.toList_ofList]
  generalize source.toList = text at h
  induction text with
  | nil => exact .nil
  | cons c rest ih =>
    rw [List.mem_cons, not_or] at h
    rw [List.flatMap_cons]
    by_cases hc : c = '\n'
    · subst hc
      exact .returnFeed (ih h.2)
    · rw [if_neg hc]
      exact .char hc (Ne.symm h.1) (ih h.2)

/-- A file that can be read holds the same statements if all its lines end with a carriage return
    and a line feed. -/
theorem read_withReturns {source : String} (h : '\r' ∉ source.toList) {found : List Statement}
    (hread : read source = .ok found) : read (withReturns source) = .ok found := by
  rw [read_eq_ok_iff] at hread ⊢
  obtain ⟨hunread, rfl⟩ := hread
  obtain ⟨hfound, hleft⟩ := statements_of_addsReturns (addsReturns_withReturns h).skipLines hunread
  exact ⟨hleft, hfound⟩

/-- A file with statements of all kinds, comments, blank lines and settings without values. -/
def mixed : String :=
  "# all\n\n \t\nentry main = a.js # b\nalias @/ = src\ndefine X = \"\\t\" \nenv A\nenv B =\n" ++
    "rule r # one\n  # two\n\n  test = x\n\tuse =\nmode =\nport = 1"

/-- What is read from it. -/
def mixedStatements : List Statement :=
  [.entry "main" "a.js # b", .aliasFor "@/" "src", .define "X" "\"\\t\"", .environment "A" none,
    .environment "B" (some ""), .rule "r" [⟨"test", "x"⟩, ⟨"use", ""⟩], .setting ⟨"mode", ""⟩,
    .setting ⟨"port", "1"⟩]

theorem read_withReturns_mixed :
    ('\r' ∉ mixed.toList ∧ read mixed = .ok mixedStatements) ∧
      read (withReturns mixed) = .ok mixedStatements := by
  have hreturn : '\r' ∉ mixed.toList := by decide +kernel
  have hread : read mixed = .ok mixedStatements := by decide +kernel
  exact ⟨⟨hreturn, hread⟩, read_withReturns hreturn hread⟩

/-- A carriage return counts as a value. -/
example : read "entry main =\n" = .error ⟨1⟩ ∧
    read (withReturns "entry main =\n") = .ok [.entry "main" ""] := by decide +kernel

end Bundler.Settings
