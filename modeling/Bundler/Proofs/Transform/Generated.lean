import Bundler.Proofs.Build.Loading
import Bundler.Proofs.Digest
import Bundler.Proofs.Script.Scan
import Bundler.Proofs.Transform.StyleSheet

set_option autoImplicit false

/-! # Modules that are written around contents

The transforms other than that of scripts write a module around a content, a file name or a style
sheet. What comes from outside stands in string literals, and in a quoted text every quote and
backslash is escaped, so that the literal ends where the module ends it (`isString_quoteChars`).
What is left of the module is code of the transform, which refers to nothing: it is passed over by
the scanner word by word (`scan_of_isInert`). So a module has the references that its transform
writes, and no others (`references_generated`). -/

namespace Bundler

namespace Script

open Text (escapeChar quoteChars)

/-! ## Quoted texts -/

/-- Whether a character stands for itself between the quotes of a quoted text. -/
def isUnescaped (c : Char) : Bool := c ≠ '"' && c ≠ '\\' && 0x20 ≤ c.toNat

theorem isUnescaped_iff {c : Char} :
    isUnescaped c = true ↔ c ≠ '"' ∧ c ≠ '\\' ∧ 0x20 ≤ c.toNat := by
  simp [isUnescaped, and_assoc]

theorem isUnescaped_of_mem_hexDigits : ∀ c ∈ Bytes.hexDigits, isUnescaped c = true :=
  List.all_eq_true.1 (by decide)

/-- A character stands for itself or has an escape, which is a backslash, one more character, and
    characters that stand for themselves. -/
theorem escapeChar_cases (c : Char) :
    (isUnescaped c = true ∧ escapeChar c = [c]) ∨
      (isUnescaped c = false ∧ ∃ d more, escapeChar c = '\\' :: d :: more ∧ 0x20 ≤ d.toNat ∧
        ∀ e ∈ more, isUnescaped e = true) := by
  unfold escapeChar
  split
  · next h => exact .inr ⟨by subst h; rfl, '"', [], rfl, by decide, nofun⟩
  split
  · next h => exact .inr ⟨by subst h; rfl, '\\', [], rfl, by decide, nofun⟩
  split
  · next h => exact .inr ⟨by subst h; rfl, 'n', [], rfl, by decide, nofun⟩
  split
  · next h => exact .inr ⟨by subst h; rfl, 'r', [], rfl, by decide, nofun⟩
  split
  · next h => exact .inr ⟨by subst h; rfl, 't', [], rfl, by decide, nofun⟩
  split
  · next h => exact .inr ⟨by subst h; rfl, 'b', [], rfl, by decide, nofun⟩
  split
  · next h => exact .inr ⟨by subst h; rfl, 'f', [], rfl, by decide, nofun⟩
  next hquote hescape _ _ _ _ _ =>
  split
  · next h =>
    have hlow : isUnescaped c = false := by simp [isUnescaped, h]
    refine .inr ⟨hlow, 'u', _, rfl, by decide, fun e he => ?_⟩
    simp only [List.mem_cons, List.not_mem_nil, or_false] at he
    rcases he with rfl | rfl | rfl | rfl
    · decide
    · decide
    · exact isUnescaped_of_mem_hexDigits _ (Bytes.hexDigit_mem (by omega))
    · exact isUnescaped_of_mem_hexDigits _ (Bytes.hexDigit_mem (by omega))
  · next h => exact .inl ⟨isUnescaped_iff.2 ⟨hquote, hescape, by omega⟩, rfl⟩

theorem isStringBody_of_isUnescaped {text : List Char} (htext : ∀ c ∈ text, isUnescaped c = true)
    {body : List Char} (h : IsStringBody '"' body) : IsStringBody '"' (text ++ body) := by
  induction text with
  | nil => exact h
  | cons c more ih =>
    obtain ⟨hquote, hescape, -⟩ := isUnescaped_iff.1 (htext c List.mem_cons_self)
    exact .plain hquote hescape (ih fun d hd => htext d (List.mem_cons_of_mem c hd))

theorem isStringBody_flatMap_escapeChar (text : List Char) :
    IsStringBody '"' (text.flatMap escapeChar) := by
  induction text with
  | nil => exact .nil
  | cons c more ih =>
    rw [List.flatMap_cons]
    rcases escapeChar_cases c with ⟨hc, heq⟩ | ⟨-, d, tail, heq, -, htail⟩
    · rw [heq]
      exact isStringBody_of_isUnescaped (by simpa using hc) ih
    · rw [heq]
      exact .escape d (isStringBody_of_isUnescaped htail ih)

/-- A quoted text is one string. -/
theorem isString_quoteChars (text : List Char) : IsString (quoteChars text) :=
  .intro (by decide) (isStringBody_flatMap_escapeChar text)

/-- No control character stands in a quoted text, so no line ends there. -/
theorem le_toNat_of_mem_quoteChars {text : List Char} {c : Char} (h : c ∈ quoteChars text) :
    0x20 ≤ c.toNat := by
  simp only [quoteChars, List.mem_cons, List.mem_append, List.mem_flatMap, List.not_mem_nil,
    or_false] at h
  rcases h with rfl | ⟨d, -, h⟩ | rfl
  · decide
  · rcases escapeChar_cases d with ⟨hd, heq⟩ | ⟨-, e, tail, heq, he, htail⟩
    · rw [heq, List.mem_singleton] at h
      exact h ▸ (isUnescaped_iff.1 hd).2.2
    · rw [heq, List.mem_cons, List.mem_cons] at h
      rcases h with rfl | rfl | h
      · decide
      · exact he
      · exact (isUnescaped_iff.1 (htail c h)).2.2
  · decide

/-- A text is quoted without escapes if no character needs one. -/
theorem flatMap_escapeChar_of_all {text : List Char} (h : ∀ c ∈ text, isUnescaped c = true) :
    text.flatMap escapeChar = text := by
  induction text with
  | nil => rfl
  | cons c more ih =>
    rw [List.flatMap_cons, ih fun d hd => h d (List.mem_cons_of_mem c hd)]
    rcases escapeChar_cases c with ⟨-, heq⟩ | ⟨hc, -⟩
    · rw [heq, List.singleton_append]
    · rw [h c List.mem_cons_self] at hc
      cases hc

/-- A character that needs an escape brings a backslash with it. -/
theorem escape_mem_flatMap_escapeChar {text : List Char} {c : Char} (h : c ∈ text)
    (hc : isUnescaped c = false) : '\\' ∈ text.flatMap escapeChar := by
  refine List.mem_flatMap.2 ⟨c, h, ?_⟩
  rcases escapeChar_cases c with ⟨hc', -⟩ | ⟨-, d, tail, heq, -⟩
  · rw [hc] at hc'
    cases hc'
  · rw [heq]
    exact List.mem_cons_self

/-! ## Code without references -/

/-- Whether some code, behind a word that may go on, neither starts a comment or string nor holds a
    word that a reference starts with, and ends outside of a word. -/
def isInertAfter : List Char → List Char → Bool
  | word, [] => word.isEmpty
  | word, c :: rest =>
    if isWordChar c then isInertAfter (word ++ [c]) rest
    else word ∉ referenceWords && c ≠ '/' && !isQuote c && isInertAfter [] rest

/-- Whether some code is no part of a comment, string or reference wherever it stands outside of
    words. -/
def IsInert (text : List Char) : Prop := isInertAfter [] text = true

instance (text : List Char) : Decidable (IsInert text) :=
  inferInstanceAs (Decidable (_ = _))

theorem scan_of_isInertAfter {word text : List Char} (hword : ∀ c ∈ word, isWordChar c = true)
    (h : isInertAfter word text = true) (rest : List Char) :
    scan (word ++ (text ++ rest)) = scan rest := by
  induction text generalizing word with
  | nil =>
    rw [isInertAfter, List.isEmpty_iff] at h
    rw [h, List.nil_append, List.nil_append]
  | cons c more ih =>
    rw [isInertAfter] at h
    split at h
    · next hc =>
      have hlonger : ∀ d ∈ word ++ [c], isWordChar d = true := by
        intro d hd
        rcases List.mem_append.1 hd with hd | hd
        · exact hword d hd
        · exact List.mem_singleton.1 hd ▸ hc
      have heq := ih hlonger h
      rwa [List.append_assoc] at heq
    · next hc =>
      simp only [Bool.and_eq_true, decide_eq_true_eq, Bool.not_eq_true'] at h
      obtain ⟨⟨⟨hkeyword, hslash⟩, hquote⟩, hmore⟩ := h
      -- a character that is not of a word ends the word, which then has to be no keyword
      have hother : scan (c :: (more ++ rest)) = scan rest :=
        (scan_other (Bool.eq_false_iff.2 hc) (literal?_cons_eq_none ⟨hslash, hquote⟩ _)).trans
          (ih (fun _ hmem => absurd hmem List.not_mem_nil) hmore)
      cases word with
      | nil => exact hother
      | cons d tail =>
        have hreads : ReadsWord (d :: tail) ((d :: tail) ++ (c :: (more ++ rest)))
            (c :: (more ++ rest)) := ⟨rfl, Bool.eq_false_iff.2 hc⟩
        have hisWord : IsWord (d :: tail) := ⟨List.cons_ne_nil d tail, hword⟩
        refine (scan_word hreads hisWord ?_).trans hother
        refine reference?_eq_none_of_not_mem ?_
        rwa [(hreads.takeWhile_eq hisWord).1]

/-- No comment or string starts in inert code. -/
theorem isPlain_of_isInertAfter {word text : List Char} (h : isInertAfter word text = true) :
    IsPlain text := by
  induction text generalizing word with
  | nil => exact fun _ hmem => absurd hmem List.not_mem_nil
  | cons c more ih =>
    rw [isInertAfter] at h
    split at h
    · next hc => exact List.forall_mem_cons.2 ⟨isPlain_of_isWordChar hc, ih h⟩
    · simp only [Bool.and_eq_true, decide_eq_true_eq, Bool.not_eq_true'] at h
      exact List.forall_mem_cons.2 ⟨⟨h.1.1.2, h.1.2⟩, ih h.2⟩

theorem scan_of_isInert {text : List Char} (h : IsInert text) (rest : List Char) :
    scan (text ++ rest) = scan rest :=
  scan_of_isInertAfter (fun _ hmem => absurd hmem List.not_mem_nil) h rest

/-! ## Written scripts -/

/-- A part of a script that is written around values. -/
inductive Part
  | code (text : String)
  /-- The string literal of a value. -/
  | quoted (value : String)

/-- The text of a part. -/
def Part.text : Part → List Char
  | .code text => text.toList
  | .quoted value => quoteChars value.toList

/-- The spans of some parts behind some code, last character first. -/
def partSpans (code : List Char) : List Part → List Span
  | [] => codeSpan code
  | .code text :: rest => partSpans (text.toList.reverse ++ code) rest
  | .quoted value :: rest =>
    codeSpan code ++ .literal (quoteChars value.toList) :: partSpans [] rest

/-- A value ends no literal and opens none: the literals of a script are those that are written. -/
theorem spansAfter_parts {parts : List Part}
    (h : ∀ text, .code text ∈ parts → IsPlain text.toList) (code : List Char) :
    spansAfter code (parts.flatMap Part.text) = partSpans code parts := by
  induction parts generalizing code with
  | nil => exact spansAfter_nil code
  | cons p rest ih =>
    have hrest := ih fun text hmem => h text (List.mem_cons_of_mem p hmem)
    rw [List.flatMap_cons]
    cases p with
    | code text =>
      rw [Part.text, spansAfter_append_of_isPlain (h text List.mem_cons_self), hrest]
      rfl
    | quoted value =>
      rw [Part.text, spansAfter_literal (.inr (isString_quoteChars _)), hrest]
      rfl

theorem exists_of_literal_mem_partSpans {parts : List Part} {code text : List Char}
    (h : .literal text ∈ partSpans code parts) :
    ∃ value, .quoted value ∈ parts ∧ text = quoteChars value.toList := by
  have hcode : ∀ code, Span.literal text ∉ codeSpan code := by
    intro code hmem
    cases code <;> simp [codeSpan] at hmem
  induction parts generalizing code with
  | nil => exact absurd h (hcode code)
  | cons p rest ih =>
    cases p with
    | code _ =>
      obtain ⟨value, hmem, heq⟩ := ih h
      exact ⟨value, List.mem_cons_of_mem _ hmem, heq⟩
    | quoted value =>
      rcases List.mem_append.1 h with h | h
      · exact absurd h (hcode code)
      · rcases List.mem_cons.1 h with heq | h
        · cases heq
          exact ⟨value, List.mem_cons_self, rfl⟩
        · obtain ⟨value, hmem, heq⟩ := ih h
          exact ⟨value, List.mem_cons_of_mem _ hmem, heq⟩

/-- Inert code around values refers to nothing. -/
theorem scan_parts {parts : List Part} (h : ∀ text, .code text ∈ parts → IsInert text.toList) :
    scan (parts.flatMap Part.text) = [] := by
  induction parts with
  | nil => rw [List.flatMap_nil, scan]
  | cons p rest ih =>
    have hrest := ih fun text hmem => h text (List.mem_cons_of_mem p hmem)
    rw [List.flatMap_cons]
    cases p with
    | code text => rw [Part.text, scan_of_isInert (h text List.mem_cons_self), hrest]
    | quoted value => rw [Part.text, scan_string (isString_quoteChars _), hrest]

/-! ## Written calls -/

theorem eq_of_skips {c d : Char} {rest after : List Char} (hc : isGap c = false)
    (hd : isGap d = false) (h : Skips false (c :: rest) (d :: after)) :
    c :: rest = d :: after := by
  rw [← skipGap_eq_self hc, skipGap_eq_of_skips h, skipGap_eq_self hd]

theorem readsWord_require (rest : List Char) :
    ReadsWord "require".toList ("require(".toList ++ rest) ('(' :: rest) := ⟨rfl, rfl⟩

/-- A call for a quoted value is a reference to it if nothing in it is escaped. -/
theorem readsReference_require {value : List Char} (hne : value ≠ [])
    (h : ∀ c ∈ value, isUnescaped c = true) (rest : List Char) :
    ReadsReference false value ("require(".toList ++ (quoteChars value ++ ')' :: rest)) rest := by
  have hfound : ReadsSpecifier value (quoteChars value ++ ')' :: rest) (')' :: rest) := by
    refine ⟨'"', ⟨.inl rfl, hne, fun c hc => ?_⟩, ?_⟩
    · obtain ⟨hquote, hescape, hlow⟩ := isUnescaped_iff.1 (h c hc)
      refine ⟨hquote, hescape, ?_⟩
      rintro rfl
      exact absurd hlow (by decide)
    · rw [quoteChars, flatMap_escapeChar_of_all h, List.cons_append, List.append_assoc]
      rfl
  exact .call (.inr rfl) (readsWord_require _) (.done _) (.done _) hfound (.done _)

/-- With an escape in the value it is none, because specifiers have no backslashes. -/
theorem reference?_require_eq_none {value : List Char} {c : Char} (hc : c ∈ value)
    (hescaped : isUnescaped c = false) (rest : List Char) :
    reference? ("require(".toList ++ (quoteChars value ++ rest)) = none := by
  refine Option.eq_none_iff_forall_ne_some.2 fun ⟨found, after⟩ h => ?_
  have hrequire := readsWord_require (quoteChars value ++ rest)
  have hne : ∀ name, IsWord name → name ≠ "require".toList → ∀ gap,
      ¬ ReadsWord name ("require(".toList ++ (quoteChars value ++ rest)) gap :=
    fun name hname hne gap hword => hne (hword.eq hrequire hname isWord_require)
  cases reference?_eq_some_iff.1 h with
  | @call name _ gap inside specifier last _ hname hword hopen hgap hfound =>
    have hgapeq := (hword.takeWhile_eq (isWord_of_call hname)).2.symm.trans
      (hrequire.takeWhile_eq isWord_require).2
    subst hgapeq
    obtain ⟨-, rfl⟩ := List.cons.inj (eq_of_skips (by decide) (by decide) hopen)
    obtain ⟨quote, hquoted, rfl⟩ := hfound
    have hgap := eq_of_skips (c := '"') (by decide) (ne_sign_of_isQuote hquoted.isQuote).1 hgap
    obtain ⟨rfl, htext⟩ := List.cons.inj hgap
    have htext : value.flatMap escapeChar ++ '"' :: rest = found ++ '"' :: last := by
      simpa using htext
    -- both texts end at the first quote without a backslash before it
    have hclosing := closing?_append (by decide) (isStringBody_flatMap_escapeChar value) rest
    rw [htext, closing?_append (by decide) hquoted.isStringBody] at hclosing
    obtain rfl := Option.some.inj hclosing
    obtain rfl := List.append_cancel_right htext
    exact (hquoted.2.2 _ (escape_mem_flatMap_escapeChar hc hescaped)).2.1 rfl
  | bare hword => exact hne _ isWord_import (by decide) _ hword
  | clause hname hword =>
    refine hne _ (isWord_of_clause hname) ?_ _ hword
    rcases hname with rfl | rfl <;> decide

/-- Whether a text has no backslash and no control character. Such a text is quoted as it is, if it
    has no double quote. -/
def isVerbatim (text : String) : Bool := text.toList.all fun c => c ≠ '\\' && 0x20 ≤ c.toNat

/-- A call for a quoted value refers to it, and to nothing else, if the value is quoted as it is;
    otherwise it refers to nothing. -/
theorem scan_require {value : String} (hne : value.toList ≠ []) (hquote : '"' ∉ value.toList)
    (rest : List Char) :
    scan ("require(".toList ++ (quoteChars value.toList ++ (");\n".toList ++ rest))) =
      (if isVerbatim value then [value.toList] else []) ++ scan rest := by
  by_cases h : isVerbatim value = true
  · have hall : ∀ c ∈ value.toList, isUnescaped c = true := by
      intro c hc
      have := List.all_eq_true.1 h c hc
      simp only [Bool.and_eq_true, decide_eq_true_eq] at this
      exact isUnescaped_iff.2 ⟨fun heq => hquote (heq ▸ hc), this⟩
    have hend : scan (";\n".toList ++ rest) = scan rest := scan_of_isInert (by decide) rest
    rw [if_pos h, List.singleton_append, ← hend]
    exact scan_reference (readsReference_require hne hall _)
  · obtain ⟨c, hc, hescaped⟩ : ∃ c ∈ value.toList, isUnescaped c = false := by
      by_contra hnone
      push Not at hnone
      refine h (List.all_eq_true.2 fun c hc => ?_)
      obtain ⟨-, hescape, hlow⟩ := isUnescaped_iff.1 ((Bool.not_eq_false _).mp (hnone c hc))
      simp [hescape, hlow]
    have hnone := reference?_require_eq_none hc hescaped (");\n".toList ++ rest)
    rw [if_neg h, List.nil_append, scan_word (readsWord_require _) isWord_require hnone,
      scan_other (by decide) (literal?_cons_eq_none (by decide) _),
      scan_string (isString_quoteChars _), scan_of_isInert (by decide)]

end Script

namespace Transform

open Script (Part)

/-! ## The modules of the transforms -/

/-- The parts of a module that exports a text. -/
def exportParts (text : String) : List Part :=
  [.code "module.exports = ", .quoted text, .code ";"]

/-- The parts of the call for a target. -/
def requireParts (target : String) : List Part :=
  [.code "require(", .quoted target, .code ");\n"]

/-- The parts of the code that adds a style sheet to the document. -/
def sheetParts (sheet : String) : List Part :=
  [.code "(function () \x7b\n  var style = document.createElement(", .quoted "style",
    .code ");\n  style.textContent = ", .quoted sheet,
    .code ";\n  document.head.appendChild(style);\n\x7d)();\n"]

/-- The parts of the module of a style sheet. -/
def styleParts (targets : List String) (sheet : String) : List Part :=
  targets.flatMap requireParts ++ sheetParts sheet

theorem isInert_of_mem_exportParts {text code : String} (h : .code code ∈ exportParts text) :
    Script.IsInert code.toList := by
  simp only [exportParts, List.mem_cons, List.not_mem_nil, or_false, reduceCtorEq, false_or,
    Part.code.injEq] at h
  rcases h with rfl | rfl <;> decide

theorem isInert_of_mem_sheetParts {sheet code : String} (h : .code code ∈ sheetParts sheet) :
    Script.IsInert code.toList := by
  simp only [sheetParts, List.mem_cons, List.not_mem_nil, or_false, reduceCtorEq, false_or,
    Part.code.injEq] at h
  rcases h with rfl | rfl | rfl <;> decide

theorem toList_exportText (text : String) :
    ("module.exports = " ++ Text.quote text ++ ";").toList =
      (exportParts text).flatMap Part.text := by
  simp [exportParts, Part.text, Text.quote]

theorem toList_styleModule (targets : List String) (sheet : String) :
    (styleModule targets sheet).toList = (styleParts targets sheet).flatMap Part.text := by
  have hcalls : ∀ target, ("require(" ++ Text.quote target ++ ");\n").toList =
      (requireParts target).flatMap Part.text := by
    simp [requireParts, Part.text, Text.quote]
  simp only [styleModule, String.toList_append, String.toList_join, List.flatMap_map, hcalls,
    styleParts, sheetParts, List.flatMap_append, List.flatMap_assoc]
  simp [Part.text, Text.quote, Text.quoteChars, Text.escapeChar]

/-- Whether a content is a script that is written in parts. What its literals hold is what was put
    into them, and no line ends in a literal. -/
structure IsWritten (content : ByteArray) (parts : List Part) (source : String) : Prop where
  content_eq : content = source.toUTF8
  text_eq : source.toList = parts.flatMap Part.text
  spans_eq : Script.spans source.toList = Script.partSpans [] parts
  literals : ∀ text, .literal text ∈ Script.spans source.toList →
    Script.IsString text ∧ ∀ c ∈ text, 0x20 ≤ c.toNat

theorem isWritten_of_isPlain {parts : List Part} {source : String}
    (h : ∀ text, .code text ∈ parts → Script.IsPlain text.toList)
    (htext : source.toList = parts.flatMap Part.text) :
    IsWritten source.toUTF8 parts source := by
  have hspans : Script.spans source.toList = Script.partSpans [] parts := by
    rw [htext, Script.spans, Script.spansAfter_parts h]
  refine ⟨rfl, htext, hspans, fun text hmem => ?_⟩
  rw [hspans] at hmem
  obtain ⟨value, -, rfl⟩ := Script.exists_of_literal_mem_partSpans hmem
  exact ⟨Script.isString_quoteChars _, fun c => Script.le_toNat_of_mem_quoteChars⟩

theorem references_of_toList {source : String} {found : List String}
    (h : Script.scan source.toList = found.map String.toList) :
    Script.references source = found := by
  rw [Script.references, h, List.map_map]
  simp

/-- A module that exports a text has no references, whatever the text is. -/
theorem isWritten_exportText (text : String) :
    ∃ source, IsWritten (exportText text) (exportParts text) source ∧
      Script.references source = [] := by
  have htext := toList_exportText text
  refine ⟨_, isWritten_of_isPlain (fun code hmem => ?_) htext, references_of_toList ?_⟩
  · exact Script.isPlain_of_isInertAfter (isInert_of_mem_exportParts hmem)
  · rw [htext, Script.scan_parts fun code => isInert_of_mem_exportParts]
    rfl

theorem isPlain_of_mem_styleParts {targets : List String} {sheet code : String}
    (h : .code code ∈ styleParts targets sheet) : Script.IsPlain code.toList := by
  rcases List.mem_append.1 h with h | h
  · obtain ⟨target, -, h⟩ := List.mem_flatMap.1 h
    simp only [requireParts, List.mem_cons, List.not_mem_nil, or_false, reduceCtorEq, false_or,
      Part.code.injEq] at h
    rcases h with rfl | rfl <;> decide +kernel
  · exact Script.isPlain_of_isInertAfter (isInert_of_mem_sheetParts h)

/-- The module of a style sheet refers to those of its targets that are quoted as they are. -/
theorem scan_styleParts {targets : List String} (sheet : String)
    (h : ∀ target ∈ targets, StyleSheet.IsTarget target.toList) :
    Script.scan ((styleParts targets sheet).flatMap Part.text) =
      (targets.filter Script.isVerbatim).map String.toList := by
  rw [styleParts, List.flatMap_append]
  induction targets with
  | nil =>
    exact Script.scan_parts fun code => isInert_of_mem_sheetParts
  | cons target rest ih =>
    have hrest := ih fun t ht => h t (List.mem_cons_of_mem _ ht)
    obtain ⟨hne, hquotes⟩ := h target List.mem_cons_self
    have hquote : '"' ∉ target.toList := fun hmem => absurd (hquotes _ hmem) (by decide)
    have hcall := Script.scan_require hne hquote
      ((rest.flatMap requireParts).flatMap Part.text ++ (sheetParts sheet).flatMap Part.text)
    rw [hrest] at hcall
    rw [List.flatMap_cons, List.flatMap_append, List.append_assoc, List.filter_cons]
    refine Eq.trans ?_ (hcall.trans ?_)
    · simp [requireParts, Part.text]
    · split <;> simp

/-! ## References of the modules -/

/-- The modules of texts, embedded contents and assets have no references, and the module of a style
    sheet has those of its targets that hold no backslash and no control character. In none of them
    does a literal end before the value that was put into it, whatever stands in the file. -/
theorem references_generated (context : TransformContext) (path : Path) (content : ByteArray)
    (out : Transformed) :
    (text.run context path content = .ok out → ∃ value source, decode content = .ok value ∧
      IsWritten out.content (exportParts value) source ∧ Script.references source = []) ∧
    (inlined.run context path content = .ok out → ∃ source,
      IsWritten out.content (exportParts
        ("data:" ++ MediaType.ofPath path ++ ";base64," ++ Bytes.Base64.encode content)) source ∧
      Script.references source = []) ∧
    (asset.run context path content = .ok out → ∃ source,
      IsWritten out.content (exportParts
        (context.publicPath ++ assetFileName context.mode path content)) source ∧
      Script.references source = []) ∧
    (style.run context path content = .ok out → ∃ sheet source, decode content = .ok sheet ∧
      IsWritten out.content (styleParts out.references
        (.ofList (Text.trim (StyleSheet.cutImports sheet).2))) source ∧
      Script.references source = out.references.filter Script.isVerbatim) := by
  refine ⟨fun h => ?_, fun h => ?_, fun h => ?_, fun h => ?_⟩
  · obtain ⟨value, hvalue, h⟩ := Result.bind_eq_ok_iff.1 h
    obtain rfl := Except.ok.inj h
    obtain ⟨source, hwritten⟩ := isWritten_exportText value
    exact ⟨value, source, hvalue, hwritten⟩
  · obtain rfl := Except.ok.inj h
    exact isWritten_exportText _
  · obtain rfl := Except.ok.inj h
    exact isWritten_exportText _
  · obtain ⟨sheet, hsheet, hreferences, hout⟩ := style_run_eq_ok_iff.1 h
    rw [hreferences, hout]
    have htext := toList_styleModule (StyleSheet.cutImports sheet).1
      (.ofList (Text.trim (StyleSheet.cutImports sheet).2))
    refine ⟨sheet, _, hsheet, isWritten_of_isPlain (fun code => isPlain_of_mem_styleParts) htext,
      references_of_toList ?_⟩
    rw [htext]
    exact scan_styleParts _ fun target => StyleSheet.isTarget_of_mem_cutImports

/-- A target with a backslash is asked for by a call that the scanner does not take, and what looks
    like a call in the text of a file stays in its literal. -/
theorem references_generated_quoted :
    let context : TransformContext := ⟨.production, "/", .ofList []⟩
    let sheet := "@import 'a';@import 'b\\c';\n\");require('d');"
    (∃ out, text.run context ⟨"/e.css"⟩ sheet.toUTF8 = .ok out ∧
      ∃ source, out.content = source.toUTF8 ∧ Script.references source = []) ∧
    (∃ out, style.run context ⟨"/e.css"⟩ sheet.toUTF8 = .ok out ∧
      out.references = ["a", "b\\c"] ∧
      ∃ source, out.content = source.toUTF8 ∧ Script.references source = ["a"]) := by
  intro context sheet
  have hdecode : decode sheet.toUTF8 = .ok sheet := by
    rw [decode, BuildContext.fromUTF8?_toUTF8]
  have htargets : (StyleSheet.cutImports sheet).1 = ["a", "b\\c"] := by decide +kernel
  have htext : text.run context ⟨"/e.css"⟩ sheet.toUTF8 = .ok ⟨exportText sheet, []⟩ :=
    Result.bind_eq_ok_iff.2 ⟨sheet, hdecode, rfl⟩
  obtain ⟨styled, hstyle, hreferences⟩ : ∃ out,
      style.run context ⟨"/e.css"⟩ sheet.toUTF8 = .ok out ∧ out.references = ["a", "b\\c"] :=
    ⟨_, style_run_eq_ok_iff.2 ⟨sheet, hdecode, references_map_reference _ _, rfl⟩,
      (references_map_reference _ _).trans htargets⟩
  refine ⟨⟨_, htext, ?_⟩, ⟨styled, hstyle, hreferences, ?_⟩⟩
  · obtain ⟨value, source, -, hwritten, hfound⟩ :=
      (references_generated context ⟨"/e.css"⟩ _ _).1 htext
    exact ⟨source, hwritten.content_eq, hfound⟩
  · obtain ⟨_, source, -, hwritten, hfound⟩ :=
      (references_generated context ⟨"/e.css"⟩ _ _).2.2.2 hstyle
    rw [hreferences] at hfound
    exact ⟨source, hwritten.content_eq, hfound.trans (by decide)⟩

end Transform

end Bundler
