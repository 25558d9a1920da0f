import Bundler.Proofs.Script.Grammar
import Bundler.Proofs.Script.Spans

set_option autoImplicit false

/-! # What the scanner does at each place

At a place the scanner finds a comment, a reference, a string, a word that starts no reference, or
another character, and never two of these. It goes on behind what it found (`scan_comment` and the
lemmas after it). The cutting into spans goes through a reference piece by piece, but it comes by
the same place behind it (`ReadsReference.cutsAt`), because nothing but the specifier is a literal
there (`ReadsReference.passes`). -/

namespace Bundler.Script

/-! ## The text of a reference -/

/-- Whether no literal can start before the second text, which ends the first one. -/
def Passes (text rest : List Char) : Prop := ∃ plain, IsPlain plain ∧ text = plain ++ rest

namespace Passes

theorem refl (text : List Char) : Passes text text := ⟨[], nofun, rfl⟩

theorem trans {text next rest : List Char} (h : Passes text next) (h' : Passes next rest) :
    Passes text rest := by
  obtain ⟨plain, hplain, rfl⟩ := h
  obtain ⟨plain', hplain', rfl⟩ := h'
  refine ⟨plain ++ plain', fun c hc => ?_, (List.append_assoc ..).symm⟩
  rcases List.mem_append.1 hc with hc | hc
  · exact hplain c hc
  · exact hplain' c hc

theorem cons {c : Char} (hc : c ≠ '/' ∧ isQuote c = false) (rest : List Char) :
    Passes (c :: rest) rest := by
  refine ⟨[c], fun d hd => ?_, rfl⟩
  obtain rfl := List.mem_singleton.1 hd
  exact hc

end Passes

theorem isPlain_of_isGap {c : Char} (h : isGap c = true) : c ≠ '/' ∧ isQuote c = false := by
  have hne : ∀ d, isGap d = false → c ≠ d := by
    rintro d hd rfl
    exact absurd (hd.symm.trans h) nofun
  exact ⟨hne '/' rfl, by simp [isQuote, hne '"' rfl, hne '\'' rfl, hne '`' rfl]⟩

theorem isPlain_of_mem_clauseSigns {c : Char} (h : c ∈ clauseSigns) :
    c ≠ '/' ∧ isQuote c = false := by
  simp only [clauseSigns, List.mem_cons, List.not_mem_nil, or_false] at h
  rcases h with rfl | rfl | rfl | rfl <;> decide

theorem isPlain_of_isWordChar {c : Char} (h : isWordChar c = true) :
    c ≠ '/' ∧ isQuote c = false := by
  obtain ⟨-, hquote, hslash, -⟩ := ne_of_isWordChar h
  exact ⟨hslash, hquote⟩

theorem IsWord.isPlain {word : List Char} (h : IsWord word) : IsPlain word :=
  fun c hc => isPlain_of_isWordChar (h.2 c hc)

theorem ReadsWord.passes {word text rest : List Char} (h : ReadsWord word text rest)
    (hword : IsWord word) : Passes text rest :=
  ⟨word, hword.isPlain, h.1⟩

theorem Skips.passes {text rest : List Char} (h : Skips false text rest) : Passes text rest := by
  induction h with
  | done text => exact .refl text
  | blank hc _ ih => exact .trans (.cons (isPlain_of_isGap hc) _) ih
  | comment hcomments => cases hcomments

theorem ReadsItem.passes {text rest : List Char} (h : ReadsItem false text rest) :
    Passes text rest := by
  obtain @⟨c, _, _, hskip, hc⟩ | ⟨hskip, hword, -, h⟩ := h
  · exact hskip.passes.trans (.cons (isPlain_of_mem_clauseSigns hc) _)
  · exact hskip.passes.trans (h.passes hword)

theorem ReadsItems.passes {text rest : List Char} (h : ReadsItems false text rest) :
    Passes text rest := by
  induction h with
  | done text => exact .refl text
  | item hitem _ ih => exact hitem.passes.trans ih

/-- The specifier is the only literal in the text of a reference. -/
theorem ReadsReference.passes {found text rest : List Char}
    (h : ReadsReference false found text rest) :
    ∃ specifier after, Passes text specifier ∧ ReadsSpecifier found specifier after ∧
      Passes after rest := by
  cases h with
  | @call _ _ gap inside specifier after _ hname hword hopen hgap hfound hclose =>
    have hword := hword.passes (isWord_of_call hname)
    have hopen := hopen.passes.trans (.cons (by decide) inside)
    exact ⟨specifier, after, (hword.trans hopen).trans hgap.passes, hfound,
      hclose.passes.trans (.cons (by decide) rest)⟩
  | bare hword hgap hfound =>
    exact ⟨_, rest, (hword.passes isWord_import).trans hgap.passes, hfound, .refl rest⟩
  | clause hname hword hitem hitems hfrom =>
    have hword := hword.passes (isWord_of_clause hname)
    obtain ⟨hskip, hfrom, hgap, hfound⟩ := hfrom
    have hclause := (hword.trans hitem.passes).trans hitems.passes
    have hfrom := (hclause.trans hskip.passes).trans (hfrom.passes isWord_from)
    exact ⟨_, rest, hfrom.trans hgap.passes, hfound, .refl rest⟩

theorem IsSpecifier.isQuote {quote : Char} {found : List Char} (h : IsSpecifier quote found) :
    isQuote quote = true := by
  rcases h.1 with rfl | rfl <;> rfl

theorem IsSpecifier.isStringBody {quote : Char} {found : List Char} (h : IsSpecifier quote found) :
    IsStringBody quote found := by
  obtain ⟨-, -, hinside⟩ := h
  induction found with
  | nil => exact .nil
  | cons c more ih =>
    obtain ⟨hc, hescape, -⟩ := hinside c List.mem_cons_self
    exact .plain hc hescape (ih fun d hd => hinside d (List.mem_cons_of_mem _ hd))

/-- A specifier with its quotes is a string. -/
theorem IsSpecifier.isString {quote : Char} {found : List Char} (h : IsSpecifier quote found) :
    IsString (quote :: (found ++ [quote])) :=
  .intro h.isQuote h.isStringBody

/-! ## The cutting goes by the parts of a reference -/

theorem Skips.cutsAt {comments : Bool} {text rest : List Char} (h : Skips comments text rest) :
    CutsAt text rest := by
  induction h with
  | done text => exact .here text
  | blank hc _ ih => exact .code (literal?_cons_eq_none (isPlain_of_isGap hc) _) ih
  | comment _ hfound _ ih => exact .literal (.inl hfound) ih

theorem Passes.cutsAt {text rest : List Char} (h : Passes text rest) : CutsAt text rest := by
  obtain ⟨plain, hplain, rfl⟩ := h
  exact (CutsAt.here _).after_plain hplain

theorem ReadsSpecifier.cutsAt {found text rest : List Char} (h : ReadsSpecifier found text rest) :
    CutsAt text rest := by
  obtain ⟨quote, hquoted, rfl⟩ := h
  have hliteral := CutsAt.literal (.inr hquoted.isString) (.here rest)
  simpa using hliteral

theorem ReadsItem.cutsAt {comments : Bool} {text rest : List Char}
    (h : ReadsItem comments text rest) : CutsAt text rest := by
  obtain ⟨hskip, hc⟩ | ⟨hskip, hword, -, h⟩ := h
  · exact hskip.cutsAt.after_code (literal?_cons_eq_none (isPlain_of_mem_clauseSigns hc) rest)
  · exact hskip.cutsAt.trans (h.passes hword).cutsAt

theorem ReadsItems.cutsAt {comments : Bool} {text rest : List Char}
    (h : ReadsItems comments text rest) : CutsAt text rest := by
  induction h with
  | done text => exact .here text
  | item hitem _ ih => exact hitem.cutsAt.trans ih

theorem ReadsFrom.cutsAt {comments : Bool} {found text rest : List Char}
    (h : ReadsFrom comments found text rest) : CutsAt text rest := by
  obtain ⟨hskip, hword, hgap, hfound⟩ := h
  exact ((hskip.cutsAt.trans (hword.passes isWord_from).cutsAt).trans hgap.cutsAt).trans
    hfound.cutsAt

/-- The cutting comes by the place behind a reference, after the word that the reference starts
    with. -/
theorem ReadsReference.exists_cutsAt {comments : Bool} {found text rest : List Char}
    (h : ReadsReference comments found text rest) :
    ∃ name gap, IsWord name ∧ ReadsWord name text gap ∧ CutsAt gap rest := by
  cases h with
  | call hname hword hopen hgap hfound hclose =>
    have hopen := hopen.cutsAt.after_code (literal?_cons_eq_none (by decide) _)
    have hclose := hclose.cutsAt.after_code (literal?_cons_eq_none (by decide) rest)
    exact ⟨_, _, isWord_of_call hname, hword,
      ((hopen.trans hgap.cutsAt).trans hfound.cutsAt).trans hclose⟩
  | bare hword hgap hfound =>
    exact ⟨_, _, isWord_import, hword, hgap.cutsAt.trans hfound.cutsAt⟩
  | clause hname hword hitem hitems hfrom =>
    exact ⟨_, _, isWord_of_clause hname, hword,
      (hitem.cutsAt.trans hitems.cutsAt).trans hfrom.cutsAt⟩

theorem ReadsReference.cutsAt {comments : Bool} {found text rest : List Char}
    (h : ReadsReference comments found text rest) : CutsAt text rest := by
  obtain ⟨name, gap, hname, hword, hrest⟩ := h.exists_cutsAt
  exact (hword.passes hname).cutsAt.trans hrest

theorem ReadsReference.length_lt {comments : Bool} {found text rest : List Char}
    (h : ReadsReference comments found text rest) : rest.length < text.length := by
  obtain ⟨name, gap, hname, ⟨rfl, -⟩, hrest⟩ := h.exists_cutsAt
  have hlength := hrest.suffix.length_le
  have hpos := List.length_pos_of_ne_nil hname.1
  rw [List.length_append]
  omega

/-! ## No two at one place -/

theorem IsWord.literal?_eq_none {word : List Char} (h : IsWord word) (rest : List Char) :
    literal? (word ++ rest) = none := by
  obtain ⟨c, more, rfl⟩ := List.exists_cons_of_ne_nil h.1
  exact literal?_cons_eq_none (h.isPlain c List.mem_cons_self) (more ++ rest)

theorem ReadsReference.literal?_eq_none {comments : Bool} {found text rest : List Char}
    (h : ReadsReference comments found text rest) : literal? text = none := by
  obtain ⟨name, -, hname, gap, rfl, -⟩ := h.exists_readsWord
  exact hname.literal?_eq_none gap

/-- No reference starts where no word starts. -/
theorem reference?_cons_eq_none {c : Char} (h : isWordChar c = false) (rest : List Char) :
    reference? (c :: rest) = none := by
  refine Option.eq_none_iff_forall_ne_some.2 fun ⟨found, after⟩ hreference => ?_
  obtain ⟨name, -, hname, gap, hword⟩ :=
    (reference?_eq_some_iff.1 hreference).exists_readsWord
  obtain ⟨d, more, hd, heq⟩ := hword.exists_cons hname
  obtain ⟨rfl, -⟩ := List.cons.inj heq
  exact absurd (h.symm.trans hd) nofun

/-- No reference starts with a word that starts none. -/
theorem reference?_eq_none_of_not_mem {text : List Char}
    (h : text.takeWhile isWordChar ∉ referenceWords) : reference? text = none :=
  Option.eq_none_iff_forall_ne_some.2 fun _ hreference =>
    h (reference?_eq_some_iff.1 hreference).takeWhile_mem

/-! ## Steps -/

theorem scan_cons (c : Char) (rest : List Char) :
    scan (c :: rest) = match comment? (c :: rest), reference? (c :: rest), string? (c :: rest) with
      | some after, _, _ => scan after
      | none, some (found, after), _ => found :: scan after
      | none, none, some after => scan after
      | none, none, none =>
        if isWordChar c then scan (rest.dropWhile isWordChar) else scan rest := by
  rw [scan]
  split
  · next hcomment => rw [hcomment]
  · next hcomment =>
    split
    · next hreference => rw [hcomment, hreference]
    · next hreference =>
      split
      · next hstring => rw [hcomment, hreference, hstring]
      · next hstring => rw [hcomment, hreference, hstring]

theorem scan_comment {found rest : List Char} (h : IsComment found rest) :
    scan (found ++ rest) = scan rest := by
  have hcomment := comment?_eq_some_iff.2 ⟨found, h, rfl⟩
  obtain ⟨c, more, rfl, -⟩ := IsLiteral.exists_cons (.inl h)
  rw [List.cons_append] at hcomment ⊢
  rw [scan_cons, hcomment]

theorem scan_reference {found text rest : List Char} (h : ReadsReference false found text rest) :
    scan text = found :: scan rest := by
  have hreference := reference?_eq_some_iff.2 h
  have hcomment := (literal?_eq_none_iff.1 h.literal?_eq_none).1
  obtain ⟨name, -, hname, gap, hword⟩ := h.exists_readsWord
  obtain ⟨c, more, -, rfl⟩ := hword.exists_cons hname
  rw [scan_cons, hcomment, hreference]

theorem scan_string {found : List Char} (h : IsString found) (rest : List Char) :
    scan (found ++ rest) = scan rest := by
  have hstring : string? (found ++ rest) = some rest := string?_eq_some_iff.2 ⟨found, h, rfl⟩
  obtain ⟨hquote, -⟩ := h
  rw [List.cons_append] at hstring ⊢
  rw [scan_cons, comment?_cons_eq_none (ne_of_isQuote hquote).2.1,
    reference?_cons_eq_none (ne_sign_of_isQuote hquote).2.1, hstring]

theorem scan_cons_of_eq_none {c : Char} {rest : List Char} (hliteral : literal? (c :: rest) = none)
    (hreference : reference? (c :: rest) = none) :
    scan (c :: rest) = if isWordChar c then scan (rest.dropWhile isWordChar) else scan rest := by
  obtain ⟨hcomment, hstring⟩ := literal?_eq_none_iff.1 hliteral
  rw [scan_cons, hcomment, hreference, hstring]

theorem scan_word {word text rest : List Char} (h : ReadsWord word text rest) (hword : IsWord word)
    (hreference : reference? text = none) : scan text = scan rest := by
  obtain ⟨c, more, hc, rfl⟩ := h.exists_cons hword
  have hdrop := (h.takeWhile_eq hword).2
  rw [List.dropWhile_cons_of_pos hc] at hdrop
  have hliteral : literal? (c :: more) = none := by
    rw [h.1]
    exact hword.literal?_eq_none rest
  rw [scan_cons_of_eq_none hliteral hreference, if_pos hc, hdrop]

theorem scan_other {c : Char} {rest : List Char} (hc : isWordChar c = false)
    (hliteral : literal? (c :: rest) = none) : scan (c :: rest) = scan rest := by
  rw [scan_cons_of_eq_none hliteral (reference?_cons_eq_none hc rest), hc]
  rfl

end Bundler.Script
