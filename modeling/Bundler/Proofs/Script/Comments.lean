import Bundler.Proofs.Script.Places

set_option autoImplicit false

/-! # Scripts without their comments

If every comment of a script is replaced by a line feed, the rest is still cut at the same places
(`literal?_uncommented`), so no string and no other comment appears or goes. But where a comment
stood in a gap of a reference, there is white space now, and the reference is found
(`reference?_uncommented_iff`). So the references stay the same if no reference has a comment in its
gaps (`references_withoutComments`).

Line comments need care. Two slashes start none if their line ends with a carriage return alone, and
the line feed that replaces a comment behind them would make one of them. -/

namespace Bundler.Script

/-! ## Taking comments out -/

/-- A span, with a line feed in place of a comment. -/
def Span.uncommented : Span → List Char
  | .code text => text
  | .literal text => if text.head? = some '/' then ['\n'] else text

/-- A text with a line feed in place of each of its comments. -/
def uncommented (text : List Char) : List Char := (spans text).flatMap Span.uncommented

/-- A script with a line feed in place of each of its comments. -/
def withoutComments (source : String) : String := .ofList (uncommented source.toList)

theorem flatMap_uncommented_spansAfter (code text : List Char) :
    (spansAfter code text).flatMap Span.uncommented = code.reverse ++ uncommented text := by
  have hcode : ∀ code, (codeSpan code).flatMap Span.uncommented = code.reverse := by
    intro code
    cases code <;> simp [codeSpan, Span.uncommented]
  unfold uncommented spans
  induction text using cut_induction generalizing code with
  | nil => rw [spansAfter_nil, spansAfter_nil, hcode, hcode, List.reverse_nil, List.append_nil]
  | literal found rest h ih =>
    rw [spansAfter_literal h, spansAfter_literal h, List.flatMap_append, List.flatMap_append,
      hcode, hcode, List.reverse_nil, List.nil_append]
  | code c rest h ih =>
    rw [spansAfter_code h, spansAfter_code h, ih, ih [c]]
    simp

theorem uncommented_nil : uncommented [] = [] := by
  rw [uncommented, spans, spansAfter_nil]
  rfl

theorem uncommented_literal {found rest : List Char} (h : IsLiteral found rest) :
    uncommented (found ++ rest) = (Span.literal found).uncommented ++ uncommented rest := by
  rw [uncommented, spans, spansAfter_literal h]
  rfl

theorem uncommented_comment {found rest : List Char} (h : IsComment found rest) :
    uncommented (found ++ rest) = '\n' :: uncommented rest := by
  rw [uncommented_literal (.inl h)]
  cases h <;> rfl

theorem uncommented_string {found : List Char} (h : IsString found) (rest : List Char) :
    uncommented (found ++ rest) = found ++ uncommented rest := by
  rw [uncommented_literal (.inr h)]
  obtain ⟨hquote, -⟩ := h
  simp [Span.uncommented, (ne_of_isQuote hquote).2.1]

theorem uncommented_code {c : Char} {rest : List Char} (h : literal? (c :: rest) = none) :
    uncommented (c :: rest) = c :: uncommented rest := by
  rw [uncommented, spans, spansAfter_code h, flatMap_uncommented_spansAfter]
  rfl

theorem uncommented_append_of_isPlain {text : List Char} (h : IsPlain text) (rest : List Char) :
    uncommented (text ++ rest) = text ++ uncommented rest := by
  rw [uncommented, spans, spansAfter_append_of_isPlain h, flatMap_uncommented_spansAfter]
  simp

/-- What stands at the start of a text stays there, unless it is a comment. -/
theorem head?_uncommented (text : List Char) :
    (uncommented text).head? = text.head? ∨ (uncommented text).head? = some '\n' := by
  induction text using cut_induction with
  | nil => exact .inl (by rw [uncommented_nil])
  | literal found rest h =>
    rcases h with h | h
    · exact .inr (by rw [uncommented_comment h]; rfl)
    · refine .inl ?_
      rw [uncommented_string h]
      obtain ⟨-, -⟩ := h
      rfl
  | code c rest h => exact .inl (by rw [uncommented_code h]; rfl)

theorem head?_of_uncommented {text : List Char} {c : Char}
    (h : (uncommented text).head? = some c) (hc : c ≠ '\n') : text.head? = some c := by
  rcases head?_uncommented text with heq | heq
  · rw [← heq, h]
  · exact absurd (Option.some.inj (h.symm.trans heq)) hc

/-! ## Strings without end -/

/-- A quote is found, or not, by how the text goes on behind an escape and behind anything else. -/
theorem closing?_append_eq_none {quote : Char} {rest rest' : List Char}
    (h : closing? quote rest = none → closing? quote rest' = none)
    (hescaped : closing? quote ('\\' :: rest) = none → closing? quote ('\\' :: rest') = none)
    (text : List Char) (htext : closing? quote (text ++ rest) = none) :
    closing? quote (text ++ rest') = none := by
  induction text using closing?.induct quote with
  | case1 => exact h htext
  | case2 c more ih => exact ih htext
  | case3 => exact hescaped htext
  | case4 more hescape hend =>
    have hne := ne_escape hescape hend
    rw [List.cons_append, closing?_cons hne, if_pos rfl] at htext
    cases htext
  | case5 c more hescape hend hc ih =>
    have hne := ne_escape hescape hend
    rw [List.cons_append, closing?_cons hne, if_neg hc] at htext ⊢
    exact ih htext

/-- Behind an ordinary character no escape is open. -/
theorem closing?_eq_none_of_append {quote c : Char} (hc : c ≠ quote) (hescape : c ≠ '\\')
    (text : List Char) {rest : List Char} (h : closing? quote (text ++ c :: rest) = none) :
    closing? quote rest = none := by
  induction text using closing?.induct quote with
  | case1 => rwa [List.nil_append, closing?_cons hescape, if_neg hc] at h
  | case2 d more ih => exact ih h
  | case3 => exact h
  | case4 more hescape hend =>
    have hne := ne_escape hescape hend
    rw [List.cons_append, closing?_cons hne, if_pos rfl] at h
    cases h
  | case5 d more hescape hend hd ih =>
    have hne := ne_escape hescape hend
    rw [List.cons_append, closing?_cons hne, if_neg hd] at h
    exact ih h

/-- A quote that opens no string opens none without the comments either. The claim is made for a
    text behind an escape, too, where its first character does not count. -/
theorem closing?_uncommented {quote : Char} (hquote : isQuote quote = true) (text : List Char) :
    (closing? quote text = none → closing? quote (uncommented text) = none) ∧
      (closing? quote ('\\' :: text) = none →
        closing? quote ('\\' :: uncommented text) = none) := by
  obtain ⟨-, hslash, -, hfeed, hreturn⟩ := ne_of_isQuote hquote
  induction text using cut_induction with
  | nil => simp [uncommented_nil]
  | literal found rest h ih =>
    rcases h with h | h
    · -- whatever is open before the comment, nothing is open behind it or behind the line feed
      have hafter : ∀ before, closing? quote (before ++ (found ++ rest)) = none →
          closing? quote (uncommented rest) = none := by
        intro before hnone
        refine ih.1 ?_
        cases h with
        | @block body =>
          refine closing?_eq_none_of_append hslash.symm (by decide)
            (before ++ '/' :: '*' :: (body ++ ['*'])) ?_
          simpa using hnone
        | @line body _ _ hrest =>
          cases hrest with
          | nil => rfl
          | feed rest =>
            rw [← List.append_assoc] at hnone
            rw [closing?_cons (by decide), if_neg hfeed.symm]
            exact closing?_eq_none_of_append hfeed.symm (by decide) _ hnone
          | returnFeed rest =>
            rw [← List.append_assoc] at hnone
            rw [closing?_cons (by decide), if_neg hreturn.symm]
            exact closing?_eq_none_of_append hreturn.symm (by decide) _ hnone
      rw [uncommented_comment h]
      refine ⟨fun hnone => ?_, fun hnone => hafter ['\\'] hnone⟩
      rw [closing?_cons (by decide), if_neg hfeed.symm]
      exact hafter [] hnone
    · rw [uncommented_string h]
      exact ⟨closing?_append_eq_none ih.1 ih.2 found,
        closing?_append_eq_none ih.1 ih.2 ('\\' :: found)⟩
  | code c rest h ih =>
    rw [uncommented_code h]
    exact ⟨closing?_append_eq_none ih.1 ih.2 [c], closing?_append_eq_none ih.1 ih.2 ['\\', c]⟩

/-! ## Comments without end -/

theorem not_infix_append (text : List Char) {rest rest' : List Char} (h : ¬ ['*', '/'] <:+: rest')
    (hhead : rest'.head? = some '/' → rest.head? = some '/')
    (htext : ¬ ['*', '/'] <:+: text ++ rest) : ¬ ['*', '/'] <:+: text ++ rest' := by
  induction text with
  | nil => exact h
  | cons c more ih =>
    rw [List.cons_append, cons_infix_cons_iff, not_or] at htext ⊢
    refine ⟨?_, ih htext.2⟩
    rintro ⟨hc, hslash⟩
    refine htext.1 ⟨hc, ?_⟩
    cases more with
    | nil => exact hhead hslash
    | cons => exact hslash

/-- No end mark appears when comments are taken out. -/
theorem not_infix_uncommented {text : List Char} (h : ¬ ['*', '/'] <:+: text) :
    ¬ ['*', '/'] <:+: uncommented text := by
  have hhead : ∀ rest, (uncommented rest).head? = some '/' → rest.head? = some '/' :=
    fun rest hslash => head?_of_uncommented hslash (by decide)
  induction text using cut_induction with
  | nil => rwa [uncommented_nil]
  | literal found rest hliteral ih =>
    have hrest := ih fun hends => h (hends.trans (List.suffix_append found rest).isInfix)
    rcases hliteral with hcomment | hstring
    · rw [uncommented_comment hcomment, cons_infix_cons_iff, not_or]
      exact ⟨fun hstar => absurd hstar.1 (by decide), hrest⟩
    · rw [uncommented_string hstring]
      exact not_infix_append found hrest (hhead rest) h
  | code c rest hcode ih =>
    have hrest := ih fun hends => h (hends.trans (List.suffix_cons c rest).isInfix)
    rw [uncommented_code hcode]
    exact not_infix_append [c] hrest (hhead rest) h

/-- A character of code does not start a literal without the comments either, unless it is a slash
    before another one. -/
theorem literal?_uncommented {c : Char} {rest : List Char} (h : literal? (c :: rest) = none)
    (hslashes : ¬ ['/', '/'] <+: c :: rest) : literal? (c :: uncommented rest) = none := by
  obtain ⟨hcomment, hstring⟩ := literal?_eq_none_iff.1 h
  refine literal?_eq_none_iff.2 ⟨Option.eq_none_iff_forall_ne_some.2 fun after hafter => ?_, ?_⟩
  · obtain ⟨found, hfound, heq⟩ := comment?_eq_some_iff.1 hafter
    cases hfound with
    | line hbody =>
      obtain ⟨rfl, hrest⟩ := List.cons.inj heq
      have hhead := head?_of_uncommented (c := '/') (by rw [hrest]; rfl) (by decide)
      exact hslashes ⟨rest.tail, by rw [List.cons_append, List.cons_append, List.nil_append,
        List.cons_head?_tail hhead]⟩
    | block hbody =>
      obtain ⟨rfl, hrest⟩ := List.cons.inj heq
      have hhead := head?_of_uncommented (c := '*') (by rw [hrest]; rfl) (by decide)
      obtain ⟨more, rfl⟩ : ∃ more, rest = '*' :: more := ⟨_, (List.cons_head?_tail hhead).symm⟩
      rw [uncommented_code (literal?_cons_eq_none (by decide) more)] at hrest
      refine not_infix_uncommented (blockEnd?_eq_none_iff.1 hcomment) ?_
      rw [(List.cons.inj hrest).2]
      exact ⟨_, after, rfl⟩
  · by_cases hquote : isQuote c = true
    · rw [string?, if_pos hquote] at hstring ⊢
      exact (closing?_uncommented hquote rest).1 hstring
    · exact string?_cons_eq_none (Bool.eq_false_iff.2 hquote) _

/-! ## References without their comments

Each part of a reference with comments in its gaps is a part of one without them once the comments
are taken out. -/

variable {text rest : List Char}

protected theorem Skips.uncommented (h : Skips true text rest) :
    Skips false (uncommented text) (uncommented rest) := by
  induction h with
  | done text => exact .done _
  | @blank c text rest hc _ ih =>
    have hcode : literal? (c :: text) = none := literal?_cons_eq_none (isPlain_of_isGap hc) text
    rw [uncommented_code hcode]
    exact .blank hc ih
  | comment _ hfound _ ih =>
    rw [uncommented_comment hfound]
    exact .blank (by decide) ih

protected theorem ReadsWord.uncommented {word : List Char} (hword : IsWord word)
    (h : ReadsWord word text rest) : ReadsWord word (uncommented text) (uncommented rest) := by
  obtain ⟨plain, hplain, -⟩ := h.passes hword
  obtain ⟨rfl, hrest⟩ := h
  refine ⟨uncommented_append_of_isPlain hword.isPlain rest, ?_⟩
  rcases head?_uncommented rest with heq | heq
  · rwa [heq]
  · rw [heq]
    rfl

protected theorem ReadsSpecifier.uncommented {found : List Char}
    (h : ReadsSpecifier found text rest) :
    ReadsSpecifier found (uncommented text) (uncommented rest) := by
  obtain ⟨quote, hquoted, rfl⟩ := h
  refine ⟨quote, hquoted, ?_⟩
  have hstring := uncommented_string hquoted.isString rest
  simpa using hstring

protected theorem ReadsItem.uncommented (h : ReadsItem true text rest) :
    ReadsItem false (uncommented text) (uncommented rest) := by
  obtain @⟨c, _, _, hskip, hc⟩ | ⟨hskip, hword, hfrom, h⟩ := h
  · have hskip := hskip.uncommented
    rw [uncommented_code (literal?_cons_eq_none (isPlain_of_mem_clauseSigns hc) _)] at hskip
    exact .sign hskip hc
  · exact .word hskip.uncommented hword hfrom (h.uncommented hword)

protected theorem ReadsItems.uncommented (h : ReadsItems true text rest) :
    ReadsItems false (uncommented text) (uncommented rest) := by
  induction h with
  | done text => exact .done _
  | item hitem _ ih => exact .item hitem.uncommented ih

protected theorem ReadsFrom.uncommented {found : List Char} (h : ReadsFrom true found text rest) :
    ReadsFrom false found (uncommented text) (uncommented rest) := by
  obtain ⟨hskip, hword, hgap, hfound⟩ := h
  exact ⟨hskip.uncommented, hword.uncommented isWord_from, hgap.uncommented, hfound.uncommented⟩

protected theorem ReadsReference.uncommented {found : List Char}
    (h : ReadsReference true found text rest) :
    ReadsReference false found (uncommented text) (uncommented rest) := by
  cases h with
  | call hname hword hopen hgap hfound hclose =>
    have hopen := hopen.uncommented
    have hclose := hclose.uncommented
    rw [uncommented_code (literal?_cons_eq_none (by decide) _)] at hopen hclose
    exact .call hname (hword.uncommented (isWord_of_call hname)) hopen hgap.uncommented
      hfound.uncommented hclose
  | bare hword hgap hfound =>
    exact .bare (hword.uncommented isWord_import) hgap.uncommented hfound.uncommented
  | clause hname hword hitem hitems hfrom =>
    exact .clause hname (hword.uncommented (isWord_of_clause hname)) hitem.uncommented
      hitems.uncommented hfrom.uncommented

/-! ## References with their comments put back

And the other way round: what is read of a text without its comments stood in the text with them,
each comment in a gap. -/

/-- A character that is neither a line feed nor a quote was a character of code. -/
theorem exists_of_uncommented_eq_cons {c : Char} {after : List Char}
    (h : uncommented text = c :: after) (hfeed : c ≠ '\n') (hquote : isQuote c = false) :
    ∃ rest, text = c :: rest ∧ after = uncommented rest := by
  induction text using cut_induction with
  | nil =>
    rw [uncommented_nil] at h
    cases h
  | literal found rest hliteral =>
    rcases hliteral with hcomment | hstring
    · rw [uncommented_comment hcomment] at h
      exact absurd (List.cons.inj h).1.symm hfeed
    · rw [uncommented_string hstring] at h
      obtain ⟨hopen, -⟩ := hstring
      rw [(List.cons.inj h).1, hquote] at hopen
      cases hopen
  | code d rest hcode =>
    rw [uncommented_code hcode] at h
    obtain ⟨rfl, rfl⟩ := List.cons.inj h
    exact ⟨rest, rfl, rfl⟩

/-- White space was there, or else a comment was there in place of a line feed. -/
theorem exists_skips_of_uncommented_eq_cons {c : Char} {after : List Char}
    (h : uncommented text = c :: after) (hc : isGap c = true) :
    ∃ rest, after = uncommented rest ∧ ∀ place, Skips true rest place → Skips true text place := by
  induction text using cut_induction with
  | nil =>
    rw [uncommented_nil] at h
    cases h
  | literal found rest hliteral =>
    rcases hliteral with hcomment | hstring
    · rw [uncommented_comment hcomment] at h
      exact ⟨rest, (List.cons.inj h).2.symm, fun place hplace => .comment rfl hcomment hplace⟩
    · rw [uncommented_string hstring] at h
      obtain ⟨hopen, -⟩ := hstring
      rw [(List.cons.inj h).1, (isPlain_of_isGap hc).2] at hopen
      cases hopen
  | code d rest hcode =>
    rw [uncommented_code hcode] at h
    obtain ⟨rfl, rfl⟩ := List.cons.inj h
    exact ⟨rest, rfl, fun place hplace => .blank hc hplace⟩

theorem Skips.exists_of_uncommented {after : List Char} (h : Skips false (uncommented text) after) :
    ∃ rest, Skips true text rest ∧ after = uncommented rest := by
  generalize htext : uncommented text = start at h
  induction h generalizing text with
  | done => exact ⟨text, .done text, htext.symm⟩
  | blank hc _ ih =>
    obtain ⟨next, hnext, hskip⟩ := exists_skips_of_uncommented_eq_cons htext hc
    obtain ⟨rest, hrest, hafter⟩ := ih hnext.symm
    exact ⟨rest, hskip rest hrest, hafter⟩
  | comment hcomments => cases hcomments

theorem ReadsWord.exists_of_uncommented {word after : List Char} (hword : IsWord word)
    (h : ReadsWord word (uncommented text) after) :
    ∃ rest, ReadsWord word text rest ∧ after = uncommented rest := by
  obtain ⟨htext, hafter⟩ := h
  have hrest : ∃ rest, text = word ++ rest ∧ after = uncommented rest := by
    have hchars := hword.2
    clear hword
    induction word generalizing text with
    | nil => exact ⟨text, rfl, htext.symm⟩
    | cons c more ih =>
      obtain ⟨hgap, hquote, -⟩ := ne_of_isWordChar (hchars c List.mem_cons_self)
      have hfeed : c ≠ '\n' := by
        rintro rfl
        cases hgap
      obtain ⟨next, rfl, hnext⟩ := exists_of_uncommented_eq_cons htext hfeed hquote
      obtain ⟨rest, rfl, hrest⟩ := ih hnext.symm fun d hd => hchars d (List.mem_cons_of_mem _ hd)
      exact ⟨rest, rfl, hrest⟩
  obtain ⟨rest, rfl, rfl⟩ := hrest
  refine ⟨rest, ⟨rfl, ?_⟩, rfl⟩
  -- a word character behind the word would still be there
  cases rest with
  | nil => rfl
  | cons c more =>
    refine Bool.eq_false_iff.2 fun hc => ?_
    have hcode := literal?_cons_eq_none (isPlain_of_isWordChar hc) more
    rw [uncommented_code hcode] at hafter
    exact absurd (hafter.symm.trans hc) nofun

theorem ReadsSpecifier.exists_of_uncommented {found after : List Char}
    (h : ReadsSpecifier found (uncommented text) after) :
    ∃ rest, ReadsSpecifier found text rest ∧ after = uncommented rest := by
  obtain ⟨quote, hquoted, htext⟩ := h
  have hquote := hquoted.isQuote
  obtain ⟨hescape, -, -, hfeed, -⟩ := ne_of_isQuote hquote
  have hclosing := closing?_append hescape hquoted.isStringBody after
  induction text using cut_induction with
  | nil =>
    rw [uncommented_nil] at htext
    cases htext
  | literal literal rest hliteral =>
    rcases hliteral with hcomment | hstring
    · rw [uncommented_comment hcomment] at htext
      exact absurd (List.cons.inj htext).1 hfeed.symm
    · rw [uncommented_string hstring] at htext
      obtain @⟨quote', -, body, hbody⟩ := hstring
      rw [List.cons_append, List.append_assoc, List.singleton_append] at htext
      obtain ⟨rfl, hrest⟩ := List.cons.inj htext
      -- both texts are closed by the same quote
      have hclosing' := closing?_append hescape hbody (uncommented rest)
      rw [hrest] at hclosing'
      obtain rfl := Option.some.inj (hclosing.symm.trans hclosing')
      obtain rfl := List.append_cancel_right hrest
      exact ⟨rest, ⟨quote', hquoted, by simp⟩, rfl⟩
  | code c rest hcode =>
    rw [uncommented_code hcode] at htext
    obtain ⟨rfl, hrest⟩ := List.cons.inj htext
    -- the quote opens no string, so it is not closed without the comments either
    have hnone : closing? c rest = none := by
      have hstring := (literal?_eq_none_iff.1 hcode).2
      rwa [string?, if_pos hquote] at hstring
    rw [← hrest, (closing?_uncommented hquote rest).1 hnone] at hclosing
    cases hclosing

theorem exists_sign_of_uncommented {sign : Char} (hfeed : sign ≠ '\n')
    (hquote : isQuote sign = false) {after : List Char}
    (h : Skips false (uncommented text) (sign :: after)) :
    ∃ rest, Skips true text (sign :: rest) ∧ after = uncommented rest := by
  obtain ⟨next, hskip, hnext⟩ := h.exists_of_uncommented
  obtain ⟨rest, rfl, hrest⟩ := exists_of_uncommented_eq_cons hnext.symm hfeed hquote
  exact ⟨rest, hskip, hrest⟩

theorem ReadsItem.exists_of_uncommented {after : List Char}
    (h : ReadsItem false (uncommented text) after) :
    ∃ rest, ReadsItem true text rest ∧ after = uncommented rest := by
  obtain @⟨c, _, _, hskip, hc⟩ | ⟨hskip, hword, hfrom, hreads⟩ := h
  · have hfeed : c ≠ '\n' := by
      rintro rfl
      revert hc
      decide
    obtain ⟨rest, hskip', rfl⟩ :=
      exists_sign_of_uncommented hfeed (isPlain_of_mem_clauseSigns hc).2 hskip
    exact ⟨rest, .sign hskip' hc, rfl⟩
  · obtain ⟨start, hskip', rfl⟩ := hskip.exists_of_uncommented
    obtain ⟨rest, hreads', rfl⟩ := hreads.exists_of_uncommented hword
    exact ⟨rest, .word hskip' hword hfrom hreads', rfl⟩

theorem ReadsItems.exists_of_uncommented {after : List Char}
    (h : ReadsItems false (uncommented text) after) :
    ∃ rest, ReadsItems true text rest ∧ after = uncommented rest := by
  generalize htext : uncommented text = start at h
  induction h generalizing text with
  | done => exact ⟨text, .done text, htext.symm⟩
  | item hitem _ ih =>
    rw [← htext] at hitem
    obtain ⟨next, hitem', hnext⟩ := hitem.exists_of_uncommented
    obtain ⟨rest, hrest, hafter⟩ := ih hnext.symm
    exact ⟨rest, .item hitem' hrest, hafter⟩

theorem ReadsFrom.exists_of_uncommented {found after : List Char}
    (h : ReadsFrom false found (uncommented text) after) :
    ∃ rest, ReadsFrom true found text rest ∧ after = uncommented rest := by
  obtain ⟨hskip, hword, hgap, hfound⟩ := h
  obtain ⟨start, hskip', rfl⟩ := hskip.exists_of_uncommented
  obtain ⟨gap, hword', rfl⟩ := hword.exists_of_uncommented isWord_from
  obtain ⟨specifier, hgap', rfl⟩ := hgap.exists_of_uncommented
  obtain ⟨rest, hfound', rfl⟩ := hfound.exists_of_uncommented
  exact ⟨rest, ⟨hskip', hword', hgap', hfound'⟩, rfl⟩

theorem ReadsReference.exists_of_uncommented {found after : List Char}
    (h : ReadsReference false found (uncommented text) after) :
    ∃ rest, ReadsReference true found text rest ∧ after = uncommented rest := by
  cases h with
  | call hname hword hopen hgap hfound hclose =>
    obtain ⟨gap, hword', rfl⟩ := hword.exists_of_uncommented (isWord_of_call hname)
    obtain ⟨inside, hopen', rfl⟩ := exists_sign_of_uncommented (by decide) (by decide) hopen
    obtain ⟨specifier, hgap', rfl⟩ := hgap.exists_of_uncommented
    obtain ⟨next, hfound', rfl⟩ := hfound.exists_of_uncommented
    obtain ⟨rest, hclose', rfl⟩ := exists_sign_of_uncommented (by decide) (by decide) hclose
    exact ⟨rest, .call hname hword' hopen' hgap' hfound' hclose', rfl⟩
  | bare hword hgap hfound =>
    obtain ⟨gap, hword', rfl⟩ := hword.exists_of_uncommented isWord_import
    obtain ⟨specifier, hgap', rfl⟩ := hgap.exists_of_uncommented
    obtain ⟨rest, hfound', rfl⟩ := hfound.exists_of_uncommented
    exact ⟨rest, .bare hword' hgap' hfound', rfl⟩
  | clause hname hword hitem hitems hfrom =>
    obtain ⟨gap, hword', rfl⟩ := hword.exists_of_uncommented (isWord_of_clause hname)
    obtain ⟨next, hitem', rfl⟩ := hitem.exists_of_uncommented
    obtain ⟨last, hitems', rfl⟩ := hitems.exists_of_uncommented
    obtain ⟨rest, hfrom', rfl⟩ := hfrom.exists_of_uncommented
    exact ⟨rest, .clause hname hword' hitem' hitems' hfrom', rfl⟩

/-- Without its comments, a text starts with a reference if with them it starts with one that may
    have comments in its gaps. -/
theorem reference?_uncommented_iff {found after : List Char} :
    reference? (uncommented text) = some (found, after) ↔
      ∃ rest, ReadsReference true found text rest ∧ after = uncommented rest := by
  rw [reference?_eq_some_iff]
  constructor
  · exact ReadsReference.exists_of_uncommented
  · rintro ⟨rest, h, rfl⟩
    exact h.uncommented

/-! ## References without comments in their gaps -/

protected theorem Skips.mono (h : Skips false text rest) : Skips true text rest := by
  induction h with
  | done text => exact .done text
  | blank hc _ ih => exact .blank hc ih
  | comment hcomments => cases hcomments

protected theorem ReadsItem.mono (h : ReadsItem false text rest) : ReadsItem true text rest := by
  obtain ⟨hskip, hc⟩ | ⟨hskip, hword, hfrom, h⟩ := h
  · exact .sign hskip.mono hc
  · exact .word hskip.mono hword hfrom h

protected theorem ReadsItems.mono (h : ReadsItems false text rest) : ReadsItems true text rest := by
  induction h with
  | done text => exact .done text
  | item hitem _ ih => exact .item hitem.mono ih

/-- A reference may have comments in its gaps, but it need not. -/
protected theorem ReadsReference.mono {found : List Char}
    (h : ReadsReference false found text rest) : ReadsReference true found text rest := by
  cases h with
  | call hname hword hopen hgap hfound hclose =>
    exact .call hname hword hopen.mono hgap.mono hfound hclose.mono
  | bare hword hgap hfound => exact .bare hword hgap.mono hfound
  | clause hname hword hitem hitems hfrom =>
    obtain ⟨hskip, hfrom, hgap, hfound⟩ := hfrom
    exact .clause hname hword hitem.mono hitems.mono ⟨hskip.mono, hfrom, hgap.mono, hfound⟩

/-- Whether no reference of a script has a comment in a gap. -/
def NoCommentInGaps (source : List Char) : Prop :=
  ∀ text, CutsAt source text → ∀ found rest, ReadsReference true found text rest →
    ReadsReference false found text rest

theorem uncommented_eq_self (h : '/' ∉ text) : uncommented text = text := by
  induction text using cut_induction with
  | nil => exact uncommented_nil
  | literal found rest hliteral ih =>
    rw [List.mem_append, not_or] at h
    rcases hliteral with hcomment | hstring
    · refine absurd ?_ h.1
      cases hcomment <;> exact List.mem_cons_self
    · rw [uncommented_string hstring, ih h.2]
  | code c rest hcode ih =>
    rw [uncommented_code hcode, ih fun hmem => h (List.mem_cons_of_mem c hmem)]

/-- It is enough that no slash stands behind the first word of a reference. -/
theorem noCommentInGaps_of_not_mem {source : List Char}
    (h : ∀ text ∈ source.tails, text.takeWhile isWordChar ∈ referenceWords → '/' ∉ text) :
    NoCommentInGaps source := by
  intro text hcuts found rest hreads
  have hslash := h text ((List.mem_tails _ _).2 hcuts.suffix) hreads.takeWhile_mem
  have hslash' : '/' ∉ rest := fun hmem => hslash (hreads.cutsAt.suffix.subset hmem)
  have huncommented := hreads.uncommented
  rwa [uncommented_eq_self hslash, uncommented_eq_self hslash'] at huncommented

/-! ## The scanner and comments -/

/-- Whether any two slashes that stand outside of strings and comments start a comment. They do
    unless their line ends with a carriage return alone. -/
def EndsLineComments (source : List Char) : Prop :=
  ∀ text, CutsAt source text → ['/', '/'] <+: text → comment? text ≠ none

/-- Without its comments a script has the references that it has with them, those included that have
    comments in their gaps. The induction goes along the way on which these are found. -/
theorem Finds.scan_uncommented {source text : List Char} {l : List Occurrence}
    (h : Finds true text l) (hlines : EndsLineComments source) (hcuts : CutsAt source text) :
    scan (uncommented text) = l.map Occurrence.found := by
  induction h with
  | nil => rw [uncommented_nil, scan, List.map_nil]
  | comment hfound _ ih =>
    rw [uncommented_comment hfound, scan_other rfl (literal?_cons_eq_none (by decide) _),
      ih (hcuts.after_literal (.inl hfound))]
  | reference hfound _ ih =>
    rw [scan_reference hfound.uncommented, ih (hcuts.trans hfound.cutsAt), List.map_cons]
  | string hfound _ ih =>
    rw [uncommented_string hfound, scan_string hfound, ih (hcuts.after_literal (.inr hfound))]
  | word hword hreads hnone _ ih =>
    have hreference := Option.eq_none_iff_forall_ne_some.2 fun read h => by
      obtain ⟨rest, hrest, -⟩ := reference?_uncommented_iff.1 h
      exact hnone read.1 rest hrest
    rw [scan_word (hreads.uncommented hword) hword hreference,
      ih (hcuts.trans (hreads.passes hword).cutsAt)]
  | other hc hliteral _ ih =>
    have hslashes := fun hslashes => hlines _ hcuts hslashes (literal?_eq_none_iff.1 hliteral).1
    rw [uncommented_code hliteral, scan_other hc (literal?_uncommented hliteral hslashes),
      ih (hcuts.after_code hliteral)]

/-- If no reference has a comment in a gap, the same references are found whether or not they may
    have some. -/
theorem Finds.mono {source text : List Char} {l : List Occurrence} (h : Finds false text l)
    (hgaps : NoCommentInGaps source) (hcuts : CutsAt source text) : Finds true text l := by
  induction h with
  | nil => exact .nil
  | comment hfound _ ih => exact .comment hfound (ih (hcuts.after_literal (.inl hfound)))
  | reference hfound _ ih => exact .reference hfound.mono (ih (hcuts.trans hfound.cutsAt))
  | string hfound _ ih => exact .string hfound (ih (hcuts.after_literal (.inr hfound)))
  | word hword hreads hnone _ ih =>
    exact .word hword hreads (fun found after h => hnone found after (hgaps _ hcuts found after h))
      (ih (hcuts.trans (hreads.passes hword).cutsAt))
  | other hc hliteral _ ih => exact .other hc hliteral (ih (hcuts.after_code hliteral))

/-- If any two slashes outside of strings and comments start a comment, then a script without its
    comments has the references that are found in it where comments count as gaps. These are its
    own references if no reference has a comment in a gap. -/
theorem references_withoutComments (source : String) (hlines : EndsLineComments source.toList) :
    (∃ found, Finds true source.toList found) ∧
    (∀ found, Finds true source.toList found →
      references (withoutComments source) = found.map fun o => .ofList o.found) ∧
    (NoCommentInGaps source.toList → references (withoutComments source) = references source) := by
  have hfinds : ∀ found, Finds true source.toList found →
      references (withoutComments source) = found.map fun o => .ofList o.found := by
    intro found hfound
    rw [references, withoutComments, String.toList_ofList,
      hfound.scan_uncommented hlines (.here _), List.map_map]
    rfl
  refine ⟨exists_finds true source.toList, hfinds, fun hgaps => ?_⟩
  obtain ⟨found, hfound⟩ := exists_finds false source.toList
  rw [hfinds found (hfound.mono hgaps (.here _)), references, hfound.scan_eq, List.map_map]
  rfl

/-- A comment before a statement adds and removes nothing. -/
theorem references_withoutComments_statement :
    EndsLineComments "/* a */import \"b\"".toList ∧
      NoCommentInGaps "/* a */import \"b\"".toList ∧
      references (withoutComments "/* a */import \"b\"") = references "/* a */import \"b\"" := by
  have hlines : EndsLineComments "/* a */import \"b\"".toList := by
    intro text hcuts hslashes
    have hslashes := hslashes.isInfix.trans hcuts.suffix.isInfix
    exact absurd hslashes (by decide)
  have hgaps : NoCommentInGaps "/* a */import \"b\"".toList :=
    noCommentInGaps_of_not_mem (by decide)
  exact ⟨hlines, hgaps, (references_withoutComments _ hlines).2.2 hgaps⟩

/-- In a clause a comment hides the reference. -/
theorem references_hidden_by_comment :
    withoutComments "import a, /* all */ * as b from \"./c\";" =
        "import a, \n * as b from \"./c\";" ∧
      references "import a, /* all */ * as b from \"./c\";" = [] ∧
      references (withoutComments "import a, /* all */ * as b from \"./c\";") = ["./c"] := by
  decide +kernel

end Bundler.Script
