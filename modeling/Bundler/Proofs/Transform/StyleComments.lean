import Bundler.Proofs.Build.Loading
import Bundler.Proofs.Script.Literals
import Bundler.Proofs.Transform.StyleSheet

set_option autoImplicit false

/-! # Imports and comments of style sheets

Imports are looked for in the whole text of a sheet, in its comments too. So a sheet is not always
read like the same sheet with a space in place of each comment: an import that is commented out
still counts, and it is cut out of the sheet up to the end of its line (`style_run_of_comment`). The
two sheets are read in the same way if comments and imports stand apart (`IsApart`): then one pass
finds imports where the other one does, and both keep the same pieces
(`style_run_withoutComments`). -/

namespace Bundler.Transform

namespace StyleSheet

/-! ## Pieces of a sheet -/

/-- A piece of a style sheet. -/
inductive Piece
  | char (c : Char)
  | comment (text : List Char)
deriving DecidableEq, Repr

/-- The characters of a piece. -/
def Piece.text : Piece → List Char
  | .char c => [c]
  | .comment text => text

/-- The characters of a piece, where a comment is one space. -/
def Piece.blanked : Piece → List Char
  | .char c => [c]
  | .comment _ => [' ']

/-- The characters that end a line of a style sheet. -/
def isLineEnd (c : Char) : Bool := c == '\n' || c == '\r' || c == '\x0C'

/-- The text after a comment. -/
def comment? : List Char → Option (List Char)
  | '/' :: '*' :: rest => Script.blockEnd? rest
  | _ => none

theorem comment?_suffix {text rest : List Char} (h : comment? text = some rest) :
    rest <:+ text ∧ rest.length < text.length := by
  unfold comment? at h
  split at h
  · obtain ⟨body, -, rfl⟩ := Script.exists_body_of_blockEnd? h
    refine ⟨⟨'/' :: '*' :: (body ++ ['*', '/']), by simp⟩, ?_⟩
    simp only [List.length_cons, List.length_append]
    omega
  · cases h

/-- The quote of the string that the text behind a character is in. A string ends at its quote or
    at the end of the line. -/
def quoteAfter (quote : Option Char) (c : Char) : Option Char :=
  match quote with
  | some q => if c = q ∨ isLineEnd c then none else some q
  | none => if isQuote c then some c else none

/-- The pieces of a text in a string with the given quote, or outside of strings. A backslash takes
    the next character along, or both characters of a line end. Comments start outside of strings
    only, and one that has no end is none. -/
def piecesIn (quote : Option Char) : List Char → List Piece
  | [] => []
  | '\\' :: '\r' :: '\n' :: rest =>
    .char '\\' :: .char '\r' :: .char '\n' :: piecesIn quote rest
  | '\\' :: c :: rest => .char '\\' :: .char c :: piecesIn quote rest
  | c :: rest =>
    match _h : if quote.isNone then comment? (c :: rest) else none with
    | some after =>
      .comment ((c :: rest).take ((c :: rest).length - after.length)) :: piecesIn none after
    | none => .char c :: piecesIn (quoteAfter quote c) rest
termination_by text => text.length
decreasing_by
  all_goals first
    | exact (comment?_suffix (Option.ite_none_right_eq_some.1 _h).2).2
    | (simp only [List.length_cons]; omega)

/-- The pieces of a sheet, in order. -/
def pieces (sheet : String) : List Piece := piecesIn none sheet.toList

/-- A sheet with a space in place of each comment. -/
def withoutComments (sheet : String) : String :=
  .ofList ((pieces sheet).flatMap Piece.blanked)

theorem flatMap_text_piecesIn (quote : Option Char) (text : List Char) :
    (piecesIn quote text).flatMap Piece.text = text := by
  fun_induction piecesIn quote text with
  | case1 => rfl
  | case2 quote rest ih => simp [Piece.text, ih]
  | case3 quote c rest _ ih => simp [Piece.text, ih]
  | case4 quote c rest _ _ after h ih =>
    obtain ⟨found, heq⟩ := (comment?_suffix (Option.ite_none_right_eq_some.1 h).2).1
    rw [List.flatMap_cons, ih, Piece.text, ← heq, List.length_append, Nat.add_sub_cancel,
      List.take_left]
  | case5 quote c rest _ _ h ih => simp [Piece.text, ih]

/-- Nothing of a sheet is lost. -/
theorem flatMap_text_pieces (sheet : String) :
    (pieces sheet).flatMap Piece.text = sheet.toList :=
  flatMap_text_piecesIn none sheet.toList

/-- Characters stand for themselves, with the comments and without them. -/
theorem flatMap_chars_append (f : Piece → List Char) (hf : ∀ c, f (.char c) = [c])
    (text : List Char) (l : List Piece) :
    (text.map Piece.char ++ l).flatMap f = text ++ l.flatMap f := by
  induction text with
  | nil => rfl
  | cons c more ih =>
    rw [List.map_cons, List.cons_append, List.flatMap_cons, ih, hf]
    rfl

theorem flatMap_text_append (text : List Char) (l : List Piece) :
    (text.map Piece.char ++ l).flatMap Piece.text = text ++ l.flatMap Piece.text :=
  flatMap_chars_append Piece.text (fun _ => rfl) text l

theorem flatMap_blanked_append (text : List Char) (l : List Piece) :
    (text.map Piece.char ++ l).flatMap Piece.blanked = text ++ l.flatMap Piece.blanked :=
  flatMap_chars_append Piece.blanked (fun _ => rfl) text l

/-! ## Comments apart from imports -/

/-- Whether the comments of a sheet stand apart from its imports: no import starts in a comment, no
    comment stands in the head of an import, be it one with the comments or without them, and the
    statement behind a head has the same end with the comments and without them. -/
structure IsApart (l : List Piece) : Prop where
  comments : ∀ (l₁ : List Piece) (text : List Char) (l₂ : List Piece),
    l = l₁ ++ .comment text :: l₂ →
      ∀ start ≠ [], start <:+ text → import? (start ++ l₂.flatMap Piece.text) = none
  heads : ∀ (l₁ l₂ : List Piece) (found head behind : List Char), l = l₁ ++ l₂ →
    IsHead found head →
      l₂.flatMap Piece.text = head ++ behind ∨ l₂.flatMap Piece.blanked = head ++ behind →
      head.map Piece.char <+: l₂
  ends : ∀ (l₁ l₂ : List Piece) (found head : List Char),
    l = l₁ ++ (head.map Piece.char ++ l₂) → IsHead found head →
      ∃ rest, rest <:+ l₂ ∧ statementEnd (l₂.flatMap Piece.text) = rest.flatMap Piece.text ∧
        statementEnd (l₂.flatMap Piece.blanked) = rest.flatMap Piece.blanked

namespace IsApart

theorem suffix {l l' : List Piece} (h : IsApart l) (hsuffix : l' <:+ l) : IsApart l' := by
  obtain ⟨before, rfl⟩ := hsuffix
  constructor
  · rintro l₁ text l₂ rfl
    exact h.comments (before ++ l₁) text l₂ (by rw [List.append_assoc])
  · rintro l₁ l₂ found head behind rfl
    exact h.heads (before ++ l₁) l₂ found head behind (by rw [List.append_assoc])
  · rintro l₁ l₂ found head rfl
    exact h.ends (before ++ l₁) l₂ found head (by rw [List.append_assoc])

/-- A sheet without comments. -/
theorem of_chars (text : List Char) : IsApart (text.map Piece.char) := by
  have htext : ∀ text : List Char, (text.map Piece.char).flatMap Piece.text = text := by
    intro text
    simpa using flatMap_text_append text []
  have hblanked : ∀ text : List Char, (text.map Piece.char).flatMap Piece.blanked = text := by
    intro text
    simpa using flatMap_blanked_append text []
  constructor
  · intro l₁ comment l₂ heq
    have hmem : Piece.comment comment ∈ text.map Piece.char :=
      heq ▸ List.mem_append_right _ List.mem_cons_self
    simp at hmem
  · intro l₁ l₂ found head behind heq _ hstarts
    obtain ⟨_, rest, -, -, rfl⟩ := List.map_eq_append_iff.1 heq
    rw [htext, hblanked, or_self] at hstarts
    rw [hstarts, List.map_append]
    exact List.prefix_append _ _
  · intro l₁ l₂ found head heq _
    rw [← List.append_assoc] at heq
    obtain ⟨_, rest, -, -, rfl⟩ := List.map_eq_append_iff.1 heq
    refine ⟨(statementEnd rest).map Piece.char, (statementEnd_suffix rest).map _, ?_, ?_⟩
    · rw [htext, htext]
    · rw [hblanked, hblanked]

/-- A piece in front of a sheet adds one place, where the three conditions are left to check. -/
theorem cons {p : Piece} {l : List Piece} (h : IsApart l)
    (hcomment : ∀ text, p = .comment text →
      ∀ start ≠ [], start <:+ text → import? (start ++ l.flatMap Piece.text) = none)
    (hheads : ∀ found head behind, IsHead found head →
      (p :: l).flatMap Piece.text = head ++ behind ∨
        (p :: l).flatMap Piece.blanked = head ++ behind → head.map Piece.char <+: p :: l)
    (hends : ∀ l₂ found head, p :: l = head.map Piece.char ++ l₂ → IsHead found head →
      ∃ rest, rest <:+ l₂ ∧ statementEnd (l₂.flatMap Piece.text) = rest.flatMap Piece.text ∧
        statementEnd (l₂.flatMap Piece.blanked) = rest.flatMap Piece.blanked) :
    IsApart (p :: l) := by
  constructor
  · intro l₁ text l₂ heq
    rcases List.cons_eq_append_iff.1 heq with ⟨rfl, heq⟩ | ⟨before, rfl, rfl⟩
    · obtain ⟨hp, rfl⟩ := List.cons.inj heq
      exact hcomment text hp
    · exact h.comments before text l₂ rfl
  · intro l₁ l₂ found head behind heq hhead hstarts
    rcases List.cons_eq_append_iff.1 heq with ⟨rfl, rfl⟩ | ⟨before, rfl, rfl⟩
    · exact hheads found head behind hhead hstarts
    · exact h.heads before l₂ found head behind rfl hhead hstarts
  · intro l₁ l₂ found head heq hhead
    rcases List.cons_eq_append_iff.1 heq with ⟨rfl, heq⟩ | ⟨before, rfl, rfl⟩
    · exact hends l₂ found head heq hhead
    · exact h.ends before l₂ found head rfl hhead

/-- A comment in which no import starts. -/
theorem comment_cons {text : List Char} {l : List Piece} (h : IsApart l) (hne : text ≠ [])
    (hnone : ∀ start ≠ [], start <:+ text → import? (start ++ l.flatMap Piece.text) = none) :
    IsApart (.comment text :: l) := by
  refine h.cons ?_ ?_ ?_
  · rintro _ ⟨⟩
    exact hnone
  · intro found head behind hhead hstarts
    have himport := hhead.import?_append behind
    rcases hstarts with hstarts | hstarts
    · have hwhole := hnone text hne (List.suffix_refl _)
      rw [← hstarts, List.flatMap_cons, Piece.text, hwhole] at himport
      cases himport
    · have hspace := import?_cons_eq_none (c := ' ') (by decide) (l.flatMap Piece.blanked)
      rw [← hstarts, List.flatMap_cons, Piece.blanked, List.singleton_append, hspace] at himport
      cases himport
  · intro l₂ found head heq hhead
    obtain ⟨more, rfl⟩ := hhead.exists_cons
    cases heq

/-- A comment without an at sign. -/
theorem comment_cons_of_not_mem {text : List Char} {l : List Piece} (h : IsApart l)
    (hne : text ≠ []) (hat : '@' ∉ text) : IsApart (.comment text :: l) := by
  refine h.comment_cons hne fun start hstart hsuffix => ?_
  obtain ⟨c, more, rfl⟩ := List.exists_cons_of_ne_nil hstart
  refine import?_cons_eq_none ?_ _
  rintro rfl
  exact hat (hsuffix.subset List.mem_cons_self)

/-- Characters where no import starts. -/
theorem chars_append {text : List Char} {l : List Piece} (h : IsApart l) (hat : '@' ∉ text) :
    IsApart (text.map Piece.char ++ l) := by
  induction text with
  | nil => exact h
  | cons c more ih =>
    rw [List.mem_cons, not_or] at hat
    refine (ih hat.2).cons nofun ?_ ?_
    · intro found head behind hhead hstarts
      obtain ⟨tail, rfl⟩ := hhead.exists_cons
      rcases hstarts with hstarts | hstarts
      · exact absurd (List.cons.inj hstarts).1.symm hat.1
      · exact absurd (List.cons.inj hstarts).1.symm hat.1
    · intro l₂ found head heq hhead
      obtain ⟨tail, rfl⟩ := hhead.exists_cons
      obtain ⟨hc, -⟩ := List.cons.inj heq
      exact absurd (Piece.char.inj hc).symm hat.1

/-- A statement that ends with a semicolon and has no comment in it. -/
theorem import_append {found head : List Char} {l : List Piece} (h : IsApart l)
    (hhead : IsHead found head) (behind : List Char) (hat : '@' ∉ head.tail ++ behind)
    (hbehind : ∀ c ∈ behind, c ≠ ';' ∧ c ≠ '\n') :
    IsApart (head.map Piece.char ++ ((behind ++ [';']).map Piece.char ++ l)) := by
  obtain ⟨more, rfl⟩ := hhead.exists_cons
  rw [List.tail_cons, List.mem_append, not_or] at hat
  have hend : '@' ∉ behind ++ [';'] := by simp [hat.2]
  have hrest := (h.chars_append hend).chars_append hat.1
  generalize hr : (behind ++ [';']).map Piece.char ++ l = r at hrest ⊢
  have hsame : ∀ {found' head' behind' : List Char}, IsHead found' head' →
      (('@' :: more).map Piece.char ++ r).flatMap Piece.text = head' ++ behind' ∨
        (('@' :: more).map Piece.char ++ r).flatMap Piece.blanked = head' ++ behind' →
      '@' :: more = head' := by
    intro found' head' behind' hhead' hstarts
    rw [flatMap_text_append, flatMap_blanked_append] at hstarts
    exact hstarts.elim (hhead.eq_of_append_eq hhead') (hhead.eq_of_append_eq hhead')
  refine hrest.cons nofun (fun found' head' behind' hhead' hstarts => ?_)
    fun l₂ found' head' heq hhead' => ?_
  · obtain rfl := hsame hhead' hstarts
    exact List.prefix_append _ r
  · have htext := congrArg (List.flatMap Piece.text) heq
    rw [flatMap_text_append] at htext
    obtain rfl := hsame hhead' (.inl htext)
    obtain rfl : r = l₂ := by simpa using heq
    refine ⟨l, hr ▸ List.suffix_append _ _, ?_, ?_⟩
    · rw [← hr, flatMap_text_append, List.append_assoc, List.singleton_append,
        statementEnd_semicolon hbehind]
    · rw [← hr, flatMap_blanked_append, List.append_assoc, List.singleton_append,
        statementEnd_semicolon hbehind]

end IsApart

theorem cut_append_of_eq_none {text rest : List Char}
    (h : ∀ start ≠ [], start <:+ text → import? (start ++ rest) = none)
    (targets : List (List Char)) (kept : List Char) :
    cut targets kept (text ++ rest) = cut targets (text.reverse ++ kept) rest := by
  induction text generalizing kept with
  | nil => rfl
  | cons c more ih =>
    have hmore := ih fun start hne hstart => h start hne (hstart.trans (List.suffix_cons c more))
    have hc : import? (c :: (more ++ rest)) = none :=
      h _ (List.cons_ne_nil c more) (List.suffix_refl _)
    rw [List.cons_append, cut_other hc, hmore, List.reverse_cons, List.append_assoc,
      List.singleton_append]

/-- Whether passes over a sheet with its comments and without them find the same targets and keep
    the same pieces. -/
def Agree (l : List Piece) (found : List (List Char)) (kept : List Piece) : Prop :=
  kept.Sublist l ∧ ∀ targets done,
    cut targets done (l.flatMap Piece.text) =
      (targets.reverse ++ found, done.reverse ++ kept.flatMap Piece.text) ∧
    cut targets done (l.flatMap Piece.blanked) =
      (targets.reverse ++ found, done.reverse ++ kept.flatMap Piece.blanked)

namespace Agree

theorem nil : Agree [] [] [] :=
  ⟨.slnil, fun targets done => by simp [cut_nil]⟩

theorem comment {text : List Char} {l kept : List Piece} {found : List (List Char)}
    (h : Agree l found kept)
    (hnone : ∀ start ≠ [], start <:+ text → import? (start ++ l.flatMap Piece.text) = none) :
    Agree (.comment text :: l) found (.comment text :: kept) := by
  refine ⟨h.1.cons_cons _, fun targets done => ⟨?_, ?_⟩⟩
  · rw [List.flatMap_cons, Piece.text, cut_append_of_eq_none hnone, (h.2 _ _).1]
    simp [Piece.text]
  · rw [List.flatMap_cons, Piece.blanked, List.singleton_append,
      cut_other (import?_cons_eq_none (by decide) _), (h.2 _ _).2]
    simp [Piece.blanked]

theorem char {c : Char} {l kept : List Piece} {found : List (List Char)} (h : Agree l found kept)
    (htext : import? (c :: l.flatMap Piece.text) = none)
    (hblanked : import? (c :: l.flatMap Piece.blanked) = none) :
    Agree (.char c :: l) found (.char c :: kept) := by
  refine ⟨h.1.cons_cons _, fun targets done => ⟨?_, ?_⟩⟩
  · rw [List.flatMap_cons, Piece.text, List.singleton_append, cut_other htext, (h.2 _ _).1]
    simp [Piece.text]
  · rw [List.flatMap_cons, Piece.blanked, List.singleton_append, cut_other hblanked, (h.2 _ _).2]
    simp [Piece.blanked]

theorem import_ {head target : List Char} {l rest kept : List Piece} {found : List (List Char)}
    (h : Agree rest found kept) (hhead : IsHead target head) (hrest : rest <:+ l)
    (htext : statementEnd (l.flatMap Piece.text) = rest.flatMap Piece.text)
    (hblanked : statementEnd (l.flatMap Piece.blanked) = rest.flatMap Piece.blanked) :
    Agree (head.map Piece.char ++ l) (target :: found) kept := by
  have hsublist := (h.1.trans hrest.sublist).trans (List.sublist_append_right (head.map .char) l)
  refine ⟨hsublist, fun targets done => ⟨?_, ?_⟩⟩
  · rw [flatMap_text_append, cut_import (hhead.import?_append _), htext, (h.2 _ _).1]
    simp
  · rw [flatMap_blanked_append, cut_import (hhead.import?_append _), hblanked, (h.2 _ _).2]
    simp

end Agree

/-- The induction is on the pieces that are left: at each place both passes do the same, and what
    an import leaves is a sheet whose comments stand apart from its imports, too. -/
theorem IsApart.exists_agree {l : List Piece} (h : IsApart l) :
    ∃ found kept, Agree l found kept := by
  induction hlength : l.length using Nat.strong_induction_on generalizing l with
  | _ n ih =>
    subst hlength
    match l with
    | [] => exact ⟨[], [], .nil⟩
    | .comment text :: rest =>
      have hrest := h.suffix (List.suffix_cons _ rest)
      obtain ⟨found, kept, hagree⟩ := ih _ (Nat.lt_succ_self _) hrest rfl
      exact ⟨found, _, hagree.comment (h.comments [] text rest rfl)⟩
    | .char c :: rest =>
      cases himport : import? ((Piece.char c :: rest).flatMap Piece.text) with
      | some p =>
        obtain ⟨head, behind, hhead, htext, -⟩ := import?_eq_some_iff.1 himport
        obtain ⟨l₂, heq⟩ := h.heads [] _ p.1 head behind rfl hhead (.inl htext)
        obtain ⟨after, hafter, htext, hblanked⟩ := h.ends [] l₂ p.1 head heq.symm hhead
        have hlength : after.length < (Piece.char c :: rest).length := by
          have := hafter.length_le
          obtain ⟨more, rfl⟩ := hhead.exists_cons
          rw [← heq, List.length_append, List.length_map, List.length_cons]
          omega
        have hsuffix : after <:+ .char c :: rest :=
          heq ▸ hafter.trans (List.suffix_append _ _)
        obtain ⟨found, kept, hagree⟩ := ih _ hlength (h.suffix hsuffix) rfl
        exact ⟨p.1 :: found, kept, heq ▸ hagree.import_ hhead hafter htext hblanked⟩
      | none =>
        -- an import that blanks make would start with a head, and that is the same in both texts
        have hblanked : import? ((Piece.char c :: rest).flatMap Piece.blanked) = none := by
          refine Option.eq_none_iff_forall_ne_some.2 fun p hsome => ?_
          obtain ⟨head, behind, hhead, htext, -⟩ := import?_eq_some_iff.1 hsome
          obtain ⟨l₂, heq⟩ := h.heads [] _ p.1 head behind rfl hhead (.inr htext)
          rw [← heq, flatMap_text_append, hhead.import?_append] at himport
          cases himport
        have hrest := h.suffix (List.suffix_cons _ rest)
        obtain ⟨found, kept, hagree⟩ := ih _ (Nat.lt_succ_self _) hrest rfl
        exact ⟨found, _, hagree.char himport hblanked⟩

end StyleSheet

open StyleSheet (IsApart Piece pieces withoutComments)

theorem exists_style_run (context : TransformContext) (path : Path) (sheet : String) :
    ∃ out, style.run context path sheet.toUTF8 = .ok out ∧
      out.references = (StyleSheet.cutImports sheet).1 ∧
      out.content = (styleModule out.references
        (.ofList (Text.trim (StyleSheet.cutImports sheet).2))).toUTF8 := by
  have hdecode : decode sheet.toUTF8 = .ok sheet := by
    rw [decode, BuildContext.fromUTF8?_toUTF8]
  have hreferences := references_map_reference (styleModule (StyleSheet.cutImports sheet).1
    (.ofList (Text.trim (StyleSheet.cutImports sheet).2))).toUTF8 (StyleSheet.cutImports sheet).1
  refine ⟨_, style_run_eq_ok_iff.2 ⟨sheet, hdecode, hreferences, rfl⟩, hreferences, ?_⟩
  rw [hreferences]

/-- If its comments stand apart from its imports, a style sheet has the references that it has with
    a space in place of each comment, and of both sheets the same pieces are embedded. -/
theorem style_run_withoutComments (context : TransformContext) (path : Path) (sheet : String)
    (h : IsApart (pieces sheet)) :
    ∃ (out out' : Transformed) (kept : List Piece),
      style.run context path sheet.toUTF8 = .ok out ∧
      style.run context path (withoutComments sheet).toUTF8 = .ok out' ∧
      out.references = out'.references ∧ kept.Sublist (pieces sheet) ∧
      out.content = (styleModule out.references
        (.ofList (Text.trim (kept.flatMap Piece.text)))).toUTF8 ∧
      out'.content = (styleModule out'.references
        (.ofList (Text.trim (kept.flatMap Piece.blanked)))).toUTF8 := by
  obtain ⟨found, kept, hsublist, hcut⟩ := h.exists_agree
  obtain ⟨htext, hblanked⟩ := hcut [] []
  have htext : StyleSheet.cutImports sheet =
      (found.map String.ofList, kept.flatMap Piece.text) := by
    rw [StyleSheet.cutImports, ← StyleSheet.flatMap_text_pieces, htext]
    rfl
  have hblanked : StyleSheet.cutImports (withoutComments sheet) =
      (found.map String.ofList, kept.flatMap Piece.blanked) := by
    rw [StyleSheet.cutImports, withoutComments, String.toList_ofList, hblanked]
    rfl
  obtain ⟨out, hrun, hreferences, hcontent⟩ := exists_style_run context path sheet
  obtain ⟨out', hrun', hreferences', hcontent'⟩ :=
    exists_style_run context path (withoutComments sheet)
  rw [htext] at hreferences hcontent
  rw [hblanked] at hreferences' hcontent'
  exact ⟨out, out', kept, hrun, hrun', hreferences.trans hreferences'.symm, hsublist, hcontent,
    hcontent'⟩

/-- Comments before and behind an import take nothing away. -/
theorem style_run_withoutComments_beside :
    let context : TransformContext := ⟨.production, "/", .ofList []⟩
    let sheet := "/* \"theme\"; */@import 'a.css' screen;/* rest */body \x7b\x7d"
    IsApart (pieces sheet) ∧
      ∃ out out', style.run context ⟨"/a.css"⟩ sheet.toUTF8 = .ok out ∧
        style.run context ⟨"/a.css"⟩ (withoutComments sheet).toUTF8 = .ok out' ∧
        out.references = out'.references := by
  intro context sheet
  have hpieces : pieces sheet = .comment "/* \"theme\"; */".toList ::
      ("@import 'a.css'".toList.map Piece.char ++ ((" screen".toList ++ [';']).map Piece.char ++
        .comment "/* rest */".toList :: "body \x7b\x7d".toList.map Piece.char)) := by
    decide +kernel
  have hhead : StyleSheet.IsHead "a.css".toList
      (("@import".toList ++ [' ']) ++ '\'' :: ("a.css".toList ++ ['\''])) :=
    .intro (.bare (by decide) (List.forall_mem_singleton.2 (by decide))) rfl
      ⟨by decide, by simp [StyleSheet.isQuote]⟩ rfl
  have hapart : IsApart (pieces sheet) := by
    rw [hpieces]
    have hrest : IsApart (.comment "/* rest */".toList :: "body \x7b\x7d".toList.map .char) :=
      (IsApart.of_chars _).comment_cons_of_not_mem (by decide) (by decide)
    have himport := hrest.import_append hhead " screen".toList (by decide) (by simp)
    exact himport.comment_cons_of_not_mem (by decide) (by decide)
  obtain ⟨out, out', -, hrun, hrun', hreferences, -⟩ :=
    style_run_withoutComments context ⟨"/a.css"⟩ sheet hapart
  exact ⟨hapart, out, out', hrun, hrun', hreferences⟩

/-- An import that is commented out counts, and takes the rule behind the comment with it. -/
theorem style_run_of_comment :
    let context : TransformContext := ⟨.production, "/", .ofList []⟩
    let sheet := "/* @import \"./a.css\" */ body \x7b\x7d"
    withoutComments sheet = "  body \x7b\x7d" ∧
      (∃ out, style.run context ⟨"/b.css"⟩ sheet.toUTF8 = .ok out ∧
        out.references = ["./a.css"] ∧ out.content = (styleModule ["./a.css"] "/*").toUTF8) ∧
      ∃ out, style.run context ⟨"/b.css"⟩ (withoutComments sheet).toUTF8 = .ok out ∧
        out.references = [] ∧ out.content = (styleModule [] "body \x7b\x7d").toUTF8 := by
  intro context sheet
  have hplain : withoutComments sheet = "  body \x7b\x7d" := by decide +kernel
  have hcut : StyleSheet.cutImports sheet = (["./a.css"], "/* ".toList) := by decide +kernel
  have hcut' : StyleSheet.cutImports "  body \x7b\x7d" = ([], "  body \x7b\x7d".toList) := by
    decide +kernel
  obtain ⟨out, hrun, hreferences, hcontent⟩ := exists_style_run context ⟨"/b.css"⟩ sheet
  obtain ⟨out', hrun', hreferences', hcontent'⟩ :=
    exists_style_run context ⟨"/b.css"⟩ "  body \x7b\x7d"
  have htrim : String.ofList (Text.trim "/* ".toList) = "/*" := by decide
  have htrim' : String.ofList (Text.trim "  body \x7b\x7d".toList) = "body \x7b\x7d" := by decide
  rw [hcut] at hreferences hcontent
  rw [hcut'] at hreferences' hcontent'
  rw [hreferences, htrim] at hcontent
  rw [hreferences', htrim'] at hcontent'
  rw [hplain]
  exact ⟨rfl, ⟨out, hrun, hreferences, hcontent⟩, out', hrun', hreferences', hcontent'⟩

end Bundler.Transform
