import Bundler.Proofs.Script.Scan
import Bundler.Script.Constants
import Mathlib.Data.List.Forall2

set_option autoImplicit false

/-! # Where references stand

The scanner takes the whole text of a reference at once, and the cutting into spans goes through it
character by character. Still both come by the same places, because in the text of a reference
nothing but its specifier is a comment or a string. So each reference that the scanner finds is a
span of its own, with its quotes, at the place where it was found (`references_standAt`). None is
found inside of a comment or of a longer string, and since the replacing of constants leaves such
spans alone, it leaves the specifiers alone. -/

namespace Bundler.Script

/-! ## What the scanner finds, and where -/

/-- A reference that the scanner found in a script. -/
structure Occurrence where
  /-- The script from the start of the reference on. -/
  text : List Char
  found : List Char
  /-- The script behind the reference. -/
  after : List Char

/-- Whether some references are found on the way through a script, from left to right. If `comments`
    says so, they may have comments in their gaps. -/
inductive Finds (comments : Bool) : List Char → List Occurrence → Prop
  | nil : Finds comments [] []
  | comment {found rest : List Char} {l : List Occurrence} (hfound : IsComment found rest)
      (h : Finds comments rest l) : Finds comments (found ++ rest) l
  | reference {found text rest : List Char} {l : List Occurrence}
      (hfound : ReadsReference comments found text rest) (h : Finds comments rest l) :
      Finds comments text (⟨text, found, rest⟩ :: l)
  | string {found rest : List Char} {l : List Occurrence} (hfound : IsString found)
      (h : Finds comments rest l) : Finds comments (found ++ rest) l
  | word {word text rest : List Char} {l : List Occurrence} (hword : IsWord word)
      (hreads : ReadsWord word text rest)
      (hnone : ∀ found after, ¬ ReadsReference comments found text after)
      (h : Finds comments rest l) : Finds comments text l
  | other {c : Char} {rest : List Char} {l : List Occurrence} (hc : isWordChar c = false)
      (hliteral : literal? (c :: rest) = none) (h : Finds comments rest l) :
      Finds comments (c :: rest) l

/-- Some references are found in every script. -/
theorem exists_finds (comments : Bool) (source : List Char) : ∃ l, Finds comments source l := by
  induction hlength : source.length using Nat.strong_induction_on generalizing source with
  | _ n ih =>
    subst hlength
    cases hliteral : literal? source with
    | some rest =>
      obtain ⟨l, hl⟩ := ih _ (length_literal?_lt hliteral) rest rfl
      obtain ⟨found, hcomment | hstring, rfl⟩ := literal?_eq_some_iff.1 hliteral
      · exact ⟨l, .comment hcomment hl⟩
      · exact ⟨l, .string hstring hl⟩
    | none =>
      by_cases hreference : ∃ found rest, ReadsReference comments found source rest
      · obtain ⟨found, rest, hfound⟩ := hreference
        obtain ⟨l, hl⟩ := ih _ hfound.length_lt rest rfl
        exact ⟨_, .reference hfound hl⟩
      cases source with
      | nil => exact ⟨[], .nil⟩
      | cons c rest =>
        by_cases hc : isWordChar c = true
        · have hreads := readsWord_takeWhile (c :: rest)
          have hword : IsWord ((c :: rest).takeWhile isWordChar) := by
            refine ⟨?_, fun d hd => List.mem_takeWhile_imp hd⟩
            rw [List.takeWhile_cons_of_pos hc]
            exact List.cons_ne_nil _ _
          have hlt : ((c :: rest).dropWhile isWordChar).length < (c :: rest).length := by
            rw [List.dropWhile_cons_of_pos hc]
            exact Nat.lt_succ_of_le (List.dropWhile_sublist isWordChar).length_le
          obtain ⟨l, hl⟩ := ih _ hlt _ rfl
          exact ⟨l, .word hword hreads (fun found after h => hreference ⟨found, after, h⟩) hl⟩
        · obtain ⟨l, hl⟩ := ih _ (Nat.lt_succ_self _) rest rfl
          exact ⟨l, .other (Bool.eq_false_iff.2 hc) hliteral hl⟩

/-- The scanner finds the references without comments in their gaps. -/
theorem Finds.scan_eq {source : List Char} {l : List Occurrence} (h : Finds false source l) :
    scan source = l.map Occurrence.found := by
  induction h with
  | nil => rw [scan, List.map_nil]
  | comment hfound _ ih => rw [scan_comment hfound, ih]
  | reference hfound _ ih => rw [scan_reference hfound, ih, List.map_cons]
  | string hfound _ ih => rw [scan_string hfound, ih]
  | word hword hreads hnone _ ih =>
    have hreference := Option.eq_none_iff_forall_ne_some.2 fun (read : List Char × List Char) h =>
      hnone read.1 read.2 (reference?_eq_some_iff.1 h)
    rw [scan_word hreads hword hreference, ih]
  | other hc hliteral _ ih => rw [scan_other hc hliteral, ih]

/-! ## Places among the spans -/

/-- Whether the span of a number is the specifier of a reference with its quotes, and stands within
    the text of the reference. -/
structure StandsAt (l : List Span) (o : Occurrence) (k : Nat) : Prop where
  literal : ∃ quote, (quote = '"' ∨ quote = '\'') ∧
    l[k]? = some (.literal (quote :: (o.found ++ [quote])))
  start : (l.drop k).flatMap Span.text <:+ o.text
  stop : o.after <:+ (l.drop (k + 1)).flatMap Span.text

/-- Whether references stand at spans of their own, in their order. -/
def HavePlaces (l : List Span) (found : List Occurrence) : Prop :=
  ∃ places : List Nat, places.Pairwise (· < ·) ∧ List.Forall₂ (StandsAt l) found places

theorem StandsAt.append_left {l : List Span} {o : Occurrence} {k : Nat} (h : StandsAt l o k)
    (before : List Span) : StandsAt (before ++ l) o (before.length + k) := by
  obtain ⟨hliteral, hstart, hstop⟩ := h
  refine ⟨?_, ?_, ?_⟩
  · rwa [List.getElem?_append_right (Nat.le_add_right _ _), Nat.add_sub_cancel_left]
  · rwa [List.drop_length_add_append]
  · rwa [Nat.add_assoc, List.drop_length_add_append]

theorem HavePlaces.append_left {l : List Span} {found : List Occurrence} (h : HavePlaces l found)
    (before : List Span) : HavePlaces (before ++ l) found := by
  obtain ⟨places, hplaces, hstands⟩ := h
  refine ⟨places.map (before.length + ·), ?_, ?_⟩
  · exact List.pairwise_map.2 (hplaces.imp fun hlt => Nat.add_lt_add_left hlt _)
  · exact List.forall₂_map_right_iff.2 (hstands.imp fun _ _ h => h.append_left before)

theorem HavePlaces.cons {s : Span} {l : List Span} {o : Occurrence} {found : List Occurrence}
    (h : HavePlaces l found) (ho : StandsAt (s :: l) o 0) : HavePlaces (s :: l) (o :: found) := by
  obtain ⟨places, hplaces, hstands⟩ := h
  refine ⟨0 :: places.map (1 + ·), List.pairwise_cons.2 ⟨?_, ?_⟩, .cons ho ?_⟩
  · intro k hk
    obtain ⟨k, -, rfl⟩ := List.mem_map.1 hk
    omega
  · exact List.pairwise_map.2 (hplaces.imp fun hlt => Nat.add_lt_add_left hlt _)
  · exact List.forall₂_map_right_iff.2 (hstands.imp fun _ _ h => h.append_left [s])

theorem havePlaces_literal {text rest : List Char} {l : List Occurrence}
    (htext : IsLiteral text rest) (h : HavePlaces (spansAfter [] rest) l) (code : List Char) :
    HavePlaces (spansAfter code (text ++ rest)) l := by
  rw [spansAfter_literal htext, ← List.singleton_append, ← List.append_assoc]
  exact h.append_left _

theorem havePlaces_reference {found text rest : List Char} {l : List Occurrence}
    (hfound : ReadsReference false found text rest)
    (h : ∀ code, HavePlaces (spansAfter code rest) l) (code : List Char) :
    HavePlaces (spansAfter code text) (⟨text, found, rest⟩ :: l) := by
  obtain ⟨_, _, ⟨lead, hlead, htext⟩, ⟨quote, hquoted, rfl⟩, ⟨tail, htail, rfl⟩⟩ := hfound.passes
  have hliteral : quote :: (found ++ quote :: (tail ++ rest))
      = (quote :: (found ++ [quote])) ++ (tail ++ rest) := by simp
  have hspans : spansAfter code text = codeSpan (lead.reverse ++ code) ++
      .literal (quote :: (found ++ [quote])) :: spansAfter (tail.reverse ++ []) rest := by
    rw [htext, spansAfter_append_of_isPlain hlead, hliteral,
      spansAfter_literal (.inr hquoted.isString), spansAfter_append_of_isPlain htail]
  have hrest : (spansAfter (tail.reverse ++ []) rest).flatMap Span.text = tail ++ rest := by
    rw [flatMap_text_spansAfter, List.append_nil, List.reverse_reverse]
  have hstands : StandsAt (.literal (quote :: (found ++ [quote])) ::
      spansAfter (tail.reverse ++ []) rest) ⟨text, found, rest⟩ 0 := by
    refine ⟨⟨quote, hquoted.1, rfl⟩, ?_, ?_⟩
    · rw [List.drop_zero, List.flatMap_cons, hrest, htext, hliteral]
      exact List.suffix_append lead _
    · show rest <:+ (spansAfter (tail.reverse ++ []) rest).flatMap Span.text
      rw [hrest]
      exact List.suffix_append tail rest
  rw [hspans]
  exact ((h _).cons hstands).append_left _

/-- The induction goes along the run of the scanner, while the code before the text that is left
    grows with each step until a literal ends it. -/
theorem Finds.havePlaces {text : List Char} {l : List Occurrence} (h : Finds false text l)
    (code : List Char) : HavePlaces (spansAfter code text) l := by
  induction h generalizing code with
  | nil => exact ⟨[], .nil, .nil⟩
  | comment hfound _ ih => exact havePlaces_literal (.inl hfound) (ih []) code
  | reference hfound _ ih => exact havePlaces_reference hfound ih code
  | string hfound _ ih => exact havePlaces_literal (.inr hfound) (ih []) code
  | word hword hreads _ _ ih =>
    obtain ⟨plain, hplain, rfl⟩ := hreads.passes hword
    rw [spansAfter_append_of_isPlain hplain]
    exact ih _
  | other _ hcode _ ih =>
    rw [spansAfter_code hcode]
    exact ih _

/-! ## References and constants -/

/-- The replacing of constants goes span by span and keeps the literals. -/
theorem exists_replaced (constants : Constants) (source : String) :
    ∃ parts : List (List Char), (replaceConstants constants source).toList = parts.flatten ∧
      parts.length = (spans source.toList).length ∧
      ∀ (k : Nat) (text : List Char), (spans source.toList)[k]? = some (.literal text) →
        parts[k]? = some text := by
  refine ⟨(spans source.toList).map (Span.replace (byLength constants)), ?_, List.length_map _, ?_⟩
  · rw [replaceConstants, String.toList_ofList, List.flatMap]
  · intro k text h
    rw [List.getElem?_map, h]
    rfl

/-- The references of a script stand at literals of their own, in their order, which hold nothing
    else. The spans are all of the script, none is empty, and spans of code are kept apart; the
    replacing of constants keeps the literals, and with them the specifiers. -/
theorem references_standAt (source : String) :
    (spans source.toList).flatMap Span.text = source.toList ∧
      (∀ s ∈ spans source.toList, s.text ≠ []) ∧
      (spans source.toList).IsChain (fun s t => ¬ (s.isCode = true ∧ t.isCode = true)) ∧
      ∃ found : List Occurrence, Finds false source.toList found ∧
        references source = found.map (fun o => .ofList o.found) ∧
        ∃ places : List Nat, places.Pairwise (· < ·) ∧
          List.Forall₂ (StandsAt (spans source.toList)) found places ∧
          ∀ constants, ∃ parts : List (List Char),
            (replaceConstants constants source).toList = parts.flatten ∧
            parts.length = (spans source.toList).length ∧
            (∀ (k : Nat) (text : List Char), (spans source.toList)[k]? = some (.literal text) →
              parts[k]? = some text) ∧
            List.Forall₂ (fun (o : Occurrence) k => ∃ quote, (quote = '"' ∨ quote = '\'') ∧
              parts[k]? = some (quote :: (o.found ++ [quote]))) found places := by
  obtain ⟨found, hfound⟩ := exists_finds false source.toList
  obtain ⟨places, hplaces, hstands⟩ := hfound.havePlaces []
  refine ⟨flatMap_text_spans _, (isCut_spans _).text_ne_nil, (isCut_spans _).isChain, found, hfound,
    by rw [references, hfound.scan_eq, List.map_map]; rfl, places, hplaces, hstands,
    fun constants => ?_⟩
  obtain ⟨parts, hparts, hlength, hkeeps⟩ := exists_replaced constants source
  refine ⟨parts, hparts, hlength, hkeeps, hstands.imp fun o k ho => ?_⟩
  obtain ⟨quote, hquote, hliteral⟩ := ho.literal
  exact ⟨quote, hquote, hkeeps k _ hliteral⟩

end Bundler.Script
