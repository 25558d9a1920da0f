import Bundler.Proofs.Result
import Bundler.Proofs.Text.Starts
import Bundler.Transform.Standard

set_option autoImplicit false

/-! # What the imports of style sheets look like

Said without a reader: an import has a head, which ends with its target, and is over where the
statement behind the head ends. The reader takes exactly these from the start of a text
(`import?_eq_some_iff`). What a pass over a sheet finds and keeps follows from what stands at each
place (`cut_import`, `cut_other`). -/

namespace Bundler.Transform

namespace StyleSheet

open Text (takeWhile_append_of_head any_head?_dropWhile)

/-! ## Imports as texts -/

/-- Whether a text is white space. -/
def IsBlank (text : List Char) : Prop := ∀ c ∈ text, Unicode.isSpace c = true

/-- Whether a text is that of an import up to its target. -/
inductive IsOpening : List Char → Prop
  | bare {space : List Char} (hne : space ≠ []) (hspace : IsBlank space) :
      IsOpening ("@import".toList ++ space)
  | url {space inner : List Char} (hne : space ≠ []) (hspace : IsBlank space)
      (hinner : IsBlank inner) : IsOpening ("@import".toList ++ (space ++ ("url(".toList ++ inner)))

/-- Whether a text can stand between two quotes as a target. -/
def IsTarget (found : List Char) : Prop := found ≠ [] ∧ ∀ c ∈ found, isQuote c = false

/-- Whether a text is that of an import up to the end of its target. -/
inductive IsHead (found : List Char) : List Char → Prop
  | intro {opening : List Char} {first last : Char} (hopening : IsOpening opening)
      (hfirst : isQuote first = true) (htarget : IsTarget found) (hlast : isQuote last = true) :
      IsHead found (opening ++ first :: (found ++ [last]))

/-! ## Readers -/

theorem after?_eq_some_iff {word : String} {text rest : List Char} :
    after? word text = some rest ↔ text = word.toList ++ rest := by
  unfold after?
  constructor
  · intro h
    split at h
    · next hstarts =>
      obtain ⟨more, rfl⟩ := List.isPrefixOf_iff_prefix.1 hstarts
      rw [← String.length_toList, List.drop_left] at h
      rw [Option.some.inj h]
    · cases h
  · rintro rfl
    rw [if_pos (List.isPrefixOf_iff_prefix.2 (List.prefix_append _ _)), ← String.length_toList,
      List.drop_left]

theorem isSpace_of_isQuote {c : Char} (h : isQuote c = true) : Unicode.isSpace c = false := by
  simp only [isQuote, Bool.or_eq_true, beq_iff_eq] at h
  rcases h with rfl | rfl <;> decide

theorem skipSpace_append {space rest : List Char} (hspace : IsBlank space)
    (hrest : rest.head?.any Unicode.isSpace = false) : skipSpace (space ++ rest) = rest :=
  (takeWhile_append_of_head hspace hrest).2

theorem exists_isBlank (text : List Char) :
    ∃ space, IsBlank space ∧ text = space ++ skipSpace text :=
  ⟨text.takeWhile Unicode.isSpace, fun _ => List.mem_takeWhile_imp,
    List.takeWhile_append_dropWhile.symm⟩

theorem target?_eq_some_iff {text found rest : List Char} :
    target? text = some (found, rest) ↔ ∃ first last, isQuote first = true ∧ IsTarget found ∧
      isQuote last = true ∧ text = first :: (found ++ last :: rest) := by
  constructor
  · intro h
    cases text with
    | nil => cases h
    | cons first more =>
      rw [target?] at h
      split at h
      · next last after heq =>
        split at h
        · next hquote =>
          simp only [Bool.and_eq_true, Bool.not_eq_true', List.isEmpty_eq_false_iff] at hquote
          obtain ⟨rfl, rfl⟩ := Prod.mk.inj (Option.some.inj h)
          have hlast := any_head?_dropWhile (!isQuote ·) more
          rw [heq, List.head?_cons, Option.any_some, Bool.not_eq_false'] at hlast
          refine ⟨first, last, hquote.1, ⟨hquote.2, fun c hc => ?_⟩, hlast, ?_⟩
          · simpa using List.mem_takeWhile_imp hc
          · rw [← heq, List.takeWhile_append_dropWhile]
        · cases h
      · cases h
  · rintro ⟨first, last, hfirst, ⟨hne, htarget⟩, hlast, rfl⟩
    have hinside : ∀ c ∈ found, (!isQuote c) = true := fun c hc => by rw [htarget c hc]; rfl
    have houtside : (last :: rest).head?.any (!isQuote ·) = false := by simp [hlast]
    obtain ⟨htake, hdrop⟩ := takeWhile_append_of_head hinside houtside
    rw [target?, htake, hdrop]
    simp [hfirst, hne]

/-- The rest of a statement is left over from behind its head. -/
theorem statementEnd_suffix (text : List Char) : statementEnd text <:+ text := by
  have hskip : skipSpace text <:+ text := List.dropWhile_suffix _
  unfold statementEnd
  dsimp only
  refine List.IsSuffix.trans ?_ hskip
  generalize skipSpace text = text
  have hclose : (if text.head? = some ')' then text.drop 1 else text) <:+ text := by
    split
    · exact List.drop_suffix _ _
    · exact List.suffix_refl _
  refine List.IsSuffix.trans ?_ hclose
  generalize (if text.head? = some ')' then text.drop 1 else text) = text
  split
  · exact (List.drop_suffix _ _).trans (List.dropWhile_suffix _)
  · exact List.dropWhile_suffix _

/-- A statement is over behind its semicolon, if its line does not end before. -/
theorem statementEnd_semicolon {text : List Char} (h : ∀ c ∈ text, c ≠ ';' ∧ c ≠ '\n')
    (rest : List Char) : statementEnd (text ++ ';' :: rest) = rest := by
  obtain ⟨space, hspace, heq⟩ := exists_isBlank text
  have hskip : skipSpace (text ++ ';' :: rest) = skipSpace text ++ ';' :: rest := by
    have hhead : (skipSpace text ++ ';' :: rest).head?.any Unicode.isSpace = false := by
      have := any_head?_dropWhile Unicode.isSpace text
      unfold skipSpace
      cases htext : text.dropWhile Unicode.isSpace with
      | nil => rfl
      | cons c more => rwa [htext] at this
    rw [← skipSpace_append hspace hhead, ← List.append_assoc, ← heq]
  have hdrop : ∀ text : List Char, (∀ c ∈ text, c ≠ ';' ∧ c ≠ '\n') →
      (text ++ ';' :: rest).dropWhile (fun c => decide (c ≠ ';' ∧ c ≠ '\n')) = ';' :: rest :=
    fun text htext => (takeWhile_append_of_head (fun c hc => decide_eq_true (htext c hc)) rfl).2
  have hleft : ∀ c ∈ skipSpace text, c ≠ ';' ∧ c ≠ '\n' := fun c hc =>
    h c ((List.dropWhile_suffix _).subset hc)
  unfold statementEnd
  rw [hskip]
  dsimp only
  cases hclose : skipSpace text with
  | nil => rfl
  | cons c more =>
    rw [hclose] at hleft
    -- the parenthesis of `url(` may be left before the semicolon
    by_cases hc : c = ')'
    · subst hc
      rw [List.cons_append, List.head?_cons, if_pos rfl, List.drop_one, List.tail_cons,
        hdrop more fun d hd => hleft d (List.mem_cons_of_mem _ hd)]
      rfl
    · rw [List.cons_append, List.head?_cons, if_neg fun heq => hc (Option.some.inj heq),
        ← List.cons_append, hdrop _ hleft]
      rfl

theorem exists_isHead_of_import? {text found rest : List Char}
    (h : import? text = some (found, rest)) :
    ∃ head behind, IsHead found head ∧ text = head ++ behind ∧ rest = statementEnd behind := by
  obtain ⟨gap, hgap, h⟩ := Option.bind_eq_some_iff.1 h
  obtain ⟨_, hguard, h⟩ := Option.bind_eq_some_iff.1 h
  obtain ⟨⟨_, behind⟩, htarget, h⟩ := Option.bind_eq_some_iff.1 h
  obtain ⟨rfl, rfl⟩ := Prod.mk.inj (Option.some.inj h)
  obtain rfl := after?_eq_some_iff.1 hgap
  obtain ⟨space, hspace, heq⟩ := exists_isBlank gap
  have hne : space ≠ [] := by
    rintro rfl
    have hhead := any_head?_dropWhile Unicode.isSpace gap
    rw [← skipSpace, ← List.nil_append (skipSpace gap), ← heq] at hhead
    rw [hhead] at hguard
    cases hguard
  split at htarget
  · next inner hinner =>
    obtain ⟨first, last, hfirst, hfound, hlast, htext⟩ := target?_eq_some_iff.1 htarget
    obtain ⟨blank, hblank, hinnereq⟩ := exists_isBlank inner
    refine ⟨_, behind, .intro (.url hne hspace hblank) hfirst hfound hlast, ?_, rfl⟩
    rw [heq, after?_eq_some_iff.1 hinner, hinnereq, htext]
    simp
  · obtain ⟨first, last, hfirst, hfound, hlast, htext⟩ := target?_eq_some_iff.1 htarget
    refine ⟨_, behind, .intro (.bare hne hspace) hfirst hfound hlast, ?_, rfl⟩
    rw [heq, htext]
    simp

theorem any_isSpace_head?_append {space : List Char} (hne : space ≠ []) (hspace : IsBlank space)
    (rest : List Char) : (space ++ rest).head?.any Unicode.isSpace = true := by
  obtain ⟨c, more, rfl⟩ := List.exists_cons_of_ne_nil hne
  exact hspace c List.mem_cons_self

theorem IsHead.import?_append {found head : List Char} (h : IsHead found head)
    (behind : List Char) : import? (head ++ behind) = some (found, statementEnd behind) := by
  obtain @⟨opening, first, last, hopening, hfirst, hfound, hlast⟩ := h
  have htarget : target? (first :: (found ++ last :: behind)) = some (found, behind) :=
    target?_eq_some_iff.2 ⟨first, last, hfirst, hfound, hlast, rfl⟩
  have hquote : (first :: (found ++ last :: behind)).head?.any Unicode.isSpace = false :=
    isSpace_of_isQuote hfirst
  cases hopening with
  | @bare space hne hspace =>
    have hgap : after? "@import"
        (("@import".toList ++ space ++ first :: (found ++ [last])) ++ behind) =
          some (space ++ first :: (found ++ last :: behind)) :=
      after?_eq_some_iff.2 (by simp)
    have hurl : after? "url(" (first :: (found ++ last :: behind)) = none := by
      refine Option.eq_none_iff_forall_ne_some.2 fun rest h => ?_
      obtain ⟨rfl, -⟩ := List.cons.inj (after?_eq_some_iff.1 h)
      cases hfirst
    rw [import?, hgap, Option.bind_eq_bind, Option.bind_some,
      any_isSpace_head?_append hne hspace, skipSpace_append hspace hquote]
    dsimp only
    rw [hurl, htarget]
    rfl
  | @url space inner hne hspace hinner =>
    have hgap : after? "@import"
        (("@import".toList ++ (space ++ ("url(".toList ++ inner)) ++ first :: (found ++ [last]))
          ++ behind) =
          some (space ++ ("url(".toList ++ (inner ++ first :: (found ++ last :: behind)))) :=
      after?_eq_some_iff.2 (by simp)
    have hurl : after? "url(" ("url(".toList ++ (inner ++ first :: (found ++ last :: behind))) =
        some (inner ++ first :: (found ++ last :: behind)) := after?_eq_some_iff.2 rfl
    rw [import?, hgap, Option.bind_eq_bind, Option.bind_some,
      any_isSpace_head?_append hne hspace, skipSpace_append hspace rfl]
    dsimp only
    rw [hurl]
    dsimp only
    rw [skipSpace_append hinner hquote, htarget]
    rfl

/-- The reader takes imports, and nothing else. -/
theorem import?_eq_some_iff {text found rest : List Char} : import? text = some (found, rest) ↔
    ∃ head behind, IsHead found head ∧ text = head ++ behind ∧ rest = statementEnd behind := by
  refine ⟨exists_isHead_of_import?, ?_⟩
  rintro ⟨head, behind, hhead, rfl, rfl⟩
  exact hhead.import?_append behind

/-! ## Heads of imports -/

theorem IsHead.exists_cons {found head : List Char} (h : IsHead found head) :
    ∃ more, head = '@' :: more := by
  obtain ⟨⟨-, -⟩ | ⟨-, -, -⟩, -, -, -⟩ := h
  · exact ⟨_, rfl⟩
  · exact ⟨_, rfl⟩

theorem import?_cons_eq_none {c : Char} (h : c ≠ '@')
    (rest : List Char) : import? (c :: rest) = none := by
  refine Option.eq_none_iff_forall_ne_some.2 fun p himport => ?_
  obtain ⟨head, behind, hhead, heq, -⟩ := import?_eq_some_iff.1 himport
  obtain ⟨more, rfl⟩ := hhead.exists_cons
  exact h (List.cons.inj heq).1

theorem IsOpening.countP_isQuote {opening : List Char} (h : IsOpening opening) :
    opening.countP isQuote = 0 := by
  have hspace : ∀ space, IsBlank space → space.countP isQuote = 0 := by
    refine fun space hspace => List.countP_eq_zero.2 fun c hc hquote => ?_
    exact absurd ((hspace c hc).symm.trans (isSpace_of_isQuote hquote)) nofun
  cases h with
  | bare _ hblank =>
    rw [List.countP_append, hspace _ hblank]
    rfl
  | url _ hblank hinner =>
    rw [List.countP_append, List.countP_append, List.countP_append, hspace _ hblank,
      hspace _ hinner]
    rfl

/-- The quotes of its target are the only ones in a head. -/
theorem IsHead.countP_isQuote {found head : List Char} (h : IsHead found head) :
    head.countP isQuote = 2 := by
  obtain ⟨hopening, hfirst, ⟨-, htarget⟩, hlast⟩ := h
  have hfound : found.countP isQuote = 0 :=
    List.countP_eq_zero.2 fun c hc hquote => absurd ((htarget c hc).symm.trans hquote) nofun
  rw [List.countP_append, hopening.countP_isQuote, List.countP_cons_of_pos hfirst,
    List.countP_append, hfound, List.countP_cons_of_pos hlast, List.countP_nil]

theorem IsHead.exists_concat {found head : List Char} (h : IsHead found head) :
    ∃ init last, head = init ++ [last] ∧ isQuote last = true := by
  obtain @⟨opening, first, last, -, -, -, hlast⟩ := h
  exact ⟨opening ++ first :: found, last, by simp, hlast⟩

/-- No head goes on behind another one, since it would have a third quote there. -/
theorem IsHead.eq_of_prefix {found found' head head' : List Char} (h : IsHead found head)
    (h' : IsHead found' head') (hstarts : head <+: head') : head = head' := by
  obtain ⟨more, heq⟩ := hstarts
  have hmore : more.countP isQuote = 0 := by
    have hcount := h'.countP_isQuote
    rw [← heq, List.countP_append, h.countP_isQuote] at hcount
    omega
  rcases List.eq_nil_or_concat more with rfl | ⟨middle, c, rfl⟩
  · rw [← heq, List.append_nil]
  · obtain ⟨init, last, rfl, hlast⟩ := h'.exists_concat
    rw [List.concat_eq_append, ← List.append_assoc] at heq
    obtain ⟨-, hlasts⟩ := List.append_inj' heq rfl
    obtain rfl := List.singleton_inj.1 hlasts
    exact absurd hlast (List.countP_eq_zero.1 hmore c (by simp))

theorem IsHead.eq_of_append_eq {found found' head head' behind behind' : List Char}
    (h : IsHead found head) (h' : IsHead found' head')
    (heq : head ++ behind = head' ++ behind') : head = head' := by
  have hstarts : head <+: head' ++ behind' := heq ▸ List.prefix_append _ _
  rcases List.prefix_or_prefix_of_prefix hstarts (List.prefix_append _ _) with hle | hle
  · exact h.eq_of_prefix h' hle
  · exact (h'.eq_of_prefix h hle).symm

/-! ## The pass over a sheet -/

theorem cut_nil (targets : List (List Char)) (kept : List Char) :
    cut targets kept [] = (targets.reverse, kept.reverse) := by
  rw [cut]

theorem cut_import {text found rest : List Char} (h : import? text = some (found, rest))
    (targets : List (List Char)) (kept : List Char) :
    cut targets kept text = cut (found :: targets) kept rest := by
  cases text with
  | nil => cases h
  | cons c more =>
    rw [cut]
    split
    · next heq =>
      obtain ⟨rfl, rfl⟩ := Prod.mk.inj (Option.some.inj (heq.symm.trans h))
      rfl
    · next heq => cases heq.symm.trans h

theorem cut_other {c : Char} {rest : List Char} (h : import? (c :: rest) = none)
    (targets : List (List Char)) (kept : List Char) :
    cut targets kept (c :: rest) = cut targets (c :: kept) rest := by
  rw [cut]
  split
  · next heq => cases heq.symm.trans h
  · rfl

/-- What a pass over a sheet does at each place. -/
@[elab_as_elim]
theorem cut_induction {motive : List Char → Prop} (nil : motive [])
    (import_ : ∀ text found rest, import? text = some (found, rest) → motive rest → motive text)
    (other : ∀ c rest, import? (c :: rest) = none → motive rest → motive (c :: rest))
    (text : List Char) : motive text := by
  induction hlength : text.length using Nat.strong_induction_on generalizing text with
  | _ n ih =>
    subst hlength
    cases himport : import? text with
    | some p => exact import_ text p.1 p.2 himport (ih _ (length_import?_lt himport) p.2 rfl)
    | none =>
      cases text with
      | nil => exact nil
      | cons c rest => exact other c rest himport (ih _ (Nat.lt_succ_self _) rest rfl)

/-- Every target of a sheet stands between quotes there. -/
theorem isTarget_of_mem_cut {text : List Char} :
    ∀ {targets : List (List Char)} {kept : List Char}, (∀ found ∈ targets, IsTarget found) →
      ∀ found ∈ (cut targets kept text).1, IsTarget found := by
  induction text using cut_induction with
  | nil =>
    intro targets kept h found hmem
    rw [cut_nil, List.mem_reverse] at hmem
    exact h found hmem
  | import_ text found rest himport ih =>
    intro targets kept h
    rw [cut_import himport]
    obtain ⟨_, _, ⟨-, -, htarget, -⟩, -, -⟩ := import?_eq_some_iff.1 himport
    exact ih (List.forall_mem_cons.2 ⟨htarget, h⟩)
  | other c rest himport ih =>
    intro targets kept h
    rw [cut_other himport]
    exact ih h

theorem isTarget_of_mem_cutImports {sheet target : String}
    (h : target ∈ (cutImports sheet).1) : IsTarget target.toList := by
  obtain ⟨found, hfound, rfl⟩ := List.mem_map.1 h
  rw [String.toList_ofList]
  exact isTarget_of_mem_cut (fun _ hmem => absurd hmem List.not_mem_nil) found hfound

end StyleSheet

/-! ## The transform -/

theorem references_map_reference (content : ByteArray) (targets : List String) :
    Transformed.references ⟨content, targets.map .reference⟩ = targets := by
  rw [Transformed.references, List.filterMap_map]
  exact List.filterMap_some

/-- What a style sheet becomes. -/
theorem style_run_eq_ok_iff {context : TransformContext} {path : Path} {content : ByteArray}
    {out : Transformed} :
    style.run context path content = .ok out ↔ ∃ sheet, decode content = .ok sheet ∧
      out.references = (StyleSheet.cutImports sheet).1 ∧
      out = ⟨(styleModule (StyleSheet.cutImports sheet).1
          (.ofList (Text.trim (StyleSheet.cutImports sheet).2))).toUTF8,
        (StyleSheet.cutImports sheet).1.map .reference⟩ := by
  refine Result.bind_eq_ok_iff.trans (exists_congr fun sheet => and_congr_right fun _ => ?_)
  constructor
  · intro h
    obtain rfl := Except.ok.inj h
    exact ⟨references_map_reference _ _, rfl⟩
  · rintro ⟨-, rfl⟩
    rfl

end Bundler.Transform
