import Bundler.Proofs.Script.Literals
import Bundler.Script.Span
import Mathlib.Data.List.Chain

set_option autoImplicit false

/-! # How a script is cut

A script is cut from left to right: a comment or string is taken as a whole, any other character
goes to the code (`cut_induction`). The spans are all of the script (`flatMap_text_spans`), and they
are cut as far as they can be (`isCut_spans`): none is empty, and spans of code do not stand next to
each other.

Not every suffix of a script is a place where the cutting stops on its way. Those that are lie
between two of the pieces (`CutsAt`). -/

namespace Bundler.Script

/-! ## Literals -/

/-- Whether a text is a comment or a string if the other one follows it. -/
def IsLiteral (found rest : List Char) : Prop := IsComment found rest ∨ IsString found

theorem literal?_eq_some_iff {text rest : List Char} :
    literal? text = some rest ↔ ∃ found, IsLiteral found rest ∧ text = found ++ rest := by
  simp only [literal?, Option.orElse_eq_orElse, Option.orElse_eq_or, Option.or_eq_some_iff]
  constructor
  · rintro (h | ⟨-, h⟩)
    · obtain ⟨found, hfound, rfl⟩ := comment?_eq_some_iff.1 h
      exact ⟨found, .inl hfound, rfl⟩
    · obtain ⟨found, hfound, rfl⟩ := string?_eq_some_iff.1 h
      exact ⟨found, .inr hfound, rfl⟩
  · rintro ⟨found, hfound | hfound, rfl⟩
    · exact .inl (comment?_eq_some_iff.2 ⟨found, hfound, rfl⟩)
    · refine .inr ⟨?_, string?_eq_some_iff.2 ⟨found, hfound, rfl⟩⟩
      obtain ⟨hquote, -⟩ := hfound
      exact comment?_cons_eq_none (ne_of_isQuote hquote).2.1 _

theorem literal?_eq_none_iff {text : List Char} :
    literal? text = none ↔ comment? text = none ∧ string? text = none := by
  simp only [literal?, Option.orElse_eq_orElse, Option.orElse_eq_or, Option.or_eq_none_iff]

/-- A literal starts with a slash or a quote. -/
theorem IsLiteral.exists_cons {found rest : List Char} (h : IsLiteral found rest) :
    ∃ c more, found = c :: more ∧ (c = '/' ∨ isQuote c = true) := by
  rcases h with (_ | _) | ⟨hquote, _⟩
  · exact ⟨_, _, rfl, .inl rfl⟩
  · exact ⟨_, _, rfl, .inl rfl⟩
  · exact ⟨_, _, rfl, .inr hquote⟩

/-- A literal ends with a slash or a quote, unless it is the comment of a line, which ends with
    it. -/
theorem IsLiteral.getLast? {found rest : List Char} (h : IsLiteral found rest) :
    (∃ c, found.getLast? = some c ∧ (c = '/' ∨ isQuote c = true)) ∨ EndsLine rest := by
  rcases h with (⟨_, hrest⟩ | _) | ⟨hquote, _⟩
  · exact .inr hrest
  · exact .inl ⟨'/', by simp [List.getLast?_cons], .inl rfl⟩
  · exact .inl ⟨_, by simp [List.getLast?_cons], .inr hquote⟩

/-! ## Cutting -/

/-- What holds of every script if comments, strings and characters of code may be put before it. -/
@[elab_as_elim]
theorem cut_induction {motive : List Char → Prop} (nil : motive [])
    (literal : ∀ found rest, IsLiteral found rest → motive rest → motive (found ++ rest))
    (code : ∀ c rest, literal? (c :: rest) = none → motive rest → motive (c :: rest))
    (text : List Char) : motive text := by
  induction hlength : text.length using Nat.strong_induction_on generalizing text with
  | _ n ih =>
    subst hlength
    cases hliteral : literal? text with
    | some rest =>
      obtain ⟨found, hfound, rfl⟩ := literal?_eq_some_iff.1 hliteral
      exact literal found rest hfound (ih _ (length_literal?_lt hliteral) rest rfl)
    | none =>
      cases text with
      | nil => exact nil
      | cons c rest => exact code c rest hliteral (ih _ (Nat.lt_succ_self _) rest rfl)

theorem spansAfter_nil (code : List Char) : spansAfter code [] = codeSpan code := by
  rw [spansAfter]

theorem spansAfter_literal {found rest : List Char} (h : IsLiteral found rest)
    (code : List Char) :
    spansAfter code (found ++ rest) = codeSpan code ++ .literal found :: spansAfter [] rest := by
  have hliteral := literal?_eq_some_iff.2 ⟨found, h, rfl⟩
  obtain ⟨c, more, rfl, -⟩ := h.exists_cons
  rw [List.cons_append] at hliteral ⊢
  rw [spansAfter]
  split
  · next after heq =>
    obtain rfl := Option.some.inj (heq.symm.trans hliteral)
    have hlength : (c :: (more ++ after)).length - after.length = (c :: more).length := by
      simp only [List.length_cons, List.length_append]
      omega
    dsimp only
    rw [hlength, ← List.cons_append, List.take_left]
  · next heq => cases heq.symm.trans hliteral

theorem spansAfter_code {c : Char} {rest : List Char} (h : literal? (c :: rest) = none)
    (code : List Char) : spansAfter code (c :: rest) = spansAfter (c :: code) rest := by
  rw [spansAfter]
  split
  · next heq => cases heq.symm.trans h
  · rfl

/-! ## Plain code -/

/-- Whether no literal can start in a text. -/
def IsPlain (text : List Char) : Prop := ∀ c ∈ text, c ≠ '/' ∧ isQuote c = false

instance (text : List Char) : Decidable (IsPlain text) :=
  (List.decidableBAll _ _ : Decidable (∀ c ∈ text, c ≠ '/' ∧ isQuote c = false))

theorem literal?_cons_eq_none {c : Char} (h : c ≠ '/' ∧ isQuote c = false) (rest : List Char) :
    literal? (c :: rest) = none :=
  literal?_eq_none_iff.2 ⟨comment?_cons_eq_none h.1 rest, string?_cons_eq_none h.2 rest⟩

theorem spansAfter_append_of_isPlain {text : List Char} (h : IsPlain text)
    (code rest : List Char) :
    spansAfter code (text ++ rest) = spansAfter (text.reverse ++ code) rest := by
  induction text generalizing code with
  | nil => rfl
  | cons c more ih =>
    rw [List.cons_append, spansAfter_code (literal?_cons_eq_none (h c List.mem_cons_self) _),
      ih fun d hd => h d (List.mem_cons_of_mem _ hd)]
    simp

/-! ## The spans of a script -/

theorem flatMap_text_codeSpan (code : List Char) :
    (codeSpan code).flatMap Span.text = code.reverse := by
  cases code <;> simp [codeSpan, Span.text]

theorem flatMap_text_spansAfter (code text : List Char) :
    (spansAfter code text).flatMap Span.text = code.reverse ++ text := by
  induction text using cut_induction generalizing code with
  | nil => rw [spansAfter_nil, flatMap_text_codeSpan, List.append_nil]
  | literal found rest h ih =>
    rw [spansAfter_literal h, List.flatMap_append, flatMap_text_codeSpan, List.flatMap_cons, ih]
    rfl
  | code c rest h ih => rw [spansAfter_code h, ih]; simp

/-- Nothing of a script is lost. -/
theorem flatMap_text_spans (source : List Char) : (spans source).flatMap Span.text = source :=
  flatMap_text_spansAfter [] source

/-- Whether a span is code. -/
def Span.isCode : Span → Bool
  | .code _ => true
  | .literal _ => false

/-- Whether spans are cut as far as they can be: literals stand for themselves, and the code between
    two of them is one span. -/
inductive IsCut : List Span → Prop
  | nil : IsCut []
  | code {text : List Char} {l : List Span} (htext : text ≠ [])
      (hnext : l.head?.any Span.isCode = false) (h : IsCut l) : IsCut (.code text :: l)
  | literal {text : List Char} {l : List Span} (htext : IsLiteral text (l.flatMap Span.text))
      (h : IsCut l) : IsCut (.literal text :: l)

theorem IsCut.codeSpan_append {l : List Span} (h : IsCut l)
    (hnext : l.head?.any Span.isCode = false) (code : List Char) : IsCut (codeSpan code ++ l) := by
  cases code with
  | nil => exact h
  | cons c more => exact .code (by simp) hnext h

theorem isCut_spansAfter (code text : List Char) : IsCut (spansAfter code text) := by
  induction text using cut_induction generalizing code with
  | nil =>
    rw [spansAfter_nil, ← List.append_nil (codeSpan code)]
    exact IsCut.nil.codeSpan_append rfl code
  | literal found rest h ih =>
    rw [spansAfter_literal h]
    refine IsCut.codeSpan_append (.literal ?_ (ih [])) rfl code
    rwa [flatMap_text_spansAfter]
  | code c rest h ih =>
    rw [spansAfter_code h]
    exact ih (c :: code)

theorem isCut_spans (source : List Char) : IsCut (spans source) := isCut_spansAfter [] source

theorem IsCut.text_ne_nil {l : List Span} (h : IsCut l) : ∀ s ∈ l, s.text ≠ [] := by
  induction h with
  | nil => exact nofun
  | code htext _ _ ih => exact List.forall_mem_cons.2 ⟨htext, ih⟩
  | literal htext _ ih =>
    obtain ⟨c, more, rfl, -⟩ := htext.exists_cons
    exact List.forall_mem_cons.2 ⟨List.cons_ne_nil c more, ih⟩

/-- Between two spans of code there is a literal. -/
theorem IsCut.isChain {l : List Span} (h : IsCut l) :
    l.IsChain fun s t => ¬ (s.isCode = true ∧ t.isCode = true) := by
  induction h with
  | nil => exact .nil
  | code htext hnext _ ih =>
    refine List.isChain_cons.2 ⟨?_, ih⟩
    rintro t ht ⟨-, hcode⟩
    rw [Option.mem_def.1 ht, Option.any_some, hcode] at hnext
    cases hnext
  | literal htext _ ih =>
    refine List.isChain_cons.2 ⟨?_, ih⟩
    rintro t - ⟨hcode, -⟩
    cases hcode

/-! ## Places between the pieces -/

/-- Whether the cutting of a script comes by the place that a text is behind of. -/
inductive CutsAt : List Char → List Char → Prop
  | here (source : List Char) : CutsAt source source
  | literal {found rest place : List Char} (hfound : IsLiteral found rest)
      (h : CutsAt rest place) : CutsAt (found ++ rest) place
  | code {c : Char} {rest place : List Char} (hcode : literal? (c :: rest) = none)
      (h : CutsAt rest place) : CutsAt (c :: rest) place

namespace CutsAt

theorem trans {source text place : List Char} (h : CutsAt source text) (h' : CutsAt text place) :
    CutsAt source place := by
  induction h with
  | here => exact h'
  | literal hfound _ ih => exact .literal hfound (ih h')
  | code hcode _ ih => exact .code hcode (ih h')

theorem suffix {source text : List Char} (h : CutsAt source text) : text <:+ source := by
  induction h with
  | here => exact List.suffix_refl _
  | literal _ _ ih => exact ih.trans (List.suffix_append _ _)
  | code _ _ ih => exact ih.trans (List.suffix_cons _ _)

theorem after_literal {source found rest : List Char} (h : CutsAt source (found ++ rest))
    (hfound : IsLiteral found rest) : CutsAt source rest :=
  h.trans (.literal hfound (.here rest))

theorem after_code {source rest : List Char} {c : Char} (h : CutsAt source (c :: rest))
    (hcode : literal? (c :: rest) = none) : CutsAt source rest :=
  h.trans (.code hcode (.here rest))

theorem after_plain {source text rest : List Char} (h : CutsAt source (text ++ rest))
    (hplain : IsPlain text) : CutsAt source rest := by
  induction text with
  | nil => exact h
  | cons c more ih =>
    exact ih (h.after_code (literal?_cons_eq_none (hplain c List.mem_cons_self) _))
      fun d hd => hplain d (List.mem_cons_of_mem _ hd)

end CutsAt

end Bundler.Script
