import Bundler.Proofs.Script.Substitution

set_option autoImplicit false

/-! # Constants inside longer identifiers

A replaced script is made of segments, which are kept or have a literal in place of a name. The
segments come from the pass itself (`flatMap_written_segments`), so they say where a name was
replaced. What stands beside a replaced name is never a letter, digit or underscore, if the name
has one there as well. The dollar sign is a character of identifiers too, but the boundary of a
word is there beside it: a name is replaced behind a dollar sign and before one
(`replaced_behind_dollar`), and there only inside of longer identifiers (`replaced_whole`). -/

namespace Bundler.Script

/-! ## Names of constants -/

/-- The characters of identifiers: letters and digits of any script, the underscore and the dollar
    sign. -/
def isIdentifierChar (c : Char) : Bool :=
  Unicode.isAlphabetic c || Unicode.isDigit c || c == '_' || c == '$'

/-- Whether a name is a sequence of identifiers with dots between them. -/
def IsDottedName (name : List Char) : Prop :=
  ∃ parts : List (List Char), parts ≠ [] ∧
    (∀ part ∈ parts, part ≠ [] ∧ ∀ c ∈ part, isIdentifierChar c = true) ∧
    name = List.intercalate ['.'] parts

/-- All characters of identifiers but the dollar sign are word characters, and ask for a boundary
    where a name starts or ends with them. -/
theorem isWord_of_isIdentifierChar {c : Char} (h : isIdentifierChar c = true) (hc : c ≠ '$') :
    Unicode.isWord c = true ∧ needsBoundary c = true := by
  simp only [isIdentifierChar, Bool.or_eq_true, beq_iff_eq, hc, or_false] at h
  rw [Unicode.isAlphabetic, Unicode.isDigit] at h
  rw [needsBoundary, Unicode.isWord, Unicode.isAlphanumeric]
  by_cases hascii : c.toNat < 0x80
  · rw [if_pos hascii, if_pos hascii] at h
    rw [if_pos hascii, if_pos hascii]
    simpa using h
  · rw [if_neg hascii, if_neg hascii] at h
    rw [if_neg hascii, if_neg hascii]
    have hne : c ≠ '_' := by
      rintro rfl
      exact hascii (by decide)
    rcases h with (h | h) | h
    · simp [Unicode.wordTables, h]
    · simp [Unicode.wordTables, h]
    · exact absurd h hne

theorem isIdentifierChar_of_isWordChar {c : Char} (h : isWordChar c = true) :
    isIdentifierChar c = true := by
  have hascii : Unicode.isAsciiLetter c = true ∨ Unicode.isAsciiDigit c = true →
      c.toNat < 0x80 := by
    simp only [Unicode.isAsciiLetter, Unicode.isAsciiDigit, Bool.or_eq_true, Bool.and_eq_true,
      decide_eq_true_eq, Char.le_def, UInt32.le_iff_toNat_le, Char.toNat]
    have hz : 'z'.val.toNat = 122 ∧ 'Z'.val.toNat = 90 ∧ '9'.val.toNat = 57 := by decide
    omega
  simp only [isWordChar, Bool.or_eq_true, beq_iff_eq] at h
  simp only [isIdentifierChar, Bool.or_eq_true, beq_iff_eq, Unicode.isAlphabetic, Unicode.isDigit]
  rcases h with ((h | h) | h) | h
  · simp [hascii (.inl h), h]
  · simp [hascii (.inr h), h]
  · simp [h]
  · simp [h]

/-- The ends of a dotted name are characters of identifiers. -/
theorem IsDottedName.ends {name : List Char} (h : IsDottedName name) :
    (∃ c, name.head? = some c ∧ isIdentifierChar c = true) ∧
      ∃ c, name.getLast? = some c ∧ isIdentifierChar c = true := by
  obtain ⟨parts, hne, hparts, rfl⟩ := h
  induction parts with
  | nil => exact absurd rfl hne
  | cons part rest ih =>
    obtain ⟨hpart, hchars⟩ := hparts part List.mem_cons_self
    have hhead : part.head? = some (part.head hpart) := List.head?_eq_some_head hpart
    cases rest with
    | nil =>
      rw [List.intercalate_singleton]
      exact ⟨⟨_, hhead, hchars _ (List.head_mem hpart)⟩,
        _, List.getLast?_eq_some_getLast hpart, hchars _ (List.getLast_mem hpart)⟩
    | cons next more =>
      obtain ⟨-, c, hlast, hc⟩ := ih (List.cons_ne_nil _ _)
        fun part hmem => hparts part (List.mem_cons_of_mem _ hmem)
      rw [List.intercalate_cons_cons]
      refine ⟨⟨_, ?_, hchars _ (List.head_mem hpart)⟩, c, ?_, hc⟩
      · rw [List.head?_append, List.head?_append, hhead]
        rfl
      · rw [List.getLast?_append, hlast, Option.some_or]

/-- A name of one identifier. -/
theorem isDottedName_of_all {name : List Char} (hne : name ≠ [])
    (h : name.all isIdentifierChar = true) : IsDottedName name :=
  ⟨[name], List.cons_ne_nil _ _, List.forall_mem_singleton.2 ⟨hne, List.all_eq_true.1 h⟩,
    List.intercalate_singleton.symm⟩

theorem IsDottedName.ne_nil {name : List Char} (h : IsDottedName name) : name ≠ [] := by
  obtain ⟨⟨c, hc, -⟩, -⟩ := h.ends
  rintro rfl
  cases hc

/-! ## Names at a place -/

/-- Whether only a dollar sign can join a name with the characters beside it. -/
structure IsWhole (name : List Char) (before after : Option Char) : Prop where
  first : name.head? ≠ some '$' → before.any Unicode.isWord = false
  last : name.getLast? ≠ some '$' → after.any Unicode.isWord = false

theorem IsDottedName.isWhole_of_standsAt {name : List Char} (h : IsDottedName name)
    {before : Option Char} {rest : List Char}
    (hstands : standsAt name before (name ++ rest) = true) : IsWhole name before rest.head? := by
  obtain ⟨⟨c, hhead, hc⟩, d, hlast, hd⟩ := h.ends
  rw [standsAt, List.drop_left, hhead, hlast, isBoundary, isBoundary] at hstands
  simp only [Bool.and_eq_true, Option.any_some] at hstands
  obtain ⟨⟨-, hfirst⟩, hend⟩ := hstands
  constructor
  · intro hne
    obtain ⟨hword, hneeds⟩ := isWord_of_isIdentifierChar hc fun heq => hne (heq ▸ hhead)
    rw [hword, hneeds] at hfirst
    simpa using hfirst
  · intro hne
    obtain ⟨hword, hneeds⟩ := isWord_of_isIdentifierChar hd fun heq => hne (heq ▸ hlast)
    rw [hword, hneeds] at hend
    simpa using hend

/-- What is whole in some code is whole in a script in which no word goes on at the ends of the
    code. -/
theorem IsWhole.of_code {name earlier later after : List Char} {before : Option Char}
    (h : IsWhole name (lastOr none earlier) later.head?)
    (hbefore : earlier = [] → before.any Unicode.isWord = false)
    (hafter : after.head?.any Unicode.isWord = false) :
    IsWhole name (lastOr before earlier) (later ++ after).head? := by
  constructor
  · intro hne
    cases earlier with
    | nil => exact hbefore rfl
    | cons c more =>
      rw [lastOr_of_ne_nil (List.cons_ne_nil c more) before none]
      exact h.first hne
  · intro hne
    cases later with
    | nil => exact hafter
    | cons c more => exact h.last hne

/-! ## Segments of a replaced script -/

/-- A part of a script that is kept, or a name with the literal in its place. -/
inductive Segment
  | kept (text : List Char)
  | replaced (name literal : List Char)
deriving DecidableEq, Repr

/-- The text of a segment in the script. -/
def Segment.source : Segment → List Char
  | .kept text => text
  | .replaced name _ => name

/-- The text of a segment in the replaced script. -/
def Segment.written : Segment → List Char
  | .kept text => text
  | .replaced _ literal => literal

/-- The segments of some code behind a character. -/
def codeSegments (names : List (List Char × List Char)) (before : Option Char) :
    List Char → List Segment
  | [] => []
  | c :: rest =>
    match constantAt? names before (c :: rest) with
    | some (n :: name, literal) =>
      .replaced (n :: name) literal ::
        codeSegments names (lastOr (some n) name) (rest.drop name.length)
    | _ => .kept [c] :: codeSegments names (some c) rest
termination_by text => text.length
decreasing_by
  all_goals simp only [List.length_cons, List.length_drop]
  all_goals omega

/-- The segments of a span. -/
def Span.segments (names : List (List Char × List Char)) : Span → List Segment
  | .code text => codeSegments names none text
  | .literal text => [.kept text]

/-- The segments of a script. -/
def segments (constants : Constants) (source : String) : List Segment :=
  (spans source.toList).flatMap (Span.segments (byLength constants))

section

variable {names : List (List Char × List Char)} (hnames : ∀ x ∈ names, x.1 ≠ [])

theorem mem_of_constantAt? {before : Option Char} {text name literal : List Char}
    (h : constantAt? names before text = some (name, literal)) :
    (name, literal) ∈ names ∧ standsAt name before text = true ∧ name <+: text := by
  have hstands : standsAt name before text = true :=
    List.find?_some (p := fun e : List Char × List Char => standsAt e.1 before text) h
  refine ⟨List.mem_of_find?_eq_some h, hstands, ?_⟩
  rw [standsAt, Bool.and_eq_true, Bool.and_eq_true] at hstands
  exact List.isPrefixOf_iff_prefix.1 hstands.1.1

theorem codeSegments_nil (before : Option Char) : codeSegments names before [] = [] := by
  rw [codeSegments]

theorem codeSegments_constant {before : Option Char} {name literal rest : List Char}
    (hne : name ≠ []) (h : constantAt? names before (name ++ rest) = some (name, literal)) :
    codeSegments names before (name ++ rest) =
      .replaced name literal :: codeSegments names (lastOr before name) rest := by
  obtain ⟨n, more, rfl⟩ := List.exists_cons_of_ne_nil hne
  rw [List.cons_append] at h ⊢
  rw [codeSegments, h]
  dsimp only
  rw [List.drop_left, lastOr_cons]

theorem codeSegments_other {before : Option Char} {c : Char} {rest : List Char}
    (h : constantAt? names before (c :: rest) = none) :
    codeSegments names before (c :: rest) = .kept [c] :: codeSegments names (some c) rest := by
  rw [codeSegments, h]

include hnames

/-- What the pass does at each place of some code. -/
@[elab_as_elim]
theorem code_induction {motive : Option Char → List Char → Prop} (nil : ∀ before, motive before [])
    (constant : ∀ before name literal rest, name ≠ [] →
      constantAt? names before (name ++ rest) = some (name, literal) →
        motive (lastOr before name) rest → motive before (name ++ rest))
    (other : ∀ before c rest, constantAt? names before (c :: rest) = none →
      motive (some c) rest → motive before (c :: rest))
    (before : Option Char) (text : List Char) : motive before text := by
  induction hlength : text.length using Nat.strong_induction_on generalizing before text with
  | _ n ih =>
    subst hlength
    cases text with
    | nil => exact nil before
    | cons c rest =>
      cases h : constantAt? names before (c :: rest) with
      | none => exact other before c rest h (ih _ (Nat.lt_succ_self _) (some c) rest rfl)
      | some x =>
        obtain ⟨name, literal⟩ := x
        obtain ⟨hmem, -, more, heq⟩ := mem_of_constantAt? h
        have hne : name ≠ [] := hnames _ hmem
        have hlt : more.length < (c :: rest).length := by
          have := List.length_pos_of_ne_nil hne
          rw [← heq, List.length_append]
          omega
        rw [← heq] at h ⊢
        exact constant before name literal more hne h (ih _ hlt _ more rfl)

theorem flatMap_source_codeSegments (before : Option Char) (text : List Char) :
    (codeSegments names before text).flatMap Segment.source = text := by
  induction before, text using code_induction hnames with
  | nil before => rw [codeSegments_nil]; rfl
  | constant before name literal rest hne h ih =>
    rw [codeSegments_constant hne h, List.flatMap_cons, ih]
    rfl
  | other before c rest h ih =>
    rw [codeSegments_other h, List.flatMap_cons, ih]
    rfl

theorem replaceCode_eq (before : Option Char) (text : List Char) (done : List Char)
    (fresh : Bool) : replaceCode names done before fresh text =
      done.reverse ++ (codeSegments names before text).flatMap Segment.written := by
  induction before, text using code_induction hnames generalizing done fresh with
  | nil before =>
    have hnone : constantAt? names before [] = none := by
      refine Option.eq_none_iff_forall_ne_some.2 fun ⟨name, literal⟩ h => ?_
      obtain ⟨hmem, -, hstarts⟩ := mem_of_constantAt? h
      exact hnames _ hmem (List.prefix_nil.1 hstarts)
    rw [replaceCode_nil _ _ _ hnone, codeSegments_nil, List.flatMap_nil, List.append_nil]
  | constant before name literal rest hne h ih =>
    rw [replaceCode_constant _ _ _ hne h, codeSegments_constant hne h, ih, List.flatMap_cons,
      List.reverse_append, List.reverse_reverse, List.append_assoc]
    rfl
  | other before c rest h ih =>
    rw [replaceCode_other _ _ _ h, codeSegments_other h, ih, List.flatMap_cons,
      List.reverse_cons, List.append_assoc]
    rfl

/-- Where a name is replaced in some code, it stands there. -/
theorem standsAt_of_codeSegments_eq {before : Option Char} {text : List Char}
    {l₁ l₂ : List Segment} {name literal : List Char}
    (h : codeSegments names before text = l₁ ++ .replaced name literal :: l₂) :
    (name, literal) ∈ names ∧ standsAt name (lastOr before (l₁.flatMap Segment.source))
      (name ++ l₂.flatMap Segment.source) = true := by
  induction before, text using code_induction hnames generalizing l₁ with
  | nil before =>
    rw [codeSegments_nil] at h
    simp at h
  | constant before name' literal' rest hne hconstant ih =>
    rw [codeSegments_constant hne hconstant] at h
    rcases List.cons_eq_append_iff.1 h with ⟨rfl, heq⟩ | ⟨more, rfl, heq⟩
    · obtain ⟨hsegment, rfl⟩ := List.cons.inj heq
      obtain ⟨rfl, rfl⟩ := Segment.replaced.inj hsegment
      obtain ⟨hmem, hstands, -⟩ := mem_of_constantAt? hconstant
      rw [flatMap_source_codeSegments hnames]
      exact ⟨hmem, hstands⟩
    · rw [List.flatMap_cons, lastOr_append]
      exact ih heq
  | other before c rest hconstant ih =>
    rw [codeSegments_other hconstant] at h
    rcases List.cons_eq_append_iff.1 h with ⟨rfl, heq⟩ | ⟨more, rfl, heq⟩
    · cases heq
    · rw [List.flatMap_cons, lastOr_append]
      exact ih heq

end

/-! ## Segments of a whole script -/

/-- An element of two lists one after the other is in the first one or in the second one. -/
theorem append_eq_append_cons {α : Type} {l l' l₁ l₂ : List α} {a : α}
    (h : l ++ l' = l₁ ++ a :: l₂) :
    (∃ more, l = l₁ ++ a :: more ∧ l₂ = more ++ l') ∨
      ∃ more, l₁ = l ++ more ∧ l' = more ++ a :: l₂ := by
  rcases List.append_eq_append_iff.1 h with ⟨more, rfl, hrest⟩ | ⟨more, rfl, hrest⟩
  · exact .inr ⟨more, rfl, hrest⟩
  · rcases List.cons_eq_append_iff.1 hrest with ⟨rfl, rfl⟩ | ⟨tail, rfl, rfl⟩
    · exact .inr ⟨[], by simp, rfl⟩
    · exact .inl ⟨tail, rfl, rfl⟩

theorem EndsLine.isIdentifierChar_eq_false {c : Char} {rest : List Char}
    (h : EndsLine (c :: rest)) : isIdentifierChar c = false := by
  cases h <;> rfl

section

variable {names : List (List Char × List Char)} (hnames : ∀ x ∈ names, IsDottedName x.1)
include hnames

theorem flatMap_source_segments (l : List Span) :
    (l.flatMap (Span.segments names)).flatMap Segment.source = l.flatMap Span.text := by
  rw [List.flatMap_assoc]
  refine List.flatMap_congr fun s _ => ?_
  cases s with
  | code text => exact flatMap_source_codeSegments (fun x hx => (hnames x hx).ne_nil) none text
  | literal text => simp [Span.segments, Segment.source, Span.text]

theorem flatMap_written_segments (l : List Span) :
    (l.flatMap (Span.segments names)).flatMap Segment.written = l.flatMap (Span.replace names) := by
  rw [List.flatMap_assoc]
  refine List.flatMap_congr fun s _ => ?_
  cases s with
  | code text => exact (replaceCode_eq (fun x hx => (hnames x hx).ne_nil) none text [] true).symm
  | literal text => simp [Span.segments, Segment.written, Span.replace]

/-- The pass sees each span of code alone, but a span starts and ends beside literals. The induction
    is on the spans that are left, behind the character `before`. -/
theorem IsCut.isWhole_of_segments_eq {l : List Span} (h : IsCut l) (before : Option Char)
    (hbefore : l.head?.any Span.isCode = true →
      before.any Unicode.isWord = false ∨ EndsLine (l.flatMap Span.text))
    {l₁ l₂ : List Segment} {name literal : List Char}
    (heq : l.flatMap (Span.segments names) = l₁ ++ .replaced name literal :: l₂) :
    (name, literal) ∈ names ∧ IsWhole name (lastOr before (l₁.flatMap Segment.source))
      (l₂.flatMap Segment.source).head? := by
  induction h generalizing before l₁ with
  | nil => simp at heq
  | @code text l htext hnext h ih =>
    rw [List.flatMap_cons, Span.segments] at heq
    have hcode := flatMap_source_codeSegments (fun x hx => (hnames x hx).ne_nil) none text
    rcases append_eq_append_cons heq with ⟨more, hsegments, rfl⟩ | ⟨more, rfl, hrest⟩
    · obtain ⟨hmem, hstands⟩ :=
        standsAt_of_codeSegments_eq (fun x hx => (hnames x hx).ne_nil) hsegments
      have hname := hnames _ hmem
      rw [List.flatMap_append, flatMap_source_segments hnames]
      refine ⟨hmem, (hname.isWhole_of_standsAt hstands).of_code (fun hnil => ?_)
        (h.any_isWord_head? hnext)⟩
      -- the span starts with the name, so the line does not end there
      refine (hbefore rfl).resolve_right fun hline => ?_
      obtain ⟨⟨c, hc, hidentifier⟩, -⟩ := hname.ends
      obtain ⟨tail, rfl⟩ := List.head?_eq_some_iff.1 hc
      rw [hsegments, List.flatMap_append, hnil, List.nil_append, List.flatMap_cons] at hcode
      rw [List.flatMap_cons, Span.text, ← hcode] at hline
      rw [hline.isIdentifierChar_eq_false] at hidentifier
      cases hidentifier
    · rw [List.flatMap_append, hcode, lastOr_append]
      refine ih _ (fun hcode => ?_) hrest
      rw [hnext] at hcode
      cases hcode
  | @literal text l htext h ih =>
    rw [List.flatMap_cons, Span.segments, List.singleton_append] at heq
    rcases List.cons_eq_append_iff.1 heq with ⟨rfl, heq⟩ | ⟨more, rfl, heq⟩
    · cases heq
    · rw [List.flatMap_cons, lastOr_append]
      exact ih _ (fun _ => htext.any_isWord_lastOr before) (List.cons.inj heq).2

end

/-- A constant is replaced inside a longer identifier only where a dollar sign joins them. The
    segments are those of the script and of the replaced script, and if a character of an identifier
    stands directly before a replaced name or behind it, then this character is a dollar sign, or
    the name has one at this end. -/
theorem replaced_whole (constants : Constants) (source : String)
    (hnames : ∀ e ∈ constants.toList, IsDottedName e.1.toList) :
    (segments constants source).flatMap Segment.source = source.toList ∧
    (segments constants source).flatMap Segment.written =
      (replaceConstants constants source).toList ∧
    ∀ (l₁ : List Segment) (name literal : List Char) (l₂ : List Segment),
      segments constants source = l₁ ++ .replaced name literal :: l₂ →
        (∃ e ∈ constants.toList, (e.1.toList, e.2.toList) = (name, literal)) ∧
        (∀ c, (l₁.flatMap Segment.source).getLast? = some c → isWordChar c = true →
          c = '$' ∨ name.head? = some '$') ∧
        (∀ c, (l₂.flatMap Segment.source).head? = some c → isWordChar c = true →
          c = '$' ∨ name.getLast? = some '$') := by
  have hbyLength : ∀ x ∈ byLength constants, IsDottedName x.1 := by
    intro x hx
    obtain ⟨e, he, rfl⟩ := mem_byLength_iff.1 hx
    exact hnames e he
  refine ⟨?_, ?_, fun l₁ name literal l₂ heq => ?_⟩
  · rw [segments, flatMap_source_segments hbyLength, flatMap_text_spans]
  · rw [segments, flatMap_written_segments hbyLength, replaceConstants, String.toList_ofList]
  obtain ⟨hmem, hfirst, hlast⟩ :=
    (isCut_spans source.toList).isWhole_of_segments_eq hbyLength none (fun _ => .inl rfl) heq
  have hdollar : ∀ {c : Char}, isWordChar c = true → Unicode.isWord c = false → c = '$' := by
    intro c hc hword
    by_contra hne
    rw [(isWord_of_isIdentifierChar (isIdentifierChar_of_isWordChar hc) hne).1] at hword
    cases hword
  refine ⟨mem_byLength_iff.1 hmem, fun c hc hwordChar => ?_, fun c hc hwordChar => ?_⟩
  · refine or_iff_not_imp_right.2 fun hne => hdollar hwordChar ?_
    have := hfirst hne
    rwa [lastOr, hc] at this
  · refine or_iff_not_imp_right.2 fun hne => hdollar hwordChar ?_
    have := hlast hne
    rwa [hc] at this

/-- A longer word that begins with a name, or ends with it, stays. -/
theorem replaced_whole_debug :
    let constants : Constants := .ofList [("DEBUG", "false")]
    (∀ e ∈ constants.toList, IsDottedName e.1.toList) ∧
      replaceConstants constants "DEBUG || NO_DEBUG || DEBUGGER" =
        "false || NO_DEBUG || DEBUGGER" := by
  intro constants
  have hnames : ∀ e ∈ constants.toList, IsDottedName e.1.toList := by
    have hlist : constants.toList = [("DEBUG", "false")] := by decide
    rw [hlist, List.forall_mem_singleton]
    exact isDottedName_of_all (by decide) (by decide)
  have hsorted : byLength constants = [("DEBUG".toList, "false".toList)] := by decide +kernel
  have hsegments : (segments constants "DEBUG || NO_DEBUG || DEBUGGER").flatMap Segment.written =
      "false || NO_DEBUG || DEBUGGER".toList := by
    rw [segments, hsorted]
    decide +kernel
  refine ⟨hnames, String.toList_inj.1 ?_⟩
  rw [← (replaced_whole constants "DEBUG || NO_DEBUG || DEBUGGER" hnames).2.1, hsegments]

/-- Behind a dollar sign a name is replaced, although the identifier goes on there. -/
theorem replaced_behind_dollar :
    let constants : Constants := .ofList [("DEBUG", "false")]
    (∀ e ∈ constants.toList, IsDottedName e.1.toList) ∧ isWordChar '$' = true ∧
      segments constants "$DEBUG" =
        [.kept ['$'], .replaced "DEBUG".toList "false".toList] ∧
      replaceConstants constants "$DEBUG" = "$false" := by
  intro constants
  have hlist : constants.toList = [("DEBUG", "false")] := by decide
  have hsorted : byLength constants = [("DEBUG".toList, "false".toList)] := by decide +kernel
  refine ⟨?_, rfl, ?_, ?_⟩
  · rw [hlist, List.forall_mem_singleton]
    exact isDottedName_of_all (by decide) (by decide)
  · rw [segments, hsorted]
    decide +kernel
  · rw [replaceConstants, hsorted]
    decide +kernel

end Bundler.Script
