import Bundler.Proofs.NameMap
import Bundler.Proofs.Script.Spans
import Bundler.Proofs.Text.Starts
import Bundler.Script.Constants

set_option autoImplicit false

/-! # What the replacing of constants gives

Constants are replaced in each span of code alone, and at each place the first of the sorted names
that stands there is taken. This comes to the same as one pass over the whole script that takes the
longest name at each place (`substituted_iff`), for names of ASCII without white space. Two things
carry this. Of two names that occur at one place, one begins with the other, so the one with more
bytes is the longer one. And the edge of a span is the edge of a word: a literal starts and ends
with a slash or a quote, unless it is the comment of a line, behind which the line ends, where no
name can start. -/

namespace Bundler.Script

/-! ## One pass over a script -/

/-- Whether a text can be the name of a constant: ASCII without white space. -/
def IsConstantName (name : List Char) : Prop :=
  name ≠ [] ∧ ∀ c ∈ name, c.toNat < 0x80 ∧ isGap c = false

instance (name : List Char) : Decidable (IsConstantName name) :=
  haveI : Decidable (∀ c ∈ name, c.toNat < 0x80 ∧ isGap c = false) := List.decidableBAll _ _
  inferInstanceAs (Decidable (_ ∧ _))

/-- The letters, digits and underscores of ASCII. -/
def isNameEnd (c : Char) : Bool :=
  Unicode.isAsciiLetter c || Unicode.isAsciiDigit c || c == '_'

/-- Whether a name occurs at the start of some code, where `before` is the character of the script
    before it, and `after` is what stands behind the code. An end of the name that is a letter, a
    digit or an underscore must not touch a word character of the script. -/
structure Occurs (name : List Char) (before : Option Char) (code after : List Char) : Prop where
  starts : name <+: code
  first : name.head?.any isNameEnd = true → before.any Unicode.isWord = false
  last : name.getLast?.any isNameEnd = true →
    ((code ++ after).drop name.length).head?.any Unicode.isWord = false

/-- Whether a constant occurs at the start of some code, and no longer one does. -/
structure IsLongestAt (constants : Constants) (before : Option Char) (code after : List Char)
    (e : String × String) : Prop where
  mem : e ∈ constants.toList
  occurs : Occurs e.1.toList before code after
  longest : ∀ e' ∈ constants.toList, Occurs e'.1.toList before code after →
    e'.1.length ≤ e.1.length

/-- What a pass over the spans of a script makes of them. It copies literals; in the code it puts a
    literal in place of the longest constant that occurs, and goes on behind it, or else copies a
    character. -/
inductive Substituted (constants : Constants) : Option Char → List Span → List Char → Prop
  | nil (before : Option Char) : Substituted constants before [] []
  | literal {before : Option Char} {text out : List Char} {l : List Span}
      (h : Substituted constants (lastOr before text) l out) :
      Substituted constants before (.literal text :: l) (text ++ out)
  | stop {before : Option Char} {out : List Char} {l : List Span}
      (h : Substituted constants before l out) : Substituted constants before (.code [] :: l) out
  | constant {before : Option Char} {code out : List Char} {l : List Span} {e : String × String}
      (he : IsLongestAt constants before code (l.flatMap Span.text) e)
      (h : Substituted constants (lastOr before e.1.toList)
        (.code (code.drop e.1.toList.length) :: l) out) :
      Substituted constants before (.code code :: l) (e.2.toList ++ out)
  | other {before : Option Char} {c : Char} {code out : List Char} {l : List Span}
      (hnone : ∀ e ∈ constants.toList,
        ¬ Occurs e.1.toList before (c :: code) (l.flatMap Span.text))
      (h : Substituted constants (some c) (.code code :: l) out) :
      Substituted constants before (.code (c :: code) :: l) (c :: out)

theorem lastOr_append (before : Option Char) (text rest : List Char) :
    lastOr before (text ++ rest) = lastOr (lastOr before text) rest := by
  rw [lastOr, lastOr, lastOr, List.getLast?_append, Option.or_assoc]

theorem lastOr_cons (before : Option Char) (c : Char) (rest : List Char) :
    lastOr before (c :: rest) = lastOr (some c) rest :=
  lastOr_append before [c] rest

theorem lastOr_of_ne_nil {text : List Char} (h : text ≠ []) (before before' : Option Char) :
    lastOr before text = lastOr before' text := by
  obtain ⟨c, more, rfl⟩ := List.exists_cons_of_ne_nil h
  rw [lastOr_cons, lastOr_cons]

/-! ## Names at a place -/

/-- For the characters of names, being a word character and asking for a boundary is the same. -/
theorem isWord_eq_of_lt {c : Char} (h : c.toNat < 0x80) :
    Unicode.isWord c = isNameEnd c ∧ needsBoundary c = isNameEnd c := by
  rw [Unicode.isWord, needsBoundary, Unicode.isAlphanumeric, if_pos h, if_pos h]
  exact ⟨rfl, rfl⟩

theorem isBoundary_iff {c : Char} (h : c.toNat < 0x80) (other : Option Char) :
    ((!(needsBoundary c) || isBoundary other (some c)) = true ↔
      (isNameEnd c = true → other.any Unicode.isWord = false)) ∧
    ((!(needsBoundary c) || isBoundary (some c) other) = true ↔
      (isNameEnd c = true → other.any Unicode.isWord = false)) := by
  rw [isBoundary, isBoundary, Option.any_some, (isWord_eq_of_lt h).1, (isWord_eq_of_lt h).2]
  cases isNameEnd c <;> cases other.any Unicode.isWord <;> decide

/-- A name stands at a place of a span if it occurs there in the script. At the start of a span the
    character before it is not looked at; then it must be no word character, or no name may start
    with the next one. -/
theorem standsAt_iff {name : List Char} (hname : IsConstantName name) {seen before : Option Char}
    {code after : List Char}
    (hbefore : seen.any Unicode.isWord = before.any Unicode.isWord ∨ code.head?.any isGap = true)
    (hafter : after.head?.any Unicode.isWord = false) :
    standsAt name seen code = true ↔ Occurs name before code after := by
  obtain ⟨hne, hchars⟩ := hname
  by_cases hstarts : name <+: code
  · have hfirst : name.head? = some (name.head hne) := List.head?_eq_some_head hne
    have hlast : name.getLast? = some (name.getLast hne) := List.getLast?_eq_some_getLast hne
    obtain ⟨hascii, hgap⟩ := hchars _ (List.head_mem hne)
    -- a name starts with no white space, so what was seen of the span is what stands before
    have hseen : seen.any Unicode.isWord = before.any Unicode.isWord := by
      refine hbefore.resolve_right fun hcode => ?_
      obtain ⟨more, rfl⟩ := hstarts
      rw [List.head?_append, hfirst, Option.some_or, Option.any_some, hgap] at hcode
      cases hcode
    have hnext : ((code ++ after).drop name.length).head?.any Unicode.isWord
        = (code.drop name.length).head?.any Unicode.isWord := by
      obtain ⟨more, rfl⟩ := hstarts
      rw [List.append_assoc, List.drop_left, List.drop_left]
      cases more with
      | nil => exact hafter
      | cons c more => rfl
    have hiff : Occurs name before code after ↔
        (isNameEnd (name.head hne) = true → seen.any Unicode.isWord = false) ∧
        (isNameEnd (name.getLast hne) = true →
          (code.drop name.length).head?.any Unicode.isWord = false) := by
      rw [hseen, ← hnext]
      refine ⟨fun h => ⟨fun hend => h.first ?_, fun hend => h.last ?_⟩,
        fun h => ⟨hstarts, fun hend => h.1 ?_, fun hend => h.2 ?_⟩⟩
      · rwa [hfirst]
      · rwa [hlast]
      · rwa [hfirst] at hend
      · rwa [hlast] at hend
    rw [hiff, standsAt, hfirst, hlast, Option.any_some, Option.any_some, Bool.and_eq_true,
      Bool.and_eq_true, List.isPrefixOf_iff_prefix, and_iff_right hstarts,
      (isBoundary_iff hascii _).1, (isBoundary_iff (hchars _ (List.getLast_mem hne)).1 _).2]
  · refine iff_of_false (fun h => hstarts ?_) fun h => hstarts h.starts
    rw [standsAt, Bool.and_eq_true, Bool.and_eq_true] at h
    exact List.isPrefixOf_iff_prefix.1 h.1.1

theorem mem_byLength_iff {constants : Constants} {x : List Char × List Char} :
    x ∈ byLength constants ↔ ∃ e ∈ constants.toList, (e.1.toList, e.2.toList) = x := by
  simp only [byLength, List.mem_map, List.mem_mergeSort]

theorem pairwise_byLength (constants : Constants) : (byLength constants).Pairwise fun x y =>
    (String.ofList y.1).utf8ByteSize ≤ (String.ofList x.1).utf8ByteSize := by
  refine List.pairwise_map.2 ?_
  simp only [String.ofList_toList]
  refine (List.pairwise_mergeSort ?_ ?_ constants.toList).imp of_decide_eq_true
  · intro a b c hab hbc
    exact decide_eq_true ((of_decide_eq_true hbc).trans (of_decide_eq_true hab))
  · intro a b
    rw [Bool.or_eq_true, decide_eq_true_iff, decide_eq_true_iff]
    exact Nat.le_total _ _

section

variable {constants : Constants} {seen before : Option Char} {code after : List Char}

/-- Two longest constants at one place are the same. -/
theorem IsLongestAt.eq {e e' : String × String} (h : IsLongestAt constants before code after e)
    (h' : IsLongestAt constants before code after e') : e = e' := by
  have hlength := Nat.le_antisymm (h'.longest e h.mem h.occurs) (h.longest e' h'.mem h'.occurs)
  rw [← String.length_toList, ← String.length_toList] at hlength
  have hstarts := List.prefix_of_prefix_length_le h.occurs.starts h'.occurs.starts hlength.le
  have hname : e.1 = e'.1 := String.toList_inj.1 (hstarts.eq_of_length hlength)
  have hliteral := NameMap.mem_toList_iff.1 h.mem
  rw [hname, NameMap.mem_toList_iff.1 h'.mem] at hliteral
  exact Prod.ext hname (Option.some.inj hliteral).symm

variable (hnames : ∀ e ∈ constants.toList, IsConstantName e.1.toList)
include hnames

theorem constantAt?_eq_some
    (hbefore : seen.any Unicode.isWord = before.any Unicode.isWord ∨ code.head?.any isGap = true)
    (hafter : after.head?.any Unicode.isWord = false) {x : List Char × List Char}
    (h : constantAt? (byLength constants) seen code = some x) :
    ∃ e, x = (e.1.toList, e.2.toList) ∧ IsLongestAt constants before code after e := by
  obtain ⟨hx, earlier, later, heq, hearlier⟩ := List.find?_eq_some_iff_append.1 h
  obtain ⟨e, he, rfl⟩ := mem_byLength_iff.1 (heq ▸ List.mem_append_right earlier List.mem_cons_self)
  have hoccurs := (standsAt_iff (hnames e he) hbefore hafter).1 hx
  refine ⟨e, rfl, he, hoccurs, fun e' he' hoccurs' => ?_⟩
  -- the other constant stands there too, so it is not an earlier one
  have hstands := (standsAt_iff (hnames e' he') hbefore hafter).2 hoccurs'
  have hsize : e'.1.utf8ByteSize ≤ e.1.utf8ByteSize := by
    have hmem : (e'.1.toList, e'.2.toList) ∈ byLength constants := mem_byLength_iff.2 ⟨e', he', rfl⟩
    have hsorted := pairwise_byLength constants
    rw [heq] at hmem hsorted
    rcases List.mem_append.1 hmem with hmem | hmem
    · have hnot := hearlier _ hmem
      rw [hstands] at hnot
      cases hnot
    rcases List.mem_cons.1 hmem with heq' | hmem
    · rw [String.toList_inj.1 (Prod.mk.inj heq').1]
    · have hle := List.rel_of_pairwise_cons (List.pairwise_append.1 hsorted).2.1 hmem
      rwa [String.ofList_toList, String.ofList_toList] at hle
  have hstarts := Text.toList_prefix_of_utf8ByteSize_le hoccurs.starts hoccurs'.starts hsize
  rw [← String.length_toList, ← String.length_toList]
  exact hstarts.length_le

theorem not_occurs_of_constantAt?_eq_none
    (hbefore : seen.any Unicode.isWord = before.any Unicode.isWord ∨ code.head?.any isGap = true)
    (hafter : after.head?.any Unicode.isWord = false)
    (h : constantAt? (byLength constants) seen code = none) :
    ∀ e ∈ constants.toList, ¬ Occurs e.1.toList before code after := by
  intro e he hoccurs
  refine List.find?_eq_none.1 h _ (mem_byLength_iff.2 ⟨e, he, rfl⟩) ?_
  exact (standsAt_iff (hnames e he) hbefore hafter).2 hoccurs

/-- At the end of the code no constant occurs. -/
theorem not_occurs_nil : ∀ e ∈ constants.toList, ¬ Occurs e.1.toList before [] after :=
  fun e he hoccurs => (hnames e he).1 (List.prefix_nil.1 hoccurs.starts)

end

/-! ## Steps through the code of a span -/

section

variable (names : List (List Char × List Char)) (done : List Char) {seen : Option Char}
  (fresh : Bool)

theorem replaceCode_nil (h : constantAt? names seen [] = none) :
    replaceCode names done seen fresh [] = done.reverse := by
  rw [replaceCode.eq_def, h]

theorem replaceCode_constant {name literal rest : List Char} (hne : name ≠ [])
    (h : constantAt? names seen (name ++ rest) = some (name, literal)) :
    replaceCode names done seen fresh (name ++ rest) =
      replaceCode names (literal.reverse ++ done) (lastOr seen name) false rest := by
  obtain ⟨n, more, rfl⟩ := List.exists_cons_of_ne_nil hne
  rw [List.cons_append] at h ⊢
  rw [replaceCode.eq_def, h]
  dsimp only
  rw [List.drop_left, lastOr_cons]

theorem replaceCode_other {c : Char} {rest : List Char}
    (h : constantAt? names seen (c :: rest) = none) :
    replaceCode names done seen fresh (c :: rest) =
      replaceCode names (c :: done) (some c) true rest := by
  rw [replaceCode.eq_def, h]

end

/-- The replacing in one span of code is a part of the pass. The induction is on the code that is
    left. Past the first character, what was seen of the span ends with what stands before the code
    in the script. -/
theorem exists_replaceCode_eq {constants : Constants}
    (hnames : ∀ e ∈ constants.toList, IsConstantName e.1.toList) {l : List Span} {out : List Char}
    (hafter : (l.flatMap Span.text).head?.any Unicode.isWord = false) (code done : List Char)
    {seen before : Option Char} (fresh : Bool)
    (hbefore : seen.any Unicode.isWord = before.any Unicode.isWord ∨ code.head?.any isGap = true)
    (h : Substituted constants (lastOr before code) l out) :
    ∃ replaced, replaceCode (byLength constants) done seen fresh code = done.reverse ++ replaced ∧
      Substituted constants before (.code code :: l) (replaced ++ out) := by
  induction hlength : code.length using Nat.strong_induction_on
    generalizing code done seen before fresh with
  | _ n ih =>
    subst hlength
    -- the pass looks for a constant exactly where the relation asks whether one occurs
    cases hconstant : constantAt? (byLength constants) seen code with
    | some x =>
      obtain ⟨e, rfl, he⟩ := constantAt?_eq_some hnames hbefore hafter hconstant
      have hne := (hnames e he.mem).1
      obtain ⟨rest, rfl⟩ := he.occurs.starts
      have hlt : rest.length < (e.1.toList ++ rest).length := by
        have := List.length_pos_of_ne_nil hne
        rw [List.length_append]
        omega
      have hlast := congrArg (Option.any Unicode.isWord) (lastOr_of_ne_nil hne seen before)
      rw [lastOr_append] at h
      obtain ⟨replaced, heq, hrest⟩ := ih rest.length hlt rest (e.2.toList.reverse ++ done) false
        (.inl hlast) h rfl
      refine ⟨e.2.toList ++ replaced, ?_, ?_⟩
      · rw [replaceCode_constant _ _ _ hne hconstant, heq, List.reverse_append,
          List.reverse_reverse, List.append_assoc]
      · rw [List.append_assoc]
        refine .constant he ?_
        rwa [List.drop_left]
    | none =>
      have hnone := not_occurs_of_constantAt?_eq_none hnames hbefore hafter hconstant
      cases code with
      | nil =>
        refine ⟨[], ?_, .stop h⟩
        rw [replaceCode_nil _ _ _ hconstant, List.append_nil]
      | cons c rest =>
        rw [lastOr_cons] at h
        obtain ⟨replaced, heq, hrest⟩ := ih rest.length (Nat.lt_succ_self _) rest (c :: done) true
          (.inl rfl) h rfl
        refine ⟨c :: replaced, ?_, .other hnone hrest⟩
        rw [replaceCode_other _ _ _ hconstant, heq, List.reverse_cons, List.append_assoc,
          List.singleton_append]

/-! ## The spans of a script -/

theorem isWord_eq_false_of_literal {c : Char} (h : c = '/' ∨ isQuote c = true) :
    Unicode.isWord c = false := by
  rcases h with rfl | h
  · rfl
  · rcases isQuote_iff.1 h with rfl | rfl | rfl <;> rfl

/-- No word goes on behind a span of code. -/
theorem IsCut.any_isWord_head? {l : List Span} (h : IsCut l)
    (hnext : l.head?.any Span.isCode = false) :
    (l.flatMap Span.text).head?.any Unicode.isWord = false := by
  cases h with
  | nil => rfl
  | code => cases hnext
  | literal htext =>
    obtain ⟨c, more, rfl, hc⟩ := htext.exists_cons
    exact isWord_eq_false_of_literal hc

/-- Behind a literal no word goes on, unless the line ends there. -/
theorem IsLiteral.any_isWord_lastOr {found rest : List Char} (h : IsLiteral found rest)
    (before : Option Char) :
    (lastOr before found).any Unicode.isWord = false ∨ EndsLine rest := by
  refine h.getLast?.imp_left ?_
  rintro ⟨c, hlast, hc⟩
  rw [lastOr, hlast, Option.some_or, Option.any_some, isWord_eq_false_of_literal hc]

theorem IsCut.substituted {constants : Constants}
    (hnames : ∀ e ∈ constants.toList, IsConstantName e.1.toList) {l : List Span} (h : IsCut l)
    {before : Option Char} (hbefore : l.head?.any Span.isCode = true →
      before.any Unicode.isWord = false ∨ EndsLine (l.flatMap Span.text)) :
    Substituted constants before l (l.flatMap (Span.replace (byLength constants))) := by
  induction h generalizing before with
  | nil => exact .nil before
  | @code text l htext hnext h ih =>
    have hrest := @ih (lastOr before text) fun hcode => by
      rw [hnext] at hcode
      cases hcode
    have hstart : Option.any Unicode.isWord none = before.any Unicode.isWord ∨
        text.head?.any isGap = true := by
      obtain ⟨c, more, rfl⟩ := List.exists_cons_of_ne_nil htext
      refine (hbefore rfl).imp Eq.symm fun hline => ?_
      rw [List.flatMap_cons] at hline
      -- the line ends with a line feed or a carriage return
      generalize hall : (Span.code (c :: more)).text ++ l.flatMap Span.text = all at hline
      cases hline with
      | nil => cases hall
      | feed => rw [(List.cons.inj hall).1]; rfl
      | returnFeed => rw [(List.cons.inj hall).1]; rfl
    obtain ⟨replaced, heq, hcode⟩ := exists_replaceCode_eq hnames (h.any_isWord_head? hnext) text []
      true hstart hrest
    rw [List.flatMap_cons, Span.replace, heq]
    exact hcode
  | literal htext _ ih => exact .literal (ih fun _ => htext.any_isWord_lastOr before)

/-- A pass over a script has one result. -/
theorem Substituted.unique {constants : Constants}
    (hnames : ∀ e ∈ constants.toList, IsConstantName e.1.toList) {before : Option Char}
    {l : List Span} {out out' : List Char} (h : Substituted constants before l out)
    (h' : Substituted constants before l out') : out = out' := by
  induction h generalizing out' with
  | nil => cases h'; rfl
  | literal _ ih =>
    cases h' with
    | literal h' => rw [ih h']
  | stop _ ih =>
    cases h' with
    | stop h' => exact ih h'
    | constant he' => exact absurd he'.occurs (not_occurs_nil hnames _ he'.mem)
  | constant he _ ih =>
    cases h' with
    | stop => exact absurd he.occurs (not_occurs_nil hnames _ he.mem)
    | constant he' h' =>
      obtain rfl := he.eq he'
      rw [ih h']
    | other hnone => exact absurd he.occurs (hnone _ he.mem)
  | other hnone _ ih =>
    cases h' with
    | constant he' => exact absurd he'.occurs (hnone _ he'.mem)
    | other _ h' => rw [ih h']

/-- A script in which no constant occurs stays as it is. -/
theorem substituted_text {constants : Constants} (l : List Span) {before : Option Char}
    (hnone : ∀ (l₁ : List Span) (done code : List Char) (l₂ : List Span),
      l = l₁ ++ .code (done ++ code) :: l₂ → ∀ e ∈ constants.toList,
        ¬ Occurs e.1.toList (lastOr before (l₁.flatMap Span.text ++ done)) code
          (l₂.flatMap Span.text)) :
    Substituted constants before l (l.flatMap Span.text) := by
  induction l generalizing before with
  | nil => exact .nil before
  | cons s l ih =>
    have hrest : Substituted constants (lastOr before s.text) l (l.flatMap Span.text) := by
      refine ih fun l₁ done code l₂ heq => ?_
      rw [← lastOr_append, ← List.append_assoc, ← List.flatMap_cons]
      exact hnone (s :: l₁) done code l₂ (by rw [heq, List.cons_append])
    cases s with
    | literal text => exact .literal hrest
    | code text =>
      -- within the code, the induction is on what is left, and what was passed is kept for `hnone`
      have hcode : ∀ done rest, text = done ++ rest →
          Substituted constants (lastOr before done) (.code rest :: l)
            (rest ++ l.flatMap Span.text) := by
        intro done rest
        induction rest generalizing done with
        | nil =>
          rintro rfl
          refine .stop ?_
          rwa [Span.text, List.append_nil] at hrest
        | cons c more ihmore =>
          rintro rfl
          refine .other (hnone [] done (c :: more) l rfl) ?_
          have hmore := ihmore (done ++ [c]) (by simp)
          rwa [lastOr_append] at hmore
      exact hcode [] text rfl

/-- The replacing of constants is one pass over the whole script that takes the longest constant at
    each place. A script in which no constant occurs stays as it is. -/
theorem substituted_iff (constants : Constants) (source : String)
    (hnames : ∀ e ∈ constants.toList, IsConstantName e.1.toList) :
    (∀ out, Substituted constants none (spans source.toList) out ↔
      out = (replaceConstants constants source).toList) ∧
    ((∀ (l₁ : List Span) (done code : List Char) (l₂ : List Span),
      spans source.toList = l₁ ++ .code (done ++ code) :: l₂ → ∀ e ∈ constants.toList,
        ¬ Occurs e.1.toList (lastOr none (l₁.flatMap Span.text ++ done)) code
          (l₂.flatMap Span.text)) →
      replaceConstants constants source = source) := by
  have hreplace : Substituted constants none (spans source.toList)
      (replaceConstants constants source).toList := by
    rw [replaceConstants, String.toList_ofList]
    exact (isCut_spans _).substituted hnames fun _ => .inl rfl
  refine ⟨fun out => ⟨fun h => h.unique hnames hreplace, fun h => h ▸ hreplace⟩, fun hnone => ?_⟩
  have hself := substituted_text (spans source.toList) hnone
  rw [flatMap_text_spans] at hself
  exact String.toList_inj.1 (hreplace.unique hnames hself)

/-- One constant begins with another one, which also stands in a comment. -/
theorem substituted_iff_shorter :
    let constants : Constants := .ofList [("process.env.A", "1"), ("process.env.AB", "\"2\"")]
    (∀ e ∈ constants.toList, IsConstantName e.1.toList) ∧
      Substituted constants none (spans "process.env.AB + process.env.A // process.env.A".toList)
        "\"2\" + 1 // process.env.A".toList := by
  intro constants
  have hlist : constants.toList = [("process.env.A", "1"), ("process.env.AB", "\"2\"")] := by
    decide
  have hnames : ∀ e ∈ constants.toList, IsConstantName e.1.toList := by decide
  have hsize : ¬ "process.env.AB".utf8ByteSize ≤ "process.env.A".utf8ByteSize := by decide +kernel
  have hsorted : byLength constants = [("process.env.AB".toList, "\"2\"".toList),
      ("process.env.A".toList, "1".toList)] := by
    rw [byLength, hlist]
    simp [List.mergeSort, hsize]
  refine ⟨hnames, ((substituted_iff constants _ hnames).1 _).2 ?_⟩
  rw [replaceConstants, hsorted]
  decide +kernel

end Bundler.Script
