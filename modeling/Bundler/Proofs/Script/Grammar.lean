import Bundler.Proofs.Script.Literals
import Bundler.Proofs.Text.Starts
import Bundler.Script.Reference

set_option autoImplicit false

/-! # The grammar of references

What the text of a reference looks like, part by part, with the text that follows each part: words
end where no other word character follows, and gaps may stand between the parts. The scanner reads
exactly these references (`reference?_eq_some_iff`), although it tries one form after the other and
takes as much as it can at each step.

Gaps are runs of white space. The grammar can also be read with comments in its gaps, which the
scanner does not do. -/

namespace Bundler.Script

open Text (takeWhile_append_of_head any_head?_dropWhile)

/-! ## The parts -/

/-- Whether a text is a gap followed by the other one. Comments count as gaps if `comments` says
    so. -/
inductive Skips (comments : Bool) : List Char → List Char → Prop
  | done (text : List Char) : Skips comments text text
  | blank {c : Char} {text rest : List Char} (hc : isGap c = true) (h : Skips comments text rest) :
      Skips comments (c :: text) rest
  | comment {found text rest : List Char} (hcomments : comments = true)
      (hfound : IsComment found text) (h : Skips comments text rest) :
      Skips comments (found ++ text) rest

/-- Whether a text is a word and the other one follows, where the word is over. -/
def ReadsWord (word text rest : List Char) : Prop :=
  text = word ++ rest ∧ rest.head?.any isWordChar = false

/-- Whether a text can stand between two quotes of a kind as a specifier. -/
def IsSpecifier (quote : Char) (found : List Char) : Prop :=
  (quote = '"' ∨ quote = '\'') ∧ found ≠ [] ∧ ∀ c ∈ found, c ≠ quote ∧ c ≠ '\\' ∧ c ≠ '\n'

/-- Whether a text is a quoted specifier followed by the other one. -/
def ReadsSpecifier (found text rest : List Char) : Prop :=
  ∃ quote, IsSpecifier quote found ∧ text = quote :: (found ++ quote :: rest)

/-- Whether a text is a word. -/
def IsWord (word : List Char) : Prop := word ≠ [] ∧ ∀ c ∈ word, isWordChar c = true

instance (word : List Char) : Decidable (IsWord word) :=
  haveI : Decidable (∀ c ∈ word, isWordChar c = true) := List.decidableBAll _ _
  inferInstanceAs (Decidable (_ ∧ _))

/-- The signs of import clauses. -/
def clauseSigns : List Char := ['\x7b', '\x7d', ',', '*']

/-- Whether a text is an item of an import clause, after a gap, followed by the other text. -/
inductive ReadsItem (comments : Bool) : List Char → List Char → Prop
  | sign {c : Char} {text rest : List Char} (hskip : Skips comments text (c :: rest))
      (hc : c ∈ clauseSigns) : ReadsItem comments text rest
  | word {word text start rest : List Char} (hskip : Skips comments text start)
      (hword : IsWord word) (hfrom : word ≠ "from".toList) (h : ReadsWord word start rest) :
      ReadsItem comments text rest

/-- Whether a text is a sequence of items of an import clause followed by the other text. -/
inductive ReadsItems (comments : Bool) : List Char → List Char → Prop
  | done (text : List Char) : ReadsItems comments text text
  | item {text next rest : List Char} (hitem : ReadsItem comments text next)
      (h : ReadsItems comments next rest) : ReadsItems comments text rest

/-- Whether a text is `from` and a specifier, after a gap, followed by the other text. -/
inductive ReadsFrom (comments : Bool) (found : List Char) : List Char → List Char → Prop
  | intro {text start gap specifier rest : List Char} (hskip : Skips comments text start)
      (hword : ReadsWord "from".toList start gap) (hgap : Skips comments gap specifier)
      (hfound : ReadsSpecifier found specifier rest) : ReadsFrom comments found text rest

/-- Whether a text is a reference to `found` followed by the other text. -/
inductive ReadsReference (comments : Bool) (found : List Char) : List Char → List Char → Prop
  | call {name text gap inside specifier after rest : List Char}
      (hname : name = "import".toList ∨ name = "require".toList) (hword : ReadsWord name text gap)
      (hopen : Skips comments gap ('(' :: inside)) (hgap : Skips comments inside specifier)
      (hfound : ReadsSpecifier found specifier after)
      (hclose : Skips comments after (')' :: rest)) : ReadsReference comments found text rest
  | bare {text gap specifier rest : List Char} (hword : ReadsWord "import".toList text gap)
      (hgap : Skips comments gap specifier) (hfound : ReadsSpecifier found specifier rest) :
      ReadsReference comments found text rest
  | clause {name text gap next after rest : List Char}
      (hname : name = "import".toList ∨ name = "export".toList) (hword : ReadsWord name text gap)
      (hitem : ReadsItem comments gap next) (hitems : ReadsItems comments next after)
      (hfrom : ReadsFrom comments found after rest) : ReadsReference comments found text rest

/-! ## Words -/

theorem isWord_import : IsWord "import".toList := by decide

theorem isWord_require : IsWord "require".toList := by decide

theorem isWord_export : IsWord "export".toList := by decide

theorem isWord_from : IsWord "from".toList := by decide +kernel

theorem isWord_of_call {name : List Char} (h : name = "import".toList ∨ name = "require".toList) :
    IsWord name := by
  rcases h with rfl | rfl
  · exact isWord_import
  · exact isWord_require

theorem isWord_of_clause {name : List Char} (h : name = "import".toList ∨ name = "export".toList) :
    IsWord name := by
  rcases h with rfl | rfl
  · exact isWord_import
  · exact isWord_export

/-- A word is all that there is of it. -/
theorem ReadsWord.takeWhile_eq {word text rest : List Char} (h : ReadsWord word text rest)
    (hword : IsWord word) :
    text.takeWhile isWordChar = word ∧ text.dropWhile isWordChar = rest := by
  obtain ⟨rfl, hrest⟩ := h
  exact takeWhile_append_of_head hword.2 hrest

theorem ReadsWord.eq {word word' text rest rest' : List Char} (h : ReadsWord word text rest)
    (h' : ReadsWord word' text rest') (hword : IsWord word) (hword' : IsWord word') :
    word = word' :=
  (h.takeWhile_eq hword).1.symm.trans (h'.takeWhile_eq hword').1

/-- The characters of a word at the start of a text. -/
theorem readsWord_takeWhile (text : List Char) :
    ReadsWord (text.takeWhile isWordChar) text (text.dropWhile isWordChar) :=
  ⟨List.takeWhile_append_dropWhile.symm, any_head?_dropWhile _ _⟩

theorem ReadsWord.exists_cons {word text rest : List Char} (h : ReadsWord word text rest)
    (hword : IsWord word) : ∃ c more, isWordChar c = true ∧ text = c :: more := by
  obtain ⟨rfl, -⟩ := h
  obtain ⟨c, more, rfl⟩ := List.exists_cons_of_ne_nil hword.1
  exact ⟨c, more ++ rest, hword.2 c List.mem_cons_self, rfl⟩

theorem keyword?_eq_some_iff {word text rest : List Char} :
    keyword? word text = some rest ↔ ReadsWord word text rest := by
  unfold keyword? ReadsWord
  constructor
  · intro h
    split at h
    · next hstarts =>
      obtain ⟨more, rfl⟩ := List.isPrefixOf_iff_prefix.1 hstarts
      dsimp only at h
      rw [List.drop_left] at h
      split at h
      · cases h
      · next hend =>
        obtain rfl := Option.some.inj h
        exact ⟨rfl, Bool.eq_false_iff.2 hend⟩
    · cases h
  · rintro ⟨rfl, hend⟩
    simp [hend]

/-- A text starts with at most one word. -/
theorem keyword?_eq_none {word word' text rest : List Char} (h : ReadsWord word text rest)
    (hword : IsWord word) (hword' : IsWord word') (hne : word ≠ word') :
    keyword? word' text = none := by
  refine Option.eq_none_iff_forall_ne_some.2 fun rest' h' => hne ?_
  exact h.eq (keyword?_eq_some_iff.1 h') hword hword'

/-! ## Gaps, signs and specifiers -/

/-- No character of a word is blank, a quote or a sign. -/
theorem ne_of_isWordChar {c : Char} (h : isWordChar c = true) :
    isGap c = false ∧ isQuote c = false ∧ c ≠ '/' ∧ c ≠ '(' ∧ c ∉ clauseSigns := by
  have hne : ∀ d, isWordChar d = false → c ≠ d := by
    rintro d hd rfl
    rw [h] at hd
    cases hd
  refine ⟨?_, ?_, hne '/' rfl, hne '(' rfl, ?_⟩
  · simp [isGap, hne ' ' rfl, hne '\t' rfl, hne '\r' rfl, hne '\n' rfl]
  · simp [isQuote, hne '"' rfl, hne '\'' rfl, hne '`' rfl]
  · simp [clauseSigns, hne '\x7b' rfl, hne '\x7d' rfl, hne ',' rfl, hne '*' rfl]

theorem skipGap_eq_of_skips {text rest : List Char} (h : Skips false text rest) :
    skipGap text = skipGap rest := by
  induction h with
  | done => rfl
  | blank hc _ ih => rw [← ih, skipGap, List.dropWhile_cons_of_pos hc]; rfl
  | comment hcomments => cases hcomments

theorem skipGap_eq_self {c : Char} (h : isGap c = false) (rest : List Char) :
    skipGap (c :: rest) = c :: rest :=
  List.dropWhile_cons_of_neg (by simp [h])

theorem skips_skipGap (comments : Bool) (text : List Char) :
    Skips comments text (skipGap text) := by
  induction text with
  | nil => exact .done []
  | cons c rest ih =>
    by_cases hc : isGap c = true
    · rw [skipGap, List.dropWhile_cons_of_pos hc]
      exact .blank hc ih
    · rw [skipGap_eq_self (Bool.eq_false_iff.2 hc)]
      exact .done _

theorem skipGap_skipGap (text : List Char) : skipGap (skipGap text) = skipGap text :=
  (skipGap_eq_of_skips (skips_skipGap false text)).symm

theorem sign?_eq_some_iff {sign : Char} {text rest : List Char} :
    sign? sign text = some rest ↔ text = sign :: rest := by
  cases text with
  | nil => simp [sign?]
  | cons c more =>
    rw [sign?, List.cons.injEq]
    split
    · next h => simp [h]
    · next h => simp [h]

/-- A sign is read behind a gap if it stands there. -/
theorem sign?_skipGap_eq_some_iff (sign : Char) (hsign : isGap sign = false)
    {text rest : List Char} :
    sign? sign (skipGap text) = some rest ↔ Skips false text (sign :: rest) := by
  rw [sign?_eq_some_iff]
  constructor
  · intro h
    rw [← h]
    exact skips_skipGap false text
  · intro h
    rw [skipGap_eq_of_skips h, skipGap_eq_self hsign]

theorem specifier?_eq_some_iff {text found rest : List Char} :
    specifier? text = some (found, rest) ↔ ReadsSpecifier found text rest := by
  constructor
  · intro h
    cases text with
    | nil => cases h
    | cons quote more =>
      rw [specifier?] at h
      split at h
      · next hquote =>
        have hsplit := List.takeWhile_append_dropWhile
          (p := fun c => decide (c ≠ quote ∧ c ≠ '\\' ∧ c ≠ '\n')) (l := more)
        have hinside : ∀ c ∈ more.takeWhile (fun c => decide (c ≠ quote ∧ c ≠ '\\' ∧ c ≠ '\n')),
            c ≠ quote ∧ c ≠ '\\' ∧ c ≠ '\n' :=
          fun c hc => by simpa using List.mem_takeWhile_imp hc
        dsimp only at h
        split at h
        · next c after heq =>
          split at h
          · next hc =>
            obtain ⟨rfl, hne⟩ := hc
            obtain ⟨rfl, rfl⟩ := Prod.mk.inj (Option.some.inj h)
            refine ⟨c, ⟨hquote, by simpa using hne, hinside⟩, ?_⟩
            rw [← heq, hsplit]
          · cases h
        · cases h
      · cases h
  · rintro ⟨quote, ⟨hquote, hne, hinside⟩, rfl⟩
    have hend : (quote :: rest).head?.any
        (fun c => decide (c ≠ quote ∧ c ≠ '\\' ∧ c ≠ '\n')) = false := by simp
    obtain ⟨htake, hdrop⟩ := takeWhile_append_of_head
      (fun c hc => decide_eq_true (hinside c hc)) hend
    rw [specifier?, if_pos hquote]
    dsimp only
    rw [htake, hdrop]
    simp [hne]

theorem ReadsSpecifier.exists_cons {found text rest : List Char}
    (h : ReadsSpecifier found text rest) : ∃ c more, isQuote c = true ∧ text = c :: more := by
  obtain ⟨quote, ⟨hquote, -⟩, rfl⟩ := h
  exact ⟨quote, _, by rcases hquote with rfl | rfl <;> rfl, rfl⟩

/-- A quote is neither blank nor a sign, and no word starts with it. -/
theorem ne_sign_of_isQuote {c : Char} (h : isQuote c = true) :
    isGap c = false ∧ isWordChar c = false ∧ c ≠ '(' ∧ c ∉ clauseSigns := by
  rcases isQuote_iff.1 h with rfl | rfl | rfl <;> decide

/-! ## Clauses -/

theorem clauseItem?_skipGap (text : List Char) : clauseItem? (skipGap text) = clauseItem? text := by
  unfold clauseItem?
  rw [skipGap_skipGap]

theorem clauseItem?_eq_some_iff {text rest : List Char} :
    clauseItem? text = some rest ↔ ReadsItem false text rest := by
  constructor
  · intro h
    have hskip := skips_skipGap false text
    unfold clauseItem? at h
    split at h
    · cases h
    · next c more heq =>
      rw [heq] at hskip
      split at h
      · next hc =>
        obtain rfl := Option.some.inj h
        exact .sign hskip (by simpa [clauseSigns] using hc)
      · split at h
        · next hc =>
          obtain ⟨hword, hfrom⟩ := hc
          obtain rfl := Option.some.inj h
          refine .word hskip ⟨?_, fun d hd => List.mem_takeWhile_imp hd⟩ hfrom
            (readsWord_takeWhile (c :: more))
          rw [List.takeWhile_cons_of_pos hword]
          exact List.cons_ne_nil _ _
        · cases h
  · rintro (@⟨c, _, _, hskip, hc⟩ | ⟨hskip, hword, hfrom, h⟩)
    · have hgap : isGap c = false := by
        simp only [clauseSigns, List.mem_cons, List.not_mem_nil, or_false] at hc
        rcases hc with rfl | rfl | rfl | rfl <;> rfl
      unfold clauseItem?
      rw [skipGap_eq_of_skips hskip, skipGap_eq_self hgap]
      exact if_pos (by simpa [clauseSigns] using hc)
    · obtain ⟨c, more, hc, rfl⟩ := h.exists_cons hword
      obtain ⟨htake, hdrop⟩ := h.takeWhile_eq hword
      obtain ⟨hgap, -, -, -, hsign⟩ := ne_of_isWordChar hc
      unfold clauseItem?
      rw [skipGap_eq_of_skips hskip, skipGap_eq_self hgap]
      dsimp only
      rw [if_neg (by simpa [clauseSigns] using hsign), htake, hdrop, if_pos ⟨hc, hfrom⟩]

theorem readsItems_skipClause (text : List Char) : ReadsItems false text (skipClause text) := by
  fun_induction skipClause text with
  | case1 text next h ih => exact .item (clauseItem?_eq_some_iff.1 h) ih
  | case2 text h => exact .done text

theorem skipClause_eq_of_readsItems {text rest : List Char} (h : ReadsItems false text rest) :
    skipClause text = skipClause rest := by
  induction h with
  | done => rfl
  | item hitem _ ih =>
    rw [← ih, skipClause]
    split
    · next heq =>
      obtain rfl := Option.some.inj (heq.symm.trans (clauseItem?_eq_some_iff.2 hitem))
      rfl
    · next heq => cases heq.symm.trans (clauseItem?_eq_some_iff.2 hitem)

theorem skipClause_eq_self {text : List Char} (h : clauseItem? text = none) :
    skipClause text = text := by
  rw [skipClause]
  split
  · next heq => cases heq.symm.trans h
  · rfl

theorem from?_eq_some_iff {text found rest : List Char} :
    from? text = some (found, rest) ↔ ReadsFrom false found text rest := by
  simp only [from?, Option.bind_eq_bind, Option.bind_eq_some_iff, keyword?_eq_some_iff,
    specifier?_eq_some_iff]
  constructor
  · rintro ⟨gap, hword, hfound⟩
    exact ⟨skips_skipGap false text, hword, skips_skipGap false gap, hfound⟩
  · rintro @⟨start, gap, specifier, _, hskip, hword, hgap, hfound⟩
    obtain ⟨c, more, hc, rfl⟩ := hword.exists_cons isWord_from
    obtain ⟨d, more', hd, rfl⟩ := hfound.exists_cons
    refine ⟨gap, ?_, ?_⟩
    · rwa [skipGap_eq_of_skips hskip, skipGap_eq_self (ne_of_isWordChar hc).1]
    · rwa [skipGap_eq_of_skips hgap, skipGap_eq_self (ne_sign_of_isQuote hd).1]

/-- The word `from` ends a clause. -/
theorem ReadsFrom.clauseItem?_eq_none {found text rest : List Char}
    (h : ReadsFrom false found text rest) : clauseItem? text = none := by
  obtain ⟨hskip, hword, -, -⟩ := h
  obtain ⟨c, more, hc, rfl⟩ := hword.exists_cons isWord_from
  obtain ⟨hgap, -, -, -, hsign⟩ := ne_of_isWordChar hc
  unfold clauseItem?
  rw [skipGap_eq_of_skips hskip, skipGap_eq_self hgap]
  dsimp only
  rw [if_neg (by simpa [clauseSigns] using hsign), (hword.takeWhile_eq isWord_from).1]
  exact if_neg fun h => h.2 rfl

theorem bind_clause?_eq_some_iff {text found rest : List Char} :
    (clause? text).bind from? = some (found, rest) ↔
      ∃ next after, ReadsItem false text next ∧ ReadsItems false next after ∧
        ReadsFrom false found after rest := by
  simp only [clause?, Option.bind_eq_some_iff, Option.map_eq_some_iff, clauseItem?_eq_some_iff,
    from?_eq_some_iff]
  constructor
  · rintro ⟨_, ⟨next, hitem, rfl⟩, hfrom⟩
    exact ⟨next, _, hitem, readsItems_skipClause next, hfrom⟩
  · rintro ⟨next, after, hitem, hitems, hfrom⟩
    refine ⟨_, ⟨next, hitem, rfl⟩, ?_⟩
    rwa [skipClause_eq_of_readsItems hitems, skipClause_eq_self hfrom.clauseItem?_eq_none]

/-! ## References -/

theorem call?_eq_some_iff {name text found rest : List Char} :
    call? name text = some (found, rest) ↔
      ∃ gap inside specifier after, ReadsWord name text gap ∧ Skips false gap ('(' :: inside) ∧
        Skips false inside specifier ∧ ReadsSpecifier found specifier after ∧
        Skips false after (')' :: rest) := by
  simp only [call?, Option.bind_eq_bind, Option.bind_eq_some_iff, keyword?_eq_some_iff,
    Prod.exists, specifier?_eq_some_iff, sign?_skipGap_eq_some_iff '(' rfl,
    sign?_skipGap_eq_some_iff ')' rfl, Option.some.injEq, Prod.mk.injEq]
  constructor
  · rintro ⟨gap, hword, inside, hopen, _, after, hfound, _, hclose, rfl, rfl⟩
    exact ⟨gap, inside, _, after, hword, hopen, skips_skipGap false inside, hfound, hclose⟩
  · rintro ⟨gap, inside, specifier, after, hword, hopen, hgap, hfound, hclose⟩
    refine ⟨gap, hword, inside, hopen, found, after, ?_, rest, hclose, rfl, rfl⟩
    obtain ⟨c, more, hc, rfl⟩ := hfound.exists_cons
    rwa [skipGap_eq_of_skips hgap, skipGap_eq_self (ne_sign_of_isQuote hc).1]

/-- Behind the gap, an item of a clause starts with a sign or a word. -/
theorem ReadsItem.exists_cons {text rest : List Char} (h : ReadsItem false text rest) :
    ∃ c more, skipGap text = c :: more ∧ isQuote c = false ∧ c ≠ '(' := by
  obtain @⟨c, _, _, hskip, hc⟩ | ⟨hskip, hword, -, h⟩ := h
  · have hne : isGap c = false ∧ isQuote c = false ∧ c ≠ '(' := by
      simp only [clauseSigns, List.mem_cons, List.not_mem_nil, or_false] at hc
      rcases hc with rfl | rfl | rfl | rfl <;> decide
    exact ⟨c, _, by rw [skipGap_eq_of_skips hskip, skipGap_eq_self hne.1], hne.2⟩
  · obtain ⟨c, more, hc, rfl⟩ := h.exists_cons hword
    obtain ⟨hgap, hquote, -, hopen, -⟩ := ne_of_isWordChar hc
    exact ⟨c, more, by rw [skipGap_eq_of_skips hskip, skipGap_eq_self hgap], hquote, hopen⟩

theorem import?_eq_some_iff {text found rest : List Char} : import? text = some (found, rest) ↔
      ∃ gap, ReadsWord "import".toList text gap ∧
        ((∃ specifier, Skips false gap specifier ∧ ReadsSpecifier found specifier rest) ∨
          ∃ next after, ReadsItem false gap next ∧ ReadsItems false next after ∧
            ReadsFrom false found after rest) := by
  have hclause : ∀ gap, (clause? (skipGap gap)).bind from? = (clause? gap).bind from? :=
    fun gap => by rw [clause?, clauseItem?_skipGap]; rfl
  simp only [import?, Option.bind_eq_bind, Option.bind_eq_some_iff, keyword?_eq_some_iff,
    Option.orElse_eq_orElse, Option.orElse_eq_or, Option.or_eq_some_iff, hclause,
    specifier?_eq_some_iff]
  refine exists_congr fun gap => and_congr_right fun _ => ?_
  rw [← Option.bind_eq_some_iff, bind_clause?_eq_some_iff]
  constructor
  · rintro (hfound | ⟨-, h⟩)
    · exact .inl ⟨_, skips_skipGap false gap, hfound⟩
    · exact .inr h
  · rintro (⟨specifier, hgap, hfound⟩ | ⟨next, after, hitem, h⟩)
    · obtain ⟨c, more, hc, rfl⟩ := hfound.exists_cons
      rw [skipGap_eq_of_skips hgap, skipGap_eq_self (ne_sign_of_isQuote hc).1]
      exact .inl hfound
    · refine .inr ⟨?_, next, after, hitem, h⟩
      obtain ⟨c, more, hhead, hc, -⟩ := hitem.exists_cons
      refine Option.eq_none_iff_forall_ne_some.2 fun read hfound => ?_
      obtain ⟨d, more', hd, heq⟩ := (specifier?_eq_some_iff.1 hfound).exists_cons
      obtain ⟨rfl, -⟩ := List.cons.inj (hhead.symm.trans heq)
      rw [hc] at hd
      cases hd

theorem export?_eq_some_iff {text found rest : List Char} :
    export? text = some (found, rest) ↔
      ∃ gap, ReadsWord "export".toList text gap ∧
        ∃ next after, ReadsItem false gap next ∧ ReadsItems false next after ∧
          ReadsFrom false found after rest := by
  simp only [export?, Option.bind_eq_bind, Option.bind_eq_some_iff, keyword?_eq_some_iff]
  refine exists_congr fun gap => and_congr_right fun _ => ?_
  rw [← bind_clause?_eq_some_iff, Option.bind_eq_some_iff]

/-- No reference by call is read where the keyword is another one. -/
theorem call?_eq_none {word name text gap : List Char} (h : ReadsWord word text gap)
    (hword : IsWord word) (hname : IsWord name) (hne : word ≠ name) : call? name text = none := by
  rw [call?, keyword?_eq_none h hword hname hne]
  rfl

/-- No reference by call is read where no parenthesis opens behind the keyword. -/
theorem call?_eq_none_of_head {name text gap more : List Char} {c : Char}
    (h : ReadsWord name text gap) (hhead : skipGap gap = c :: more) (hc : c ≠ '(') :
    call? name text = none := by
  rw [call?, keyword?_eq_some_iff.2 h]
  show (sign? '(' (skipGap gap) >>= _) = none
  rw [hhead, sign?, if_neg hc]
  rfl

/-- The scanner reads exactly the references of the grammar without comments in its gaps. -/
theorem reference?_eq_some_iff {text found rest : List Char} :
    reference? text = some (found, rest) ↔ ReadsReference false found text rest := by
  simp only [reference?, Option.orElse_eq_orElse, Option.orElse_eq_or, Option.or_eq_some_iff]
  constructor
  · rintro (h | ⟨-, h | ⟨-, h | ⟨-, h⟩⟩⟩)
    · obtain ⟨gap, inside, specifier, after, hword, hopen, hgap, hfound, hclose⟩ :=
        call?_eq_some_iff.1 h
      exact .call (.inl rfl) hword hopen hgap hfound hclose
    · obtain ⟨gap, inside, specifier, after, hword, hopen, hgap, hfound, hclose⟩ :=
        call?_eq_some_iff.1 h
      exact .call (.inr rfl) hword hopen hgap hfound hclose
    · obtain ⟨gap, hword, h⟩ := import?_eq_some_iff.1 h
      rcases h with ⟨specifier, hgap, hfound⟩ | ⟨next, after, hitem, hitems, hfrom⟩
      · exact .bare hword hgap hfound
      · exact .clause (.inl rfl) hword hitem hitems hfrom
    · obtain ⟨gap, hword, next, after, hitem, hitems, hfrom⟩ := export?_eq_some_iff.1 h
      exact .clause (.inr rfl) hword hitem hitems hfrom
  · intro h
    cases h with
    | call hname hword hopen hgap hfound hclose =>
      have hcall := call?_eq_some_iff.2 ⟨_, _, _, _, hword, hopen, hgap, hfound, hclose⟩
      rcases hname with rfl | rfl
      · exact .inl hcall
      · exact .inr ⟨call?_eq_none hword isWord_require isWord_import (by decide), .inl hcall⟩
    | bare hword hgap hfound =>
      obtain ⟨c, more, hc, rfl⟩ := hfound.exists_cons
      obtain ⟨hblank, -, hopen, -⟩ := ne_sign_of_isQuote hc
      have hhead := (skipGap_eq_of_skips hgap).trans (skipGap_eq_self hblank more)
      exact .inr ⟨call?_eq_none_of_head hword hhead hopen,
        .inr ⟨call?_eq_none hword isWord_import isWord_require (by decide),
          .inl (import?_eq_some_iff.2 ⟨_, hword, .inl ⟨_, hgap, hfound⟩⟩)⟩⟩
    | clause hname hword hitem hitems hfrom =>
      obtain ⟨c, more, hhead, -, hopen⟩ := hitem.exists_cons
      rcases hname with rfl | rfl
      · exact .inr ⟨call?_eq_none_of_head hword hhead hopen,
          .inr ⟨call?_eq_none hword isWord_import isWord_require (by decide),
            .inl (import?_eq_some_iff.2 ⟨_, hword, .inr ⟨_, _, hitem, hitems, hfrom⟩⟩)⟩⟩
      · refine .inr ⟨call?_eq_none hword isWord_export isWord_import (by decide),
          .inr ⟨call?_eq_none hword isWord_export isWord_require (by decide),
            .inr ⟨?_, export?_eq_some_iff.2 ⟨_, hword, _, _, hitem, hitems, hfrom⟩⟩⟩⟩
        rw [import?, keyword?_eq_none hword isWord_export isWord_import (by decide)]
        rfl

/-- The words that references start with. -/
def referenceWords : List (List Char) := ["import".toList, "require".toList, "export".toList]

theorem ReadsReference.exists_readsWord {comments : Bool} {found text rest : List Char}
    (h : ReadsReference comments found text rest) :
    ∃ name ∈ referenceWords, IsWord name ∧ ∃ gap, ReadsWord name text gap := by
  cases h with
  | call hname hword =>
    rcases hname with rfl | rfl
    · exact ⟨_, by decide, isWord_import, _, hword⟩
    · exact ⟨_, by decide, isWord_require, _, hword⟩
  | bare hword => exact ⟨_, by decide, isWord_import, _, hword⟩
  | clause hname hword =>
    rcases hname with rfl | rfl
    · exact ⟨_, by decide, isWord_import, _, hword⟩
    · exact ⟨_, by decide, isWord_export, _, hword⟩

/-- A reference starts with one of its words. -/
theorem ReadsReference.takeWhile_mem {comments : Bool} {found text rest : List Char}
    (h : ReadsReference comments found text rest) : text.takeWhile isWordChar ∈ referenceWords := by
  obtain ⟨name, hname, hword, gap, hgap⟩ := h.exists_readsWord
  rwa [(hgap.takeWhile_eq hword).1]

end Bundler.Script
