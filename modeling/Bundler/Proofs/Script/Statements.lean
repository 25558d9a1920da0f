import Bundler.Proofs.Script.Scan

set_option autoImplicit false

/-! # Scanning what was written

A script that is written as a sequence of statements has the references of its statements, in their
order, and no others (`references_render`). Statements are references in any of their forms, with
white space wherever there may be some, and anything that a reference must be told apart from:
comments and strings of any content, words and other characters.

The parts of statements carry what they have to be like, so that nothing is asked of a sequence. -/

namespace Bundler.Script

/-! ## Statements -/

/-- White space between the parts of a statement. -/
structure Gap where
  text : List Char
  isGap_of_mem : ∀ c ∈ text, isGap c = true

/-- A specifier and the kind of its quotes. -/
structure Specifier where
  quote : Char
  text : List Char
  isSpecifier : IsSpecifier quote text

/-- The written form of a specifier. -/
def Specifier.render (s : Specifier) : List Char := s.quote :: (s.text ++ [s.quote])

/-- An item of an import clause. -/
inductive ClauseItem
  | sign (c : Char) (hc : c ∈ clauseSigns)
  | word (text : List Char) (hword : IsWord text) (hfrom : text ≠ "from".toList)

namespace ClauseItem

/-- The written form of an item. -/
def render : ClauseItem → List Char
  | sign c _ => [c]
  | word text _ _ => text

/-- Whether an item is a word. -/
def isWord : ClauseItem → Bool
  | sign _ _ => false
  | word _ _ _ => true

end ClauseItem

/-- The written form of some items, each after its gap. -/
def renderItems (items : List (Gap × ClauseItem)) : List Char :=
  items.flatMap fun e => e.1.text ++ e.2.render

/-- Whether there is white space between any two words next to each other, where a word may stand
    before the items, and `from` follows them after the last gap. -/
def IsSpaced (last : Gap) : Bool → List (Gap × ClauseItem) → Prop
  | afterWord, [] => afterWord = true → last.text ≠ []
  | afterWord, (gap, item) :: rest =>
    (afterWord = true → item.isWord = true → gap.text ≠ []) ∧ IsSpaced last item.isWord rest

/-- What stands between the keyword of a statement and its specifier. -/
structure Clause where
  items : List (Gap × ClauseItem)
  items_ne_nil : items ≠ []
  /-- The white space before `from`. -/
  last : Gap
  /-- The white space behind `from`. -/
  gap : Gap
  isSpaced : IsSpaced last true items

/-- The written form of a clause. -/
def Clause.render (c : Clause) : List Char :=
  renderItems c.items ++ (c.last.text ++ ("from".toList ++ c.gap.text))

/-- A statement of a script, or something else that may stand where one does. -/
inductive Statement
  /-- `import "s"` -/
  | importBare (gap : Gap) (s : Specifier)
  /-- `import clause from "s"` -/
  | importFrom (clause : Clause) (s : Specifier)
  /-- `export clause from "s"` -/
  | exportFrom (clause : Clause) (s : Specifier)
  /-- `require("s")` -/
  | require (before inside : Gap) (s : Specifier) (after : Gap)
  /-- `import("s")` -/
  | importCall (before inside : Gap) (s : Specifier) (after : Gap)
  | blockComment (body : List Char) (hbody : ¬ ['*', '/'] <:+: body)
  /-- A comment with the line feed that ends it. -/
  | lineComment (body : List Char) (hbody : ∀ c ∈ body, c ≠ '\r' ∧ c ≠ '\n')
  | string (quote : Char) (hquote : isQuote quote = true) (body : List Char)
      (hbody : IsStringBody quote body)
  | word (text : List Char) (hword : IsWord text) (hkeyword : text ∉ referenceWords)
  /-- Any character that starts neither a comment nor a string. -/
  | other (c : Char) (hc : c ≠ '/' ∧ isQuote c = false)

namespace Statement

/-- The written form of a statement. -/
def render : Statement → List Char
  | importBare gap s => "import".toList ++ (gap.text ++ s.render)
  | importFrom clause s => "import".toList ++ (clause.render ++ s.render)
  | exportFrom clause s => "export".toList ++ (clause.render ++ s.render)
  | require before inside s after =>
    "require".toList ++ (before.text ++ '(' :: (inside.text ++ (s.render ++ (after.text ++ [')']))))
  | importCall before inside s after =>
    "import".toList ++ (before.text ++ '(' :: (inside.text ++ (s.render ++ (after.text ++ [')']))))
  | blockComment body _ => '/' :: '*' :: (body ++ ['*', '/'])
  | lineComment body _ => '/' :: '/' :: (body ++ ['\n'])
  | string quote _ body _ => quote :: (body ++ [quote])
  | word text _ _ => text
  | other c _ => [c]

/-- What a statement refers to. -/
def reference? : Statement → Option (List Char)
  | importBare _ s | importFrom _ s | exportFrom _ s | require _ _ s _ | importCall _ _ s _ =>
    some s.text
  | _ => none

end Statement

/-- The script of some statements, each ended by a semicolon and a line feed. -/
def renderScript (statements : List Statement) : List Char :=
  statements.flatMap fun s => s.render ++ [';', '\n']

/-! ## Reading the parts -/

theorem Gap.skips (gap : Gap) (rest : List Char) : Skips false (gap.text ++ rest) rest := by
  obtain ⟨text, htext⟩ := gap
  induction text with
  | nil => exact .done rest
  | cons c more ih =>
    exact .blank (htext c List.mem_cons_self) (ih fun d hd => htext d (List.mem_cons_of_mem _ hd))

/-- White space ends a word. -/
theorem Gap.any_head? (gap : Gap) {rest : List Char}
    (h : gap.text = [] → rest.head?.any isWordChar = false) :
    (gap.text ++ rest).head?.any isWordChar = false := by
  cases htext : gap.text with
  | nil => exact h htext
  | cons c more =>
    have hc : isGap c = true := gap.isGap_of_mem c (htext ▸ List.mem_cons_self)
    refine Bool.eq_false_iff.2 fun hword => ?_
    exact absurd (hc.symm.trans (ne_of_isWordChar hword).1) nofun

theorem Specifier.reads (s : Specifier) (rest : List Char) :
    ReadsSpecifier s.text (s.render ++ rest) rest :=
  ⟨s.quote, s.isSpecifier, by simp [Specifier.render]⟩

/-- The quote of a specifier ends a word. -/
theorem Specifier.any_head? (s : Specifier) (rest : List Char) :
    (s.render ++ rest).head?.any isWordChar = false := by
  obtain ⟨c, more, hc, heq⟩ := (s.reads rest).exists_cons
  rw [heq]
  exact (ne_sign_of_isQuote hc).2.1

/-- Spaced items end a word before them. -/
theorem IsSpaced.any_head? {last : Gap} {items : List (Gap × ClauseItem)}
    (h : IsSpaced last true items) (rest : List Char) :
    (renderItems items ++ (last.text ++ rest)).head?.any isWordChar = false := by
  cases items with
  | nil => exact last.any_head? fun hlast => absurd hlast (h rfl)
  | cons e more =>
    obtain ⟨gap, item⟩ := e
    rw [renderItems, List.flatMap_cons, List.append_assoc, List.append_assoc]
    refine gap.any_head? fun hgap => ?_
    cases item with
    | sign c hc =>
      refine Bool.eq_false_iff.2 fun hword => ?_
      exact (ne_of_isWordChar hword).2.2.2.2 hc
    | word => exact absurd hgap (h.1 rfl rfl)

theorem IsSpaced.readsItem {last gap : Gap} {afterWord : Bool} {item : ClauseItem}
    {items : List (Gap × ClauseItem)} (h : IsSpaced last afterWord ((gap, item) :: items))
    (rest : List Char) :
    ReadsItem false (gap.text ++ (item.render ++ (renderItems items ++ (last.text ++ rest))))
      (renderItems items ++ (last.text ++ rest)) := by
  cases item with
  | sign c hc => exact .sign (gap.skips _) hc
  | word text hword hfrom =>
    exact .word (gap.skips _) hword hfrom ⟨rfl, IsSpaced.any_head? h.2 rest⟩

theorem IsSpaced.readsItems {last : Gap} {afterWord : Bool} {items : List (Gap × ClauseItem)}
    (h : IsSpaced last afterWord items) (rest : List Char) :
    ReadsItems false (renderItems items ++ (last.text ++ rest)) (last.text ++ rest) := by
  induction items generalizing afterWord with
  | nil => exact .done _
  | cons e more ih =>
    have hitem := h.readsItem rest
    rw [renderItems, List.flatMap_cons, List.append_assoc, List.append_assoc]
    exact .item hitem (ih h.2)

theorem Clause.readsReference (clause : Clause) (s : Specifier) {name : List Char}
    (hname : name = "import".toList ∨ name = "export".toList) (rest : List Char) :
    ReadsReference false s.text (name ++ (clause.render ++ (s.render ++ rest))) rest := by
  obtain ⟨items, hne, last, gap, hspaced⟩ := clause
  obtain ⟨⟨first, item⟩, more, rfl⟩ := List.exists_cons_of_ne_nil hne
  have hfrom : ReadsWord "from".toList ("from".toList ++ (gap.text ++ (s.render ++ rest)))
      (gap.text ++ (s.render ++ rest)) := ⟨rfl, gap.any_head? fun _ => s.any_head? rest⟩
  have hhead := hspaced.any_head? ("from".toList ++ (gap.text ++ (s.render ++ rest)))
  have hitem := hspaced.readsItem ("from".toList ++ (gap.text ++ (s.render ++ rest)))
  have hitems := IsSpaced.readsItems hspaced.2
    ("from".toList ++ (gap.text ++ (s.render ++ rest)))
  have htext : Clause.render ⟨(first, item) :: more, hne, last, gap, hspaced⟩ ++ (s.render ++ rest)
      = first.text ++ (item.render ++ (renderItems more ++
        (last.text ++ ("from".toList ++ (gap.text ++ (s.render ++ rest)))))) := by
    simp only [Clause.render, renderItems, List.flatMap_cons, List.append_assoc]
  rw [renderItems, List.flatMap_cons, List.append_assoc, List.append_assoc] at hhead
  rw [htext]
  exact .clause hname ⟨rfl, hhead⟩ hitem hitems
    ⟨last.skips _, hfrom, gap.skips _, s.reads rest⟩

/-- A call is a reference to its specifier. -/
theorem readsReference_call {name : List Char}
    (hname : name = "import".toList ∨ name = "require".toList) (before inside : Gap)
    (s : Specifier) (after : Gap) (rest : List Char) :
    ReadsReference false s.text
      (name ++ (before.text ++ '(' :: (inside.text ++ (s.render ++ (after.text ++ [')'])))) ++ rest)
      rest := by
  simp only [List.append_assoc, List.cons_append, List.nil_append]
  exact .call hname ⟨rfl, before.any_head? fun _ => rfl⟩ (before.skips _) (inside.skips _)
    (s.reads _) (after.skips _)

theorem Statement.readsReference {s : Statement} {found : List Char}
    (h : s.reference? = some found) (rest : List Char) :
    ReadsReference false found (s.render ++ rest) rest := by
  cases s with
  | importBare gap s =>
    obtain rfl := Option.some.inj h
    have hword : ReadsWord "import".toList ("import".toList ++ (gap.text ++ (s.render ++ rest)))
        (gap.text ++ (s.render ++ rest)) := ⟨rfl, gap.any_head? fun _ => s.any_head? rest⟩
    show ReadsReference false s.text ("import".toList ++ (gap.text ++ s.render) ++ rest) rest
    rw [List.append_assoc, List.append_assoc]
    exact .bare hword (gap.skips _) (s.reads rest)
  | importFrom clause s =>
    obtain rfl := Option.some.inj h
    show ReadsReference false s.text ("import".toList ++ (clause.render ++ s.render) ++ rest) rest
    rw [List.append_assoc, List.append_assoc]
    exact clause.readsReference s (.inl rfl) rest
  | exportFrom clause s =>
    obtain rfl := Option.some.inj h
    show ReadsReference false s.text ("export".toList ++ (clause.render ++ s.render) ++ rest) rest
    rw [List.append_assoc, List.append_assoc]
    exact clause.readsReference s (.inr rfl) rest
  | require before inside s after =>
    obtain rfl := Option.some.inj h
    exact readsReference_call (.inr rfl) before inside s after rest
  | importCall before inside s after =>
    obtain rfl := Option.some.inj h
    exact readsReference_call (.inl rfl) before inside s after rest
  | blockComment | lineComment | string | word | other => cases h

/-! ## Scanning -/

/-- The end of a statement is passed over. -/
theorem scan_end (rest : List Char) : scan (';' :: '\n' :: rest) = scan rest := by
  rw [scan_other (by decide) (literal?_cons_eq_none (by decide) _),
    scan_other (by decide) (literal?_cons_eq_none (by decide) _)]

/-- A word that starts no reference is passed over. -/
theorem scan_word_end {word : List Char} (hword : IsWord word) (hkeyword : word ∉ referenceWords)
    (rest : List Char) : scan (word ++ ';' :: '\n' :: rest) = scan rest := by
  have hreads : ReadsWord word (word ++ ';' :: '\n' :: rest) (';' :: '\n' :: rest) := ⟨rfl, rfl⟩
  rw [scan_word hreads hword, scan_end]
  refine reference?_eq_none_of_not_mem ?_
  rwa [(hreads.takeWhile_eq hword).1]

/-- What is no reference is passed over. -/
theorem scan_render_of_eq_none {s : Statement} (h : s.reference? = none) (rest : List Char) :
    scan (s.render ++ ';' :: '\n' :: rest) = scan rest := by
  cases s with
  | importBare | importFrom | exportFrom | require | importCall => cases h
  | blockComment body hbody => exact (scan_comment (.block hbody _)).trans (scan_end rest)
  | lineComment body hbody =>
    have hcomment : IsComment ('/' :: '/' :: body) ('\n' :: ';' :: '\n' :: rest) :=
      .line hbody (.feed _)
    have htext : body ++ ['\n'] ++ ';' :: '\n' :: rest = body ++ '\n' :: ';' :: '\n' :: rest :=
      List.append_assoc body ['\n'] _
    show scan ('/' :: '/' :: (body ++ ['\n'] ++ ';' :: '\n' :: rest)) = _
    rw [htext]
    refine (scan_comment hcomment).trans ?_
    rw [scan_other (by decide) (literal?_cons_eq_none (by decide) _), scan_end]
  | string quote hquote body hbody =>
    exact (scan_string (.intro hquote hbody) _).trans (scan_end rest)
  | word text hword hkeyword => exact scan_word_end hword hkeyword rest
  | other c hc =>
    by_cases hword : isWordChar c = true
    · have hone : IsWord [c] := ⟨List.cons_ne_nil _ _, by simpa using hword⟩
      exact scan_word_end hone (by simp [referenceWords]) rest
    · exact (scan_other (Bool.eq_false_iff.2 hword) (literal?_cons_eq_none hc _)).trans
        (scan_end rest)

theorem scan_renderScript (statements : List Statement) :
    scan (renderScript statements) = statements.filterMap Statement.reference? := by
  induction statements with
  | nil => simp [renderScript, scan]
  | cons s more ih =>
    have htext : renderScript (s :: more) = s.render ++ ';' :: '\n' :: renderScript more := by
      simp [renderScript]
    rw [htext, List.filterMap_cons, ← ih]
    cases hreference : s.reference? with
    | none => exact scan_render_of_eq_none hreference _
    | some found => rw [scan_reference (s.readsReference hreference _), scan_end]

/-- The references of a written script are those of its statements. -/
theorem references_render (statements : List Statement) :
    references (.ofList (renderScript statements)) =
      (statements.filterMap Statement.reference?).map String.ofList := by
  rw [references, String.toList_ofList, scan_renderScript]

end Bundler.Script
