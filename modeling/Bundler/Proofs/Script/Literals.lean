import Bundler.Script.Lexeme
import Mathlib.Data.List.Infix
import Mathlib.Data.List.TakeWhile

set_option autoImplicit false

/-! # Comments and strings as texts

What a comment and a string look like, said without a reader. The readers take exactly these from
the start of a text (`comment?_eq_some_iff`, `string?_eq_some_iff`). Only the comment of a line asks
for something of what follows it, namely the end of that line.

A comment starts with a slash and a string with a quote, and the same holds for where they end, but
for the comment of a line. So neither can join with a word beside it. -/

namespace Bundler.Script

/-! ## Strings -/

/-- Whether a text can stand between two quotes of a kind. A backslash takes the next character
    along, and no other quote of this kind is in it. -/
inductive IsStringBody (quote : Char) : List Char → Prop
  | nil : IsStringBody quote []
  | escape (c : Char) {body : List Char} (h : IsStringBody quote body) :
      IsStringBody quote ('\\' :: c :: body)
  | plain {c : Char} {body : List Char} (hquote : c ≠ quote) (hescape : c ≠ '\\')
      (h : IsStringBody quote body) : IsStringBody quote (c :: body)

theorem isQuote_iff {c : Char} : isQuote c = true ↔ c = '"' ∨ c = '\'' ∨ c = '`' := by
  simp [isQuote, or_assoc]

theorem ne_of_isQuote {quote : Char} (h : isQuote quote = true) :
    quote ≠ '\\' ∧ quote ≠ '/' ∧ quote ≠ '*' ∧ quote ≠ '\n' ∧ quote ≠ '\r' := by
  refine ⟨?_, ?_, ?_, ?_, ?_⟩ <;> rintro rfl <;> cases h

theorem closing?_cons {quote c : Char} (hescape : c ≠ '\\') (rest : List Char) :
    closing? quote (c :: rest) = if c = quote then some rest else closing? quote rest := by
  rw [closing?]
  · rintro - - rfl
    exact absurd rfl hescape
  · rintro rfl
    exact absurd rfl hescape

/-- What the last rows of `closing?` know of their first character. -/
theorem ne_escape {c : Char} {rest : List Char} (h : ∀ d more, c = '\\' → rest = d :: more → False)
    (hend : c = '\\' → rest = [] → False) : c ≠ '\\' := by
  rintro rfl
  cases rest with
  | nil => exact hend rfl rfl
  | cons d more => exact h d more rfl rfl

theorem closing?_append {quote : Char} (hquote : quote ≠ '\\') {body : List Char}
    (h : IsStringBody quote body) (rest : List Char) :
    closing? quote (body ++ quote :: rest) = some rest := by
  induction h with
  | nil => rw [List.nil_append, closing?_cons hquote, if_pos rfl]
  | escape c _ ih => exact ih
  | plain hc hescape _ ih => rw [List.cons_append, closing?_cons hescape, if_neg hc, ih]

theorem exists_body_of_closing? {quote : Char} {text rest : List Char}
    (h : closing? quote text = some rest) :
    ∃ body, IsStringBody quote body ∧ text = body ++ quote :: rest := by
  induction text using closing?.induct quote with
  | case1 => cases h
  | case2 c more ih =>
    obtain ⟨body, hbody, rfl⟩ := ih h
    exact ⟨_, .escape c hbody, rfl⟩
  | case3 => cases h
  | case4 more hescape hend =>
    rw [closing?_cons (ne_escape hescape hend), if_pos rfl] at h
    obtain rfl := Option.some.inj h
    exact ⟨[], .nil, rfl⟩
  | case5 c more hescape hend hc ih =>
    have hne := ne_escape hescape hend
    rw [closing?_cons hne, if_neg hc] at h
    obtain ⟨body, hbody, rfl⟩ := ih h
    exact ⟨_, .plain hc hne hbody, rfl⟩

/-- Whether a text is a string, its quotes included. -/
inductive IsString : List Char → Prop
  | intro {quote : Char} (hquote : isQuote quote = true) {body : List Char}
      (hbody : IsStringBody quote body) : IsString (quote :: (body ++ [quote]))

theorem string?_eq_some_iff {text rest : List Char} :
    string? text = some rest ↔ ∃ found, IsString found ∧ text = found ++ rest := by
  constructor
  · intro h
    cases text with
    | nil => cases h
    | cons quote more =>
      by_cases hquote : isQuote quote = true
      · rw [string?, if_pos hquote] at h
        obtain ⟨body, hbody, rfl⟩ := exists_body_of_closing? h
        exact ⟨_, .intro hquote hbody, by simp⟩
      · rw [string?, if_neg hquote] at h
        cases h
  · rintro ⟨_, @⟨quote, hquote, body, hbody⟩, rfl⟩
    rw [List.cons_append, string?, if_pos hquote, List.append_assoc]
    exact closing?_append (ne_of_isQuote hquote).1 hbody rest

/-! ## Comments -/

/-- Whether a line ends where a text starts. -/
inductive EndsLine : List Char → Prop
  | nil : EndsLine []
  | feed (rest : List Char) : EndsLine ('\n' :: rest)
  | returnFeed (rest : List Char) : EndsLine ('\r' :: '\n' :: rest)

/-- Whether a text is a comment if the other one follows it. -/
inductive IsComment : List Char → List Char → Prop
  | line {body rest : List Char} (hbody : ∀ c ∈ body, c ≠ '\r' ∧ c ≠ '\n') (hrest : EndsLine rest) :
      IsComment ('/' :: '/' :: body) rest
  | block {body : List Char} (hbody : ¬ ['*', '/'] <:+: body) (rest : List Char) :
      IsComment ('/' :: '*' :: (body ++ ['*', '/'])) rest

theorem lineEnd?_eq_some_iff {text rest : List Char} :
    lineEnd? text = some rest ↔
      EndsLine rest ∧ ∃ body, (∀ c ∈ body, c ≠ '\r' ∧ c ≠ '\n') ∧ text = body ++ rest := by
  constructor
  · intro h
    have hsplit := List.takeWhile_append_dropWhile (p := fun c => c ≠ '\r' ∧ c ≠ '\n') (l := text)
    have hbody : ∀ c ∈ text.takeWhile (fun c => c ≠ '\r' ∧ c ≠ '\n'), c ≠ '\r' ∧ c ≠ '\n' :=
      fun c hc => by simpa using List.mem_takeWhile_imp hc
    unfold lineEnd? at h
    split at h
    · next heq =>
      obtain rfl := Option.some.inj h
      exact ⟨.nil, _, hbody, by rw [← heq, hsplit]⟩
    · next more heq =>
      obtain rfl := Option.some.inj h
      exact ⟨.feed more, _, hbody, by rw [← heq, hsplit]⟩
    · next more heq =>
      obtain rfl := Option.some.inj h
      exact ⟨.returnFeed more, _, hbody, by rw [← heq, hsplit]⟩
    · cases h
  · rintro ⟨hrest, body, hbody, rfl⟩
    have hdrop : (body ++ rest).dropWhile (fun c => c ≠ '\r' ∧ c ≠ '\n') = rest := by
      rw [List.dropWhile_append_of_pos fun c hc => decide_eq_true (hbody c hc)]
      cases hrest <;> rfl
    unfold lineEnd?
    rw [hdrop]
    cases hrest <;> rfl

theorem blockEnd?_cons (c : Char) (rest : List Char) :
    blockEnd? (c :: rest) = if c = '*' ∧ rest.head? = some '/' then some rest.tail
      else blockEnd? rest := by
  split
  · next h =>
    obtain ⟨rfl, hhead⟩ := h
    cases rest with
    | nil => cases hhead
    | cons d more =>
      obtain rfl := Option.some.inj hhead
      rfl
  · next h =>
    rw [blockEnd?]
    rintro more rfl rfl
    exact h ⟨rfl, rfl⟩

theorem cons_infix_cons_iff {c : Char} {rest : List Char} :
    ['*', '/'] <:+: c :: rest ↔ (c = '*' ∧ rest.head? = some '/') ∨ ['*', '/'] <:+: rest := by
  rw [List.infix_cons_iff, List.cons_prefix_cons, @eq_comm _ '*' c]
  cases rest with
  | nil => simp
  | cons d more => simp [List.cons_prefix_cons, @eq_comm _ '/' d]

theorem blockEnd?_eq_none_iff {text : List Char} :
    blockEnd? text = none ↔ ¬ ['*', '/'] <:+: text := by
  induction text with
  | nil => simp [blockEnd?]
  | cons c rest ih =>
    rw [blockEnd?_cons, cons_infix_cons_iff]
    split
    · next h => simp [h]
    · next h => rw [ih, or_iff_right h]

theorem blockEnd?_append {body : List Char} (h : ¬ ['*', '/'] <:+: body) (rest : List Char) :
    blockEnd? (body ++ '*' :: '/' :: rest) = some rest := by
  induction body with
  | nil => rfl
  | cons c more ih =>
    rw [cons_infix_cons_iff, not_or] at h
    have hopen : ¬ (c = '*' ∧ (more ++ '*' :: '/' :: rest).head? = some '/') := by
      rintro ⟨hc, hhead⟩
      cases more with
      | nil => cases hhead
      | cons d more => exact h.1 ⟨hc, hhead⟩
    rw [List.cons_append, blockEnd?_cons, if_neg hopen, ih h.2]

theorem exists_body_of_blockEnd? {text rest : List Char} (h : blockEnd? text = some rest) :
    ∃ body, ¬ ['*', '/'] <:+: body ∧ text = body ++ '*' :: '/' :: rest := by
  induction text with
  | nil => cases h
  | cons c more ih =>
    rw [blockEnd?_cons] at h
    split at h
    · next hopen =>
      obtain ⟨rfl, hhead⟩ := hopen
      obtain rfl := Option.some.inj h
      cases more with
      | nil => cases hhead
      | cons d more =>
        obtain rfl := Option.some.inj hhead
        exact ⟨[], by simp, rfl⟩
    · next hopen =>
      obtain ⟨body, hbody, rfl⟩ := ih h
      refine ⟨c :: body, ?_, rfl⟩
      rw [cons_infix_cons_iff, not_or]
      refine ⟨?_, hbody⟩
      rintro ⟨hc, hhead⟩
      exact hopen ⟨hc, by rw [List.head?_append, hhead]; rfl⟩

theorem comment?_eq_some_iff {text rest : List Char} :
    comment? text = some rest ↔ ∃ found, IsComment found rest ∧ text = found ++ rest := by
  constructor
  · intro h
    unfold comment? at h
    split at h
    · obtain ⟨hrest, body, hbody, rfl⟩ := lineEnd?_eq_some_iff.1 h
      exact ⟨_, .line hbody hrest, rfl⟩
    · obtain ⟨body, hbody, rfl⟩ := exists_body_of_blockEnd? h
      exact ⟨_, .block hbody rest, by simp⟩
    · cases h
  · rintro ⟨_, ⟨hbody, hrest⟩ | ⟨hbody, _⟩, rfl⟩
    · exact lineEnd?_eq_some_iff.2 ⟨hrest, _, hbody, rfl⟩
    · rw [List.cons_append, List.cons_append, List.append_assoc]
      exact blockEnd?_append hbody rest

/-- A comment starts with a slash. -/
theorem comment?_cons_eq_none {c : Char} (h : c ≠ '/') (rest : List Char) :
    comment? (c :: rest) = none := by
  unfold comment?
  split
  · next heq => exact absurd (List.cons.inj heq).1 h
  · next heq => exact absurd (List.cons.inj heq).1 h
  · rfl

/-- A string starts with a quote. -/
theorem string?_cons_eq_none {c : Char} (h : isQuote c = false) (rest : List Char) :
    string? (c :: rest) = none := by
  rw [string?, h]
  rfl

end Bundler.Script
