import Bundler.Proofs.Settings.Names
import Bundler.Proofs.Settings.RoundTrip
import Mathlib.Data.List.DropRight

set_option autoImplicit false

/-! # Settings files are read line by line

Whether a statement is read, and which one, is decided by the line on which it starts: no reader
looks behind a line feed (`IsDecided`), and behind its line it passes over blank lines only. The
settings of a rule stand on lines of their own, and each of these lines would be read as a statement
just as well. So a file is read if each of its lines can be read (`unread_line`), and the line that
an error names is the first one that cannot (`read_eq_error_iff_first`). -/

namespace Bundler.Settings

/-! ## Places on a line -/

/-- Whether a place is on a line, as a function of what follows the line. -/
def OnLine (place : List Char → List Char) : Prop :=
  ∃ left, '\n' ∉ left ∧ ∀ rest, place rest = left ++ '\n' :: rest

theorem dropWhile_append_feed {p : Char → Bool} (hp : p '\n' = false) (left rest : List Char) :
    (left ++ '\n' :: rest).dropWhile p = left.dropWhile p ++ '\n' :: rest := by
  rw [List.dropWhile_append, List.dropWhile_cons_of_neg (by simp [hp])]
  split
  · next h => rw [List.isEmpty_iff.1 h, List.nil_append]
  · rfl

theorem takeWhile_append_feed {p : Char → Bool} (hp : p '\n' = false) (left rest : List Char) :
    (left ++ '\n' :: rest).takeWhile p = left.takeWhile p := by
  rw [List.takeWhile_append, List.takeWhile_cons_of_neg (by simp [hp])]
  split
  · next h => rw [List.append_nil, (List.takeWhile_prefix p).eq_of_length h]
  · rfl

theorem skipBlank_append_feed (left rest : List Char) :
    skipBlank (left ++ '\n' :: rest) = skipBlank left ++ '\n' :: rest := by
  unfold skipBlank
  rw [dropWhile_append_feed (p := isBlank) rfl]
  cases left.dropWhile isBlank with
  | nil => rfl
  | cons c more =>
    by_cases hc : c = '#'
    · subst hc
      exact dropWhile_append_feed (by decide) more rest
    · simp [hc]

theorem skipBlank_suffix (text : List Char) : skipBlank text <:+ text := by
  have hblank := List.dropWhile_suffix (l := text) isBlank
  unfold skipBlank
  split
  · next rest heq =>
    rw [heq] at hblank
    exact (List.dropWhile_suffix _).trans ((List.suffix_cons '#' rest).trans hblank)
  · exact hblank

theorem prefix_append_feed_iff {word : List Char} (h : '\n' ∉ word) {left rest : List Char} :
    word <+: left ++ '\n' :: rest ↔ word <+: left := by
  refine ⟨fun hword => ?_, fun hword => hword.trans (List.prefix_append _ _)⟩
  rcases List.prefix_or_prefix_of_prefix hword (List.prefix_append left _) with hleft | ⟨more, rfl⟩
  · exact hleft
  · cases more with
    | nil => rw [List.append_nil]
    | cons c more =>
      rw [List.prefix_append_right_inj, List.cons_prefix_cons] at hword
      exact absurd (by simp [hword.1]) h

/-- What is left of a line may be its end. -/
theorem lineFeed?_append_feed {left : List Char} (h : '\n' ∉ left) :
    (∀ rest, lineFeed? (left ++ '\n' :: rest) = some rest) ∨
      ∀ rest, lineFeed? (left ++ '\n' :: rest) = none := by
  cases left with
  | nil => exact .inl fun _ => rfl
  | cons c more =>
    rw [List.mem_cons, not_or] at h
    by_cases hc : c = '\r'
    · subst hc
      cases more with
      | nil => exact .inl fun _ => rfl
      | cons d more =>
        have hd : '\n' ≠ d := fun heq => h.2 (heq ▸ List.mem_cons_self)
        exact .inr fun rest => by simp [lineFeed?, hd.symm]
    · exact .inr fun rest => by simp [lineFeed?, hc, Ne.symm h.1]

namespace OnLine

variable {place : List Char → List Char}

theorem here {line : List Char} (h : '\n' ∉ line) : OnLine fun rest => line ++ '\n' :: rest :=
  ⟨line, h, fun _ => rfl⟩

theorem dropWhile {p : Char → Bool} (hp : p '\n' = false) (h : OnLine place) :
    OnLine fun rest => (place rest).dropWhile p := by
  obtain ⟨left, hleft, hplace⟩ := h
  simp only [hplace, dropWhile_append_feed hp]
  exact .here fun hmem => hleft ((List.dropWhile_suffix p).subset hmem)

theorem skipBlank (h : OnLine place) : OnLine fun rest => skipBlank (place rest) := by
  obtain ⟨left, hleft, hplace⟩ := h
  simp only [hplace, skipBlank_append_feed]
  exact .here fun hmem => hleft ((skipBlank_suffix left).subset hmem)

theorem exists_takeWhile {p : Char → Bool} (hp : p '\n' = false) (h : OnLine place) :
    ∃ found, ∀ rest, (place rest).takeWhile p = found := by
  obtain ⟨left, -, hplace⟩ := h
  exact ⟨left.takeWhile p, fun rest => by rw [hplace, takeWhile_append_feed hp]⟩

theorem exists_head? (h : OnLine place) : ∃ c, ∀ rest, (place rest).head? = some c := by
  obtain ⟨_ | ⟨c, more⟩, -, hplace⟩ := h
  · exact ⟨'\n', fun rest => by rw [hplace]; rfl⟩
  · exact ⟨c, fun rest => by rw [hplace]; rfl⟩

end OnLine

/-! ## Readers of one line -/

/-- Whether a line alone decides what is read: either nothing, whatever follows the line, or always
    something, which depends on what follows in one of some ways. -/
inductive IsDecided {β : Type} (ways : (List Char → β) → Prop) (found : List Char → Option β) : Prop
  | nothing (h : ∀ rest, found rest = none) : IsDecided ways found
  | something (after : List Char → β) (hafter : ways after)
      (h : ∀ rest, found rest = some (after rest)) : IsDecided ways found

/-- Whether a reader stops at a place on the line, with something that it read. -/
def StopsOnLine {α : Type} (after : List Char → α × List Char) : Prop :=
  ∃ a place, OnLine place ∧ ∀ rest, after rest = (a, place rest)

/-- Whether a reader stops behind the line and the blank lines that follow it. -/
def StopsBehindLine {α : Type} (after : List Char → α × List Char) : Prop :=
  ∃ a, ∀ rest, after rest = (a, skipLines rest)

namespace IsDecided

variable {α β : Type} {ways : (List Char → α) → Prop} {ways' : (List Char → β) → Prop}
  {found : List Char → Option α}

theorem bind (h : IsDecided ways found) {next : α → Option β}
    (hnext : ∀ after, ways after → IsDecided ways' fun rest => next (after rest)) :
    IsDecided ways' fun rest => found rest >>= next := by
  cases h with
  | nothing h => exact .nothing fun rest => by simp only [h]; rfl
  | something after hafter h =>
    simp only [h]
    exact hnext after hafter

theorem bind_stops {γ : Type} {found : List Char → Option (γ × List Char)}
    (h : IsDecided StopsOnLine found) {next : γ × List Char → Option β}
    (hnext : ∀ a place, OnLine place → IsDecided ways' fun rest => next (a, place rest)) :
    IsDecided ways' fun rest => found rest >>= next := by
  refine h.bind ?_
  rintro after ⟨a, place, hplace, hafter⟩
  simp only [hafter]
  exact hnext a place hplace

theorem or {found' : List Char → Option α} (h : IsDecided ways found)
    (h' : IsDecided ways found') : IsDecided ways fun rest => found rest <|> found' rest := by
  cases h with
  | nothing h =>
    simp only [h]
    exact h'
  | something after hafter h => exact .something after hafter fun rest => by simp only [h]; rfl

theorem mono {ways' : (List Char → α) → Prop} (h : IsDecided ways found)
    (hways : ∀ after, ways after → ways' after) : IsDecided ways' found := by
  cases h with
  | nothing h => exact .nothing h
  | something after hafter h => exact .something after (hways after hafter) h

end IsDecided

section

variable {place : List Char → List Char} (h : OnLine place)
include h

theorem isDecided_equals? : IsDecided OnLine fun rest => equals? (place rest) := by
  obtain ⟨left, hleft, hstart⟩ := h.skipBlank
  simp only [equals?, hstart]
  cases left with
  | nil => exact .nothing fun _ => rfl
  | cons c more =>
    by_cases hc : c = '='
    · subst hc
      exact .something _ (.here fun hmem => hleft (List.mem_cons_of_mem _ hmem)) fun _ => rfl
    · exact .nothing fun rest => by simp [hc]

theorem isDecided_keyword? {word : String} (hword : ∀ c ∈ word.toList, isWordChar c = true) :
    IsDecided OnLine fun rest => keyword? word (place rest) := by
  obtain ⟨left, hleft, hstart⟩ := h.skipBlank
  have hfeed : '\n' ∉ word.toList := fun hmem => by cases hword _ hmem
  simp only [keyword?, hstart]
  by_cases hprefix : word.toList <+: left
  · obtain ⟨more, rfl⟩ := hprefix
    have hmore : OnLine fun rest => more ++ '\n' :: rest :=
      .here fun hmem => hleft (List.mem_append_right _ hmem)
    obtain ⟨c, hc⟩ := hmore.exists_head?
    simp only [← String.length_toList, List.append_assoc, List.drop_left, hc,
      List.isPrefixOf_iff_prefix, List.prefix_append, if_true]
    split
    · exact .nothing fun _ => rfl
    · exact .something _ hmore fun _ => rfl
  · refine .nothing fun rest => if_neg ?_
    rwa [List.isPrefixOf_iff_prefix, prefix_append_feed_iff hfeed]

/-- A run of characters of a kind that holds no line feed. -/
theorem isDecided_run {α : Type} (p : Char → Bool) {q : Char → Bool} (hq : q '\n' = false)
    (make : List Char → α) : IsDecided StopsOnLine fun rest =>
      if (place rest).head?.any p
        then some (make ((place rest).takeWhile q), (place rest).dropWhile q) else none := by
  obtain ⟨c, hc⟩ := h.exists_head?
  obtain ⟨found, hfound⟩ := h.exists_takeWhile hq
  simp only [hc, hfound]
  split
  · exact .something _ ⟨_, _, h.dropWhile hq, fun _ => rfl⟩ fun _ => rfl
  · exact .nothing fun _ => rfl

theorem isDecided_identifier? : IsDecided StopsOnLine fun rest => identifier? (place rest) :=
  isDecided_run h.skipBlank _ (by decide) String.ofList

theorem isDecided_name? : IsDecided StopsOnLine fun rest => name? (place rest) :=
  isDecided_run h.skipBlank _ (by decide) String.ofList

theorem isDecided_value? : IsDecided StopsOnLine fun rest => value? (place rest) :=
  isDecided_run h _ (by decide) fun value => String.ofList (Text.trim value)

theorem stopsOnLine_valueOrEmpty : StopsOnLine fun rest => valueOrEmpty (place rest) := by
  unfold valueOrEmpty
  cases isDecided_value? h with
  | nothing hnone => exact ⟨"", place, h, fun rest => by simp only [hnone]; rfl⟩
  | something after hafter hsome =>
    simp only [hsome]
    exact hafter

theorem stopsOnLine_default? : StopsOnLine fun rest => default? (place rest) := by
  unfold default?
  cases isDecided_equals? h with
  | nothing hnone =>
    simp only [hnone]
    exact ⟨none, place, h, fun _ => rfl⟩
  | something next hnext hsome =>
    obtain ⟨value, left, hleft, hvalue⟩ := stopsOnLine_valueOrEmpty hnext
    simp only [hsome, hvalue]
    exact ⟨some value, left, hleft, fun _ => rfl⟩

theorem isDecided_lineEnd? :
    IsDecided (fun after => after = skipLines) fun rest => lineEnd? (place rest) := by
  obtain ⟨left, hleft, hstart⟩ := h.skipBlank
  obtain ⟨c, hc⟩ := h.exists_head?
  have hne : ∀ rest, (place rest).isEmpty = false := fun rest => by
    rw [List.isEmpty_eq_false_iff_exists_mem]
    exact ⟨c, List.mem_of_head? (hc rest)⟩
  simp only [lineEnd?, hstart, hne]
  rcases lineFeed?_append_feed hleft with hsome | hnone
  · simp only [hsome]
    exact .something _ rfl fun _ => rfl
  · simp only [hnone]
    exact .nothing fun _ => rfl

/-! ## Statements of one line -/

theorem isDecided_lineEnd?_map {α : Type} (a : α) : IsDecided StopsBehindLine fun rest =>
    lineEnd? (place rest) >>= fun text => some (a, text) := by
  refine (isDecided_lineEnd? h).bind ?_
  rintro _ rfl
  exact .something _ ⟨a, fun _ => rfl⟩ fun _ => rfl

theorem isDecided_settingLine? :
    IsDecided StopsBehindLine fun rest => settingLine? (place rest) := by
  unfold settingLine?
  refine (isDecided_identifier? h).bind_stops fun name gap hgap => ?_
  refine (isDecided_equals? hgap).bind fun next hnext => ?_
  obtain ⟨value, last, hlast, hvalue⟩ := stopsOnLine_valueOrEmpty hnext
  simp only [hvalue]
  exact isDecided_lineEnd?_map hlast _

theorem isDecided_declarationLine? {word : String} (hword : word ∈ keywords)
    {readName : List Char → Option (String × List Char)}
    (hname : ∀ {place : List Char → List Char}, OnLine place →
      IsDecided StopsOnLine fun rest => readName (place rest))
    (make : String → String → Statement) :
    IsDecided StopsBehindLine fun rest => declarationLine? word readName make (place rest) := by
  unfold declarationLine?
  refine (isDecided_keyword? h (isIdentifier_of_mem_keywords word hword).2).bind
    fun gap hgap => ?_
  refine (hname hgap).bind_stops fun name sign hsign => ?_
  refine (isDecided_equals? hsign).bind fun back hback => ?_
  refine (isDecided_value? hback).bind_stops fun value last hlast => ?_
  exact isDecided_lineEnd?_map hlast _

theorem isDecided_entryLine? : IsDecided StopsBehindLine fun rest => entryLine? (place rest) :=
  isDecided_declarationLine? h (by decide) isDecided_identifier? _

theorem isDecided_aliasLine? : IsDecided StopsBehindLine fun rest => aliasLine? (place rest) :=
  isDecided_declarationLine? h (by decide) isDecided_name? _

theorem isDecided_defineLine? :
    IsDecided StopsBehindLine fun rest => defineLine? (place rest) :=
  isDecided_declarationLine? h (by decide) isDecided_name? _

theorem isDecided_environmentLine? :
    IsDecided StopsBehindLine fun rest => environmentLine? (place rest) := by
  unfold environmentLine?
  refine (isDecided_keyword? h (isIdentifier_of_mem_keywords "env" (by decide)).2).bind
    fun gap hgap => ?_
  refine (isDecided_identifier? hgap).bind_stops fun name gap hgap => ?_
  obtain ⟨default, last, hlast, hdefault⟩ := stopsOnLine_default? hgap
  simp only [hdefault]
  exact isDecided_lineEnd?_map hlast _

end

/-! ## Rules and their settings -/

theorem skipBlank_dropWhile (text : List Char) :
    skipBlank (text.dropWhile isBlank) = skipBlank text := by
  unfold skipBlank
  rw [List.dropWhile_idempotent]

theorem settingLine?_dropWhile (text : List Char) :
    settingLine? (text.dropWhile isBlank) = settingLine? text := by
  unfold settingLine? identifier?
  rw [skipBlank_dropWhile]

theorem statements_of_none {text : List Char} (h : statement? text = none) :
    statements text = ([], text) := by
  rw [statements]
  split
  · next heq => cases heq.symm.trans h
  · rfl

/-- The lines that a rule takes as its settings could be read without it. -/
theorem statements_indentedSettings (text : List Char) :
    (statements (indentedSettings text).2).2 = (statements text).2 := by
  fun_induction indentedSettings text with
  | case1 text s rest h settings rest' heq ih =>
    unfold indented? at h
    split at h
    · rw [settingLine?_dropWhile] at h
      rw [heq] at ih
      rw [ih, statements_of_some (statement?_of_settingLine? h)]
    · cases h
  | case2 text h => rfl

/-! ## What is left unread -/

/-- What is left of a file when no further statement can be read. -/
def unread (text : List Char) : List Char := skipBlank (statements (skipLines text)).2

/-- The number of the line on which the unread rest of a text starts. -/
def unreadLine (text : List Char) : Nat :=
  1 + (text.take (text.length - (unread text).length)).count '\n'

theorem read_eq_ite (source : String) :
    read source = if (unread source.toList).isEmpty
      then .ok (statements (skipLines source.toList)).1
      else .error ⟨unreadLine source.toList⟩ := rfl

theorem read_eq_ok_iff {source : String} {found : List Statement} :
    read source = .ok found ↔
      unread source.toList = [] ∧ (statements (skipLines source.toList)).1 = found := by
  rw [read_eq_ite]
  split
  · next h => simp [List.isEmpty_iff.1 h]
  · next h =>
    rw [List.isEmpty_iff] at h
    simp [h]

/-- Whether a settings file can be read. -/
def IsReadable (source : String) : Prop := ∃ found, read source = .ok found

theorem isReadable_iff {source : String} : IsReadable source ↔ unread source.toList = [] := by
  simp only [IsReadable, read_eq_ok_iff, exists_and_left, exists_eq', and_true]

theorem skipLines_of_feed {text rest : List Char} (h : lineFeed? (skipBlank text) = some rest) :
    skipLines text = skipLines rest := by
  rw [skipLines]
  split
  · next heq =>
    obtain rfl := Option.some.inj (heq.symm.trans h)
    rfl
  · next heq => cases heq.symm.trans h

/-- A statement takes its line, and if it is a rule, lines that could be read without it. -/
def ReadsOn (after : List Char → Statement × List Char) : Prop :=
  ∀ rest, (statements (after rest).2).2 = (statements (skipLines rest)).2

theorem StopsBehindLine.readsOn {after : List Char → Statement × List Char}
    (h : StopsBehindLine after) : ReadsOn after := by
  obtain ⟨s, hafter⟩ := h
  intro rest
  rw [hafter]

theorem isDecided_statement? {place : List Char → List Char} (h : OnLine place) :
    IsDecided ReadsOn fun rest => statement? (place rest) := by
  have hrule : IsDecided ReadsOn fun rest => ruleLines? (place rest) := by
    unfold ruleLines?
    refine (isDecided_keyword? h (isIdentifier_of_mem_keywords "rule" (by decide)).2).bind
      fun gap hgap => ?_
    refine (isDecided_identifier? hgap).bind_stops fun name last hlast => ?_
    refine (isDecided_lineEnd? hlast).bind ?_
    rintro _ rfl
    exact .something _ (fun rest => statements_indentedSettings (skipLines rest)) fun _ => rfl
  have hsetting : IsDecided ReadsOn fun rest =>
      (settingLine? (place rest)).map fun read => (Statement.setting read.1, read.2) := by
    cases isDecided_settingLine? h with
    | nothing hnone => exact .nothing fun rest => by simp only [hnone]; rfl
    | something after hafter hsome =>
      obtain ⟨s, hs⟩ := hafter
      exact .something _ (StopsBehindLine.readsOn ⟨.setting s, fun _ => rfl⟩) fun rest => by
        simp only [hsome, hs]
        rfl
  exact ((isDecided_aliasLine? h).mono fun _ => StopsBehindLine.readsOn).or <|
    ((isDecided_defineLine? h).mono fun _ => StopsBehindLine.readsOn).or <|
    ((isDecided_entryLine? h).mono fun _ => StopsBehindLine.readsOn).or <|
    ((isDecided_environmentLine? h).mono fun _ => StopsBehindLine.readsOn).or <| hrule.or hsetting

/-- Either the first line can be read, and then the lines behind it are read as if they stood alone,
    or reading stops on the first line, whatever stands behind it. -/
theorem unread_line {line : List Char} (h : '\n' ∉ line) :
    (∀ rest, unread (line ++ '\n' :: rest) = unread rest) ∨
      ∀ rest, unread (line ++ '\n' :: rest) = skipBlank line ++ '\n' :: rest := by
  have hstart : '\n' ∉ skipBlank line := fun hmem => h ((skipBlank_suffix line).subset hmem)
  unfold unread
  rcases lineFeed?_append_feed hstart with hblank | hnone
  · refine .inl fun rest => ?_
    have hline : lineFeed? (skipBlank (line ++ '\n' :: rest)) = some rest := by
      rw [skipBlank_append_feed, hblank]
    rw [skipLines_of_feed hline]
  · have hskip : ∀ rest, skipLines (line ++ '\n' :: rest) = line ++ '\n' :: rest := fun rest =>
      StartsLine.skipLines_eq (by rw [StartsLine, skipBlank_append_feed, hnone])
    cases isDecided_statement? (.here h) with
    | nothing hstop =>
      refine .inr fun rest => ?_
      rw [hskip, statements_of_none (hstop rest), skipBlank_append_feed]
    | something after hafter hreads =>
      refine .inl fun rest => ?_
      rw [hskip, statements_of_some (hreads rest), hafter]

/-! ## The line of an error -/

/-- The first lines of a text, each with its line feed if it has one. -/
def firstLines : Nat → List Char → List Char
  | 0, _ => []
  | _ + 1, [] => []
  | n + 1, c :: rest => c :: firstLines (if c = '\n' then n else n + 1) rest

theorem firstLines_zero (text : List Char) : firstLines 0 text = [] := by
  cases text <;> rfl

theorem firstLines_line {line : List Char} (h : '\n' ∉ line) (n : Nat) (rest : List Char) :
    firstLines (n + 1) (line ++ '\n' :: rest) = line ++ '\n' :: firstLines n rest := by
  induction line with
  | nil => rfl
  | cons c more ih =>
    rw [List.mem_cons, not_or] at h
    rw [List.cons_append, firstLines, if_neg (Ne.symm h.1), ih h.2]
    rfl

theorem firstLines_last {line : List Char} (h : '\n' ∉ line) (n : Nat) :
    firstLines (n + 1) line = line := by
  induction line with
  | nil => rfl
  | cons c more ih =>
    rw [List.mem_cons, not_or] at h
    rw [firstLines, if_neg (Ne.symm h.1), ih h.2]

/-- What holds of every text if it holds of a line, and of a text with a line before it. -/
@[elab_as_elim]
theorem line_induction {motive : List Char → Prop}
    (last : ∀ line, '\n' ∉ line → motive line)
    (line : ∀ line rest, '\n' ∉ line → motive rest → motive (line ++ '\n' :: rest))
    (text : List Char) : motive text := by
  induction hlength : text.length using Nat.strong_induction_on generalizing text with
  | _ n ih =>
    subst hlength
    by_cases hfeed : '\n' ∈ text
    · obtain ⟨first, rest, rfl, hfirst⟩ := List.eq_append_cons_of_mem hfeed
      refine line first rest hfirst (ih _ ?_ rest rfl)
      rw [List.length_append, List.length_cons]
      omega
    · exact last text hfeed

theorem read_eq_error_iff {source : String} {e : ReadError} :
    read source = .error e ↔ unread source.toList ≠ [] ∧ unreadLine source.toList = e.line := by
  rw [read_eq_ite]
  split
  · next h => simp [List.isEmpty_iff.1 h]
  · next h =>
    rw [List.isEmpty_iff] at h
    rw [Except.error.injEq, and_iff_right h, ← ReadError.mk.injEq]

theorem length_statements_le (text : List Char) : (statements text).2.length ≤ text.length := by
  fun_induction statements text with
  | case1 text s rest h found rest' heq ih =>
    rw [heq] at ih
    exact ih.trans (length_statement?_lt h).le
  | case2 text h => exact Nat.le_refl _

theorem length_unread_le (text : List Char) : (unread text).length ≤ text.length :=
  (length_skipBlank_le _).trans ((length_statements_le _).trans (length_skipLines_le text))

theorem unread_nil : unread [] = [] :=
  List.length_eq_zero_iff.1 (Nat.le_zero.1 (length_unread_le []))

theorem unreadLine_last {line : List Char} (h : '\n' ∉ line) : unreadLine line = 1 := by
  rw [unreadLine, List.count_eq_zero_of_not_mem fun hmem => h (List.mem_of_mem_take hmem)]

/-- Reading that goes on behind a line counts it. -/
theorem unreadLine_of_line {line rest : List Char} (h : '\n' ∉ line)
    (hunread : unread (line ++ '\n' :: rest) = unread rest) :
    unreadLine (line ++ '\n' :: rest) = unreadLine rest + 1 := by
  have hlength : (line ++ '\n' :: rest).length - (unread rest).length
      = line.length + (rest.length - (unread rest).length + 1) := by
    have := length_unread_le rest
    rw [List.length_append, List.length_cons]
    omega
  rw [unreadLine, hunread, hlength, List.take_length_add_append, List.take_succ_cons,
    List.count_append, List.count_eq_zero_of_not_mem h, List.count_cons_self, unreadLine]
  omega

/-- Reading that stops on a line does not count it. -/
theorem unreadLine_of_stop {line rest : List Char} (h : '\n' ∉ line)
    (hunread : unread (line ++ '\n' :: rest) = skipBlank line ++ '\n' :: rest) :
    unreadLine (line ++ '\n' :: rest) = 1 := by
  have hlength : (line ++ '\n' :: rest).length - (skipBlank line ++ '\n' :: rest).length
      ≤ line.length := by
    rw [List.length_append, List.length_append]
    omega
  rw [unreadLine, hunread, List.take_append_of_le_length hlength,
    List.count_eq_zero_of_not_mem fun hmem => h (List.mem_of_mem_take hmem)]

/-- If a text can be read, its first lines can be, too. If not, then reading stops on the first line
    up to which it cannot be. The induction is on the lines. -/
theorem unread_firstLines (text : List Char) :
    (unread text = [] → ∀ n, unread (firstLines n text) = []) ∧
      (unread text ≠ [] → unread (firstLines (unreadLine text) text) ≠ [] ∧
        ∀ n < unreadLine text, unread (firstLines n text) = []) := by
  induction text using line_induction with
  | last line h =>
    refine ⟨fun hread n => ?_, fun hstop => ?_⟩
    · cases n with
      | zero => rw [firstLines_zero, unread_nil]
      | succ n => rw [firstLines_last h, hread]
    · rw [unreadLine_last h, firstLines_last h]
      refine ⟨hstop, fun n hn => ?_⟩
      rw [Nat.lt_one_iff.1 hn, firstLines_zero, unread_nil]
  | line line rest h ih =>
    rcases unread_line h with hreads | hstops
    · have hfirst : ∀ n, unread (firstLines (n + 1) (line ++ '\n' :: rest))
          = unread (firstLines n rest) := fun n => by rw [firstLines_line h, hreads]
      rw [unreadLine_of_line h (hreads rest), hreads, hfirst]
      refine ⟨fun hread n => ?_, fun hstop => ⟨(ih.2 hstop).1, fun n hn => ?_⟩⟩
      · cases n with
        | zero => rw [firstLines_zero, unread_nil]
        | succ n => rw [hfirst, ih.1 hread]
      · cases n with
        | zero => rw [firstLines_zero, unread_nil]
        | succ n => rw [hfirst, (ih.2 hstop).2 n (Nat.lt_of_succ_lt_succ hn)]
    · have hne : ∀ rest, unread (line ++ '\n' :: rest) ≠ [] := fun rest => by simp [hstops]
      refine ⟨fun hread => absurd hread (hne rest), fun _ => ?_⟩
      rw [unreadLine_of_stop h (hstops rest), firstLines_line h]
      refine ⟨hne _, fun n hn => ?_⟩
      rw [Nat.lt_one_iff.1 hn, firstLines_zero, unread_nil]

/-- Reading fails with an error on a line if and only if the file cannot be read up to this line,
    and can be read up to each line before. -/
theorem read_eq_error_iff_first (source : String) (e : ReadError) :
    read source = .error e ↔
      ¬ IsReadable (.ofList (firstLines e.line source.toList)) ∧
        ∀ n < e.line, IsReadable (.ofList (firstLines n source.toList)) := by
  simp only [isReadable_iff, String.toList_ofList]
  obtain ⟨hread, hstop⟩ := unread_firstLines source.toList
  rw [read_eq_error_iff]
  constructor
  · rintro ⟨hunread, hline⟩
    rw [← hline]
    exact hstop hunread
  · rintro ⟨hlast, hbefore⟩
    have hunread : unread source.toList ≠ [] := fun hall => hlast (hread hall e.line)
    obtain ⟨hlast', hbefore'⟩ := hstop hunread
    refine ⟨hunread, Nat.le_antisymm ?_ ?_⟩
    · exact Nat.le_of_not_lt fun hlt => hlast (hbefore' _ hlt)
    · exact Nat.le_of_not_lt fun hlt => hlast' (hbefore _ hlt)

example : read "x = 1\nrule r\n  y = 2\n  z\nw\n" = .error ⟨4⟩ := by decide +kernel

end Bundler.Settings
