import Bundler.Proofs.Settings.Lines
import Bundler.Proofs.Text.Trim

set_option autoImplicit false

/-! # Values that have to be there

Entries, aliases and constants have to have a value. What is asked for is a character behind the
equals sign, and the value is what is left of the line without the white space around it. So the
values that are read are those of the lines that declare something, in order and trimmed
(`filterMap_required?_of_read`), and one is empty exactly if its line goes on with white space only
(`required_ne_empty_iff`).

Which lines declare something is said of each line alone (`declared?`): other lines of a file that
can be read are blank, hold comments, settings, environment variables and the names of rules. -/

namespace Bundler.Settings

/-! ## Lines that declare something -/

/-- The path or literal of a statement that has to have one. -/
def Statement.required? : Statement → Option String
  | .aliasFor _ path => some path
  | .define _ literal => some literal
  | .entry _ path => some path
  | .environment _ _ | .rule _ _ | .setting _ => none

/-- The words that start the statements which have to have a value. -/
def declaringWords : List String := ["alias", "define", "entry"]

/-- What stands behind the first equals sign of a text, if a name stands before it. -/
def assigned? (text : List Char) : Option (List Char) :=
  if (text.takeWhile (· ≠ '=')).all isBlank then none
  else (text.dropWhile (· ≠ '=')).tail?

/-- What stands behind the equals sign of a line that declares an entry, an alias or a constant. -/
def declared? (line : List Char) : Option (List Char) :=
  let start := line.dropWhile isBlank
  if .ofList (start.takeWhile isWordChar) ∈ declaringWords then
    assigned? (start.dropWhile isWordChar)
  else none

/-- What the lines of a text declare. -/
def declarations (text : List Char) : List (List Char) :=
  (text.splitOn '\n').filterMap declared?

theorem assigned?_append {name : List Char} (hsign : '=' ∉ name)
    (hname : ∃ c ∈ name, isBlank c = false) (back : List Char) :
    assigned? (name ++ '=' :: back) = some back := by
  have hchars : ∀ c ∈ name, decide (c ≠ '=') = true := fun c hc =>
    decide_eq_true fun heq => hsign (heq ▸ hc)
  have hend : ('=' :: back).head?.any (fun c => decide (c ≠ '=')) = false := rfl
  obtain ⟨htake, hdrop⟩ := Text.takeWhile_append_of_head hchars hend
  unfold assigned?
  rw [htake, hdrop, if_neg]
  · rfl
  · simpa using hname

theorem assigned?_blank {gap : List Char} (hgap : ∀ c ∈ gap, isBlank c = true)
    (back : List Char) : assigned? (gap ++ '=' :: back) = none := by
  have hchars : ∀ c ∈ gap, decide (c ≠ '=') = true := by
    rintro c hc
    refine decide_eq_true ?_
    rintro rfl
    cases hgap _ hc
  have hend : ('=' :: back).head?.any (fun c => decide (c ≠ '=')) = false := rfl
  obtain ⟨htake, -⟩ := Text.takeWhile_append_of_head hchars hend
  unfold assigned?
  rw [htake, if_pos (List.all_eq_true.2 hgap)]

/-! ## A line and what is behind it -/

/-- The first line of a text. -/
def lineOf (text : List Char) : List Char := text.takeWhile (· ≠ '\n')

/-- A text from its first line feed on. -/
def behindLine (text : List Char) : List Char := text.dropWhile (· ≠ '\n')

theorem lineOf_append {left : List Char} (h : '\n' ∉ left) (rest : List Char) :
    lineOf (left ++ rest) = left ++ lineOf rest :=
  List.takeWhile_append_of_pos fun _ hc => decide_eq_true fun heq => h (heq ▸ hc)

theorem behindLine_append {left : List Char} (h : '\n' ∉ left) (rest : List Char) :
    behindLine (left ++ rest) = behindLine rest :=
  List.dropWhile_append_of_pos fun _ hc => decide_eq_true fun heq => h (heq ▸ hc)

theorem behindLine_dropWhile {p : Char → Bool} (hp : p '\n' = false) (text : List Char) :
    behindLine (text.dropWhile p) = behindLine text := by
  have hchars : '\n' ∉ text.takeWhile p := fun hmem => by
    rw [List.mem_takeWhile_imp hmem] at hp
    cases hp
  rw [← behindLine_append hchars, List.takeWhile_append_dropWhile]

theorem behindLine_behindLine (text : List Char) : behindLine (behindLine text) = behindLine text :=
  List.dropWhile_idempotent _ _

theorem behindLine_cases (text : List Char) :
    text = lineOf text ∧ behindLine text = [] ∨
      ∃ rest, text = lineOf text ++ '\n' :: rest ∧ behindLine text = '\n' :: rest := by
  have htext : lineOf text ++ behindLine text = text := List.takeWhile_append_dropWhile
  cases h : behindLine text with
  | nil =>
    rw [h, List.append_nil] at htext
    exact .inl ⟨htext.symm, rfl⟩
  | cons c rest =>
    have hc : ([c].head?.any fun c => decide (c ≠ '\n')) = false := by
      have hhead := Text.any_head?_dropWhile (fun c => decide (c ≠ '\n')) text
      rwa [show text.dropWhile _ = c :: rest from h] at hhead
    obtain rfl : c = '\n' := by simpa using hc
    exact .inr ⟨rest, by rw [← h, htext], rfl⟩

theorem feed_not_mem_lineOf (text : List Char) : '\n' ∉ lineOf text := fun hmem => by
  simpa using List.mem_takeWhile_imp hmem

theorem declarations_eq (text : List Char) :
    declarations text
      = (declared? (lineOf text)).toList ++ declarations (behindLine text).tail := by
  have hline := feed_not_mem_lineOf text
  rcases behindLine_cases text with ⟨htext, hbehind⟩ | ⟨rest, htext, hbehind⟩
  · rw [hbehind]
    have hlines : text.splitOn '\n' = [lineOf text] := by
      rw [← htext, List.splitOn_eq_singleton (htext ▸ hline)]
    rw [declarations, hlines, List.filterMap_cons]
    cases declared? (lineOf text) <;> rfl
  · rw [hbehind]
    have hlines : text.splitOn '\n' = lineOf text :: rest.splitOn '\n' := by
      conv => lhs; rw [htext]
      refine List.splitOnP_append_cons_of_forall_mem (fun c hc => beq_false_of_ne ?_) _ rfl _
      rintro rfl
      exact hline hc
    rw [declarations, hlines, List.filterMap_cons]
    cases declared? (lineOf text) <;> rfl

/-! ## Readers stay on their line -/

/-- Behind blanks there may be a comment, which ends with its line. -/
theorem skipBlank_cases (text : List Char) :
    skipBlank text = text.dropWhile isBlank ∨
      ∃ comment, text.dropWhile isBlank = '#' :: comment ∧ skipBlank text = behindLine comment := by
  unfold skipBlank
  split
  · next comment heq => exact .inr ⟨comment, heq, rfl⟩
  · exact .inl rfl

theorem dropWhile_eq_of_skipBlank {text : List Char} {c : Char} {rest : List Char}
    (h : skipBlank text = c :: rest) (hc : c ≠ '\n') : text.dropWhile isBlank = c :: rest := by
  rcases skipBlank_cases text with heq | ⟨comment, -, heq⟩
  · rw [← heq, h]
  · rcases behindLine_cases comment with ⟨-, hbehind⟩ | ⟨next, -, hbehind⟩
    · cases h.symm.trans (heq.trans hbehind)
    · exact absurd (List.cons.inj (h.symm.trans (heq.trans hbehind))).1 hc

theorem behindLine_skipBlank (text : List Char) :
    behindLine (skipBlank text) = behindLine text := by
  rw [← behindLine_dropWhile (p := isBlank) rfl text]
  rcases skipBlank_cases text with heq | ⟨comment, hstart, heq⟩
  · rw [heq]
  · rw [heq, hstart]
    exact behindLine_behindLine comment

theorem behindLine_keyword? {word : String} (hword : word ∈ keywords) {text rest : List Char}
    (h : keyword? word text = some rest) : behindLine rest = behindLine text := by
  rw [keyword?_eq_ite hword] at h
  split at h
  · obtain rfl := Option.some.inj h
    rw [behindLine_dropWhile (by decide), behindLine_skipBlank]
  · cases h

theorem behindLine_name? {text rest : List Char} {name : String}
    (h : name? text = some (name, rest)) : behindLine rest = behindLine text := by
  unfold name? at h
  dsimp only at h
  split at h
  · obtain ⟨-, rfl⟩ := Prod.mk.inj (Option.some.inj h)
    rw [behindLine_dropWhile (by decide), behindLine_skipBlank]
  · cases h

theorem behindLine_identifier? {text rest : List Char} {name : String}
    (h : identifier? text = some (name, rest)) : behindLine rest = behindLine text := by
  unfold identifier? at h
  dsimp only at h
  split at h
  · obtain ⟨-, rfl⟩ := Prod.mk.inj (Option.some.inj h)
    rw [behindLine_dropWhile (by decide), behindLine_skipBlank]
  · cases h

theorem behindLine_equals? {text rest : List Char} (h : equals? text = some rest) :
    behindLine rest = behindLine text := by
  unfold equals? at h
  split at h
  · next heq =>
    obtain rfl := Option.some.inj h
    rw [← behindLine_skipBlank text, heq]
    rfl
  · cases h

theorem behindLine_valueOrEmpty (text : List Char) :
    behindLine (valueOrEmpty text).2 = behindLine text := by
  unfold valueOrEmpty value?
  split
  · exact behindLine_behindLine text
  · rfl

theorem behindLine_default? (text : List Char) :
    behindLine (default? text).2 = behindLine text := by
  unfold default?
  split
  · next rest heq => exact (behindLine_valueOrEmpty rest).trans (behindLine_equals? heq)
  · rfl

theorem lineFeed?_eq_some {text rest : List Char} (h : lineFeed? text = some rest) :
    behindLine text = '\n' :: rest := by
  unfold lineFeed? at h
  split at h
  · obtain rfl := Option.some.inj h
    rfl
  · obtain rfl := Option.some.inj h
    rfl
  · cases h

theorem lineOf_takeWhile {p : Char → Bool} (hp : p '\n' = false) (text : List Char) :
    (lineOf text).takeWhile p = text.takeWhile p := by
  unfold lineOf
  rw [List.takeWhile_takeWhile]
  refine congrArg (List.takeWhile · text) (funext fun c => ?_)
  by_cases hc : c = '\n'
  · subst hc
    simp [hp]
  · simp [hc]

theorem lineOf_dropWhile {p : Char → Bool} (hp : p '\n' = false) (text : List Char) :
    (lineOf text).dropWhile p = lineOf (text.dropWhile p) := by
  induction text with
  | nil => rfl
  | cons c rest ih =>
    by_cases hfeed : c = '\n'
    · subst hfeed
      simp [lineOf, hp]
    · have hline : lineOf (c :: rest) = c :: lineOf rest :=
        List.takeWhile_cons_of_pos (decide_eq_true hfeed)
      rw [hline, List.dropWhile_cons, List.dropWhile_cons, ih]
      split
      · rfl
      · rw [hline]

/-- A declaration is recognized where words are read, behind blanks. -/
theorem declared?_lineOf (text : List Char) :
    declared? (lineOf text) =
      if .ofList ((skipBlank text).takeWhile isWordChar) ∈ declaringWords then
        assigned? (lineOf ((skipBlank text).dropWhile isWordChar))
      else none := by
  unfold declared?
  dsimp only
  rw [lineOf_dropWhile rfl, lineOf_takeWhile rfl, lineOf_dropWhile rfl]
  rcases skipBlank_cases text with heq | ⟨comment, hstart, heq⟩
  · rw [heq]
  · -- no word starts with a comment, nor with the end of its line
    rw [hstart, heq]
    rcases behindLine_cases comment with ⟨-, hbehind⟩ | ⟨rest, -, hbehind⟩
    · rw [hbehind]
      rfl
    · rw [hbehind]
      rfl

/-! ## Declarations of a text -/

theorem declarations_skipLines (text : List Char) :
    declarations (skipLines text) = declarations text := by
  fun_induction skipLines text with
  | case1 text rest h ih =>
    have hnone : declared? (lineOf text) = none := by
      rw [declared?_lineOf]
      unfold lineFeed? at h
      split at h
      · next heq => rw [heq]; rfl
      · next heq => rw [heq]; rfl
      · cases h
    have hbehind := lineFeed?_eq_some h
    rw [behindLine_skipBlank] at hbehind
    rw [ih, declarations_eq text, hnone, hbehind]
    rfl
  | case2 text h => rfl

/-- A statement that ends with its line. -/
theorem declarations_of_lineEnd? {text gap rest : List Char}
    (hbehind : behindLine gap = behindLine text) (h : lineEnd? gap = some rest) :
    declarations text = (declared? (lineOf text)).toList ++ declarations rest := by
  rw [declarations_eq text, ← hbehind]
  unfold lineEnd? at h
  split at h
  · next next heq =>
    obtain rfl := Option.some.inj h
    have hfeed := lineFeed?_eq_some heq
    rw [behindLine_skipBlank] at hfeed
    rw [hfeed, declarations_skipLines]
    rfl
  · split at h
    · next hempty =>
      obtain rfl := Option.some.inj h
      rw [List.isEmpty_iff.1 hempty]
      rfl
    · cases h

theorem declared?_of_keyword? {word : String} (hword : word ∈ keywords) {text rest : List Char}
    (h : keyword? word text = some rest) :
    declared? (lineOf text) = if word ∈ declaringWords then assigned? (lineOf rest) else none := by
  rw [keyword?_eq_ite hword] at h
  split at h
  · next heq =>
    obtain rfl := Option.some.inj h
    rw [declared?_lineOf, heq, String.ofList_toList]
  · cases h

theorem exists_gap_of_equals? {text back : List Char} (h : equals? text = some back) :
    ∃ gap, (∀ c ∈ gap, isBlank c = true) ∧ text = gap ++ '=' :: back := by
  unfold equals? at h
  split at h
  · next heq =>
    obtain rfl := Option.some.inj h
    refine ⟨text.takeWhile isBlank, fun c hc => List.mem_takeWhile_imp hc, ?_⟩
    rw [← dropWhile_eq_of_skipBlank heq (by decide), List.takeWhile_append_dropWhile]
  · cases h

theorem not_mem_of_isBlank {gap : List Char} (h : ∀ c ∈ gap, isBlank c = true) :
    '=' ∉ gap ∧ '\n' ∉ gap :=
  ⟨fun hmem => absurd (h _ hmem) (by decide), fun hmem => absurd (h _ hmem) (by decide)⟩

/-- No setting declares anything, whatever it is called. -/
theorem declared?_of_identifier? {text gap back : List Char} {name : String}
    (hname : identifier? text = some (name, gap)) (hequals : equals? gap = some back) :
    declared? (lineOf text) = none := by
  unfold identifier? at hname
  dsimp only at hname
  split at hname
  · obtain ⟨-, rfl⟩ := Prod.mk.inj (Option.some.inj hname)
    obtain ⟨blanks, hblanks, hgap⟩ := exists_gap_of_equals? hequals
    rw [declared?_lineOf, hgap, lineOf_append (not_mem_of_isBlank hblanks).2]
    split
    · exact assigned?_blank hblanks (lineOf back)
    · rfl
  · cases hname

theorem declarations_of_settingLine? {text rest : List Char} {s : Setting}
    (h : settingLine? text = some (s, rest)) : declarations text = declarations rest := by
  simp only [settingLine?, Option.bind_eq_bind, Option.bind_eq_some_iff] at h
  obtain ⟨⟨name, gap⟩, hname, next, hequals, last, hlast, heq⟩ := h
  obtain ⟨-, rfl⟩ := Prod.mk.inj (Option.some.inj heq)
  have hbehind : behindLine (valueOrEmpty next).2 = behindLine text := by
    rw [behindLine_valueOrEmpty, behindLine_equals? hequals, behindLine_identifier? hname]
  rw [declarations_of_lineEnd? hbehind hlast, declared?_of_identifier? hname hequals]
  rfl

theorem declarations_dropWhile (text : List Char) :
    declarations (text.dropWhile isBlank) = declarations text := by
  rw [declarations_eq, behindLine_dropWhile rfl, declared?_lineOf, skipBlank_dropWhile,
    ← declared?_lineOf, ← declarations_eq]

theorem declarations_indentedSettings (text : List Char) :
    declarations (indentedSettings text).2 = declarations text := by
  fun_induction indentedSettings text with
  | case1 text s rest h settings rest' heq ih =>
    unfold indented? at h
    split at h
    · rw [heq] at ih
      rw [ih, ← declarations_of_settingLine? h, declarations_dropWhile]
    · cases h
  | case2 text h => rfl

/-- A name and an equals sign, as they are read. -/
theorem assigned?_of_equals? {p q : Char → Bool} (hpq : ∀ c, p c = true → q c = true)
    (hq : ∀ c, q c = true → c ≠ '=' ∧ c ≠ '\n' ∧ isBlank c = false) {text back : List Char}
    (hname : (skipBlank text).head?.any p = true)
    (hequals : equals? ((skipBlank text).dropWhile q) = some back) :
    assigned? (lineOf text) = some (lineOf back) := by
  obtain ⟨c, more, hstart⟩ : ∃ c more, skipBlank text = c :: more := by
    cases hstart : skipBlank text with
    | nil => rw [hstart] at hname; cases hname
    | cons c more => exact ⟨c, more, rfl⟩
  rw [hstart] at hname hequals
  have hc : q c = true := hpq c hname
  have hdrop := dropWhile_eq_of_skipBlank hstart (hq c hc).2.1
  obtain ⟨gap, hgap, hrest⟩ := exists_gap_of_equals? hequals
  let name := (c :: more).takeWhile q
  have hblanks : ∀ d ∈ text.takeWhile isBlank, isBlank d = true := fun _ hd =>
    List.mem_takeWhile_imp hd
  have hchars : ∀ d ∈ name, q d = true := fun _ hd => List.mem_takeWhile_imp hd
  have htext : text = (text.takeWhile isBlank ++ name ++ gap) ++ '=' :: back := by
    rw [List.append_assoc, List.append_assoc, ← hrest, List.takeWhile_append_dropWhile, ← hdrop,
      List.takeWhile_append_dropWhile]
  -- neither the blanks nor the name hold the sign, so the first one is that of the assignment
  have hsign : '=' ∉ text.takeWhile isBlank ++ name ++ gap := by
    simp only [List.mem_append, not_or]
    exact ⟨⟨(not_mem_of_isBlank hblanks).1, fun hmem => (hq _ (hchars _ hmem)).1 rfl⟩,
      (not_mem_of_isBlank hgap).1⟩
  have hfeed : '\n' ∉ text.takeWhile isBlank ++ name ++ gap := by
    simp only [List.mem_append, not_or]
    exact ⟨⟨(not_mem_of_isBlank hblanks).2, fun hmem => (hq _ (hchars _ hmem)).2.1 rfl⟩,
      (not_mem_of_isBlank hgap).2⟩
  have hmem : c ∈ name := by
    show c ∈ (c :: more).takeWhile q
    rw [List.takeWhile_cons_of_pos hc]
    exact List.mem_cons_self
  rw [htext, lineOf_append hfeed]
  refine assigned?_append hsign ⟨c, ?_, (hq c hc).2.2⟩ (lineOf back)
  exact List.mem_append_left _ (List.mem_append_right _ hmem)

theorem assigned?_of_identifier? {text gap back : List Char} {name : String}
    (hname : identifier? text = some (name, gap)) (hequals : equals? gap = some back) :
    assigned? (lineOf text) = some (lineOf back) := by
  unfold identifier? at hname
  dsimp only at hname
  split at hname
  · next hhead =>
    obtain ⟨-, rfl⟩ := Prod.mk.inj (Option.some.inj hname)
    refine assigned?_of_equals? (fun c hc => ?_) (fun c hc => ?_) hhead hequals
    · simp only [isWordChar, Bool.or_eq_true] at hc ⊢
      exact hc.imp_left .inl
    · obtain ⟨hblank, -, hfeed, -⟩ := ne_of_isWordChar hc
      refine ⟨?_, hfeed, hblank⟩
      rintro rfl
      cases hc
  · cases hname

theorem assigned?_of_name? {text gap back : List Char} {name : String}
    (hname : name? text = some (name, gap)) (hequals : equals? gap = some back) :
    assigned? (lineOf text) = some (lineOf back) := by
  unfold name? at hname
  dsimp only at hname
  split at hname
  · next hhead =>
    obtain ⟨-, rfl⟩ := Prod.mk.inj (Option.some.inj hname)
    refine assigned?_of_equals? (fun c hc => hc) (fun c hc => ?_) hhead hequals
    simp only [isNameChar, Bool.not_eq_true', Bool.or_eq_false_iff, beq_eq_false_iff_ne] at hc
    obtain ⟨⟨⟨⟨hspace, htab⟩, -⟩, hfeed⟩, hsign⟩ := hc
    exact ⟨hsign, hfeed, by simp [isBlank, hspace, htab]⟩
  · cases hname

/-! ## Statements -/

/-- Whether the lines of a statement declare what it has to have, and nothing else. -/
def DeclaresAs (text : List Char) (s : Statement) (rest : List Char) : Prop :=
  ∃ backs, declarations text = backs ++ declarations rest ∧ [] ∉ backs ∧
    s.required?.toList = backs.map fun back => .ofList (Text.trim back)

theorem declaresAs_of_none {text rest : List Char} {s : Statement} (hs : s.required? = none)
    (h : declarations text = declarations rest) : DeclaresAs text s rest :=
  ⟨[], h, List.not_mem_nil, by rw [hs]; rfl⟩

theorem declaresAs_of_declarationLine? {word : String} (hkeyword : word ∈ keywords)
    (hword : word ∈ declaringWords) {readName : List Char → Option (String × List Char)}
    (hbehind : ∀ {text rest name}, readName text = some (name, rest) →
      behindLine rest = behindLine text)
    (hassigned : ∀ {text gap back name}, readName text = some (name, gap) →
      equals? gap = some back → assigned? (lineOf text) = some (lineOf back))
    {make : String → String → Statement}
    (hmake : ∀ name value, (make name value).required? = some value)
    {text rest : List Char} {s : Statement}
    (h : declarationLine? word readName make text = some (s, rest)) : DeclaresAs text s rest := by
  simp only [declarationLine?, Option.bind_eq_bind, Option.bind_eq_some_iff] at h
  obtain ⟨gap, hread, ⟨name, sign⟩, hname, next, hequals, ⟨value, last⟩, hvalue, _, hlast, heq⟩ := h
  obtain ⟨rfl, rfl⟩ := Prod.mk.inj (Option.some.inj heq)
  unfold value? at hvalue
  split at hvalue
  · next hhead =>
    obtain ⟨rfl, rfl⟩ := Prod.mk.inj (Option.some.inj hvalue)
    have hline : behindLine (behindLine next) = behindLine text := by
      rw [behindLine_behindLine, behindLine_equals? hequals, hbehind hname,
        behindLine_keyword? hkeyword hread]
    have hdeclares := declarations_of_lineEnd? hline hlast
    rw [declared?_of_keyword? hkeyword hread, if_pos hword, hassigned hname hequals] at hdeclares
    refine ⟨[lineOf next], hdeclares, ?_, by rw [hmake]; rfl⟩
    -- what is asked for is that a character stands before the line feed
    cases next with
    | nil => cases hhead
    | cons c more => simpa [lineOf] using hhead
  · cases hvalue

theorem declaresAs_of_environmentLine? {text rest : List Char} {s : Statement}
    (h : environmentLine? text = some (s, rest)) : DeclaresAs text s rest := by
  simp only [environmentLine?, Option.bind_eq_bind, Option.bind_eq_some_iff] at h
  obtain ⟨gap, hword, ⟨name, sign⟩, hname, _, hlast, heq⟩ := h
  obtain ⟨rfl, rfl⟩ := Prod.mk.inj (Option.some.inj heq)
  have hbehind : behindLine (default? sign).2 = behindLine text := by
    rw [behindLine_default?, behindLine_identifier? hname, behindLine_keyword? (by decide) hword]
  refine declaresAs_of_none rfl ?_
  rw [declarations_of_lineEnd? hbehind hlast, declared?_of_keyword? (by decide) hword,
    if_neg (by decide)]
  rfl

theorem declaresAs_of_ruleLines? {text rest : List Char} {s : Statement}
    (h : ruleLines? text = some (s, rest)) : DeclaresAs text s rest := by
  simp only [ruleLines?, Option.bind_eq_bind, Option.bind_eq_some_iff] at h
  obtain ⟨gap, hword, ⟨name, last⟩, hname, next, hlast, heq⟩ := h
  obtain ⟨rfl, rfl⟩ := Prod.mk.inj (Option.some.inj heq)
  have hbehind : behindLine last = behindLine text := by
    rw [behindLine_identifier? hname, behindLine_keyword? (by decide) hword]
  refine declaresAs_of_none rfl ?_
  rw [declarations_indentedSettings, declarations_of_lineEnd? hbehind hlast,
    declared?_of_keyword? (by decide) hword, if_neg (by decide)]
  rfl

/-- Each statement takes the lines that declare what it has. -/
theorem declaresAs_of_statement? {text rest : List Char} {s : Statement}
    (h : statement? text = some (s, rest)) : DeclaresAs text s rest := by
  rw [statement?_eq_some_iff] at h
  rcases h with halias | hdefine | hentry | henvironment | hrule | ⟨_, _, hsetting, heq⟩
  · exact declaresAs_of_declarationLine? (by decide) (by decide) behindLine_name?
      assigned?_of_name? (fun _ _ => rfl) halias
  · exact declaresAs_of_declarationLine? (by decide) (by decide) behindLine_name?
      assigned?_of_name? (fun _ _ => rfl) hdefine
  · exact declaresAs_of_declarationLine? (by decide) (by decide) behindLine_identifier?
      assigned?_of_identifier? (fun _ _ => rfl) hentry
  · exact declaresAs_of_environmentLine? henvironment
  · exact declaresAs_of_ruleLines? hrule
  · obtain ⟨rfl, rfl⟩ := Prod.mk.inj heq
    exact declaresAs_of_none rfl (declarations_of_settingLine? hsetting)

/-! ## Files -/

theorem declarations_of_skipBlank {text : List Char} (h : skipBlank text = []) :
    declarations text = [] := by
  have hnone : declared? (lineOf text) = none := by
    rw [declared?_lineOf, h]
    rfl
  rw [declarations_eq, hnone, ← behindLine_skipBlank, h]
  rfl

/-- The induction is on the statements of the text. -/
theorem filterMap_required?_of_statements {text : List Char}
    (h : skipBlank (statements text).2 = []) :
    (statements text).1.filterMap Statement.required?
        = (declarations text).map (fun back => .ofList (Text.trim back)) ∧
      [] ∉ declarations text := by
  fun_induction statements text with
  | case1 text s rest hs found rest' heq ih =>
    rw [heq] at ih
    obtain ⟨hfound, hbacks⟩ := ih h
    obtain ⟨backs, hdeclares, hne, hvalue⟩ := declaresAs_of_statement? hs
    rw [hdeclares, List.map_append, ← hvalue, ← hfound, List.mem_append, not_or]
    refine ⟨?_, hne, hbacks⟩
    cases hrequired : s.required? with
    | none => rw [List.filterMap_cons_none hrequired]; rfl
    | some value => rw [List.filterMap_cons_some hrequired]; rfl
  | case2 text hnone =>
    rw [declarations_of_skipBlank h]
    exact ⟨rfl, List.not_mem_nil⟩

/-- The values that are read are those that are declared, without the white space around them, and
    in the same order. Behind the sign of each declaration there is at least one character. -/
theorem filterMap_required?_of_read {source : String} {found : List Statement}
    (h : read source = .ok found) :
    found.filterMap Statement.required?
        = (declarations source.toList).map (fun back => .ofList (Text.trim back)) ∧
      [] ∉ declarations source.toList := by
  obtain ⟨hunread, rfl⟩ := read_eq_ok_iff.1 h
  rw [← declarations_skipLines]
  exact filterMap_required?_of_statements hunread

/-- No entry, alias or constant of a file is without a value if and only if behind the sign of each
    line that declares one there is something other than white space. That there is something, if
    only white space, holds of every file that can be read. -/
theorem required_ne_empty_iff {source : String} {found : List Statement}
    (h : read source = .ok found) :
    ((∀ s ∈ found, s.required? ≠ some "") ↔
      ∀ back ∈ declarations source.toList, ∃ c ∈ back, Unicode.isSpace c = false) ∧
    ∀ back ∈ declarations source.toList, back ≠ [] := by
  obtain ⟨hvalues, hne⟩ := filterMap_required?_of_read h
  refine ⟨?_, fun back hback heq => hne (heq ▸ hback)⟩
  have hfound : (∀ s ∈ found, s.required? ≠ some "") ↔
      "" ∉ found.filterMap Statement.required? := by
    simp [List.mem_filterMap]
  rw [hfound, hvalues]
  simp only [List.mem_map, not_exists, not_and]
  refine forall₂_congr fun back _ => ?_
  rw [String.ofList_eq_empty_iff, Text.trim_eq_nil_iff]
  simp

/-- A file with an alias whose value is white space, and settings that are called like words that
    declare something. -/
def blankAlias : String :=
  "entry main = a.js # b\nalias @ =\t\r\n define =\nrule r\n  entry = \n# entry x = \n"

/-- What is read from it. -/
def blankAliasStatements : List Statement :=
  [.entry "main" "a.js # b", .aliasFor "@" "", .setting ⟨"define", ""⟩, .rule "r" [⟨"entry", ""⟩]]

theorem required_ne_empty_iff_blankAlias :
    read blankAlias = .ok blankAliasStatements ∧
      ((∀ s ∈ blankAliasStatements, s.required? ≠ some "") ↔
        ∀ back ∈ declarations blankAlias.toList, ∃ c ∈ back, Unicode.isSpace c = false) ∧
      ∀ back ∈ declarations blankAlias.toList, back ≠ [] := by
  have hread : read blankAlias = .ok blankAliasStatements := by decide +kernel
  exact ⟨hread, required_ne_empty_iff hread⟩

example : declarations blankAlias.toList = [" a.js # b".toList, "\t\r".toList] := by decide

/-- A blank behind the sign counts as a value, which is then trimmed. -/
theorem read_blank_value : read "entry main = \n" = .ok [.entry "main" ""] ∧
    (Statement.entry "main" "").required? = some "" := by
  decide +kernel

end Bundler.Settings
