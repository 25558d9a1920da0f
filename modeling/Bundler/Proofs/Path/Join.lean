import Bundler.Proofs.Path.Relative

set_option autoImplicit false

/-! # Joined paths

A relative path that is joined to another one adds its segments to the segments of that path, so
that its components come after those of an absolute path (`components_join`). Joining is
associative (`join_assoc`), and a text that is added to a joined path is added to the relative path
(`append_join`). -/

namespace Bundler.Path

variable {p q r : Path}

/-! ## Texts -/

theorem splitSlash_append_slash (text rest : List Char) :
    splitSlash (text ++ '/' :: rest) = splitSlash text ++ splitSlash rest := by
  induction text with
  | nil => rw [List.nil_append, splitSlash_cons_slash]; rfl
  | cons c others ih =>
    by_cases hc : c = '/'
    · rw [hc, List.cons_append, splitSlash_cons_slash, splitSlash_cons_slash, ih, List.cons_append]
    · rw [List.cons_append, splitSlash_cons hc, splitSlash_cons hc, ih]
      cases h : splitSlash others with
      | nil => exact absurd h (splitSlash_ne_nil others)
      | cons first more => rfl

/-- A text without slashes is added to the last segment. -/
theorem splitSlash_append_of_noSlash (text : List Char) {ending : List Char} (h : '/' ∉ ending) :
    ∃ before last, splitSlash text = before ++ [last] ∧
      splitSlash (text ++ ending) = before ++ [last ++ ending] := by
  induction text with
  | nil =>
    refine ⟨[], [], rfl, ?_⟩
    rw [splitSlash_eq_splitOn, List.nil_append, List.splitOn_eq_singleton h]
    rfl
  | cons c others ih =>
    obtain ⟨before, last, hothers, hending⟩ := ih
    by_cases hc : c = '/'
    · refine ⟨[] :: before, last, ?_, ?_⟩
      · rw [hc, splitSlash_cons_slash, hothers, List.cons_append]
      · rw [hc, List.cons_append, splitSlash_cons_slash, hending, List.cons_append]
    · rw [List.cons_append, splitSlash_cons hc, splitSlash_cons hc, hothers, hending]
      cases before with
      | nil => exact ⟨[], c :: last, rfl, rfl⟩
      | cons first more => exact ⟨(c :: first) :: more, last, rfl, rfl⟩

/-- What is read off the segments of a path one by one, if nothing is read off an empty one. -/
theorem filterMap_segments {α : Type} {f : List Char → Option α} (hf : f [] = none) (p : Path) :
    p.segments.filterMap f = (splitSlash p.text.toList).filterMap f := by
  unfold segments
  split
  · next rest htext => rw [htext, splitSlash_cons_slash, List.filterMap_cons_none hf]
  · rfl

theorem mem_components_of_mem_segments {c : Component}
    (h : c ∈ p.segments.filterMap innerComponent) : c ∈ p.components := by
  unfold components
  dsimp only
  split
  · exact List.mem_cons_of_mem _ h
  · split
    · exact List.mem_cons_of_mem _ h
    · exact h

/-- What comes after a slash of a path names components of the path. -/
theorem mem_components_of_append_slash {text : List Char} {c : Component}
    (h : p.text.toList = text ++ '/' :: q.text.toList)
    (hc : c ∈ q.segments.filterMap innerComponent) : c ∈ p.components := by
  apply mem_components_of_mem_segments
  rw [filterMap_segments rfl] at hc ⊢
  rw [h, splitSlash_append_slash, List.filterMap_append]
  exact List.mem_append_right _ hc

/-! ## Joining -/

theorem join_of_isAbsolute (hq : q.isAbsolute = true) (p : Path) : p.join q = q := by
  unfold join
  rw [if_pos hq]

/-- What a relative path is written behind. -/
def beforeJoined (p : Path) : List Char :=
  if p.text.toList = [] ∨ p.text.toList.getLast? = some '/' then p.text.toList
  else p.text.toList ++ ['/']

theorem toList_text_join (hq : q.isAbsolute = false) :
    (p.join q).text.toList = p.beforeJoined ++ q.text.toList := by
  have hempty : p.text.isEmpty = true ↔ p.text.toList = [] := by
    rw [String.isEmpty_iff, ← String.toList_inj, String.toList_empty]
  unfold join beforeJoined
  rw [if_neg (by simp [hq])]
  simp only [Bool.or_eq_true, hempty, beq_iff_eq]
  split <;> simp

/-- It is nothing, or it ends with a slash. -/
theorem beforeJoined_cases (p : Path) :
    p.text.toList = [] ∧ p.beforeJoined = [] ∨
      ∃ text, p.beforeJoined = text ++ ['/'] ∧
        (p.text.toList = text ++ ['/'] ∨ p.text.toList = text ∧ text ≠ []) := by
  unfold beforeJoined
  by_cases hempty : p.text.toList = []
  · rw [if_pos (.inl hempty)]
    exact .inl ⟨hempty, hempty⟩
  · by_cases hslash : p.text.toList.getLast? = some '/'
    · rw [if_pos (.inr hslash)]
      have htext := List.dropLast_append_getLast? '/' hslash
      exact .inr ⟨_, htext.symm, .inl htext.symm⟩
    · rw [if_neg (by simp [hempty, hslash])]
      exact .inr ⟨_, rfl, .inr ⟨rfl, hempty⟩⟩

theorem isAbsolute_join (hq : q.isAbsolute = false) : (p.join q).isAbsolute = p.isAbsolute := by
  unfold isAbsolute at hq ⊢
  rw [toList_text_join hq]
  rcases p.beforeJoined_cases with ⟨htext, hbefore⟩ | ⟨text, hbefore, htext | ⟨htext, hne⟩⟩
  · rw [htext, hbefore, List.nil_append, hq]
    rfl
  · rw [htext, hbefore, List.head?_append_of_ne_nil _ (by simp)]
  · rw [htext, hbefore, List.append_assoc, List.head?_append_of_ne_nil _ hne]

/-- What is read off the segments of a joined path one by one, if nothing is read off an empty
    one. -/
theorem filterMap_segments_join {α : Type} {f : List Char → Option α} (hf : f [] = none)
    (hq : q.isAbsolute = false) :
    (p.join q).segments.filterMap f = p.segments.filterMap f ++ q.segments.filterMap f := by
  simp only [filterMap_segments hf]
  rw [toList_text_join hq]
  rcases p.beforeJoined_cases with ⟨htext, hbefore⟩ | ⟨text, hbefore, htext⟩
  · rw [htext, hbefore, List.nil_append]
    simp [splitSlash, hf]
  · rw [hbefore, List.append_assoc, List.singleton_append, splitSlash_append_slash]
    rcases htext with htext | ⟨htext, -⟩
    · rw [htext, splitSlash_append_slash]
      simp [splitSlash, hf]
    · rw [htext, List.filterMap_append]

theorem components_join (hp : p.isAbsolute = true) (hq : q.isAbsolute = false) :
    (p.join q).components = p.components ++ q.segments.filterMap innerComponent := by
  have habsolute : (p.join q).isAbsolute = true := by rw [isAbsolute_join hq, hp]
  rw [components_of_isAbsolute habsolute, components_of_isAbsolute hp, List.cons_append,
    filterMap_segments_join (by rfl) hq]

/-- A joined path leads to what lies below the first path, unless the second one leads elsewhere. -/
theorem startsWith_join_iff (hp : p.isAbsolute = true) :
    (p.join q).startsWith p = true ↔ (q.isAbsolute = true → q.startsWith p = true) := by
  cases hq : q.isAbsolute with
  | true => simp [join_of_isAbsolute hq]
  | false => simp [startsWith_of_components_eq (components_join hp hq)]

/-- What is written behind a joined path is written behind both paths. -/
theorem beforeJoined_join (hq : q.isAbsolute = false) :
    (p.join q).beforeJoined = p.beforeJoined ++ q.beforeJoined := by
  have htext := toList_text_join hq (p := p)
  have hpos : ∀ p : Path, p.text.toList = [] ∨ p.text.toList.getLast? = some '/' →
      p.beforeJoined = p.text.toList := fun p h => if_pos h
  have hneg : ∀ p : Path, ¬ (p.text.toList = [] ∨ p.text.toList.getLast? = some '/') →
      p.beforeJoined = p.text.toList ++ ['/'] := fun p h => if_neg h
  by_cases hempty : q.text.toList = []
  · rw [hpos q (.inl hempty), hempty, List.append_nil]
    rw [hempty, List.append_nil] at htext
    rw [hpos _ ?_, htext]
    rcases p.beforeJoined_cases with ⟨-, hbefore⟩ | ⟨text, hbefore, -⟩
    · exact .inl (htext.trans hbefore)
    · exact .inr (by rw [htext, hbefore, List.getLast?_concat])
  · have hlast : (p.join q).text.toList.getLast? = q.text.toList.getLast? := by
      rw [htext, List.getLast?_append_of_ne_nil _ hempty]
    by_cases hslash : q.text.toList.getLast? = some '/'
    · rw [hpos q (.inr hslash), hpos _ (.inr (hlast.trans hslash)), htext]
    · have hne : (p.join q).text.toList ≠ [] := by simp [htext, hempty]
      rw [hneg q (by simp [hempty, hslash]), hneg _ (by simp [hne, hlast, hslash]), htext,
        List.append_assoc]

theorem join_assoc (hq : q.isAbsolute = false) (hr : r.isAbsolute = false) :
    (p.join q).join r = p.join (q.join r) := by
  have hqr : (q.join r).isAbsolute = false := by rw [isAbsolute_join hr, hq]
  have htext : ((p.join q).join r).text.toList = (p.join (q.join r)).text.toList := by
    rw [toList_text_join hr, toList_text_join hqr, toList_text_join hr, beforeJoined_join hq,
      List.append_assoc]
  exact congrArg Path.mk (String.toList_inj.1 htext)

theorem isAbsolute_append {ending : String} (hending : '/' ∉ ending.toList)
    (hq : q.isAbsolute = false) : (q.append ending).isAbsolute = false := by
  unfold isAbsolute at hq ⊢
  rw [beq_eq_false_iff_ne] at hq ⊢
  unfold Path.append
  rw [String.toList_append]
  intro hhead
  by_cases hempty : q.text.toList = []
  · rw [hempty, List.nil_append] at hhead
    exact hending (List.mem_of_mem_head? hhead)
  · rw [List.head?_append_of_ne_nil _ hempty] at hhead
    exact hq hhead

/-- A text that is added to a joined path is added to the path that is joined. -/
theorem append_join {ending : String} (hending : '/' ∉ ending.toList) (hq : q.isAbsolute = false) :
    (p.join q).append ending = p.join (q.append ending) := by
  have htext : ((p.join q).append ending).text.toList = (p.join (q.append ending)).text.toList := by
    rw [toList_text_join (isAbsolute_append hending hq)]
    unfold Path.append
    rw [String.toList_append, String.toList_append, toList_text_join hq, List.append_assoc]
  exact congrArg Path.mk (String.toList_inj.1 htext)

/-- What is joined to a path comes after a slash, and before it come the segments of the path. -/
theorem exists_text_join {α : Type} {f : List Char → Option α} (hf : f [] = none)
    (hp : p.isAbsolute = true) (hq : q.isAbsolute = false) :
    ∃ text, (p.join q).text.toList = text ++ '/' :: q.text.toList ∧
      (splitSlash text).filterMap f = p.segments.filterMap f := by
  rw [toList_text_join hq, filterMap_segments hf]
  rcases p.beforeJoined_cases with ⟨htext, -⟩ | ⟨text, hbefore, htext⟩
  · unfold isAbsolute at hp
    rw [htext] at hp
    cases hp
  · refine ⟨text, by simp [hbefore], ?_⟩
    rcases htext with htext | ⟨htext, -⟩
    · rw [htext, splitSlash_append_slash]
      simp [splitSlash, hf]
    · rw [htext]

/-! ## Paths that go down -/

/-- Whether a relative path goes up with its last segment at most. -/
structure Descends (q : Path) : Prop where
  relative : q.isAbsolute = false
  noUp : ['.', '.'] ∉ (splitSlash q.text.toList).dropLast

theorem descends_of_noParent (hq : q.isAbsolute = false)
    (h : .parent ∉ q.segments.filterMap innerComponent) : q.Descends := by
  refine ⟨hq, fun hmem => h ?_⟩
  rw [filterMap_segments rfl]
  exact List.mem_filterMap.2 ⟨_, List.dropLast_subset _ hmem, rfl⟩

/-- An ending changes the last segment only. -/
theorem Descends.append {ending : String} (hending : '/' ∉ ending.toList) (h : q.Descends) :
    (q.append ending).Descends := by
  refine ⟨isAbsolute_append hending h.relative, ?_⟩
  obtain ⟨before, last, hsplit, hadded⟩ := splitSlash_append_of_noSlash q.text.toList hending
  have hup := h.noUp
  rw [hsplit, List.dropLast_concat] at hup
  unfold Path.append
  rw [String.toList_append, hadded, List.dropLast_concat]
  exact hup

/-! ## Lexical containment -/

/-- Components that do not go up are added to what precedes them. -/
theorem foldl_stepLexical_of_noParent {rest : List Component} (h : .parent ∉ rest)
    (stack : List Component) :
    ∃ added, rest.foldl stepLexical stack = added ++ stack := by
  induction rest generalizing stack with
  | nil => exact ⟨[], rfl⟩
  | cons c others ih =>
    obtain ⟨added, hadded⟩ := ih (fun hc => h (List.mem_cons_of_mem _ hc)) (stepLexical stack c)
    rw [List.foldl_cons, hadded]
    cases c with
    | parent => exact absurd List.mem_cons_self h
    | current => exact ⟨added, rfl⟩
    | root => exact ⟨added ++ [.root], by simp [stepLexical]⟩
    | name text => exact ⟨added ++ [.name text], by simp [stepLexical]⟩

/-- A path that goes on from a directory without going up stays in it. -/
theorem isWithin_of_components_eq {directory : Path} {rest : List Component}
    (h : p.components = directory.components ++ rest) (hrest : .parent ∉ rest) :
    p.isWithin directory = true := by
  obtain ⟨added, hadded⟩ :=
    foldl_stepLexical_of_noParent hrest (directory.components.foldl stepLexical [])
  unfold isWithin lexical
  rw [h, List.foldl_append, hadded, List.reverse_append, List.isPrefixOf_iff_prefix]
  exact List.prefix_append _ _

end Bundler.Path
