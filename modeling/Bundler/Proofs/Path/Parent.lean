import Bundler.Proofs.FileTree.Walk
import Mathlib.Data.List.Induction

set_option autoImplicit false

/-! # The directory that a path lies in

The directory that a path lies in is written with the segments of the path that come before its
last name, without those at their end that do not count. Segments of this form are trimmed
(`IsTrimmed`): a path that is made of them has just these segments, a name that is joined to it is
its last segment, and the directory of the joined path is the path again
(`parent?_ofReversed_cons`).

A path with a file name has the steps of its directory before that name, but for steps that stay
(`exists_parent_of_namedSteps?`). -/

namespace Bundler

namespace Path

/-! ## Trimmed segments -/

/-- Whether reversed segments are those of a path that ends with a segment that counts. -/
structure IsTrimmed (relative : Bool) (reversed : List (List Char)) : Prop where
  noSlash : ∀ segment ∈ reversed, '/' ∉ segment
  first : relative = true → reversed.getLast? ≠ some []
  counts : ∀ segment before, reversed = segment :: before →
    countsLast relative segment before = true

variable {relative : Bool} {segment : List Char} {before reversed : List (List Char)}

/-- A segment counts only if it is not empty. -/
theorem ne_nil_of_countsLast (h : countsLast relative segment before = true) : segment ≠ [] := by
  rintro rfl
  simp [countsLast] at h

/-- Names always count. -/
theorem countsLast_toList {name : String} (h : IsPlainName name) (relative : Bool)
    (before : List (List Char)) : countsLast relative name.toList before = true := by
  obtain ⟨hempty, hdot, -⟩ := h.toList_ne
  simp [countsLast, hempty, hdot]

theorem IsTrimmed.cons (h : IsTrimmed relative reversed) {name : String} (hname : IsPlainName name) :
    IsTrimmed relative (name.toList :: reversed) := by
  refine ⟨fun s hs => ?_, fun hrelative hlast => ?_, fun s before heq => ?_⟩
  · rcases List.mem_cons.1 hs with rfl | hs
    · exact hname.2.2.2
    · exact h.noSlash s hs
  · cases reversed with
    | nil => exact hname.toList_ne.1 (Option.some.inj hlast)
    | cons s rest => exact h.first hrelative hlast
  · cases heq
    exact countsLast_toList hname relative reversed

theorem dropUncounted_suffix (relative : Bool) (reversed : List (List Char)) :
    dropUncounted relative reversed <:+ reversed := by
  induction reversed with
  | nil => exact List.suffix_refl []
  | cons s rest ih =>
    unfold dropUncounted
    split
    · exact List.suffix_refl _
    · exact ih.trans (List.suffix_cons s rest)

theorem countsLast_of_dropUncounted (h : dropUncounted relative reversed = segment :: before) :
    countsLast relative segment before = true := by
  induction reversed with
  | nil => cases h
  | cons s rest ih =>
    unfold dropUncounted at h
    split at h
    · next hcounts =>
      cases h
      exact hcounts
    · exact ih h

theorem isTrimmed_dropUncounted (hslash : ∀ segment ∈ reversed, '/' ∉ segment)
    (hfirst : relative = true → reversed.getLast? ≠ some []) :
    IsTrimmed relative (dropUncounted relative reversed) := by
  obtain ⟨dropped, heq⟩ := dropUncounted_suffix relative reversed
  refine ⟨fun s hs => hslash s (heq ▸ List.mem_append_right dropped hs), fun hrelative hlast => ?_,
    fun s before heq => countsLast_of_dropUncounted heq⟩
  apply hfirst hrelative
  rw [← heq, List.getLast?_append, hlast]
  rfl

theorem IsTrimmed.dropUncounted_eq (h : IsTrimmed relative reversed) :
    dropUncounted relative reversed = reversed := by
  cases reversed with
  | nil => rfl
  | cons s rest =>
    unfold dropUncounted
    rw [if_pos (h.counts s rest rfl)]

theorem IsTrimmed.tail (h : IsTrimmed relative (segment :: before)) :
    IsTrimmed relative (dropUncounted relative before) := by
  refine isTrimmed_dropUncounted (fun s hs => h.noSlash s (List.mem_cons_of_mem _ hs))
    fun hrelative hlast => ?_
  cases before with
  | nil => cases hlast
  | cons s rest => exact h.first hrelative hlast

/-- What does not count at the end of some segments is nothing or stays. -/
theorem exists_stays_of_dropUncounted (relative : Bool) (reversed : List (List Char)) :
    ∃ stays : List Step, (∀ s ∈ stays, s = .stay) ∧
      reversed.reverse.filterMap stepOf? =
        (dropUncounted relative reversed).reverse.filterMap stepOf? ++ stays := by
  induction reversed with
  | nil => exact ⟨[], fun _ h => absurd h List.not_mem_nil, rfl⟩
  | cons s rest ih =>
    unfold dropUncounted
    split
    · exact ⟨[], fun _ h => absurd h List.not_mem_nil, (List.append_nil _).symm⟩
    · next hcounts =>
      obtain ⟨stays, hstays, heq⟩ := ih
      refine ⟨stays ++ (stepOf? s).toList, fun x hx => ?_, ?_⟩
      · rcases List.mem_append.1 hx with hx | hx
        · exact hstays x hx
        · have hs : s = [] ∨ s = ['.'] := by
            by_contra hne
            obtain ⟨h1, h2⟩ := not_or.1 hne
            simp [countsLast, h1, h2] at hcounts
          rcases hs with rfl | rfl
          · cases hx
          · exact List.mem_singleton.1 hx
      · rw [List.reverse_cons, List.filterMap_append, heq, List.append_assoc]
        cases hs : stepOf? s with
        | none => simp [hs]
        | some step => simp [hs]

/-! ## Paths of trimmed segments -/

theorem toList_text_ofReversed (relative : Bool) (reversed : List (List Char)) :
    (ofReversed relative reversed).text.toList =
      (if relative then [] else ['/']) ++ ['/'].intercalate reversed.reverse := by
  unfold ofReversed
  rw [String.toList_append, String.toList_intercalate]
  cases relative <;> simp [Function.comp_def]

theorem segments_eq (p : Path) :
    p.segments = splitSlash (if p.isAbsolute then p.text.toList.tail else p.text.toList) := by
  unfold segments isAbsolute
  cases p.text.toList with
  | nil => rfl
  | cons c rest =>
    by_cases hc : c = '/'
    · subst hc
      rfl
    · have hhead : ((c :: rest).head? == some '/') = false :=
        beq_false_of_ne fun h => hc (Option.some.inj h)
      rw [hhead]
      split
      · next heq => exact absurd (List.cons.inj heq).1 hc
      · rfl

theorem head?_intercalate {segments : List (List Char)} (h : segments.head? ≠ some [])
    (hslash : ∀ segment ∈ segments, '/' ∉ segment) :
    (['/'].intercalate segments).head? ≠ some '/' := by
  cases segments with
  | nil => exact Option.some_ne_none _ |>.symm
  | cons first rest =>
    cases first with
    | nil => exact absurd rfl h
    | cons c others =>
      have hc : '/' ≠ c := fun heq => hslash _ List.mem_cons_self (heq ▸ List.mem_cons_self)
      cases rest with
      | nil => simpa using hc.symm
      | cons second more => simpa [List.intercalate_cons_cons] using hc.symm

theorem isAbsolute_ofReversed (h : IsTrimmed relative reversed) :
    (ofReversed relative reversed).isAbsolute = !relative := by
  unfold isAbsolute
  rw [toList_text_ofReversed]
  cases relative with
  | false => rfl
  | true =>
    refine beq_false_of_ne (head?_intercalate ?_ fun s hs => h.noSlash s (List.mem_reverse.1 hs))
    rw [List.head?_reverse]
    exact h.first rfl

theorem segments_ofReversed (h : IsTrimmed relative reversed) (hne : reversed ≠ []) :
    (ofReversed relative reversed).segments = reversed.reverse := by
  have hsplit : splitSlash (['/'].intercalate reversed.reverse) = reversed.reverse := by
    rw [splitSlash_eq_splitOn, List.splitOn_intercalate]
    · exact fun s hs => h.noSlash s (List.mem_reverse.1 hs)
    · simpa using hne
  rw [segments_eq, isAbsolute_ofReversed h, toList_text_ofReversed]
  cases relative with
  | false => exact hsplit
  | true => exact hsplit

theorem intercalate_concat {segments : List (List Char)} (hne : segments ≠ []) (last : List Char) :
    ['/'].intercalate (segments ++ [last]) = ['/'].intercalate segments ++ '/' :: last := by
  induction segments with
  | nil => exact absurd rfl hne
  | cons first rest ih =>
    cases rest with
    | nil => simp [List.intercalate_cons_cons]
    | cons second others =>
      have htail := ih (List.cons_ne_nil _ _)
      rw [List.cons_append] at htail
      rw [List.cons_append, List.cons_append, List.intercalate_cons_cons, htail,
        List.intercalate_cons_cons]
      simp

/-- A path of segments ends with the last of them. -/
theorem exists_text_ofReversed_cons (relative : Bool) (segment : List Char)
    (before : List (List Char)) :
    ∃ start, (ofReversed relative (segment :: before)).text.toList = start ++ segment := by
  rw [toList_text_ofReversed, List.reverse_cons]
  by_cases hbefore : before.reverse = []
  · rw [hbefore, List.nil_append, List.intercalate_singleton]
    exact ⟨_, rfl⟩
  · rw [intercalate_concat hbefore, List.append_cons, ← List.append_assoc]
    exact ⟨_, rfl⟩

theorem endsWithSlash_ofReversed (h : IsTrimmed relative (segment :: before)) :
    (ofReversed relative (segment :: before)).endsWithSlash = false := by
  have hsegment : segment ≠ [] := ne_nil_of_countsLast (h.counts segment before rfl)
  obtain ⟨start, htext⟩ := exists_text_ofReversed_cons relative segment before
  unfold endsWithSlash
  rw [htext]
  refine beq_false_of_ne fun heq => ?_
  rw [List.getLast?_append_of_ne_nil _ hsegment] at heq
  exact h.noSlash segment List.mem_cons_self (List.mem_of_getLast? heq)

/-- The steps of a path of trimmed segments are those of its segments. -/
theorem steps_ofReversed_cons (h : IsTrimmed relative (segment :: before)) :
    (ofReversed relative (segment :: before)).steps =
      (segment :: before).reverse.filterMap stepOf? := by
  unfold steps
  rw [segments_ofReversed h (List.cons_ne_nil _ _), endsWithSlash_ofReversed h]
  simp

/-- So they are for any such path, but for a step that stays. -/
theorem exists_stays_of_ofReversed (h : IsTrimmed relative reversed) :
    ∃ stays : List Step, (∀ s ∈ stays, s = .stay) ∧
      (ofReversed relative reversed).steps = reversed.reverse.filterMap stepOf? ++ stays := by
  cases reversed with
  | cons segment before =>
    exact ⟨[], fun _ hs => absurd hs List.not_mem_nil, by simp [steps_ofReversed_cons h]⟩
  | nil =>
    cases relative with
    | false => exact ⟨[.stay], fun s hs => List.mem_singleton.1 hs, by decide⟩
    | true => exact ⟨[], fun _ hs => absurd hs List.not_mem_nil, by decide⟩

theorem above_dropUncounted (relative : Bool) (reversed : List (List Char)) :
    above relative (dropUncounted relative reversed) = above relative reversed := by
  induction reversed with
  | nil => rfl
  | cons s rest ih =>
    unfold dropUncounted
    split
    · rfl
    · next hcounts => rw [ih, above, if_neg hcounts]

theorem above_segments_ofReversed (h : IsTrimmed relative reversed) :
    above (!(ofReversed relative reversed).isAbsolute) (ofReversed relative reversed).segments.reverse
      = above relative reversed := by
  rw [isAbsolute_ofReversed h, Bool.not_not]
  by_cases hne : reversed = []
  · subst hne
    cases relative <;> decide
  · rw [segments_ofReversed h hne, List.reverse_reverse]

/-- The directory of a path of trimmed segments is the path without the last of them. -/
theorem parent?_ofReversed_cons (h : IsTrimmed relative (segment :: before)) :
    (ofReversed relative (segment :: before)).parent? =
      some (ofReversed relative (dropUncounted relative before)) := by
  unfold parent?
  rw [above_segments_ofReversed h, above, if_pos (h.counts segment before rfl)]
  rfl

/-- The directories above a path are its own directory and those above that one. -/
theorem ancestors_ofReversed_cons (h : IsTrimmed relative (segment :: before)) :
    (ofReversed relative (segment :: before)).ancestors =
      ofReversed relative (segment :: before) ::
        (ofReversed relative (dropUncounted relative before)).ancestors := by
  unfold ancestors
  rw [above_segments_ofReversed h, above_segments_ofReversed h.tail, above,
    if_pos (h.counts segment before rfl), above_dropUncounted]

theorem isEmpty_text_ofReversed_cons (h : IsTrimmed relative (segment :: before)) :
    (ofReversed relative (segment :: before)).text.isEmpty = false := by
  obtain ⟨start, htext⟩ := exists_text_ofReversed_cons relative segment before
  have hsegment := ne_nil_of_countsLast (h.counts segment before rfl)
  rw [Bool.eq_false_iff]
  intro heq
  rw [String.isEmpty_iff.1 heq] at htext
  exact hsegment (List.append_eq_nil_iff.1 htext.symm).2

theorem join_ofReversed (h : IsTrimmed relative reversed) {name : String} (hname : IsPlainName name) :
    (ofReversed relative reversed).join ⟨name⟩ = ofReversed relative (name.toList :: reversed) := by
  have habsolute : (⟨name⟩ : Path).isAbsolute = false := by
    refine beq_false_of_ne fun heq => hname.2.2.2 ?_
    exact List.mem_of_mem_head? heq
  have hjoined : ((ofReversed relative reversed).join ⟨name⟩).text.toList =
      (if relative then [] else ['/']) ++ ['/'].intercalate (reversed.reverse ++ [name.toList]) := by
    unfold join
    simp only [habsolute, Bool.false_eq_true, if_false]
    cases reversed with
    | nil => cases relative <;> simp [ofReversed]
    | cons segment before =>
      have hslash : ((ofReversed relative (segment :: before)).text.toList.getLast? == some '/')
          = false := endsWithSlash_ofReversed h
      rw [isEmpty_text_ofReversed_cons h, hslash, intercalate_concat (by simp)]
      simp [toList_text_ofReversed]
  have htext : ((ofReversed relative reversed).join ⟨name⟩).text =
      (ofReversed relative (name.toList :: reversed)).text := by
    rw [← String.toList_inj, hjoined, toList_text_ofReversed, List.reverse_cons]
  exact congrArg Path.mk htext

/-! ## Paths of locations -/

theorem isTrimmed_names {names : List String} (h : ∀ name ∈ names, IsPlainName name) :
    IsTrimmed false (names.map String.toList) := by
  induction names with
  | nil => exact ⟨fun _ hs => absurd hs List.not_mem_nil, fun h => absurd h Bool.false_ne_true,
      fun _ _ heq => by cases heq⟩
  | cons name rest ih =>
    exact (ih fun name hname => h name (List.mem_cons_of_mem _ hname)).cons
      (h name List.mem_cons_self)

theorem path_eq_ofReversed (l : Location) :
    l.path = ofReversed false (l.reverse.map String.toList) := by
  have htext : l.path.text.toList = (ofReversed false (l.reverse.map String.toList)).text.toList := by
    rw [toList_text_path, toList_text_ofReversed]
    simp
  exact congrArg Path.mk (String.toList_inj.1 htext)

/-- The path of a location is made of the names before the last one and that name. -/
theorem path_concat (parent : Location) (name : String) :
    Location.path (parent ++ [name]) =
      ofReversed false (name.toList :: parent.reverse.map String.toList) := by
  rw [path_eq_ofReversed, List.reverse_append]
  rfl

/-! ## Paths with a file name -/

/-- The last component inside a path is the one of a segment after which no other counts. -/
theorem exists_of_getLast?_innerComponent {c : Component}
    (h : (reversed.reverse.filterMap innerComponent).getLast? = some c) :
    ∃ uncounted segment before, reversed = uncounted ++ segment :: before ∧
      (∀ s ∈ uncounted, s = [] ∨ s = ['.']) ∧ innerComponent segment = some c := by
  induction reversed with
  | nil => cases h
  | cons s rest ih =>
    rw [List.reverse_cons, List.filterMap_append] at h
    cases hs : innerComponent s with
    | none =>
      have huncounted : s = [] ∨ s = ['.'] := by
        by_contra hne
        unfold innerComponent at hs
        rw [if_neg hne] at hs
        split at hs <;> cases hs
      simp only [List.filterMap_cons, hs, List.filterMap_nil, List.append_nil] at h
      obtain ⟨uncounted, segment, before, rfl, hall, hsegment⟩ := ih h
      refine ⟨s :: uncounted, segment, before, rfl, fun x hx => ?_, hsegment⟩
      rcases List.mem_cons.1 hx with rfl | hx
      · exact huncounted
      · exact hall x hx
    | some d =>
      simp only [List.filterMap_cons, hs, List.filterMap_nil, List.getLast?_concat] at h
      exact ⟨[], s, rest, rfl, fun _ hx => absurd hx List.not_mem_nil, hs.trans h⟩

theorem fileName?_eq_some_iff {p : Path} {name : String} :
    p.fileName? = some name ↔
      (p.segments.filterMap innerComponent).getLast? = some (.name name) := by
  have hlast : p.fileName? = some name ↔ p.components.getLast? = some (.name name) := by
    unfold fileName?
    split
    · next text heq => simp [heq]
    · next hne =>
      constructor
      · intro h
        cases h
      · intro h
        exact absurd h (hne name)
  rw [hlast]
  unfold components
  cases p.segments.filterMap innerComponent with
  | nil => split <;> [simp; (split <;> simp)]
  | cons first rest => split <;> [simp; (split <;> simp)]

theorem innerComponent_eq_name {segment : List Char} {name : String}
    (h : innerComponent segment = some (.name name)) :
    segment = name.toList ∧ ('/' ∉ segment → IsPlainName name) := by
  unfold innerComponent at h
  split at h
  · cases h
  · split at h
    · cases h
    · next hempty hdots =>
      cases h
      obtain ⟨h1, h2⟩ := not_or.1 hempty
      have hstep : stepOf? segment = some (.down (.ofList segment)) := by
        simp [stepOf?, h1, h2, hdots]
      exact ⟨String.toList_ofList.symm, fun hslash => isPlainName_of_stepOf? hslash hstep⟩

theorem first_of_isAbsolute_false {p : Path} (h : p.isAbsolute = false)
    (hne : p.segments ≠ [[]]) : p.segments.head? ≠ some [] := by
  rw [segments_eq, h] at hne ⊢
  unfold isAbsolute at h
  cases htext : p.text.toList with
  | nil =>
    rw [htext] at hne
    exact absurd rfl hne
  | cons c rest =>
    have hc : c ≠ '/' := by
      rintro rfl
      rw [htext] at h
      cases h
    show (splitSlash (c :: rest)).head? ≠ some []
    rw [splitSlash_cons hc]
    cases splitSlash rest <;> simp

/-- A path with a file name ends with it, and lies in the directory of the trimmed segments before
    it. -/
theorem exists_of_fileName? {p : Path} {name : String} (h : p.fileName? = some name) :
    ∃ uncounted before, p.segments.reverse = uncounted ++ name.toList :: before ∧
      (∀ s ∈ uncounted, s = [] ∨ s = ['.']) ∧ IsPlainName name ∧
      IsTrimmed (!p.isAbsolute) (dropUncounted (!p.isAbsolute) before) ∧
      p.parent? = some (ofReversed (!p.isAbsolute) (dropUncounted (!p.isAbsolute) before)) := by
  have hlast := fileName?_eq_some_iff.1 h
  rw [← List.reverse_reverse p.segments] at hlast
  obtain ⟨uncounted, segment, before, heq, hall, hsegment⟩ :=
    exists_of_getLast?_innerComponent hlast
  obtain ⟨rfl, hplain⟩ := innerComponent_eq_name hsegment
  have hmem : ∀ s, s = name.toList ∨ s ∈ before → s ∈ p.segments := by
    intro s hs
    rw [← List.mem_reverse, heq]
    exact List.mem_append_right _ (List.mem_cons.2 hs)
  have hname : IsPlainName name :=
    hplain (slash_not_mem_of_mem_segments (hmem _ (.inl rfl)))
  refine ⟨uncounted, before, heq, hall, hname, isTrimmed_dropUncounted
    (fun s hs => slash_not_mem_of_mem_segments (hmem s (.inr hs))) fun hrelative hfirst => ?_, ?_⟩
  · have hempty : p.segments ≠ [[]] := by
      intro hsegments
      have := hmem name.toList (.inl rfl)
      rw [hsegments, List.mem_singleton] at this
      exact hname.toList_ne.1 this
    apply first_of_isAbsolute_false (by simpa using hrelative) hempty
    rw [← List.reverse_reverse p.segments, List.head?_reverse, heq, List.getLast?_append,
      List.getLast?_cons, hfirst]
    rfl
  · unfold parent?
    rw [heq]
    clear heq
    -- the segments behind the name do not count, so the parent is that of the name
    induction uncounted with
    | nil =>
      rw [List.nil_append, above, if_pos (countsLast_toList hname _ _)]
      rfl
    | cons s rest ih =>
      have hcounts : ¬ countsLast (!p.isAbsolute) s (rest ++ name.toList :: before) = true := by
        rcases hall s List.mem_cons_self with rfl | rfl <;> simp [countsLast]
      rw [List.cons_append, above, if_neg hcounts]
      exact ih fun x hx => hall x (List.mem_cons_of_mem _ hx)

theorem getLast?_innerComponent_of_stepOf? {segments : List (List Char)} {name : String}
    (h : (segments.filterMap stepOf?).getLast? = some (.down name)) :
    (segments.filterMap innerComponent).getLast? = some (.name name) := by
  induction segments using List.reverseRecOn with
  | nil => cases h
  | append_singleton rest s ih =>
    rw [List.filterMap_append] at h ⊢
    by_cases hempty : s = []
    · subst hempty
      have hstep : [([] : List Char)].filterMap stepOf? = [] := by decide
      have hinner : [([] : List Char)].filterMap innerComponent = [] := by decide
      rw [hstep, List.append_nil] at h
      rw [hinner, List.append_nil]
      exact ih h
    · have hname : innerComponent s = some (.name name) := by
        by_cases hdot : s = ['.']
        · simp [stepOf?, hdot] at h
        · by_cases hdots : s = ['.', '.']
          · simp [stepOf?, hdots] at h
          · simpa [stepOf?, innerComponent, hempty, hdot, hdots] using h
      simp [hname]

/-- The steps before the last name of a path are those of the directory that it lies in, but for
    steps that stay. -/
theorem exists_parent_of_namedSteps? {p : Path} {steps : List Step} {name : String}
    (h : p.namedSteps? = some (steps, name)) :
    p.fileName? = some name ∧ ∃ parent, p.parent? = some parent ∧
      parent.isAbsolute = p.isAbsolute ∧ ∃ core stays stays', (∀ s ∈ stays, s = Step.stay) ∧
        (∀ s ∈ stays', s = Step.stay) ∧ steps = core ++ stays ∧ parent.steps = core ++ stays' := by
  have hall : (p.segments.filterMap stepOf?).getLast? = some (.down name) ∧
      steps = (p.segments.filterMap stepOf?).dropLast := by
    unfold namedSteps? at h
    simp only at h
    split at h
    · next last hlast =>
      cases h
      exact ⟨hlast, rfl⟩
    · cases h
  obtain ⟨hlast, hsteps⟩ := hall
  have hname := fileName?_eq_some_iff.2 (getLast?_innerComponent_of_stepOf? hlast)
  obtain ⟨uncounted, before, heq, huncounted, hplain, htrimmed, hparent⟩ :=
    exists_of_fileName? hname
  have hsegments : p.segments = before.reverse ++ name.toList :: uncounted.reverse := by
    rw [← List.reverse_reverse p.segments, heq]
    simp
  have hlater : uncounted.reverse.filterMap stepOf? = [] := by
    refine List.eq_nil_iff_forall_not_mem.2 fun step hstep => ?_
    -- a later segment would ask for a last step that stays
    rw [hsegments, List.filterMap_append, List.filterMap_cons, stepOf?_toList hplain,
      List.getLast?_append_of_ne_nil _ (List.cons_ne_nil _ _),
      List.getLast?_cons_of_ne_nil (List.ne_nil_of_mem hstep)] at hlast
    obtain ⟨s, hs, hdown⟩ := List.mem_filterMap.1 (List.mem_of_getLast? hlast)
    rcases huncounted s (List.mem_reverse.1 hs) with rfl | rfl <;> cases hdown
  have hcore : steps = before.reverse.filterMap stepOf? := by
    rw [hsteps, hsegments, List.filterMap_append, List.filterMap_cons, stepOf?_toList hplain,
      hlater]
    simp
  obtain ⟨stays, hstays, hbefore⟩ := exists_stays_of_dropUncounted (!p.isAbsolute) before
  obtain ⟨stays', hstays', hparentSteps⟩ := exists_stays_of_ofReversed htrimmed
  refine ⟨hname, _, hparent, ?_, _, stays, stays', hstays, hstays', hcore.trans hbefore,
    hparentSteps⟩
  rw [isAbsolute_ofReversed htrimmed, Bool.not_not]

/-- A path that ends with a name has no steps after it but such as stay. -/
theorem exists_stays_of_namedSteps? {p : Path} {steps : List Step} {name : String}
    (h : p.namedSteps? = some (steps, name)) :
    ∃ stays : List Step, (∀ s ∈ stays, s = .stay) ∧ p.steps = steps ++ .down name :: stays := by
  unfold namedSteps? at h
  simp only at h
  split at h
  · next last hlast =>
    cases h
    refine ⟨if p.endsWithSlash then [.stay] else [], fun s hs => ?_, ?_⟩
    · split at hs
      · exact List.mem_singleton.1 hs
      · cases hs
    · unfold Path.steps
      nth_rewrite 1 [← List.dropLast_append_getLast? _ hlast]
      rw [List.append_assoc, List.singleton_append]
  · cases h

/-! ## Siblings -/

variable {name : String}

theorem parent?_ofReversed_name (h : IsTrimmed relative reversed) (hname : IsPlainName name) :
    (ofReversed relative (name.toList :: reversed)).parent? = some (ofReversed relative reversed) := by
  rw [parent?_ofReversed_cons (h.cons hname), h.dropUncounted_eq]

theorem fileName?_ofReversed_name (h : IsTrimmed relative (name.toList :: before))
    (hname : IsPlainName name) :
    (ofReversed relative (name.toList :: before)).fileName? = some name := by
  rw [fileName?_eq_some_iff, segments_ofReversed h (List.cons_ne_nil _ _)]
  simp [innerComponent_toList hname]

theorem steps_ofReversed_name (h : IsTrimmed relative (name.toList :: before))
    (hname : IsPlainName name) :
    (ofReversed relative (name.toList :: before)).steps =
      before.reverse.filterMap stepOf? ++ [.down name] := by
  rw [steps_ofReversed_cons h]
  simp [stepOf?_toList hname]

theorem namedSteps?_ofReversed_name (h : IsTrimmed relative (name.toList :: before))
    (hname : IsPlainName name) :
    (ofReversed relative (name.toList :: before)).namedSteps? =
      some (before.reverse.filterMap stepOf?, name) := by
  unfold namedSteps?
  rw [segments_ofReversed h (List.cons_ne_nil _ _)]
  simp [stepOf?_toList hname]

/-- A path of another name beside a path is made of the segments of the directory that both lie in
    and that name. -/
theorem exists_withFileName {p : Path} {old : String} (h : p.fileName? = some old) :
    ∃ reversed, IsTrimmed (!p.isAbsolute) reversed ∧
      p.parent? = some (ofReversed (!p.isAbsolute) reversed) ∧
      (∀ s ∈ reversed, s ∈ p.segments) ∧ ∀ name, IsPlainName name →
        p.withFileName name = ofReversed (!p.isAbsolute) (name.toList :: reversed) := by
  obtain ⟨uncounted, before, heq, -, -, htrimmed, hparent⟩ := exists_of_fileName? h
  refine ⟨_, htrimmed, hparent, fun s hs => ?_, fun name hname => ?_⟩
  · rw [← List.mem_reverse, heq]
    exact List.mem_append_right _ (List.mem_cons_of_mem _
      ((dropUncounted_suffix _ before).subset hs))
  · unfold withFileName
    rw [h, hparent]
    exact join_ofReversed htrimmed hname

end Path

end Bundler
