import Bundler.Proofs.Path.Join

set_option autoImplicit false

/-! # Lexical containment

The components that `Path.lexical` leaves of an absolute path are the root and the names that the
path leads through (`lexical_eq`): a stack of names above the root, on which each `.` does nothing
and each `..` takes the last name away if there is one (`stepLexical_aboveRoot`). So one path is
within another exactly if its names begin with those of the other, which is an order of paths up to
their names, in which texts that lead back to where they start do not count
(`isWithin_order`). -/

namespace Bundler.Path

variable {p q d e : Path}

/-! ## Names -/

/-- The names that a component leaves of those before it. -/
def stepNames (names : List String) : Component → List String
  | .root | .current => names
  | .parent => names.dropLast
  | .name text => names ++ [text]

/-- The names that a path leads through, where each `..` has removed the name before it. -/
def lexicalNames (p : Path) : List String := p.components.foldl stepNames []

/-- The reversed components of names below the root. -/
def aboveRoot (names : List String) : List Component := (names.map .name).reverse ++ [.root]

theorem aboveRoot_concat (names : List String) (text : String) :
    aboveRoot (names ++ [text]) = .name text :: aboveRoot names := by
  simp [aboveRoot]

/-- The root stays at the bottom of the stack. -/
theorem stepLexical_aboveRoot (names : List String) {c : Component} (hc : c ≠ .root) :
    stepLexical (aboveRoot names) c = aboveRoot (stepNames names c) := by
  cases c with
  | root => exact absurd rfl hc
  | current => rfl
  | parent =>
    unfold stepNames
    rcases names.eq_nil_or_concat with rfl | ⟨above, last, rfl⟩
    · rfl
    · rw [List.concat_eq_append, aboveRoot_concat]
      dsimp only
      rw [List.dropLast_concat]
      rfl
  | name text => exact (aboveRoot_concat names text).symm

theorem foldl_stepLexical_aboveRoot {rest : List Component} (h : .root ∉ rest)
    (names : List String) :
    rest.foldl stepLexical (aboveRoot names) = aboveRoot (rest.foldl stepNames names) := by
  induction rest generalizing names with
  | nil => rfl
  | cons c others ih =>
    have hc : c ≠ .root := fun heq => h (heq ▸ List.mem_cons_self)
    rw [List.foldl_cons, List.foldl_cons, stepLexical_aboveRoot names hc]
    exact ih (fun hmem => h (List.mem_cons_of_mem _ hmem)) _

theorem root_not_mem_segments (p : Path) : .root ∉ p.segments.filterMap innerComponent := by
  intro h
  rcases isInner_of_mem h with hroot | ⟨_, hroot, -⟩ <;> cases hroot

/-- Only the segments of an absolute path tell its names. -/
theorem lexicalNames_eq (hp : p.isAbsolute = true) :
    p.lexicalNames = ((splitSlash p.text.toList).filterMap innerComponent).foldl stepNames [] := by
  unfold lexicalNames
  rw [components_of_isAbsolute hp, List.foldl_cons, filterMap_segments rfl]
  rfl

theorem lexical_eq (hp : p.isAbsolute = true) : p.lexical = .root :: p.lexicalNames.map .name := by
  have hfold := foldl_stepLexical_aboveRoot p.root_not_mem_segments []
  unfold lexical lexicalNames
  rw [components_of_isAbsolute hp, List.foldl_cons, List.foldl_cons]
  show (List.foldl stepLexical (aboveRoot []) _).reverse = _
  rw [hfold]
  simp [aboveRoot, stepNames]

theorem isWithin_iff (hp : p.isAbsolute = true) (hd : d.isAbsolute = true) :
    p.isWithin d = true ↔ d.lexicalNames <+: p.lexicalNames := by
  have hinj : Function.Injective Component.name := fun _ _ => Component.name.inj
  unfold isWithin
  rw [lexical_eq hp, lexical_eq hd, List.isPrefixOf_iff_prefix, List.cons_prefix_cons,
    List.prefix_map_iff_of_injective hinj]
  exact and_iff_right rfl

/-- Paths with the same names are within the same paths, and the same paths are within them. -/
theorem isWithin_congr (hp : p.isAbsolute = true) (hq : q.isAbsolute = true)
    (hd : d.isAbsolute = true) (h : q.lexicalNames = p.lexicalNames) :
    q.isWithin d = p.isWithin d ∧ d.isWithin q = d.isWithin p := by
  constructor
  · rw [Bool.eq_iff_iff, isWithin_iff hq hd, isWithin_iff hp hd, h]
  · rw [Bool.eq_iff_iff, isWithin_iff hd hq, isWithin_iff hd hp, h]

/-! ## Texts that lead back -/

/-- A text that leads back to where it starts: nothing, a `.`, or a name and the `..` after it. -/
inductive IsIdle : List Char → Prop
  | nothing : IsIdle []
  | current : IsIdle ['.']
  | upFrom (name : String) (hname : IsPlainName name) : IsIdle (name.toList ++ ['/', '.', '.'])

/-- Whether `q` is written as `p` with such a text put in behind a slash of its own, before a slash
    of `p` or at the end of it. -/
def InsertsIdle (p q : Path) : Prop :=
  ∃ before added after, IsIdle added ∧ (after = [] ∨ after.head? = some '/') ∧
    p.text.toList = before ++ after ∧ q.text.toList = before ++ '/' :: added ++ after

theorem splitSlash_of_noSlash {text : List Char} (h : '/' ∉ text) : splitSlash text = [text] := by
  rw [splitSlash_eq_splitOn, List.splitOn_eq_singleton h]

theorem IsIdle.foldl_stepNames {added : List Char} (h : IsIdle added) (names : List String) :
    ((splitSlash added).filterMap innerComponent).foldl stepNames names = names := by
  cases h with
  | nothing => rfl
  | current => rfl
  | upFrom name hname =>
    have hup : splitSlash ['.', '.'] = [['.', '.']] := rfl
    rw [splitSlash_append_slash, splitSlash_of_noSlash hname.2.2.2, hup, List.singleton_append,
      List.filterMap_cons_some (innerComponent_toList hname)]
    exact List.dropLast_concat

/-- A path is absolute if it goes on with a slash where an absolute path ends or goes on. -/
theorem isAbsolute_of_text {before after after' : List Char} (hp : p.isAbsolute = true)
    (hptext : p.text.toList = before ++ after) (hqtext : q.text.toList = before ++ '/' :: after') :
    q.isAbsolute = true := by
  unfold isAbsolute at hp ⊢
  rw [hptext] at hp
  rw [hqtext]
  cases before with
  | nil => rfl
  | cons c others => exact hp

theorem InsertsIdle.isAbsolute (hp : p.isAbsolute = true) (h : InsertsIdle p q) :
    q.isAbsolute = true := by
  obtain ⟨before, added, after, -, -, hptext, hqtext⟩ := h
  rw [List.append_assoc, List.cons_append] at hqtext
  exact isAbsolute_of_text hp hptext hqtext

/-- The names up to the place are the same, and so are those after it. -/
theorem InsertsIdle.lexicalNames_eq (hp : p.isAbsolute = true) (h : InsertsIdle p q) :
    q.lexicalNames = p.lexicalNames := by
  have hq := h.isAbsolute hp
  obtain ⟨before, added, after, hadded, hafter, hptext, hqtext⟩ := h
  rw [Path.lexicalNames_eq hq, Path.lexicalNames_eq hp, hptext, hqtext, List.append_assoc]
  cases after with
  | nil =>
    rw [List.append_nil, List.append_nil, splitSlash_append_slash, List.filterMap_append,
      List.foldl_append, hadded.foldl_stepNames]
  | cons c rest =>
    obtain rfl : c = '/' := by simpa using hafter
    rw [List.cons_append, splitSlash_append_slash, splitSlash_append_slash, splitSlash_append_slash]
    simp only [List.filterMap_append, List.foldl_append, hadded.foldl_stepNames]

/-! ## Names that go on -/

/-- A plain name that goes on without a slash is a plain name. -/
theorem isPlainName_append {name more : String} (hname : IsPlainName name)
    (hmore : '/' ∉ more.toList) : IsPlainName (name ++ more) := by
  obtain ⟨hempty, hdot, hdots, hslash⟩ := hname
  -- a text that a plain name is the start of is none of those that stand for no name
  have hdotsOnly : ¬ name.toList <+: ['.', '.'] := by
    intro h
    rcases List.prefix_cons_iff.1 h with h | ⟨others, h, hothers⟩
    · exact hempty (String.toList_inj.1 h)
    · rcases List.prefix_cons_iff.1 hothers with rfl | ⟨last, rfl, hlast⟩
      · exact hdot (String.toList_inj.1 h)
      · obtain rfl := List.prefix_nil.1 hlast
        exact hdots (String.toList_inj.1 h)
  have hne : ∀ text : String, text.toList <+: ['.', '.'] → name ++ more ≠ text := by
    rintro text htext rfl
    rw [String.toList_append] at htext
    exact hdotsOnly ((List.prefix_append _ _).trans htext)
  refine ⟨hne "" (by decide), hne "." (by decide), hne ".." (by decide), fun hmem => ?_⟩
  rw [String.toList_append] at hmem
  exact (List.mem_append.1 hmem).elim hslash hmore

/-- Where the last name of a directory goes on, a path leaves the directory. -/
theorem not_prefix_of_longerName {above rest : List String} {name more : String}
    (hmore : more ≠ "") : ¬ above ++ [name] <+: above ++ (name ++ more) :: rest := by
  intro h
  rw [List.prefix_append_right_inj, List.cons_prefix_cons] at h
  have hlength := congrArg String.length h.1
  rw [String.length_append] at hlength
  exact hmore (String.length_eq_zero_iff.1 (by omega))

/-- The names of a path that ends with a plain name. -/
theorem lexicalNames_of_endsWith {above : List Char} {name : String} (hp : p.isAbsolute = true)
    (hname : IsPlainName name) (h : p.text.toList = above ++ '/' :: name.toList) :
    p.lexicalNames
      = ((splitSlash above).filterMap innerComponent).foldl stepNames [] ++ [name] := by
  rw [lexicalNames_eq hp, h, splitSlash_append_slash, splitSlash_of_noSlash hname.2.2.2,
    List.filterMap_append, List.foldl_append,
    List.filterMap_cons_some (innerComponent_toList hname)]
  rfl

/-- A directory whose name goes on is another one beside it. -/
theorem isWithin_append {above : List Char} {name more : String} (hd : d.isAbsolute = true)
    (hname : IsPlainName name) (hmore : more ≠ "") (hslash : '/' ∉ more.toList)
    (h : d.text.toList = above ++ '/' :: name.toList) : (d.append more).isWithin d = false := by
  have hlonger : (d.append more).text.toList = above ++ '/' :: (name ++ more).toList := by
    unfold Path.append
    rw [String.toList_append, h, String.toList_append, List.append_assoc, List.cons_append]
  have habsolute := isAbsolute_of_text hd h hlonger
  rw [Bool.eq_false_iff, Ne, isWithin_iff habsolute hd, lexicalNames_of_endsWith hd hname h,
    lexicalNames_of_endsWith habsolute (isPlainName_append hname hslash) hlonger]
  exact not_prefix_of_longerName hmore

/-! ## The order of containment -/

/-- Containment compares the names that absolute paths lead through: a path is within a directory
    if its names begin with those of the directory. So every path is within itself, and within
    whatever its directories are within, and two paths are within each other if they have the same
    names. Texts that lead back can be put into either path, and a name that goes on after the name
    of a directory leads to another place, at the end of a path and anywhere in it. -/
theorem isWithin_order (hp : p.isAbsolute = true) (hd : d.isAbsolute = true)
    (he : e.isAbsolute = true) :
    (p.isWithin d = true ↔ d.lexicalNames <+: p.lexicalNames) ∧
      p.isWithin p = true ∧
      (p.isWithin d = true → d.isWithin e = true → p.isWithin e = true) ∧
      (p.isWithin d = true ∧ d.isWithin p = true ↔ p.lexicalNames = d.lexicalNames) ∧
      (∀ q, InsertsIdle p q → q.isWithin d = p.isWithin d ∧ d.isWithin q = d.isWithin p) ∧
      (∀ above name more rest, more ≠ "" → d.lexicalNames = above ++ [name] →
        p.lexicalNames = above ++ (name ++ more) :: rest → p.isWithin d = false) ∧
      ∀ (above : List Char) (name more : String), IsPlainName name → more ≠ "" →
        '/' ∉ more.toList → d.text.toList = above ++ '/' :: name.toList →
        (d.append more).isWithin d = false := by
  have hpd := isWithin_iff hp hd
  refine ⟨hpd, (isWithin_iff hp hp).2 (List.prefix_refl _), fun hwithin habove => ?_, ?_,
    fun q hq => ?_, fun above name more rest hmore hdnames hpnames => ?_,
    fun above name more hname hmore hslash htext => isWithin_append hd hname hmore hslash htext⟩
  · exact (isWithin_iff hp he).2 (((isWithin_iff hd he).1 habove).trans (hpd.1 hwithin))
  · rw [hpd, isWithin_iff hd hp]
    constructor
    · rintro ⟨hle, hge⟩
      exact hge.eq_of_length_le hle.length_le
    · intro heq
      rw [heq]
      exact ⟨List.prefix_refl _, List.prefix_refl _⟩
  · exact isWithin_congr hp (hq.isAbsolute hp) hd (hq.lexicalNames_eq hp)
  · rw [Bool.eq_false_iff, Ne, hpd, hdnames, hpnames]
    exact not_prefix_of_longerName hmore

/-- An output directory inside of a source directory stays inside with a detour put into its path,
    and a directory whose name goes on is beside it. -/
theorem isWithin_order_output :
    let output : Path := ⟨"/site/./src//../src/out"⟩
    let source : Path := ⟨"/site/src"⟩
    output.lexicalNames = ["site", "src", "out"] ∧ output.isWithin source = true ∧
      output.isWithin ⟨"/../site"⟩ = true ∧ source.isWithin output = false ∧
      (⟨"/site/docs/.././src//../src/out"⟩ : Path).isWithin source = true ∧
      (⟨"/site/src2/out"⟩ : Path).isWithin source = false ∧
      (source.append "2").isWithin source = false := by
  intro output source
  have hnames : output.lexicalNames = ["site", "src", "out"] := by decide
  have hsource : source.lexicalNames = ["site", "src"] := by decide +kernel
  have hidle : InsertsIdle output ⟨"/site/docs/.././src//../src/out"⟩ :=
    ⟨"/site".toList, _, "/./src//../src/out".toList, .upFrom "docs" (by decide), by decide,
      by decide, by decide⟩
  obtain ⟨hiff, -, htrans, hboth, hinsert, -, hlonger⟩ :=
    isWithin_order (p := output) (d := source) (e := ⟨"/../site"⟩) (by decide) (by decide)
      (by decide)
  obtain ⟨-, -, -, -, -, hbeside, -⟩ :=
    isWithin_order (p := ⟨"/site/src2/out"⟩) (d := source) (e := ⟨"/"⟩) (by decide) (by decide)
      (by decide)
  have hwithin : output.isWithin source = true := by
    rw [hiff, hnames, hsource]
    exact List.prefix_append ["site", "src"] ["out"]
  refine ⟨hnames, hwithin, htrans hwithin (by decide), ?_, ?_, ?_, ?_⟩
  · by_contra hne
    have heq := hboth.1 ⟨hwithin, (Bool.not_eq_false _).mp hne⟩
    rw [hnames, hsource] at heq
    cases heq
  · rw [(hinsert _ hidle).1]
    exact hwithin
  · exact hbeside ["site"] "src" "2" ["out"] (by decide) hsource (by decide)
  · exact hlonger "/site".toList "src" "2" (by decide) (by decide) (by decide) (by decide)

end Bundler.Path
