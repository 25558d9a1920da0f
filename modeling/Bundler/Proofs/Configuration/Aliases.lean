import Bundler.Proofs.Path.Join
import Bundler.Proofs.Text.Starts
import Mathlib.Data.List.Perm.Basic
import Mathlib.Data.List.Nodup
import Mathlib.Data.List.Infix

set_option autoImplicit false

/-! # The alias that is used

Aliases that apply to a reference have starts of it as their own, so that of two of them one begins
with the other. The one that is used has the longest start (`bases_ofAliases`), and as different
aliases have different starts, it does not matter in which order they are declared.

The path that the alias gives lies in its target, unless two slashes follow the start of the alias
in the reference (`bases_startsWith_target_iff`): what is joined to the target is then absolute. -/

namespace Bundler

namespace Alias

/-- Whether an alias gives a path to a reference. -/
def Applies (a : Alias) (reference : String) : Prop := ∃ p, a.path? reference = some p

/-- Whether an alias has the longest start among those that apply to a reference. -/
structure IsLongest (aliases : List Alias) (reference : String) (a : Alias) : Prop where
  mem : a ∈ aliases
  applies : a.Applies reference
  longest : ∀ b ∈ aliases, b.Applies reference → b ≠ a → b.start.length < a.start.length

variable {a b c : Alias} {reference : String}

/-- What an alias applies to begins with its start. -/
theorem prefix_of_applies (h : a.Applies reference) : a.start.toList <+: reference.toList := by
  obtain ⟨p, hp⟩ := h
  unfold path? at hp
  dsimp only at hp
  split at hp
  · next hstart => exact List.isPrefixOf_iff_prefix.1 hstart
  · cases hp

/-- An alias gives its target to its start, and joins to the target what comes after its start and
    a slash, be it the last of the start itself. -/
theorem path?_cases {p : Path} (h : a.path? reference = some p) :
    reference = a.start ∧ p = a.target ∨ ∃ rest, p = a.target.join ⟨rest⟩ ∧
      (reference = a.start ++ "/" ++ rest ∨ reference = a.start ++ rest ∧
        a.start.toList.getLast? = some '/' ∧ (⟨rest⟩ : Path).isAbsolute = false) := by
  have htext : reference.toList
      = a.start.toList ++ reference.toList.drop a.start.toList.length := by
    obtain ⟨after, hafter⟩ := prefix_of_applies ⟨p, h⟩
    rw [← hafter, List.drop_left]
  -- the cases are those of what comes after the start: nothing, a slash, or something else
  unfold path? at h
  dsimp only at h
  split at h
  · split at h
    · next hrest =>
      rw [hrest, List.append_nil] at htext
      cases h
      exact .inl ⟨String.toList_inj.1 htext, rfl⟩
    · next rest hrest =>
      rw [hrest] at htext
      cases h
      exact .inr ⟨.ofList rest, rfl, .inl (String.toList_inj.1 (by simp [htext]))⟩
    · next hempty hslash =>
      split at h
      · next hlast =>
        cases h
        refine .inr ⟨.ofList (reference.toList.drop a.start.toList.length), rfl,
          .inr ⟨String.toList_inj.1 (by rw [String.toList_append, String.toList_ofList, ← htext]),
            hlast, ?_⟩⟩
        refine beq_false_of_ne fun hhead => ?_
        rw [String.toList_ofList] at hhead
        obtain ⟨others, hothers⟩ := List.head?_eq_some_iff.1 hhead
        exact hslash others hothers
      · cases h
  · cases h

/-! ## The order of aliases -/

theorem precedes_iff : a.precedes b = true ↔ b.start.utf8ByteSize < a.start.utf8ByteSize ∨
    a.start.utf8ByteSize = b.start.utf8ByteSize ∧ a.start ≤ b.start := by
  simp [precedes]

theorem precedes_trans (a b c : Alias) (hab : a.precedes b = true) (hbc : b.precedes c = true) :
    a.precedes c = true := by
  rw [precedes_iff] at *
  rcases hab with hab | ⟨hab, hle⟩ <;> rcases hbc with hbc | ⟨hbc, hle'⟩
  · exact .inl (by omega)
  · exact .inl (by omega)
  · exact .inl (by omega)
  · exact .inr ⟨by omega, String.le_trans hle hle'⟩

theorem precedes_total (a b : Alias) : (a.precedes b || b.precedes a) = true := by
  rw [Bool.or_eq_true, precedes_iff, precedes_iff]
  rcases Nat.lt_trichotomy a.start.utf8ByteSize b.start.utf8ByteSize with h | h | h
  · exact .inr (.inl h)
  · rcases String.le_total a.start b.start with hle | hle
    · exact .inl (.inr ⟨h, hle⟩)
    · exact .inr (.inr ⟨h.symm, hle⟩)
  · exact .inl (.inl h)

theorem start_eq_of_precedes (hab : a.precedes b = true) (hba : b.precedes a = true) :
    a.start = b.start := by
  rw [precedes_iff] at hab hba
  rcases hab with hab | ⟨hab, hle⟩ <;> rcases hba with hba | ⟨hba, hle'⟩
  · omega
  · omega
  · omega
  · exact String.le_antisymm hle hle'

end Alias

namespace Resolution

variable {aliases aliases' : List Alias} {extensions : List String} {reference : String}

/-- Whether an alias is the first of a resolution that gives a path to a reference, and which. -/
def Uses (r : Resolution) (reference : String) (a : Alias) (p : Path) : Prop :=
  ∃ before after, r.aliases = before ++ a :: after ∧ (∀ b ∈ before, b.path? reference = none) ∧
    a.path? reference = some p

theorem aliasedPath?_eq_some_iff {r : Resolution} {p : Path} :
    r.aliasedPath? reference = some p ↔ ∃ a, r.Uses reference a p := by
  unfold aliasedPath?
  rw [List.findSome?_eq_some_iff]
  constructor
  · rintro ⟨before, a, after, heq, hpath, hnone⟩
    exact ⟨a, before, after, heq, hnone, hpath⟩
  · rintro ⟨a, before, after, heq, hnone, hpath⟩
    exact ⟨before, a, after, heq, hpath, hnone⟩

theorem bases_of_aliasedPath? {r : Resolution} {p : Path} (h : r.aliasedPath? reference = some p)
    (root directory : Path) : r.bases root directory reference = [p] := by
  unfold bases
  rw [h]

/-- The first of the sorted aliases that applies has the longest start. -/
theorem exists_isLongest (extensions : List String)
    (hdistinct : (aliases.map Alias.start).Nodup)
    (h : ∃ a ∈ aliases, a.Applies reference) :
    ∃ a p, Alias.IsLongest aliases reference a ∧ a.path? reference = some p ∧
      (ofAliases aliases extensions).aliasedPath? reference = some p := by
  obtain ⟨p, hp⟩ : ∃ p, (ofAliases aliases extensions).aliasedPath? reference = some p := by
    obtain ⟨a, ha, q, hq⟩ := h
    have hsome : ((ofAliases aliases extensions).aliasedPath? reference).isSome = true := by
      unfold aliasedPath? ofAliases
      rw [List.findSome?_isSome_iff]
      exact ⟨a, List.mem_mergeSort.2 ha, by simp [hq]⟩
    exact Option.isSome_iff_exists.1 hsome
  obtain ⟨a, before, after, hsorted, hnone, hpath⟩ := aliasedPath?_eq_some_iff.1 hp
  have hsorted : aliases.mergeSort Alias.precedes = before ++ a :: after := hsorted
  have hmem : ∀ b, b ∈ aliases ↔ b ∈ before ++ a :: after := by
    intro b
    rw [← hsorted, List.mem_mergeSort]
  have horder : (before ++ a :: after).Pairwise fun x y => x.precedes y = true := by
    rw [← hsorted]
    exact List.pairwise_mergeSort Alias.precedes_trans Alias.precedes_total aliases
  have ha : a ∈ aliases := (hmem a).2 (by simp)
  refine ⟨a, p, ⟨ha, ⟨p, hpath⟩, ?_⟩, hpath, hp⟩
  intro b hb happlies hne
  -- an alias before the one that is used does not apply
  have hafter : b ∈ after := by
    rcases List.mem_append.1 ((hmem b).1 hb) with hbefore | hlater
    · obtain ⟨q, hq⟩ := happlies
      rw [hnone b hbefore] at hq
      cases hq
    · exact (List.mem_cons.1 hlater).resolve_left hne
  have hprecedes : a.precedes b = true :=
    (List.pairwise_cons.1 (List.pairwise_append.1 horder).2.1).1 b hafter
  have hsize : b.start.utf8ByteSize ≤ a.start.utf8ByteSize := by
    rcases Alias.precedes_iff.1 hprecedes with h | ⟨h, -⟩ <;> omega
  have hstarts := Text.toList_prefix_of_utf8ByteSize_le (Alias.prefix_of_applies ⟨p, hpath⟩)
    (Alias.prefix_of_applies happlies) hsize
  have hstart : b.start ≠ a.start := fun heq =>
    hne (List.inj_on_of_nodup_map hdistinct hb ha heq)
  have hlength : b.start.toList.length ≠ a.start.toList.length := fun heq =>
    hstart (String.toList_inj.1 (hstarts.eq_of_length heq))
  have hle := hstarts.length_le
  rw [String.length_toList, String.length_toList] at hle hlength
  omega

/-- Different starts can be sorted in one way only. -/
theorem ofAliases_eq_of_perm (hdistinct : (aliases.map Alias.start).Nodup)
    (hperm : aliases'.Perm aliases) :
    ofAliases aliases' extensions = ofAliases aliases extensions := by
  have hsorted : aliases'.mergeSort Alias.precedes = aliases.mergeSort Alias.precedes := by
    have hperm' := ((List.mergeSort_perm aliases' Alias.precedes).trans hperm).trans
      (List.mergeSort_perm aliases Alias.precedes).symm
    refine hperm'.eq_of_pairwise ?_
      (List.pairwise_mergeSort Alias.precedes_trans Alias.precedes_total aliases')
      (List.pairwise_mergeSort Alias.precedes_trans Alias.precedes_total aliases)
    intro a b ha hb hab hba
    have ha : a ∈ aliases := hperm.mem_iff.1 (List.mem_mergeSort.1 ha)
    have hb : b ∈ aliases := List.mem_mergeSort.1 hb
    exact List.inj_on_of_nodup_map hdistinct ha hb (Alias.start_eq_of_precedes hab hba)
  unfold ofAliases
  rw [hsorted]

/-- A reference to which some alias applies is looked for at the path that the one with the longest
    start gives to it, and no reference is looked for elsewhere if the aliases are declared in
    another order. -/
theorem bases_ofAliases (extensions : List String)
    (hdistinct : (aliases.map Alias.start).Nodup) :
    (∀ reference, (∃ a ∈ aliases, a.Applies reference) →
      ∃ a p, Alias.IsLongest aliases reference a ∧ a.path? reference = some p ∧
        ∀ root directory, (ofAliases aliases extensions).bases root directory reference = [p]) ∧
    ∀ aliases', aliases'.Perm aliases → ∀ root directory reference,
      (ofAliases aliases' extensions).bases root directory reference
        = (ofAliases aliases extensions).bases root directory reference := by
  constructor
  · intro reference h
    obtain ⟨a, p, hlongest, hpath, hp⟩ := exists_isLongest extensions hdistinct h
    exact ⟨a, p, hlongest, hpath, fun root directory => bases_of_aliasedPath? hp root directory⟩
  · intro aliases' hperm root directory reference
    rw [ofAliases_eq_of_perm hdistinct hperm]

/-- An alias whose start is longer, but that does not apply, changes nothing. -/
theorem bases_ofAliases_library :
    let aliases : List Alias := [⟨"@", ⟨"/a"⟩⟩, ⟨"@/lib", ⟨"/b"⟩⟩]
    (aliases.map Alias.start).Nodup ∧ (∃ a ∈ aliases, a.Applies "@/library") ∧
      (∀ root directory,
        (ofAliases aliases []).bases root directory "@/library" = [⟨"/a/library"⟩]) ∧
      ∀ root directory reference, (ofAliases aliases.reverse []).bases root directory reference
        = (ofAliases aliases []).bases root directory reference := by
  intro aliases
  have hdistinct : (aliases.map Alias.start).Nodup := by decide
  have happlies : ∃ a ∈ aliases, a.Applies "@/library" :=
    ⟨_, List.mem_cons_self, ⟨"/a/library"⟩, by decide⟩
  obtain ⟨hlongest, hperm⟩ := bases_ofAliases [] hdistinct
  refine ⟨hdistinct, happlies, ?_, hperm _ (List.reverse_perm aliases)⟩
  obtain ⟨a, p, ha, hpath, hbases⟩ := hlongest "@/library" happlies
  have hp : ∀ b ∈ aliases, ∀ q, b.path? "@/library" = some q → q = ⟨"/a/library"⟩ := by
    simp only [aliases, List.forall_mem_cons, List.not_mem_nil]
    refine ⟨fun q hq => ?_, fun q hq => ?_, nofun⟩
    · have hfirst : (⟨"@", ⟨"/a"⟩⟩ : Alias).path? "@/library" = some ⟨"/a/library"⟩ := by
        decide
      exact (Option.some.inj (hfirst.symm.trans hq)).symm
    · have hsecond : (⟨"@/lib", ⟨"/b"⟩⟩ : Alias).path? "@/library" = none := by decide
      rw [hsecond] at hq
      cases hq
  rw [← hp a ha.mem p hpath]
  exact hbases

/-! ## Targets -/

/-- What comes after the start of an alias and a slash is absolute just if another slash follows. -/
theorem startsWith_of_doubleSlash_iff {a : Alias} {after : String}
    (h : reference = a.start ++ "/" ++ after) :
    ((⟨after⟩ : Path).isAbsolute = true → (⟨after⟩ : Path).startsWith a.target = true) ↔
      ∀ rest, reference = a.start ++ "//" ++ rest →
        (⟨"/" ++ rest⟩ : Path).startsWith a.target = true := by
  have hrest : ∀ rest, reference = a.start ++ "//" ++ rest ↔ after = "/" ++ rest := by
    intro rest
    rw [h, ← String.toList_inj, ← String.toList_inj]
    simp
  constructor
  · intro hafter rest heq
    obtain rfl := (hrest rest).1 heq
    exact hafter (by simp [Path.isAbsolute])
  · intro hall habsolute
    obtain ⟨others, hothers⟩ := List.head?_eq_some_iff.1 (beq_iff_eq.1 habsolute)
    have hafter : after = "/" ++ .ofList others := by
      rw [← String.toList_inj]
      simpa using hothers
    rw [hafter]
    exact hall _ ((hrest _).2 hafter)

/-- The components that a path has after the target of the alias are those of the reference. -/
theorem noParent_of_path? {a : Alias} {p : Path} {more : List Path.Component}
    (htarget : a.target.isAbsolute = true) (hpath : a.path? reference = some p)
    (hreference : .parent ∉ (Path.mk reference).components)
    (hmore : p.components = a.target.components ++ more) : .parent ∉ more := by
  intro hparent
  rcases Alias.path?_cases hpath with ⟨-, rfl⟩ | ⟨rest, rfl, hcases⟩
  · rw [List.self_eq_append_right.1 hmore] at hparent
    cases hparent
  · obtain ⟨text, htext⟩ : ∃ text, reference.toList = text ++ '/' :: rest.toList := by
      rcases hcases with rfl | ⟨rfl, hlast, -⟩
      · exact ⟨a.start.toList, by simp⟩
      · refine ⟨a.start.toList.dropLast, ?_⟩
        rw [String.toList_append]
        nth_rewrite 1 [← List.dropLast_append_getLast? _ hlast]
        simp
    refine hreference (Path.mem_components_of_append_slash (q := ⟨rest⟩) htext ?_)
    cases hrest : (⟨rest⟩ : Path).isAbsolute with
    | false =>
      rw [Path.components_join htarget hrest] at hmore
      rw [List.append_cancel_left hmore]
      exact hparent
    | true =>
      have hmem : .parent ∈ (⟨rest⟩ : Path).components := by
        rw [← Path.join_of_isAbsolute hrest a.target, hmore]
        exact List.mem_append_right _ hparent
      rw [Path.components_of_isAbsolute hrest] at hmem
      exact (List.mem_cons.1 hmem).resolve_left nofun

/-- The path that an alias gives to a reference starts with the target of the alias, unless two
    slashes follow the start of the alias in the reference and what comes from the second one on is
    an absolute path of its own, which lies elsewhere. If no `..` is in the reference, the path also
    stays in the target. -/
theorem bases_startsWith_target_iff {r : Resolution} {a : Alias} {p : Path}
    (htarget : a.target.isAbsolute = true) (huses : r.Uses reference a p) :
    (∀ root directory, r.bases root directory reference = [p]) ∧
    (p.startsWith a.target = true ↔ ∀ rest, reference = a.start ++ "//" ++ rest →
      (⟨"/" ++ rest⟩ : Path).startsWith a.target = true) ∧
    (.parent ∉ (Path.mk reference).components → p.startsWith a.target = true →
      p.isWithin a.target = true) := by
  obtain ⟨-, -, -, -, hpath⟩ := id huses
  refine ⟨bases_of_aliasedPath? (aliasedPath?_eq_some_iff.2 ⟨a, huses⟩), ?_, ?_⟩
  · rcases Alias.path?_cases hpath with ⟨hstart, rfl⟩ | ⟨after, rfl, hcases⟩
    · refine iff_of_true (Path.startsWith_of_components_eq (List.append_nil _).symm) ?_
      intro rest hrest
      have hlength := congrArg String.length (hstart.symm.trans hrest)
      have hslashes : "//".length = 2 := rfl
      rw [String.length_append, String.length_append] at hlength
      omega
    · rw [Path.startsWith_join_iff htarget]
      rcases hcases with hafter | ⟨hafter, -, hrelative⟩
      · exact startsWith_of_doubleSlash_iff hafter
      · refine iff_of_true (by simp [hrelative]) ?_
        intro rest hrest
        rw [hafter, ← String.toList_inj] at hrest
        have hslash : after.toList = '/' :: '/' :: rest.toList := by simpa using hrest
        simp [Path.isAbsolute, hslash] at hrelative
  · intro hreference hstarts
    obtain ⟨more, hmore⟩ := List.isPrefixOf_iff_prefix.1 hstarts
    exact Path.isWithin_of_components_eq hmore.symm
      (noParent_of_path? htarget hpath hreference hmore.symm)

/-- What an alias gives to a reference below its start stays in its target. -/
theorem bases_startsWith_target_below :
    let a : Alias := ⟨"@", ⟨"/src"⟩⟩
    let r := ofAliases [a] []
    a.target.isAbsolute = true ∧ r.Uses "@/lib/a.js" a ⟨"/src/lib/a.js"⟩ ∧
      (⟨"/src/lib/a.js"⟩ : Path).startsWith a.target = true ∧
      (⟨"/src/lib/a.js"⟩ : Path).isWithin a.target = true := by
  intro a r
  have huses : r.Uses "@/lib/a.js" a ⟨"/src/lib/a.js"⟩ :=
    ⟨[], [], List.mergeSort_singleton a, nofun, by decide⟩
  obtain ⟨-, hstarts, hwithin⟩ := bases_startsWith_target_iff (by decide) huses
  have hbelow : (⟨"/src/lib/a.js"⟩ : Path).startsWith a.target = true := by
    refine hstarts.2 fun rest hrest => ?_
    have htext := congrArg String.toList hrest
    simp [a] at htext
  exact ⟨by decide, huses, hbelow, hwithin (by decide) hbelow⟩

/-- What comes after two slashes is not looked for in the target. -/
theorem bases_leave_target :
    let a : Alias := ⟨"@", ⟨"/src"⟩⟩
    let r := ofAliases [a] []
    a.target.isAbsolute = true ∧ .parent ∉ (Path.mk "@//a.js").components ∧
      r.Uses "@//a.js" a ⟨"/a.js"⟩ ∧ r.bases ⟨"/"⟩ ⟨"/"⟩ "@//a.js" = [⟨"/a.js"⟩] ∧
      (⟨"/a.js"⟩ : Path).startsWith a.target = false := by
  intro a r
  have huses : r.Uses "@//a.js" a ⟨"/a.js"⟩ :=
    ⟨[], [], List.mergeSort_singleton a, nofun, by decide⟩
  exact ⟨by decide, by decide, huses,
    bases_of_aliasedPath? (aliasedPath?_eq_some_iff.2 ⟨a, huses⟩) _ _, by decide⟩

end Resolution

end Bundler
