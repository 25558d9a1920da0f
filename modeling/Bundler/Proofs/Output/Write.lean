import Bundler.Proofs.Output.Replace

set_option autoImplicit false

/-! # Writing the output, all or nothing

A write removes what is left in its places, makes and fills the new directory and lets it replace
the output directory. What holds after each of these is a postcondition of the step (`Made`,
`Disk.Fills`, `Updated`), and the steps are put together along `writeTo`.

There are two cases. If the directory that the output directory lies in is there, the three places
lie in it from the start. If it is not, it is made with the new directory, and nothing else can be
in it. -/

namespace Bundler

namespace BuildOutput

open Disk (DiskM Ends)

variable {d : Disk} {m : Location} {w : Places} {base : FileTree}

/-! ## Making the new directory -/

/-- Whether the new directory has been made beside the output directory in a tree that grew out of
    that of a disk. -/
structure Made (w : Places) (base : FileTree) (m : Location) (t : FileTree) (d d' : Disk) : Prop where
  around : w.Around base m d.current t
  grounded : t.IsGrounded
  free : t.node? (m ++ [w.stagingName]) = none
  same : d' = { d with tree := t.put (m ++ [w.stagingName]) .directory }

theorem ends_create_of_home (h : w.Around base m d.current d.tree) (hgrounded : d.tree.IsGrounded)
    (habsent : d.isPresent w.staging = false) :
    Ends (Disk.create w.staging) d (Made w base m d.tree d) (fun _ d' => d' = d) := by
  have htrimmed := w.trimmed.cons w.stagingPlain
  refine Disk.ends_guarded (fun _ => rfl) (Disk.ends_naming ?_)
  rw [Places.staging, Path.ancestors_ofReversed_cons htrimmed]
  refine (Disk.ends_makeNested_of_home w.staging_namedSteps?
    (Path.isEmpty_text_ofReversed_cons htrimmed) h.staging_home?).imp ?_ fun _ _ h => h.1
  rintro d' (⟨-, hdir⟩ | ⟨hnode, rfl⟩)
  · have hpresent : d.isPresent w.staging = true := Disk.isPresent_of_isDirectory hdir
    rw [habsent] at hpresent
    cases hpresent
  · exact ⟨h, hgrounded, hnode, rfl⟩

/-- Whether nothing stands in the places of a write, if the directory that they lie in is there. -/
def IsBare (w : Places) (d : Disk) : Prop :=
  ∀ m, d.tree.home? d.current w.directory = some m → w.Around d.tree m d.current d.tree

theorem IsBare.entry (h : IsBare w d) : d.entry w.directory = fun _ => none := by
  cases hm : d.tree.home? d.current w.directory with
  | none => exact Disk.entry_of_homeless hm
  | some m =>
    rw [Disk.entry_eq hm w.fileName]
    exact funext (h m hm).name

/-- If the directory that the output directory lies in is not there, it is bare once it is made, and
    all that was there still is. -/
theorem ends_create_of_homeless (hhome : d.tree.home? d.current w.directory = none)
    (hup : ['.', '.'] ∉ w.reversed) (hgrounded : d.tree.IsGrounded) :
    Ends (Disk.create w.staging) d
      (fun d' => ∃ t m, d.tree.IsPart t ∧ Made w t m t d d')
      (fun _ d' => d.tree.IsPart d'.tree ∧ IsBare w d') := by
  have htrimmed := w.trimmed.cons w.stagingPlain
  have hhomes : ∀ t : FileTree, t.home? d.current w.directory =
      t.directory? d.current (.ofReversed w.relative w.reversed) := by
    intro t
    unfold FileTree.home?
    rw [w.parent]
    rfl
  -- what is made grows bare, so all three places are free in it
  have haround : ∀ {t m}, Disk.GrowsBare d.tree t d.current (.ofReversed w.relative w.reversed) →
      t.home? d.current w.directory = some m → w.Around t m d.current t := by
    intro t m hgrows hm
    have hfree : ∀ x, t.IsFree (m ++ [x]) := fun x below =>
      hgrows.grounded.node?_append_of_none (hgrows.bare m ((hhomes t).symm.trans hm) x) below
    exact ⟨.refl t, hm, hfree _, hfree _, hfree _⟩
  have habove : Disk.LeavesBare
      (Disk.makeNested (Path.ofReversed w.relative w.reversed).ancestors) d
      (.ofReversed w.relative w.reversed) := by
    have h := Disk.leavesBare_makeNested w.trimmed.noSlash w.trimmed.first hup hgrounded
    rw [w.trimmed.dropUncounted_eq] at h
    exact h ((hhomes d.tree).symm.trans hhome)
  have hbare : IsBare w d := fun m hm => absurd (hhome.symm.trans hm) (Option.some_ne_none m).symm
  refine Disk.ends_guarded (fun _ => ⟨.refl _, hbare⟩) (Disk.ends_naming ?_)
  refine (Disk.ends_makeNested_of_homeless htrimmed w.stagingPlain
    (by rw [w.trimmed.dropUncounted_eq]) ((w.staging_home? d.tree d.current).trans hhome) hgrounded
    habove).imp ?_ ?_
  · rintro d' ⟨t, m, hgrows, hm, rfl⟩
    have h := haround hgrows ((w.staging_home? t d.current).symm.trans hm)
    exact ⟨t, m, hgrows.part, h, hgrows.grounded, FileTree.node?_of_entryAt (h.staging []), rfl⟩
  · rintro - d' ⟨t, rfl, hgrows⟩
    exact ⟨hgrows.part, fun m hm => haround hgrows hm⟩

/-! ## Filling it and putting it in place -/

/-- What stands in a directory that holds just the files of an output. -/
def entry (o : BuildOutput) : Location → Option Node := filesEntry o.files.toList

/-- Whether a write has failed on a disk and left the output directory what it was; only if what is
    left is to remove the old directory, the output directory holds just the new files. -/
def Fails (w : Places) (o : BuildOutput) (d : Disk) (e : FileError) (d' : Disk) : Prop :=
  d'.entry w.directory = d.entry w.directory ∨
    d'.entry w.directory = o.entry ∧ d'.entry w.previous = d.entry w.directory ∧
      (Disk.remove w.previous).run d' = .error e d'

/-- Whether a write has left the output directory with just the files of an output, and nothing but
    this has changed in a tree in which neither directory was there, or nothing is left beside. -/
structure Updated (w : Places) (o : BuildOutput) (m : Location) (t : FileTree) (d d' : Disk) :
    Prop where
  entry : d'.entry w.directory = o.entry
  staging : d'.isPresent w.staging = false
  previous : d'.isPresent w.previous = false ∨
    d'.current = d.current ∧ t.home? d.current w.directory = some m ∧
      t.IsFree (m ++ [w.name]) ∧ t.IsFree (m ++ [w.stagingName]) ∧
      t.AgreeOutside d'.tree (m ++ [w.name])

theorem entry_eq_of_around {t : FileTree} (h : w.Around base m d.current t) :
    { d with tree := t }.entry w.directory = t.entryAt (m ++ [w.name]) :=
  Disk.entry_eq h.home? w.fileName

theorem entry_eq_of_kept (h : w.Around base m d.current d.tree) {t : FileTree}
    (h' : w.Around base m d.current t)
    (heq : t.entryAt (m ++ [w.name]) = d.tree.entryAt (m ++ [w.name])) :
    { d with tree := t }.entry w.directory = d.entry w.directory := by
  rw [entry_eq_of_around h', heq]
  exact (entry_eq_of_around h).symm

theorem not_isPresent_staging (h : w.Around base m d.current d.tree)
    (hfree : d.tree.node? (m ++ [w.stagingName]) = none) : d.isPresent w.staging = false :=
  Disk.not_isPresent_of_free w.staging_namedSteps? w.staging_steps h.staging_home? hfree

theorem not_isPresent_previous (h : w.Around base m d.current d.tree)
    (hfree : d.tree.node? (m ++ [w.previousName]) = none) : d.isPresent w.previous = false :=
  Disk.not_isPresent_of_free w.previous_namedSteps? w.previous_steps h.previous_home? hfree

variable {o : BuildOutput} {t : FileTree} {d' : Disk}

theorem Made.fills (h : Made w base m t d d') :
    { d with tree := t }.Fills (m ++ [w.stagingName]) [] d' := by
  have hne : m ++ [w.stagingName] ≠ [] := by simp
  rw [h.same]
  refine ⟨rfl, ?_, ?_⟩
  · have hput := FileTree.agreeOutside_put (t := t) hne [] .directory
    rwa [List.append_nil] at hput
  · funext below
    unfold FileTree.entryAt
    rw [FileTree.node?_put hne]
    cases below with
    | nil => simp [filesEntry]
    | cons first rest =>
      rw [if_neg (by simp), h.grounded.node?_append_of_none h.free]
      cases rest <;> rfl

theorem Made.ends_files (h : Made w base m t d d')
    (hplain : ∀ f ∈ o.files.toList, IsPlainName f.1) :
    Ends (o.files.toList.forM fun f => Disk.write (w.staging.join ⟨f.1⟩) f.2) d'
      ({ d with tree := t }.Fills (m ++ [w.stagingName]) o.files.toList)
      (fun _ d'' => (∃ others, { d with tree := t }.Fills (m ++ [w.stagingName]) others d'') ∧
        ∃ f ∈ o.files.toList, ¬ { d with tree := t }.Lets w.staging w.stagingName f.1) := by
  have hhome : base.home? d.current w.staging = some m :=
    (w.staging_home? base d.current).trans h.around.home
  refine Disk.ends_forM_write (d := { d with tree := t }) (w.trimmed.cons w.stagingPlain)
    w.stagingPlain h.around.part h.around.staging hhome hplain ?_ h.fills
  rw [List.nil_append]
  exact o.files.nodup_names

theorem Made.ends_forM (h : Made w base m t d d')
    (hplain : ∀ f ∈ o.files.toList, IsPlainName f.1) :
    Ends (o.files.toList.forM fun f => Disk.write (w.staging.join ⟨f.1⟩) f.2) d'
      ({ d with tree := t }.Fills (m ++ [w.stagingName]) o.files.toList)
      (fun _ d'' => Kept w base m { d with tree := t } d'') := by
  refine (h.ends_files hplain).imp (fun _ h => h) ?_
  rintro - d'' ⟨⟨others, hothers⟩, -⟩
  exact ⟨d''.tree, hothers.same, h.around.agreeOutside hothers.outside,
    hothers.outside.entryAt w.name_ne_staging.symm⟩

/-- The new directory takes the place of the old one, or the old one stays what it is. -/
theorem ends_replace_of_fills (h : w.Around base m d.current t) (hgrounded : t.IsGrounded)
    (hfree : t.node? (m ++ [w.stagingName]) = none)
    (hfills : { d with tree := t }.Fills (m ++ [w.stagingName]) o.files.toList d')
    (hdenied : d.isDenied .rename w.previous = false) :
    Ends (replace w.directory w.staging w.previous) d' (Updated w o m t d)
      (Fails w o { d with tree := t }) := by
  have hname := hfills.outside.entryAt w.name_ne_staging.symm
  have hstaging : d'.tree.entryAt (m ++ [w.stagingName]) = o.entry := hfills.entry
  have houtside := hfills.outside
  have hdir : d'.tree.node? (m ++ [w.stagingName]) = some .directory :=
    FileTree.node?_of_entryAt (congrFun hfills.entry [])
  have h' := h.agreeOutside hfills.outside
  obtain ⟨t', rfl⟩ : ∃ t', d' = { d with tree := t' } := ⟨_, hfills.same⟩
  refine (ends_replace h' hdir hdenied).imp ?_ ?_
  · rintro d₂ ⟨t₂, rfl, h₂, hname₂, hstaging₂, hprevious₂⟩
    refine ⟨?_, not_isPresent_staging (d := { d with tree := t₂ }) h₂
      (FileTree.node?_of_entryAt (congrFun hstaging₂ [])), ?_⟩
    · rw [entry_eq_of_around h₂, hname₂, hstaging]
    · rcases hprevious₂ with hprevious₂ | ⟨hnone, rfl⟩
      · exact .inl (not_isPresent_previous (d := { d with tree := t₂ }) h₂
          (FileTree.node?_of_entryAt (congrFun hprevious₂ [])))
      · -- nothing was present before, so all that is new is the output directory
        have hnameFree : t.IsFree (m ++ [w.name]) := by
          have hentry := congrFun hname []
          rw [FileTree.entryAt, FileTree.entryAt, List.append_nil] at hentry
          exact hgrounded.node?_append_of_none (hentry.symm.trans hnone)
        have hstagingFree : t.IsFree (m ++ [w.stagingName]) :=
          hgrounded.node?_append_of_none hfree
        exact .inr ⟨rfl, h.home?, hnameFree, hstagingFree, houtside.move hstagingFree⟩
  · rintro e d₂ (⟨t₂, rfl, h₂, hname₂⟩ | ⟨t₂, rfl, h₂, hname₂, hprevious₂, hrun⟩)
    · left
      rw [entry_eq_of_around h₂, entry_eq_of_around h, hname₂, hname]
    · right
      refine ⟨?_, ?_, hrun⟩
      · rw [entry_eq_of_around h₂, hname₂, hstaging]
      · rw [entry_eq_of_around h, Disk.entry_eq h₂.previous_home? w.previous_fileName?, hprevious₂,
          hname]

/-- Writing the new directory and putting it in place, in a directory that is there. -/
theorem ends_fill_of_home (hplain : ∀ f ∈ o.files.toList, IsPlainName f.1)
    (hdenied : d.isDenied .rename w.previous = false) (h : w.Around base m d.current d.tree)
    (hgrounded : d.tree.IsGrounded) (habsent : d.isPresent w.staging = false) :
    Ends (do
        orDiscard w.staging (o.writeFiles w.staging)
        replace w.directory w.staging w.previous) d
      (Updated w o m d.tree d) (Fails w o d) := by
  have hkept : ∀ {d'}, Kept w base m d d' → d'.entry w.directory = d.entry w.directory := by
    rintro d' ⟨t, rfl, ht, hentry⟩
    exact entry_eq_of_kept h ht hentry
  refine Disk.Ends.bind (ends_orDiscard w.staging_namedSteps? w.staging_steps
    (Disk.Ends.bind ((ends_create_of_home h hgrounded habsent).imp (fun _ h => h) ?_)
      fun d' hd' => (hd'.ends_forM hplain).imp (fun d'' hd'' => And.intro hd'.free hd'')
        fun _ _ h => h) ?_ ?_) ?_
  · rintro - d' rfl
    exact ⟨_, rfl, h, rfl⟩
  · exact fun _ _ hd' => .inl (hkept hd')
  · rintro - d' m' ⟨t, rfl, ht, hentry⟩ hm'
    obtain rfl : m = m' := Option.some.inj (ht.staging_home?.symm.trans hm')
    exact .inl (hkept (Kept.remove_staging ⟨t, rfl, ht, hentry⟩))
  · rintro d' ⟨hfree, hfills⟩
    exact ends_replace_of_fills h hgrounded hfree hfills hdenied

/-- Writing the new directory and putting it in place, in a directory that is made first. -/
theorem ends_fill_of_homeless (hplain : ∀ f ∈ o.files.toList, IsPlainName f.1)
    (hdenied : d.isDenied .rename w.previous = false)
    (hhome : d.tree.home? d.current w.directory = none) (hup : ['.', '.'] ∉ w.reversed)
    (hgrounded : d.tree.IsGrounded) :
    Ends (do
        orDiscard w.staging (o.writeFiles w.staging)
        replace w.directory w.staging w.previous) d
      (fun d' => d'.entry w.directory = o.entry ∧ d'.isPresent w.staging = false ∧
        d'.isPresent w.previous = false)
      (Fails w o d) := by
  have hnothing : d.entry w.directory = fun _ => none := Disk.entry_of_homeless hhome
  have hentry : ∀ {t m}, w.Around t m d.current t →
      { d with tree := t }.entry w.directory = fun _ => none := by
    intro t m ht
    rw [entry_eq_of_around ht]
    exact funext ht.name
  have hwrite : Ends (o.writeFiles w.staging) d
      (fun d' => ∃ t m, w.Around t m d.current t ∧ t.IsGrounded ∧
        { d with tree := t }.Fills (m ++ [w.stagingName]) o.files.toList d')
      (fun _ d' => d'.entry w.directory = fun _ => none) := by
    -- nothing but the new directory is in the directory that was made for it
    refine Disk.Ends.bind ((ends_create_of_homeless hhome hup hgrounded).imp (fun _ h => h)
      fun _ _ h => h.2.entry) ?_
    rintro d' ⟨t, m, -, hmade⟩
    refine (hmade.ends_forM hplain).imp (fun d'' h => ⟨t, m, hmade.around, hmade.grounded, h⟩) ?_
    rintro - d'' ⟨t', rfl, ht', hkept⟩
    have heq := entry_eq_of_around (d := d) ht'
    exact heq.trans (hkept.trans (funext hmade.around.name))
  refine Disk.Ends.bind (ends_orDiscard w.staging_namedSteps? w.staging_steps hwrite ?_ ?_) ?_
  · exact fun _ _ hd' => .inl (hd'.trans hnothing.symm)
  · exact fun _ d' m' hd' _ =>
      .inl ((Disk.entry_of_part (FileTree.isPart_remove (by simp)) hd').trans hnothing.symm)
  · rintro d' ⟨t, m, ht, htgrounded, hfills⟩
    refine (ends_replace_of_fills ht htgrounded (FileTree.node?_of_entryAt (ht.staging []))
      hfills hdenied).imp ?_ ?_
    · intro d'' hd''
      refine ⟨hd''.entry, hd''.staging, ?_⟩
      rcases hd''.previous with h | ⟨hcurrent, -, hname, -, hagree⟩
      · exact h
      · have ht' : w.Around t m d''.current d''.tree :=
          ⟨hagree.isPart (.refl t) hname, hcurrent ▸ ht.home, ht.name, ht.staging, ht.previous⟩
        have hentry := congrFun (hagree.entryAt w.name_ne_previous) []
        exact not_isPresent_previous ht' (FileTree.node?_of_entryAt (hentry.trans (ht.previous [])))
    · intro e d'' hd''
      unfold Fails at hd'' ⊢
      rwa [hentry ht, ← hnothing] at hd''

/-! ## The place of the old directory -/

/-- What was not present in the place of the old directory is not present when the new directory has
    appeared, unless it was a link that led nowhere before the write. -/
theorem not_isPresent_previous_of_agree {t : FileTree} {d' : Disk}
    (h : w.Around base m d.current t) (hpart : t.IsPart d.tree)
    (hagree : d.tree.AgreeOutside t (m ++ [w.stagingName]))
    (habsent : { d with tree := t }.isPresent w.previous = false)
    (hname : t.IsFree (m ++ [w.name])) (hcurrent : d'.current = d.current)
    (hagree' : t.AgreeOutside d'.tree (m ++ [w.name]))
    (hlink : ∀ target, d.tree.node? (m ++ [w.previousName]) = some (.link target) →
      d.isPresent w.previous = true) : d'.isPresent w.previous = false := by
  have hpart' : t.IsPart d'.tree := hagree'.isPart (.refl t) hname
  have hnode : ∀ {k}, ¬ m ++ [w.stagingName] <+: k → d.tree.node? k = t.node? k :=
    fun hk => (hagree _ hk).symm
  rw [Bool.eq_false_iff] at habsent ⊢
  intro hpresent
  obtain ⟨htext, hlimit, m', hm', hsome⟩ :=
    Disk.exists_home?_of_isPresent w.previous_namedSteps? w.previous_steps hpresent
  obtain rfl : m = m' := by
    rw [hcurrent, hpart'.home? h.previous_home?] at hm'
    exact Option.some.inj hm'
  have hsame := congrFun (hagree'.entryAt w.name_ne_previous) []
  rw [FileTree.entryAt, FileTree.entryAt, List.append_nil] at hsame
  rw [hsame] at hsome
  obtain ⟨n, hn⟩ := Option.ne_none_iff_exists'.1 hsome
  have hleft : (∀ target, n ≠ .link target) → { d with tree := t }.isPresent w.previous = true :=
    Disk.isPresent_of_node? (d := { d with tree := t }) w.previous_namedSteps? w.previous_steps htext
      hlimit h.previous_home? hn
  cases n with
  | directory => exact habsent (hleft fun _ => Node.noConfusion)
  | file content => exact habsent (hleft fun _ => Node.noConfusion)
  | link target =>
    -- the link leads somewhere in both trees, so it does in what they have in common
    have hnone : ∀ k, t.node? k = none → d.tree.node? k = none ∨ d'.tree.node? k = none := by
      intro k hk
      by_cases hbelow : m ++ [w.stagingName] <+: k
      · right
        obtain ⟨below, rfl⟩ := hbelow
        exact (congrFun (hagree'.entryAt w.name_ne_staging) below).trans hk
      · exact .inl ((hnode hbelow).trans hk)
    exact habsent (Disk.isPresent_common hpart hpart' hcurrent hnone
      (hlink target (hpart _ _ hn)) hpresent)

/-! ## Whole writes -/

/-- Whether a write has succeeded: the output directory holds just the files of the output, and
    nothing is present beside it, unless a link stood in the place of the old directory that led
    nowhere. -/
structure Succeeds (w : Places) (o : BuildOutput) (d d' : Disk) : Prop where
  entry : d'.entry w.directory = o.entry
  staging : d'.isPresent w.staging = false
  previous : (∀ target, d.entry w.previous [] = some (.link target) →
    d.isPresent w.previous = true) → d'.isPresent w.previous = false

/-- Whether a tree is that of a disk without what was left of an earlier new directory. -/
structure Cleared (w : Places) (base : FileTree) (m : Location) (d : Disk) (t : FileTree) : Prop where
  around : w.Around base m d.current t
  grounded : t.IsGrounded
  part : t.IsPart d.tree
  agree : d.tree.AgreeOutside t (m ++ [w.stagingName])
  absent : { d with tree := t }.isPresent w.staging = false

theorem ends_clear_staging (h : w.Around base m d.current d.tree) (hgrounded : d.tree.IsGrounded) :
    Ends (clear w.staging) d (fun d' => ∃ t, d' = { d with tree := t } ∧ Cleared w base m d t)
      (fun _ d' => d' = d) := by
  refine (ends_clear w.staging_namedSteps? w.staging_steps).imp ?_ fun _ _ h => h
  rintro d' (⟨habsent, rfl⟩ | ⟨m', hm', rfl⟩)
  · exact ⟨_, rfl, h, hgrounded, .refl _, .refl _ _, habsent⟩
  · obtain rfl : m = m' := Option.some.inj (h.staging_home?.symm.trans hm')
    have hne : m ++ [w.stagingName] ≠ [] := by simp
    have h' := h.remove h.staging
    have hfree := FileTree.node?_of_entryAt (congrFun
      (FileTree.entryAt_remove_self (t := d.tree) (m := m) (a := w.stagingName)) [])
    refine ⟨_, rfl, h', hgrounded.remove hne, FileTree.isPart_remove hne, fun k hk => ?_,
      not_isPresent_staging (d := { d with tree := d.tree.remove _ }) h' hfree⟩
    rw [FileTree.node?_remove hne, if_neg hk]

/-- Where nothing is present in the place of the old directory, it is left alone; a link that leads
    nowhere may stand there. -/
theorem Cleared.ends_fill_of_absent (hc : Cleared w base m d t)
    (hplain : ∀ f ∈ o.files.toList, IsPlainName f.1)
    (hdenied : d.isDenied .rename w.previous = false) (h : w.Around base m d.current d.tree)
    (habsent : { d with tree := t }.isPresent w.previous = false) :
    Ends (do
        orDiscard w.staging (o.writeFiles w.staging)
        replace w.directory w.staging w.previous) { d with tree := t }
      (Succeeds w o d) (Fails w o d) := by
  have hkept := entry_eq_of_kept h hc.around (hc.agree.entryAt w.name_ne_staging.symm)
  refine (ends_fill_of_home (d := { d with tree := t }) hplain hdenied hc.around hc.grounded
    hc.absent).imp ?_ ?_
  · intro d' hd'
    refine ⟨hd'.entry, hd'.staging, fun hlink => ?_⟩
    rcases hd'.previous with hprevious | ⟨hcurrent, -, hname, -, hagree⟩
    · exact hprevious
    · refine not_isPresent_previous_of_agree hc.around hc.part hc.agree habsent hname hcurrent hagree
        fun target htarget => hlink target ?_
      rwa [Disk.entry_eq h.previous_home? w.previous_fileName?, FileTree.entryAt, List.append_nil]
  · intro e d' hd'
    unfold Fails at hd' ⊢
    rwa [hkept] at hd'

/-- What is present in the place of the old directory is removed, so that nothing can be there
    afterwards. -/
theorem Cleared.ends_fill_of_removed (hc : Cleared w base m d t)
    (hplain : ∀ f ∈ o.files.toList, IsPlainName f.1)
    (hdenied : d.isDenied .rename w.previous = false) (h : w.Around base m d.current d.tree) :
    Ends (do
        orDiscard w.staging (o.writeFiles w.staging)
        replace w.directory w.staging w.previous)
      { d with tree := t.remove (m ++ [w.previousName]) } (Succeeds w o d) (Fails w o d) := by
  have hne : m ++ [w.previousName] ≠ [] := by simp
  have h' := hc.around.remove hc.around.previous
  have hgrounded' := hc.grounded.remove hne
  have hname' := (FileTree.entryAt_remove_of_ne (t := t) (m := m) w.name_ne_previous.symm).trans
    (hc.agree.entryAt w.name_ne_staging.symm)
  have hfree' := FileTree.entryAt_remove_self (t := t) (m := m) (a := w.previousName)
  -- removing something else cannot make the new directory present again
  have habsent' : { d with tree := t.remove (m ++ [w.previousName]) }.isPresent w.staging
      = false := by
    refine Bool.eq_false_iff.2 fun hpresent => Bool.eq_false_iff.1 hc.absent ?_
    exact Disk.isPresent_mono (d := { d with tree := t }) (FileTree.isPart_remove hne) hpresent
  generalize t.remove (m ++ [w.previousName]) = t' at *
  have hkept := entry_eq_of_kept h h' hname'
  refine (ends_fill_of_home (d := { d with tree := t' }) hplain hdenied h' hgrounded'
    habsent').imp ?_ ?_
  · intro d' hd'
    refine ⟨hd'.entry, hd'.staging, fun _ => ?_⟩
    rcases hd'.previous with hprevious | ⟨hcurrent, -, hname, -, hagree⟩
    · exact hprevious
    · have haround : w.Around base m d'.current d'.tree :=
        { h' with
          part := h'.part.trans (hagree.isPart (.refl t') hname)
          home := hcurrent ▸ h'.home }
      have hentry := congrFun ((hagree.entryAt w.name_ne_previous).trans hfree') []
      exact not_isPresent_previous haround (FileTree.node?_of_entryAt hentry)
  · intro e d' hd'
    unfold Fails at hd' ⊢
    rwa [hkept] at hd'

/-- A write in a directory that is there. -/
theorem ends_write_of_home (hplain : ∀ f ∈ o.files.toList, IsPlainName f.1)
    (hdenied : d.isDenied .rename w.previous = false) (h : w.Around base m d.current d.tree)
    (hgrounded : d.tree.IsGrounded) :
    Ends (do
        clear w.staging
        clear w.previous
        orDiscard w.staging (o.writeFiles w.staging)
        replace w.directory w.staging w.previous) d
      (Succeeds w o d) (Fails w o d) := by
  refine Disk.Ends.bind ((ends_clear_staging h hgrounded).imp (fun _ h => h) ?_) ?_
  · rintro - d' rfl
    exact .inl rfl
  rintro d₁ ⟨t, rfl, hc⟩
  refine Disk.Ends.bind ((ends_clear w.previous_namedSteps? w.previous_steps).imp
    (fun _ h => h) ?_) ?_
  · rintro - d' rfl
    exact .inl (entry_eq_of_kept h hc.around (hc.agree.entryAt w.name_ne_staging.symm))
  rintro d₂ (⟨habsent, rfl⟩ | ⟨m', hm', rfl⟩)
  · exact hc.ends_fill_of_absent hplain hdenied h habsent
  · obtain rfl : m = m' := Option.some.inj (hc.around.previous_home?.symm.trans hm')
    exact hc.ends_fill_of_removed hplain hdenied h

/-- In a directory that is not there, there is nothing to clear. -/
theorem ends_clear_places_of_homeless (hhome : d.tree.home? d.current w.directory = none)
    {write : DiskM FileError Unit} {good : Disk → Prop} {bad : FileError → Disk → Prop}
    (hbad : ∀ e, bad e d) (h : Ends write d good bad) :
    Ends (do
        clear w.staging
        clear w.previous
        write) d good bad := by
  have hstaging := (w.staging_home? d.tree d.current).trans hhome
  have hprevious := (w.previous_home? d.tree d.current).trans hhome
  refine Disk.Ends.bind ((ends_clear_of_homeless w.staging_namedSteps? w.staging_steps
    hstaging).imp (fun _ h => h) ?_) ?_
  · rintro e d' rfl
    exact hbad e
  rintro d₁ rfl
  refine Disk.Ends.bind ((ends_clear_of_homeless w.previous_namedSteps? w.previous_steps
    hprevious).imp (fun _ h => h) ?_) ?_
  · rintro e d' rfl
    exact hbad e
  rintro d₂ rfl
  exact h

/-- A write in a directory that is not there. -/
theorem ends_write_of_homeless (hplain : ∀ f ∈ o.files.toList, IsPlainName f.1)
    (hdenied : d.isDenied .rename w.previous = false)
    (hhome : d.tree.home? d.current w.directory = none) (hup : ['.', '.'] ∉ w.reversed)
    (hgrounded : d.tree.IsGrounded) :
    Ends (do
        clear w.staging
        clear w.previous
        orDiscard w.staging (o.writeFiles w.staging)
        replace w.directory w.staging w.previous) d
      (Succeeds w o d) (Fails w o d) := by
  refine ends_clear_places_of_homeless hhome (fun _ => .inl rfl) ?_
  exact (ends_fill_of_homeless hplain hdenied hhome hup hgrounded).imp
    (fun d' hd' => ⟨hd'.1, hd'.2.1, fun _ => hd'.2.2⟩) fun _ _ h => h

/-- The name of a marked place beside a directory of a name. -/
def markedName (name mark : String) : String := "." ++ name ++ "." ++ mark

/-- A tree without what stands in the places of a write, for an output directory of a name. -/
def withoutPlaces (t : FileTree) (m : Location) (name : String) : FileTree :=
  ((t.remove (m ++ [name])).remove (m ++ [markedName name stagingMark])).remove
    (m ++ [markedName name previousMark])

/-- Whether the way to an output directory does not lead through the places of a write: the
    directory that it lies in is there also without them, or it is not there and its path does not
    go up. -/
def Approaches (d : Disk) (directory : Path) : Prop :=
  ∀ name, directory.fileName? = some name →
    (∀ m, d.tree.home? d.current directory = some m →
      (withoutPlaces d.tree m name).home? d.current directory = some m) ∧
    (d.tree.home? d.current directory = none → Path.Component.parent ∉ directory.components)

theorem toList_markedName (name mark : String) :
    (markedName name mark).toList = '.' :: (name.toList ++ '.' :: mark.toList) := by
  simp [markedName, String.toList_append]

theorem isPlainName_markedName {name : String} (hname : IsPlainName name) (mark : String)
    (hmark : '/' ∉ mark.toList) : IsPlainName (markedName name mark) := by
  have hempty : name.toList ≠ [] := hname.toList_ne.1
  unfold IsPlainName
  rw [ne_eq, ne_eq, ne_eq, ← String.toList_inj, ← String.toList_inj, ← String.toList_inj,
    toList_markedName]
  simp [List.append_eq_cons_iff, hempty, hmark, hname.2.2.2]

theorem ne_markedName (name mark : String) : name ≠ markedName name mark := by
  intro h
  have hlength := congrArg (·.toList.length) h
  rw [toList_markedName, List.length_cons, List.length_append] at hlength
  omega

theorem markedName_inj {name mark mark' : String} (h : markedName name mark = markedName name mark') :
    mark = mark' := by
  have htext := congrArg String.toList h
  rw [toList_markedName, toList_markedName] at htext
  have hmarks := List.append_cancel_left (List.cons.inj htext).2
  exact String.toList_inj.1 (List.cons.inj hmarks).2

theorem exists_places {directory : Path} {name : String} (h : directory.fileName? = some name) :
    ∃ w : Places, w.directory = directory ∧ w.name = name ∧
      w.stagingName = markedName name stagingMark ∧ w.previousName = markedName name previousMark ∧
      sibling? directory stagingMark = some w.staging ∧
      sibling? directory previousMark = some w.previous ∧
      ∀ s ∈ w.reversed, s ∈ directory.segments := by
  obtain ⟨reversed, htrimmed, hparent, hsegments, hsibling⟩ := Path.exists_withFileName h
  obtain ⟨-, -, -, -, hname, -⟩ := Path.exists_of_fileName? h
  have hstaging := isPlainName_markedName hname stagingMark (by decide)
  have hprevious := isPlainName_markedName hname previousMark (by decide)
  refine ⟨⟨directory, !directory.isAbsolute, reversed, name, markedName name stagingMark,
    markedName name previousMark, htrimmed, hparent, h, hstaging, hprevious, ?_, ?_, ?_⟩, rfl, rfl,
    rfl, rfl, ?_, ?_, hsegments⟩
  · exact ne_markedName name stagingMark
  · exact ne_markedName name previousMark
  · exact fun h => absurd (markedName_inj h) (by decide)
  · unfold sibling?
    rw [h]
    exact congrArg some (hsibling _ hstaging)
  · unfold sibling?
    rw [h]
    exact congrArg some (hsibling _ hprevious)

theorem around_withoutPlaces (hnames : w.stagingName = markedName w.name stagingMark ∧
      w.previousName = markedName w.name previousMark)
    (hhome : (withoutPlaces d.tree m w.name).home? d.current w.directory = some m) :
    w.Around (withoutPlaces d.tree m w.name) m d.current d.tree := by
  have hne : ∀ name, m ++ [name] ≠ [] := by simp
  have hfree : ∀ t : FileTree, ∀ name, (t.remove (m ++ [name])).IsFree (m ++ [name]) := by
    intro t name below
    exact congrFun FileTree.entryAt_remove_self below
  have hkeeps : ∀ {t : FileTree} {name other},
      t.IsFree (m ++ [name]) → (t.remove (m ++ [other])).IsFree (m ++ [name]) := by
    intro t name other h below
    rw [FileTree.node?_remove (hne other), h below, ite_self]
  refine ⟨?_, hhome, ?_, ?_, ?_⟩
  · exact ((FileTree.isPart_remove (hne _)).trans (FileTree.isPart_remove (hne _))).trans
      (FileTree.isPart_remove (hne _))
  · exact hkeeps (hkeeps (hfree _ _))
  · rw [hnames.1]
    exact hkeeps (hfree _ _)
  · rw [hnames.2]
    exact hfree _ _

/-- A path to a directory that is not there does not go up. -/
theorem Approaches.not_mem_reversed (h : Approaches d w.directory)
    (hsegments : ∀ s ∈ w.reversed, s ∈ w.directory.segments)
    (hhome : d.tree.home? d.current w.directory = none) : ['.', '.'] ∉ w.reversed := by
  intro hup
  refine (h w.name w.fileName).2 hhome ?_
  have hparent : Path.Component.parent ∈ w.directory.segments.filterMap Path.innerComponent :=
    List.mem_filterMap.2 ⟨_, hsegments _ hup, by decide⟩
  unfold Path.components
  simp only
  split
  · exact List.mem_cons_of_mem _ hparent
  · split
    · exact List.mem_cons_of_mem _ hparent
    · exact hparent

theorem ends_write (hplain : ∀ f ∈ o.files.toList, IsPlainName f.1)
    (hdenied : d.isDenied .rename w.previous = false) (hgrounded : d.tree.IsGrounded)
    (hnames : w.stagingName = markedName w.name stagingMark ∧
      w.previousName = markedName w.name previousMark)
    (hsegments : ∀ s ∈ w.reversed, s ∈ w.directory.segments)
    (happroaches : Approaches d w.directory) :
    Ends (do
        clear w.staging
        clear w.previous
        orDiscard w.staging (o.writeFiles w.staging)
        replace w.directory w.staging w.previous) d
      (Succeeds w o d) (Fails w o d) := by
  cases hhome : d.tree.home? d.current w.directory with
  | some m =>
    have hthere := (happroaches w.name w.fileName).1 m hhome
    exact ends_write_of_home hplain hdenied (around_withoutPlaces hnames hthere) hgrounded
  | none =>
    have hup := happroaches.not_mem_reversed hsegments hhome
    exact ends_write_of_homeless hplain hdenied hhome hup hgrounded

/-- A write is all or nothing: it leaves the output directory with just the files of the output and
    nothing beside it, or it fails and leaves the output directory what it was. If all that fails is
    to remove the old directory in the end, the output directory holds just the new files and what
    was there stands beside it.

    This needs a way to the output directory that does not lead through the places of the write, and
    a link that leads nowhere in the place of the old directory may stay and lead somewhere then. -/
theorem writeTo_all_or_nothing (o : BuildOutput) (d : Disk) (directory root : Path)
    (hplain : ∀ f ∈ o.files.toList, IsPlainName f.1) (hgrounded : d.tree.IsGrounded)
    (happroaches : Approaches d directory)
    (hrestore : ∀ previous, sibling? directory previousMark = some previous →
      d.isDenied .rename previous = false) :
    (∀ d', (o.writeTo directory root).run d = .ok () d' →
      ∃ staging previous, sibling? directory stagingMark = some staging ∧
        sibling? directory previousMark = some previous ∧ d'.entry directory = o.entry ∧
        d'.isPresent staging = false ∧
        ((∀ target, d.entry previous [] = some (.link target) → d.isPresent previous = true) →
          d'.isPresent previous = false)) ∧
    (∀ e d', (o.writeTo directory root).run d = .error e d' →
      d'.entry directory = d.entry directory ∧ (directory.fileName? = none → d' = d) ∨
        ∃ previous error, sibling? directory previousMark = some previous ∧ e = .file error ∧
          d'.entry directory = o.entry ∧ d'.entry previous = d.entry directory ∧
          (Disk.remove previous).run d' = .error error d') := by
  have hends : Ends (o.writeTo directory root) d
      (fun d' => ∃ w : Places, w.directory = directory ∧
        sibling? directory stagingMark = some w.staging ∧
        sibling? directory previousMark = some w.previous ∧ Succeeds w o d d')
      (fun e d' => d' = d ∨ ∃ w : Places, w.directory = directory ∧
        sibling? directory previousMark = some w.previous ∧
        ∃ error, e = .file error ∧ Fails w o d error d') := by
    unfold writeTo
    by_cases hwithin : root.isWithin directory = true
    · -- a directory that holds the project is refused
      rw [if_pos hwithin]
      exact Disk.ends_throw_bind (.inl rfl)
    rw [if_neg hwithin]
    cases hname : directory.fileName? with
    | none =>
      -- a path without a name has no place beside it
      unfold sibling?
      rw [hname]
      exact Disk.ends_throw (.inl rfl)
    | some name =>
      obtain ⟨w, rfl, rfl, hstagingName, hpreviousName, hstaging, hprevious, hsegments⟩ :=
        exists_places hname
      rw [hstaging, hprevious]
      refine Disk.Ends.adaptExcept ((ends_write hplain (hrestore _ hprevious) hgrounded
        ⟨hstagingName, hpreviousName⟩ hsegments happroaches).imp ?_ ?_)
      · exact fun d' h => ⟨w, rfl, rfl, rfl, h⟩
      · exact fun e d' h => .inr ⟨w, rfl, rfl, e, rfl, h⟩
  refine ⟨fun d' hrun => ?_, fun e d' hrun => ?_⟩
  · obtain ⟨w, rfl, hstaging, hprevious, h⟩ := hends.1 d' hrun
    exact ⟨w.staging, w.previous, hstaging, hprevious, h.entry, h.staging, h.previous⟩
  · rcases hends.2 e d' hrun with rfl | ⟨w, rfl, hprevious, error, rfl, h⟩
    · exact .inl ⟨rfl, fun _ => rfl⟩
    rcases h with hsame | ⟨hnew, hold, hremove⟩
    · exact .inl ⟨hsame, fun hnone => absurd (w.fileName.symm.trans hnone) (by simp)⟩
    · exact .inr ⟨w.previous, error, hprevious, rfl, hnew, hold, hremove⟩

/-- A disk with a project whose output directory holds one file. -/
def staleDisk : Disk where
  tree := ⟨[(["project"], .directory), (["project", "dist"], .directory),
    (["project", "dist", "old.js"], .file "old".toUTF8)]⟩

/-- An output of one file. -/
def freshOutput : BuildOutput := ⟨⟨[("a.js", "a".toUTF8)], List.pairwise_singleton _ _⟩, [], none⟩

theorem isGrounded_stale : staleDisk.tree.IsGrounded :=
  FileTree.isGrounded_of_nodes (by decide)

theorem home?_straight {t : FileTree} (hproject : t.node? ["project"] = some .directory) :
    t.home? [] ⟨"/project/dist"⟩ = some ["project"] := by
  have hparent : (⟨"/project/dist"⟩ : Path).parent? = some ⟨"/project"⟩ := by decide
  have hsteps : (⟨"/project"⟩ : Path).steps = [.down "project"] := by decide
  refine FileTree.home?_eq_some_iff.2 ⟨_, hparent, ?_, FileTree.isDirectory_iff.2 hproject⟩
  rw [hsteps]
  exact .down (FileTree.isDirectory_iff.2 rfl) (by decide) hproject (fun _ => Node.noConfusion)
    (.done _ _)

theorem approaches_stale : Approaches staleDisk ⟨"/project/dist"⟩ := by
  have hfile : (⟨"/project/dist"⟩ : Path).fileName? = some "dist" := by decide
  have hhome := home?_straight (t := staleDisk.tree) rfl
  intro name hname
  rw [hfile] at hname
  cases hname
  refine ⟨fun m hm => ?_, fun hnone => ?_⟩
  · rw [show staleDisk.current = [] from rfl, hhome] at hm
    cases hm
    exact home?_straight rfl
  · rw [show staleDisk.current = [] from rfl, hhome] at hnone
    cases hnone

theorem writeTo_all_or_nothing_stale :
    let directory : Path := ⟨"/project/dist"⟩
    (∀ f ∈ freshOutput.files.toList, IsPlainName f.1) ∧ staleDisk.tree.IsGrounded ∧
      Approaches staleDisk directory ∧
      (∀ previous, sibling? directory previousMark = some previous →
        staleDisk.isDenied .rename previous = false) ∧
      (∀ d', (freshOutput.writeTo directory ⟨"/project"⟩).run staleDisk = .ok () d' →
        d'.entry directory = freshOutput.entry) ∧
      ∀ e d', (freshOutput.writeTo directory ⟨"/project"⟩).run staleDisk = .error e d' →
        d'.entry directory = staleDisk.entry directory ∨ d'.entry directory = freshOutput.entry := by
  intro directory
  have hplain : ∀ f ∈ freshOutput.files.toList, IsPlainName f.1 := by decide
  obtain ⟨hok, herror⟩ := writeTo_all_or_nothing freshOutput staleDisk directory ⟨"/project"⟩ hplain
    isGrounded_stale approaches_stale fun _ _ => rfl
  refine ⟨hplain, isGrounded_stale, approaches_stale, fun _ _ => rfl, fun d' hd' => ?_,
    fun e d' hd' => ?_⟩
  · obtain ⟨-, -, -, -, hentry, -⟩ := hok d' hd'
    exact hentry
  · rcases herror e d' hd' with ⟨hentry, -⟩ | ⟨-, -, -, -, hentry, -⟩
    · exact .inl hentry
    · exact .inr hentry

/-! ## A way through the output directory -/

/-- A path that goes into the output directory and back. -/
def detour : Path := ⟨"/project/dist/../dist"⟩

/-- The places of a write to that path. -/
def detourPlaces : Places where
  directory := detour
  relative := false
  reversed := ["..".toList, "dist".toList, "project".toList]
  name := "dist"
  stagingName := ".dist.weft-staging"
  previousName := ".dist.weft-previous"
  trimmed := ⟨by decide, by decide, fun _ _ h => (List.cons.inj h).1 ▸ (List.cons.inj h).2 ▸ rfl⟩
  parent := by decide
  fileName := by decide
  stagingPlain := by decide
  previousPlain := by decide
  name_ne_staging := by decide
  name_ne_previous := by decide
  staging_ne_previous := by decide

/-- The tree once the new directory is filled. -/
def filledTree : FileTree :=
  (staleDisk.tree.put ["project", ".dist.weft-staging"] .directory).put
    ["project", ".dist.weft-staging", "a.js"] (.file "a".toUTF8)

/-- The tree once the output directory is put aside. -/
def lostTree : FileTree := filledTree.move ["project", "dist"] ["project", ".dist.weft-previous"]

theorem home?_detour {t : FileTree} (hproject : t.node? ["project"] = some .directory) :
    (t.node? ["project", "dist"] = some .directory →
      t.home? [] detourPlaces.directory = some ["project"]) ∧
      (t.node? ["project", "dist"] = none → t.home? [] detourPlaces.directory = none) := by
  have hparent : detourPlaces.directory.parent? = some ⟨"/project/dist/.."⟩ := by decide +kernel
  have hsteps : (⟨"/project/dist/.."⟩ : Path).steps = [.down "project", .down "dist", .up] := by
    decide +kernel
  have hstart : FileTree.start [] ⟨"/project/dist/.."⟩ = [] := by decide +kernel
  have hlimit : ¬ FileTree.nameLimit < "project".utf8ByteSize ∧
      ¬ FileTree.nameLimit < "dist".utf8ByteSize := by decide
  unfold FileTree.home?
  rw [hparent, Option.bind_some, FileTree.directory?, hsteps, hstart]
  refine ⟨fun hdist => ?_, fun hdist => ?_⟩
  · simp [FileTree.walk, FileTree.isDirectory, hproject, hdist, hlimit, Except.toOption]
  · simp [FileTree.walk, FileTree.isDirectory, hproject, hdist, hlimit, Except.toOption]

theorem staging_home?_detour {t : FileTree} (hproject : t.node? ["project"] = some .directory)
    (hdist : t.node? ["project", "dist"] = some .directory) :
    t.home? [] detourPlaces.staging = some ["project"] :=
  (detourPlaces.staging_home? t []).trans ((home?_detour hproject).1 hdist)

theorem previous_home?_detour {t : FileTree} (hproject : t.node? ["project"] = some .directory)
    (hdist : t.node? ["project", "dist"] = some .directory) :
    t.home? [] detourPlaces.previous = some ["project"] :=
  (detourPlaces.previous_home? t []).trans ((home?_detour hproject).1 hdist)

theorem textFailure?_detour : Disk.textFailure? detourPlaces.directory = none ∧
    Disk.textFailure? detourPlaces.staging = none ∧
      Disk.textFailure? detourPlaces.previous = none := by decide

/-- The new directory is filled as usual. -/
theorem ends_writeFiles_detour : Ends (freshOutput.writeFiles detourPlaces.staging) staleDisk
    (fun d' => d' = { staleDisk with tree := filledTree }) (fun _ _ => False) := by
  obtain ⟨-, htext, -⟩ := textFailure?_detour
  have hcreate := Disk.ends_create_of_free (d := staleDisk) rfl detourPlaces.staging_namedSteps?
    htext (by decide) (staging_home?_detour (t := staleDisk.tree) rfl rfl) rfl
  let made := staleDisk.tree.put ["project", ".dist.weft-staging"] .directory
  have hname : IsPlainName "a.js" := by decide
  have hwrite := Disk.ends_write_of_free (d := { staleDisk with tree := made })
    (detourPlaces.trimmed.cons detourPlaces.stagingPlain) detourPlaces.stagingPlain hname
    "a".toUTF8 (staging_home?_detour (t := made) rfl rfl) rfl rfl rfl ⟨htext, by decide⟩
    ⟨by decide, by decide⟩
  unfold writeFiles
  refine hcreate.next ?_
  show Ends (Disk.write (detourPlaces.staging.join ⟨"a.js"⟩) "a".toUTF8 >>= fun _ => pure ())
    { staleDisk with tree := made } _ _
  exact hwrite.next (Disk.ends_pure rfl)

theorem ends_writeTo_detour : Ends (freshOutput.writeTo detour ⟨"/project"⟩) staleDisk
    (fun _ => False) (fun _ d' => d' = { staleDisk with tree := lostTree }) := by
  obtain ⟨htext, hstagingText, hpreviousText⟩ := textFailure?_detour
  have hstaging : sibling? detour stagingMark = some detourPlaces.staging := by decide
  have hprevious : sibling? detour previousMark = some detourPlaces.previous := by decide
  have hnamed : detourPlaces.directory.namedSteps? =
      some ([.down "project", .down "dist", .up], "dist") := by
    decide +kernel
  have hstagingAbsent : staleDisk.isPresent detourPlaces.staging = false :=
    Disk.not_isPresent_of_free detourPlaces.staging_namedSteps? detourPlaces.staging_steps
      (staging_home?_detour (t := staleDisk.tree) rfl rfl) rfl
  have hpreviousAbsent : staleDisk.isPresent detourPlaces.previous = false :=
    Disk.not_isPresent_of_free detourPlaces.previous_namedSteps? detourPlaces.previous_steps
      (previous_home?_detour (t := staleDisk.tree) rfl rfl) rfl
  unfold writeTo
  rw [if_neg (by decide), hstaging, hprevious]
  refine Disk.Ends.adaptExcept ?_
  -- there is nothing to remove, and the new directory is filled
  refine Disk.Ends.next (ends_clear_of_not_isPresent hstagingAbsent) ?_
  refine Disk.Ends.next (ends_clear_of_not_isPresent hpreviousAbsent) ?_
  refine Disk.Ends.next (ends_orDiscard detourPlaces.staging_namedSteps? detourPlaces.staging_steps
    ends_writeFiles_detour (fun _ _ h => h.elim) fun _ _ _ h => h.elim) ?_
  -- the output directory is put aside, and with it the way to it
  have hhome : filledTree.home? [] detourPlaces.directory = some ["project"] :=
    (home?_detour rfl).1 rfl
  have hdist : filledTree.node? ["project", "dist"] = some .directory := rfl
  have hlost : lostTree.home? [] detourPlaces.directory = none := (home?_detour rfl).2 rfl
  have hcan : Disk.CanRename detourPlaces.directory detourPlaces.previous "dist"
      ".dist.weft-previous" .directory :=
    ⟨⟨htext, by decide, _, hnamed⟩, ⟨hpreviousText, by decide, _, detourPlaces.previous_namedSteps?⟩,
      fun h => absurd rfl h⟩
  have hpresent : { staleDisk with tree := filledTree }.isPresent detourPlaces.directory = true :=
    Disk.isPresent_of_isDirectory (Disk.isDirectory_of_node? hnamed htext (by decide) hhome hdist)
  have hfree : filledTree.node? ["project", ".dist.weft-previous"] = none := rfl
  exact ends_replace_of_lost (w := detourPlaces) (m := ["project"]) (n := .directory)
    (d := { staleDisk with tree := filledTree }) rfl hhome hpresent hcan hdist hfree hlost

/-- A write by a path that goes through the output directory loses it. -/
theorem writeTo_loses_detour :
    (∀ f ∈ freshOutput.files.toList, IsPlainName f.1) ∧ staleDisk.tree.IsGrounded ∧
      staleDisk.faults = [] ∧ staleDisk.entry detour [] = some .directory ∧
      freshOutput.entry [] = some .directory ∧
      ∃ e d', (freshOutput.writeTo detour ⟨"/project"⟩).run staleDisk = .error e d' ∧
        d'.entry detour [] = none ∧ d'.tree.node? ["project", "dist"] = none := by
  have hfile : detour.fileName? = some "dist" := by decide +kernel
  have hbefore : staleDisk.entry detour [] = some .directory :=
    congrFun (Disk.entry_eq ((home?_detour (t := staleDisk.tree) rfl).1 rfl) hfile) []
  have hafter : { staleDisk with tree := lostTree }.entry detour [] = none :=
    congrFun (Disk.entry_of_homeless ((home?_detour (t := lostTree) rfl).2 rfl)) []
  refine ⟨by decide, isGrounded_stale, rfl, hbefore, rfl, ?_⟩
  cases hrun : (freshOutput.writeTo detour ⟨"/project"⟩).run staleDisk with
  | ok u d' => exact (ends_writeTo_detour.1 d' hrun).elim
  | error e d' =>
    rw [ends_writeTo_detour.2 e d' hrun]
    exact ⟨e, _, rfl, hafter, rfl⟩

end BuildOutput

end Bundler
