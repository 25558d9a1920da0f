import Bundler.Proofs.Output.Files

set_option autoImplicit false

/-! # Replacing the output directory

The output directory, the new directory and the place for the old one have three names in one
directory (`Places`). As long as the way to that directory does not lead through them (`Around`),
what happens in one of the places leaves the other two as they are. So a replacement that fails
leaves the output directory what it was (`Kept`), or just cannot remove the old one in the end
(`Unremoved`). If the way does lead through the output directory, it is lost
(`ends_replace_of_lost`). -/

namespace Bundler

/-! ## Places in one directory -/

namespace FileTree

variable {t base : FileTree} {m : Location} {a b c : String}

theorem not_prefix_of_ne (hab : a ≠ b) (below : Location) : ¬ m ++ [a] <+: m ++ [b] ++ below := by
  rintro ⟨rest, heq⟩
  rw [List.append_assoc, List.append_assoc] at heq
  have h := List.append_cancel_left heq
  rw [List.singleton_append, List.singleton_append] at h
  exact hab (List.cons.inj h).1

theorem entryAt_remove_self : (t.remove (m ++ [a])).entryAt (m ++ [a]) = fun _ => none := by
  funext below
  unfold entryAt
  rw [node?_remove (by simp), if_pos (List.prefix_append _ below)]

theorem entryAt_remove_of_ne (hab : a ≠ b) :
    (t.remove (m ++ [a])).entryAt (m ++ [b]) = t.entryAt (m ++ [b]) := by
  funext below
  unfold entryAt
  rw [node?_remove (by simp), if_neg (not_prefix_of_ne hab below)]

theorem entryAt_move_target :
    (t.move (m ++ [a]) (m ++ [b])).entryAt (m ++ [b]) = t.entryAt (m ++ [a]) := by
  funext below
  exact node?_move_append (by simp) (by simp) below

theorem entryAt_move_source (hab : a ≠ b) :
    (t.move (m ++ [a]) (m ++ [b])).entryAt (m ++ [a]) = fun _ => none := by
  funext below
  unfold entryAt
  rw [node?_move (by simp) (by simp), if_neg (not_prefix_of_ne hab.symm below),
    if_pos (List.prefix_append _ below)]

theorem entryAt_move_of_ne (hac : a ≠ c) (hbc : b ≠ c) :
    (t.move (m ++ [a]) (m ++ [b])).entryAt (m ++ [c]) = t.entryAt (m ++ [c]) := by
  funext below
  unfold entryAt
  rw [node?_move (by simp) (by simp), if_neg (not_prefix_of_ne hbc below),
    if_neg (not_prefix_of_ne hac below)]

theorem AgreeOutside.entryAt {t' : FileTree} (h : t.AgreeOutside t' (m ++ [a])) (hab : a ≠ b) :
    t'.entryAt (m ++ [b]) = t.entryAt (m ++ [b]) := by
  funext below
  exact h _ (not_prefix_of_ne hab below)

/-- What was new in one place is new in the other once it is moved there. -/
theorem AgreeOutside.move {t' : FileTree} (h : t.AgreeOutside t' (m ++ [a]))
    (hfree : t.IsFree (m ++ [a])) :
    t.AgreeOutside (t'.move (m ++ [a]) (m ++ [b])) (m ++ [b]) := by
  intro k hk
  rw [node?_move (by simp) (by simp), if_neg hk]
  by_cases hbelow : m ++ [a] <+: k
  · obtain ⟨below, rfl⟩ := hbelow
    rw [if_pos (List.prefix_append _ _), hfree below]
  · rw [if_neg hbelow]
    exact h k hbelow

theorem node?_of_entryAt {l : Location} {n : Option Node} (h : t.entryAt l [] = n) :
    t.node? l = n := by
  rwa [FileTree.entryAt, List.append_nil] at h

theorem node?_eq_of_entryAt {t' : FileTree} {l l' : Location} (h : t'.entryAt l' = t.entryAt l) :
    t'.node? l' = t.node? l := by
  have hnode := congrFun h []
  rwa [FileTree.entryAt, FileTree.entryAt, List.append_nil, List.append_nil] at hnode

end FileTree

namespace Disk

variable {d : Disk} {p : Path} {m : Location} {name : String}

/-- What stands in the place of a path, and below it. A link there is not followed. -/
def entry (d : Disk) (p : Path) (below : Location) : Option Node := do
  let m ← d.tree.home? d.current p
  let name ← p.fileName?
  d.tree.entryAt (m ++ [name]) below

theorem entry_eq (hhome : d.tree.home? d.current p = some m) (hname : p.fileName? = some name) :
    d.entry p = d.tree.entryAt (m ++ [name]) := by
  funext below
  unfold entry
  rw [hhome, hname]
  rfl

theorem entry_of_homeless (h : d.tree.home? d.current p = none) : d.entry p = fun _ => none := by
  funext below
  unfold entry
  rw [h]
  rfl

/-- Where nothing stands, nothing stands in a part of the tree. -/
theorem entry_of_part {t : FileTree} (hpart : t.IsPart d.tree) (h : d.entry p = fun _ => none) :
    { d with tree := t }.entry p = fun _ => none := by
  cases hhome : t.home? d.current p with
  | none => exact entry_of_homeless hhome
  | some m =>
    funext below
    cases hname : p.fileName? with
    | none =>
      unfold entry
      rw [hname]
      simp
    | some name =>
      rw [entry_eq (hpart.home? hhome) hname] at h
      rw [entry_eq hhome hname]
      cases hnode : t.entryAt (m ++ [name]) below with
      | none => rfl
      | some n =>
        have hsome : d.tree.entryAt (m ++ [name]) below = some n := hpart _ n hnode
        rw [h] at hsome
        cases hsome

end Disk

namespace BuildOutput

open Disk (DiskM Ends)

variable {d : Disk} {p q : Path} {m : Location} {name : String} {before : List Step}

/-! ## Clearing a place -/

theorem ends_clear (hp : p.namedSteps? = some (before, name))
    (hsteps : p.steps = before ++ [.down name]) :
    Ends (clear p) d
      (fun d' => d.isPresent p = false ∧ d' = d ∨ ∃ m, d.tree.home? d.current p = some m ∧
        d' = { d with tree := d.tree.remove (m ++ [name]) })
      (fun _ d' => d' = d) := by
  unfold clear
  refine Disk.ends_get ?_
  cases hpresent : d.isPresent p with
  | false => exact Disk.ends_pure (.inl ⟨rfl, rfl⟩)
  | true =>
    obtain ⟨-, -, m, hhome, -⟩ := Disk.exists_home?_of_isPresent hp hsteps hpresent
    refine (Disk.ends_remove hhome (Path.exists_parent_of_namedSteps? hp).1).imp ?_ fun _ _ h => h
    rintro d' rfl
    exact .inr ⟨m, hhome, rfl⟩

theorem ends_clear_of_isPresent {good : Disk → Prop} {bad : FileError → Disk → Prop}
    (h : d.isPresent p = true) (hremove : Ends (Disk.remove p) d good bad) :
    Ends (clear p) d good bad := by
  unfold clear
  refine Disk.ends_get ?_
  rw [h]
  exact hremove

theorem ends_clear_of_not_isPresent (h : d.isPresent p = false) :
    Ends (clear p) d (fun d' => d' = d) (fun _ _ => False) := by
  unfold clear
  refine Disk.ends_get ?_
  rw [h]
  exact Disk.ends_pure rfl

/-- If the directory that a path lies in is not there, there is nothing to clear. -/
theorem ends_clear_of_homeless (hp : p.namedSteps? = some (before, name))
    (hsteps : p.steps = before ++ [.down name]) (hhome : d.tree.home? d.current p = none) :
    Ends (clear p) d (fun d' => d' = d) (fun _ d' => d' = d) := by
  refine (ends_clear hp hsteps).imp ?_ fun _ _ h => h
  rintro d' (⟨-, rfl⟩ | ⟨m, hm, -⟩)
  · rfl
  · rw [hhome] at hm
    cases hm

/-- Discarding removes what stands in a place, or nothing, and never fails. -/
theorem ends_discard (hp : p.namedSteps? = some (before, name))
    (hsteps : p.steps = before ++ [.down name]) :
    Ends (discard p) d
      (fun d' => d' = d ∨ ∃ m, d.tree.home? d.current p = some m ∧
        d' = { d with tree := d.tree.remove (m ++ [name]) })
      (fun _ _ => False) := by
  unfold discard
  refine Disk.Ends.tryCatch ((ends_clear hp hsteps).imp ?_ fun _ _ h => h) ?_
  · rintro d' (⟨-, h⟩ | h)
    · exact .inl h
    · exact .inr h
  · rintro - d' rfl
    exact Disk.ends_pure (.inl rfl)

/-- If a step fails, it still fails with what it leaves behind, or with that without a place. -/
theorem ends_orDiscard (hp : p.namedSteps? = some (before, name))
    (hsteps : p.steps = before ++ [.down name]) {step : DiskM FileError Unit} {good : Disk → Prop}
    {bad bad' : FileError → Disk → Prop} (h : Ends step d good bad')
    (hbad : ∀ e d', bad' e d' → bad e d')
    (hremove : ∀ e d' m, bad' e d' → d'.tree.home? d'.current p = some m →
      bad e { d' with tree := d'.tree.remove (m ++ [name]) }) :
    Ends (orDiscard p step) d good bad := by
  unfold orDiscard
  refine Disk.Ends.tryCatch h fun e d' hd' => ?_
  refine Disk.Ends.bind ((ends_discard hp hsteps).imp (fun _ h => h) fun _ _ h => h.elim) ?_
  rintro d'' (rfl | ⟨m, hm, rfl⟩)
  · exact Disk.ends_throw (hbad e d'' hd')
  · exact Disk.ends_throw (hremove e d' m hd' hm)

/-! ## The places of a write -/

/-- The output directory, the place for the new directory and that for the old one: three names in
    the directory of some segments. -/
structure Places where
  directory : Path
  relative : Bool
  reversed : List (List Char)
  name : String
  stagingName : String
  previousName : String
  trimmed : Path.IsTrimmed relative reversed
  parent : directory.parent? = some (.ofReversed relative reversed)
  fileName : directory.fileName? = some name
  stagingPlain : IsPlainName stagingName
  previousPlain : IsPlainName previousName
  name_ne_staging : name ≠ stagingName
  name_ne_previous : name ≠ previousName
  staging_ne_previous : stagingName ≠ previousName

namespace Places

/-- The path of the new directory. -/
def staging (w : Places) : Path := .ofReversed w.relative (w.stagingName.toList :: w.reversed)

/-- The path of the old directory. -/
def previous (w : Places) : Path := .ofReversed w.relative (w.previousName.toList :: w.reversed)

variable (w : Places) {t base : FileTree} {here : Location}

theorem staging_namedSteps? :
    w.staging.namedSteps? = some (w.reversed.reverse.filterMap Path.stepOf?, w.stagingName) :=
  Path.namedSteps?_ofReversed_name (w.trimmed.cons w.stagingPlain) w.stagingPlain

theorem previous_namedSteps? :
    w.previous.namedSteps? = some (w.reversed.reverse.filterMap Path.stepOf?, w.previousName) :=
  Path.namedSteps?_ofReversed_name (w.trimmed.cons w.previousPlain) w.previousPlain

theorem staging_steps :
    w.staging.steps = w.reversed.reverse.filterMap Path.stepOf? ++ [.down w.stagingName] :=
  Path.steps_ofReversed_name (w.trimmed.cons w.stagingPlain) w.stagingPlain

theorem previous_steps :
    w.previous.steps = w.reversed.reverse.filterMap Path.stepOf? ++ [.down w.previousName] :=
  Path.steps_ofReversed_name (w.trimmed.cons w.previousPlain) w.previousPlain

theorem staging_fileName? : w.staging.fileName? = some w.stagingName :=
  Path.fileName?_ofReversed_name (w.trimmed.cons w.stagingPlain) w.stagingPlain

theorem previous_fileName? : w.previous.fileName? = some w.previousName :=
  Path.fileName?_ofReversed_name (w.trimmed.cons w.previousPlain) w.previousPlain

theorem staging_home? (t : FileTree) (here : Location) :
    t.home? here w.staging = t.home? here w.directory :=
  FileTree.home?_congr ((Path.parent?_ofReversed_name w.trimmed w.stagingPlain).trans w.parent.symm)

theorem previous_home? (t : FileTree) (here : Location) :
    t.home? here w.previous = t.home? here w.directory :=
  FileTree.home?_congr
    ((Path.parent?_ofReversed_name w.trimmed w.previousPlain).trans w.parent.symm)

/-- Whether the places lie in a directory that is reached in a part of a tree without them. -/
structure Around (base : FileTree) (m : Location) (here : Location) (t : FileTree) : Prop where
  part : base.IsPart t
  home : base.home? here w.directory = some m
  name : base.IsFree (m ++ [w.name])
  staging : base.IsFree (m ++ [w.stagingName])
  previous : base.IsFree (m ++ [w.previousName])

variable {w} {m : Location}

namespace Around

theorem home? (h : w.Around base m here t) : t.home? here w.directory = some m :=
  h.part.home? h.home

theorem staging_home? (h : w.Around base m here t) : t.home? here w.staging = some m :=
  (w.staging_home? t here).trans h.home?

theorem previous_home? (h : w.Around base m here t) : t.home? here w.previous = some m :=
  (w.previous_home? t here).trans h.home?

theorem remove (h : w.Around base m here t) {x : String} (hx : base.IsFree (m ++ [x])) :
    w.Around base m here (t.remove (m ++ [x])) :=
  { h with part := h.part.remove (by simp) hx }

theorem move (h : w.Around base m here t) {x y : String} (hx : base.IsFree (m ++ [x]))
    (hy : base.IsFree (m ++ [y])) : w.Around base m here (t.move (m ++ [x]) (m ++ [y])) :=
  { h with part := h.part.move (by simp) (by simp) hx hy }

theorem agreeOutside {t' : FileTree} (h : w.Around base m here t)
    (hagree : t.AgreeOutside t' (m ++ [w.stagingName])) : w.Around base m here t' :=
  { h with part := hagree.isPart h.part h.staging }

end Around

end Places

/-! ## Replacing the output directory -/

/-- Whether the output directory of a disk is still what it is on another one. -/
def Kept (w : Places) (base : FileTree) (m : Location) (d d' : Disk) : Prop :=
  ∃ t, d' = { d with tree := t } ∧ w.Around base m d.current t ∧
    t.entryAt (m ++ [w.name]) = d.tree.entryAt (m ++ [w.name])

/-- Whether the new directory of a disk has taken the place of the old one and nothing is left
    beside it, but for what stood in the place of the old one if there was none. -/
def Replaced (w : Places) (base : FileTree) (m : Location) (d d' : Disk) : Prop :=
  ∃ t, d' = { d with tree := t } ∧ w.Around base m d.current t ∧
    t.entryAt (m ++ [w.name]) = d.tree.entryAt (m ++ [w.stagingName]) ∧
    t.entryAt (m ++ [w.stagingName]) = (fun _ => none) ∧
    (t.entryAt (m ++ [w.previousName]) = (fun _ => none) ∨
      d.tree.node? (m ++ [w.name]) = none ∧ t = d.tree.move (m ++ [w.stagingName]) (m ++ [w.name]))

/-- Whether the new directory of a disk has taken the place of the old one, and the old one cannot be
    removed. -/
def Unremoved (w : Places) (base : FileTree) (m : Location) (d : Disk) (e : FileError) (d' : Disk) :
    Prop :=
  ∃ t, d' = { d with tree := t } ∧ w.Around base m d.current t ∧
    t.entryAt (m ++ [w.name]) = d.tree.entryAt (m ++ [w.stagingName]) ∧
    t.entryAt (m ++ [w.previousName]) = d.tree.entryAt (m ++ [w.name]) ∧
    (Disk.remove w.previous).run d' = .error e d'

variable {w : Places} {base : FileTree}

theorem Kept.remove_staging {d' : Disk} (h : Kept w base m d d') :
    Kept w base m d { d' with tree := d'.tree.remove (m ++ [w.stagingName]) } := by
  obtain ⟨t, rfl, haround, hentry⟩ := h
  exact ⟨_, rfl, haround.remove haround.staging,
    (FileTree.entryAt_remove_of_ne w.name_ne_staging.symm).trans hentry⟩

theorem Kept.discard {d' : Disk} {e : FileError} {good : Disk → Prop}
    {bad : FileError → Disk → Prop} (h : Kept w base m d d')
    (hbad : ∀ d', Kept w base m d d' → bad e d') :
    Ends (do discard w.staging; throw e) d' good bad := by
  refine Disk.Ends.bind ((ends_discard w.staging_namedSteps? w.staging_steps).imp (fun _ h => h)
    fun _ _ h => h.elim) ?_
  obtain ⟨t, rfl, haround, hentry⟩ := h
  rintro d'' (rfl | ⟨m', hm', rfl⟩)
  · exact Disk.ends_throw (hbad _ ⟨t, rfl, haround, hentry⟩)
  · obtain rfl : m = m' := Option.some.inj (haround.staging_home?.symm.trans hm')
    exact Disk.ends_throw (hbad _ (Kept.remove_staging ⟨t, rfl, haround, hentry⟩))

/-- Nothing that is no directory gives way to the new directory. -/
theorem node?_eq_none_of_replacementFailure? {t : FileTree} {l : Location}
    (h : t.replacementFailure? .directory l = none) :
    t.node? l = none ∨ t.node? l = some .directory := by
  unfold FileTree.replacementFailure? at h
  cases hnode : t.node? l with
  | none => exact .inl rfl
  | some n =>
    rw [hnode] at h
    cases n with
    | directory => exact .inr rfl
    | file content => cases h
    | link target => cases h

/-- What was put aside comes back if the new directory does not take its place. -/
theorem ends_restore {n : Node} {t : FileTree} {e : FileError} {good : Disk → Prop}
    (h : w.Around base m d.current t) (hdenied : d.isDenied .rename w.previous = false)
    (hcan : Disk.CanRename w.directory w.previous w.name w.previousName n)
    (hnode : d.tree.node? (m ++ [w.name]) = some n)
    (hname : t.entryAt (m ++ [w.name]) = fun _ => none)
    (hprevious : t.entryAt (m ++ [w.previousName]) = d.tree.entryAt (m ++ [w.name])) :
    Ends (do
        Disk.rename w.previous w.directory
        discard w.staging
        throw e) { d with tree := t } good (fun _ => Kept w base m d) := by
  have hold : t.node? (m ++ [w.previousName]) = some n := by
    refine FileTree.node?_of_entryAt ((congrFun hprevious []).trans ?_)
    rwa [FileTree.entryAt, List.append_nil]
  have hfree : t.node? (m ++ [w.name]) = none := FileTree.node?_of_entryAt (congrFun hname [])
  refine (Disk.ends_rename_of_free (d := { d with tree := t }) hdenied h.previous_home? h.home?
    hcan.symm w.name_ne_previous.symm hold hfree).next ?_
  have hkept : Kept w base m d
      { d with tree := t.move (m ++ [w.previousName]) (m ++ [w.name]) } :=
    ⟨_, rfl, h.move h.previous h.name, FileTree.entryAt_move_target.trans hprevious⟩
  exact hkept.discard fun _ h => h

/-- Once the old directory is put aside, the new one takes its place or the old one comes back. -/
theorem ends_takePlace {n : Node} {t : FileTree} (h : w.Around base m d.current t)
    (hdenied : d.isDenied .rename w.previous = false)
    (hcan : Disk.CanRename w.directory w.previous w.name w.previousName n)
    (hnode : d.tree.node? (m ++ [w.name]) = some n)
    (hname : t.entryAt (m ++ [w.name]) = fun _ => none)
    (hprevious : t.entryAt (m ++ [w.previousName]) = d.tree.entryAt (m ++ [w.name]))
    (hstaging : t.entryAt (m ++ [w.stagingName]) = d.tree.entryAt (m ++ [w.stagingName])) :
    Ends (do
        tryCatch (Disk.rename w.staging w.directory) fun error => do
          Disk.rename w.previous w.directory
          discard w.staging
          throw error
        Disk.remove w.previous) { d with tree := t } (Replaced w base m d)
      (fun e d' => Kept w base m d d' ∨ Unremoved w base m d e d') := by
  refine Disk.Ends.bind (Disk.Ends.tryCatch (Disk.ends_rename h.staging_home? h.home?
    w.staging_fileName? w.fileName w.name_ne_staging.symm) ?_) ?_
  · rintro e d' rfl
    exact (ends_restore h hdenied hcan hnode hname hprevious).imp (fun _ h => h) fun _ _ h => .inl h
  · -- only the old directory is left to be removed
    rintro d₂ ⟨rfl, -⟩
    have h₂ := h.move h.staging h.name
    have hname₂ := (FileTree.entryAt_move_target (t := t) (m := m) (a := w.stagingName)
      (b := w.name)).trans hstaging
    have hstaging₂ := FileTree.entryAt_move_source (t := t) (m := m) w.name_ne_staging.symm
    have hprevious₂ := (FileTree.entryAt_move_of_ne (t := t) (m := m) w.staging_ne_previous
      w.name_ne_previous).trans hprevious
    generalize t.move (m ++ [w.stagingName]) (m ++ [w.name]) = t₂ at *
    refine (Disk.ends_remove h₂.previous_home? w.previous_fileName?).with_run.imp ?_ ?_
    · rintro d₃ rfl
      refine ⟨_, rfl, h₂.remove h₂.previous, ?_, ?_, .inl FileTree.entryAt_remove_self⟩
      · exact (FileTree.entryAt_remove_of_ne w.name_ne_previous.symm).trans hname₂
      · exact (FileTree.entryAt_remove_of_ne w.staging_ne_previous.symm).trans hstaging₂
    · rintro e d₃ ⟨rfl, hrun⟩
      exact .inr ⟨t₂, rfl, h₂, hname₂, hprevious₂, hrun⟩

/-- The new directory takes the place of the old one, or the old one stays what it is. -/
theorem ends_replace (h : w.Around base m d.current d.tree)
    (hstaged : d.tree.node? (m ++ [w.stagingName]) = some .directory)
    (hdenied : d.isDenied .rename w.previous = false) :
    Ends (replace w.directory w.staging w.previous) d (Replaced w base m d)
      (fun e d' => Kept w base m d d' ∨ Unremoved w base m d e d') := by
  have hkept : Kept w base m d d := ⟨_, rfl, h, rfl⟩
  unfold replace
  refine Disk.ends_get ?_
  cases hpresent : d.isPresent w.directory with
  | false =>
    simp only [Bool.false_eq_true, if_false]
    refine Disk.Ends.bind (Disk.Ends.tryCatch ((Disk.ends_rename h.staging_home? h.home?
      w.staging_fileName? w.fileName w.name_ne_staging.symm).imp ?_ fun _ _ h => h) ?_)
      fun d' hd' => Disk.ends_pure hd'
    · rintro d' ⟨rfl, n, hnode, hcan, hfailure⟩
      rw [hstaged] at hnode
      cases hnode
      -- a directory there would be present, and nothing else gives way
      have hnone : d.tree.node? (m ++ [w.name]) = none := by
        refine (node?_eq_none_of_replacementFailure? hfailure).resolve_right fun hdir => ?_
        obtain ⟨htext, hlimit, before, hp⟩ := hcan.target
        rw [Disk.isPresent_of_isDirectory (Disk.isDirectory_of_node? hp htext hlimit h.home? hdir)]
          at hpresent
        cases hpresent
      exact ⟨_, rfl, h.move h.staging h.name, FileTree.entryAt_move_target,
        FileTree.entryAt_move_source w.name_ne_staging.symm, .inr ⟨hnone, rfl⟩⟩
    · rintro e d' rfl
      exact hkept.discard fun _ h => .inl h
  | true =>
    simp only [if_true]
    refine Disk.Ends.bind (ends_orDiscard w.staging_namedSteps? w.staging_steps
      (Disk.ends_rename h.home? h.previous_home? w.fileName w.previous_fileName?
        w.name_ne_previous) ?_ ?_) ?_
    · rintro - d' rfl
      exact .inl hkept
    · rintro - d' m' rfl hm'
      obtain rfl : m = m' := Option.some.inj (h.staging_home?.symm.trans hm')
      exact .inl hkept.remove_staging
    · rintro d₁ ⟨rfl, n, hnode, hcan, -⟩
      exact ends_takePlace (h.move h.name h.previous) hdenied hcan hnode
        (FileTree.entryAt_move_source w.name_ne_previous) FileTree.entryAt_move_target
        (FileTree.entryAt_move_of_ne w.name_ne_staging w.staging_ne_previous.symm)

/-- If the way to the output directory leads through it, it is lost once it is put aside: nothing
    takes its place, and it does not come back. -/
theorem ends_replace_of_lost {n : Node} (hdenied : d.isDenied .rename w.directory = false)
    (hhome : d.tree.home? d.current w.directory = some m)
    (hpresent : d.isPresent w.directory = true)
    (hcan : Disk.CanRename w.directory w.previous w.name w.previousName n)
    (hnode : d.tree.node? (m ++ [w.name]) = some n)
    (hfree : d.tree.node? (m ++ [w.previousName]) = none)
    (hlost : (d.tree.move (m ++ [w.name]) (m ++ [w.previousName])).home? d.current w.directory
      = none) :
    Ends (replace w.directory w.staging w.previous) d (fun _ => False)
      (fun _ d' =>
        d' = { d with tree := d.tree.move (m ++ [w.name]) (m ++ [w.previousName]) }) := by
  have hprevious := (w.previous_home? d.tree d.current).trans hhome
  unfold replace
  refine Disk.ends_get ?_
  rw [hpresent]
  simp only [if_true]
  refine Disk.Ends.next (ends_orDiscard w.staging_namedSteps? w.staging_steps
    (Disk.ends_rename_of_free hdenied hhome hprevious hcan w.name_ne_previous hnode hfree)
    (fun _ _ h => h.elim) fun _ _ _ h => h.elim) ?_
  generalize d.tree.move (m ++ [w.name]) (m ++ [w.previousName]) = t at *
  refine Disk.Ends.bind (Disk.Ends.tryCatch
    (Disk.ends_rename_of_homeless (d := { d with tree := t }) (.inr hlost)) ?_) fun _ h => h.elim
  -- the old directory is not found any more either
  rintro e d' rfl
  refine Disk.Ends.bind (Disk.ends_rename_of_homeless (.inr hlost)) fun _ h => ?_
  exact h.elim

end BuildOutput

end Bundler
