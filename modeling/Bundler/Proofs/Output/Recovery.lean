import Bundler.Proofs.Output.Frame

set_option autoImplicit false

/-! # Writing again after writes that failed

A write that fails leaves something behind: a part of the new directory, the old directory put
aside, or no output directory at all. Whatever it is, the way to the places of the write is still
there and nothing but directories stands in them (`Places.IsSteady`). Every step of a write keeps
this, however it ends, and on such a disk a step fails only if it is denied or if a name is too long
for the system (`IsSteady.ends_write`). So the next write that nothing is denied to succeeds
(`writeTo_after_attempts`). -/

namespace Bundler

namespace FileTree

/-- Whether nothing or a directory stands at a location. -/
def IsReplaceable (t : FileTree) (l : Location) : Prop :=
  t.node? l = none ∨ t.node? l = some .directory

end FileTree

namespace BuildOutput

open Disk (DiskM Ends)

variable {w : Places} {base : FileTree} {m : Location} {faults : List Fault} {d d' : Disk}
  {p q : Path} {a b : String} {o : BuildOutput}

/-! ## Steady disks -/

namespace Places

/-- Whether a disk is one that writes to some places can leave behind. -/
structure IsSteady (w : Places) (base : FileTree) (m : Location) (faults : List Fault) (d : Disk) :
    Prop where
  faults : d.faults = faults
  around : w.IsAround base m d
  grounded : d.tree.IsGrounded
  replaceable : ∀ p a, w.IsPlace p a → d.tree.IsReplaceable (m ++ [a])

/-- Whether a place can be reached by its path: the path ends with the name, and neither is too
    long. -/
structure IsUsable (w : Places) (p : Path) (a : String) : Prop extends w.IsPlace p a where
  text : Disk.textFailure? p = none
  limit : ¬ FileTree.nameLimit < a.utf8ByteSize
  named : ∃ before, p.namedSteps? = some (before, a) ∧ p.steps = before ++ [.down a]

/-- Whether all places of a write can be reached. -/
structure AreUsable (w : Places) : Prop where
  directory : w.IsUsable w.directory w.name
  staging : w.IsUsable w.staging w.stagingName
  previous : w.IsUsable w.previous w.previousName

namespace IsSteady

theorem withFaults (h : w.IsSteady base m faults d) (faults' : List Fault) :
    w.IsSteady base m faults' { d with faults := faults' } :=
  ⟨rfl, h.around, h.grounded, h.replaceable⟩

theorem isDirectory (h : w.IsSteady base m faults d) : d.tree.node? m = some .directory :=
  FileTree.isDirectory_iff.1 (FileTree.isDirectory_of_home? h.around.home?)

theorem faults_ne_nil (h : w.IsSteady base m faults d) {operation : FileOperation}
    (hdenied : d.isDenied operation p = true) : faults ≠ [] := by
  rintro rfl
  unfold Disk.isDenied at hdenied
  rw [h.faults] at hdenied
  cases hdenied

theorem remove (h : w.IsSteady base m faults d) (hp : w.IsPlace p a) :
    w.IsSteady base m faults { d with tree := d.tree.remove (m ++ [a]) } := by
  refine ⟨h.faults, h.around.remove (hp.isFree h.around), h.grounded.remove (by simp), ?_⟩
  intro q b hq
  unfold FileTree.IsReplaceable
  rw [FileTree.node?_remove (by simp)]
  split
  · exact .inl rfl
  · exact h.replaceable q b hq

theorem move (h : w.IsSteady base m faults d) (hp : w.IsPlace p a) (hq : w.IsPlace q b)
    (hab : a ≠ b) : w.IsSteady base m faults { d with tree := d.tree.move (m ++ [a]) (m ++ [b]) } := by
  refine ⟨h.faults, h.around.move (hp.isFree h.around) (hq.isFree h.around),
    h.grounded.move (by simp) h.isDirectory (FileTree.not_concat_prefix m a), ?_⟩
  intro r c hr
  unfold FileTree.IsReplaceable
  by_cases hbc : b = c
  · subst hbc
    rw [FileTree.node?_eq_of_entryAt FileTree.entryAt_move_target]
    exact h.replaceable p a hp
  · by_cases hac : a = c
    · subst hac
      exact .inl (FileTree.node?_of_entryAt (congrFun (FileTree.entryAt_move_source hab) []))
    · rw [FileTree.node?_eq_of_entryAt (FileTree.entryAt_move_of_ne hac hbc)]
      exact h.replaceable r c hr

/-- A new directory that holds just files is one more directory in its place. -/
theorem fills {files : List (String × ByteArray)} (h : w.IsSteady base m faults d)
    (hfills : d.Fills (m ++ [w.stagingName]) files d') : w.IsSteady base m faults d' := by
  refine ⟨?_, Around.isAround_of_fills (d := d) h.around hfills,
    hfills.isGrounded h.grounded h.isDirectory, fun p a hp => ?_⟩
  · rw [hfills.same]
    exact h.faults
  · unfold FileTree.IsReplaceable
    by_cases ha : w.stagingName = a
    · rw [← ha]
      exact .inr (FileTree.node?_of_entryAt (congrFun hfills.entry []))
    · rw [FileTree.node?_eq_of_entryAt (hfills.outside.entryAt ha)]
      exact h.replaceable p a hp

/-- What is present in a place is a directory, and a directory there is present. -/
theorem isPresent_iff (h : w.IsSteady base m faults d) (hp : w.IsUsable p a) :
    d.isPresent p = true ↔ d.tree.node? (m ++ [a]) = some .directory := by
  obtain ⟨before, hnamed, hsteps⟩ := hp.named
  have hhome := hp.home?_eq h.around
  constructor
  · intro hpresent
    obtain ⟨-, -, m', hm', hnode⟩ := Disk.exists_home?_of_isPresent hnamed hsteps hpresent
    obtain rfl : m = m' := Option.some.inj (hhome.symm.trans hm')
    exact (h.replaceable p a hp.toIsPlace).resolve_left hnode
  · intro hnode
    exact Disk.isPresent_of_node? hnamed hsteps hp.text hp.limit hhome hnode
      fun _ => Node.noConfusion

theorem node?_of_not_isPresent (h : w.IsSteady base m faults d) (hp : w.IsUsable p a)
    (habsent : d.isPresent p = false) : d.tree.node? (m ++ [a]) = none := by
  refine (h.replaceable p a hp.toIsPlace).resolve_right fun hnode => ?_
  rw [(h.isPresent_iff hp).2 hnode] at habsent
  cases habsent

/-! ## Steps on a steady disk -/

/-- A directory in a place is removed unless that is denied. -/
theorem ends_remove (h : w.IsSteady base m faults d) (hp : w.IsUsable p a)
    (hnode : d.tree.node? (m ++ [a]) = some .directory) :
    Ends (Disk.remove p) d (fun d' => d' = { d with tree := d.tree.remove (m ++ [a]) })
      (fun _ d' => d' = d ∧ faults ≠ []) := by
  obtain ⟨before, hnamed, -⟩ := hp.named
  have hhome := hp.home?_eq h.around
  cases hdenied : d.isDenied .remove p with
  | false =>
    exact (Disk.ends_remove_of_node? hdenied hnamed hp.text hp.limit hhome hnode
      fun _ => Node.noConfusion).imp (fun _ h => h) fun _ _ h => h.elim
  | true =>
    exact (Disk.ends_remove hhome hp.fileName).imp (fun _ h => h)
      fun _ _ hd' => ⟨hd', h.faults_ne_nil hdenied⟩

/-- A directory in a place is brought to a free place unless that is denied. -/
theorem ends_rename (h : w.IsSteady base m faults d) (hp : w.IsUsable p a) (hq : w.IsUsable q b)
    (hab : a ≠ b) (hnode : d.tree.node? (m ++ [a]) = some .directory)
    (hfree : d.tree.node? (m ++ [b]) = none) :
    Ends (Disk.rename p q) d (fun d' => d' = { d with tree := d.tree.move (m ++ [a]) (m ++ [b]) })
      (fun _ d' => d' = d ∧ faults ≠ []) := by
  obtain ⟨before, hnamed, -⟩ := hp.named
  obtain ⟨before', hnamed', -⟩ := hq.named
  have hcan : Disk.CanRename p q a b .directory :=
    ⟨⟨hp.text, hp.limit, before, hnamed⟩, ⟨hq.text, hq.limit, before', hnamed'⟩,
      fun hne => absurd rfl hne⟩
  have hhome := hp.home?_eq h.around
  have hhome' := hq.home?_eq h.around
  cases hdenied : d.isDenied .rename p with
  | false =>
    exact (Disk.ends_rename_of_free hdenied hhome hhome' hcan hab hnode hfree).imp (fun _ h => h)
      fun _ _ h => h.elim
  | true =>
    exact (Disk.ends_rename hhome hhome' hp.fileName hq.fileName hab).imp (fun _ h => h.1)
      fun _ _ hd' => ⟨hd', h.faults_ne_nil hdenied⟩

/-- A place is free once it is cleared, and so are all that were before. -/
theorem ends_clear (h : w.IsSteady base m faults d) (hp : w.IsUsable p a) :
    Ends (clear p) d
      (fun d' => w.IsSteady base m faults d' ∧ d'.tree.node? (m ++ [a]) = none ∧
        ∀ b, d.tree.node? (m ++ [b]) = none → d'.tree.node? (m ++ [b]) = none)
      (fun _ d' => w.IsSteady base m faults d' ∧ faults ≠ []) := by
  cases hpresent : d.isPresent p with
  | false =>
    refine (ends_clear_of_not_isPresent hpresent).imp ?_ fun _ _ h => h.elim
    rintro d' rfl
    exact ⟨h, h.node?_of_not_isPresent hp hpresent, fun _ hb => hb⟩
  | true =>
    have hnode := (h.isPresent_iff hp).1 hpresent
    refine ends_clear_of_isPresent hpresent ((h.ends_remove hp hnode).imp ?_ ?_)
    · rintro d' rfl
      refine ⟨h.remove hp.toIsPlace,
        FileTree.node?_of_entryAt (congrFun FileTree.entryAt_remove_self []), fun b hb => ?_⟩
      rw [FileTree.node?_remove (by simp), hb, ite_self]
    · rintro - d' ⟨rfl, hfaults⟩
      exact ⟨h, hfaults⟩

theorem ends_discard (h : w.IsSteady base m faults d) (hp : w.IsUsable p a) :
    Ends (discard p) d (w.IsSteady base m faults) (fun _ _ => False) :=
  Disk.Ends.tryCatch ((h.ends_clear hp).imp (fun _ h => h.1) fun _ _ h => h.1)
    fun _ _ hd' => Disk.ends_pure hd'

/-- A failure is still one after a place is discarded, and for the same reason. -/
theorem ends_discard_throw {good : Disk → Prop} {reason : Prop} (h : w.IsSteady base m faults d)
    (hp : w.IsUsable p a) (hreason : reason) (e : FileError) :
    Ends (do discard p; throw e) d good
      (fun _ d' => w.IsSteady base m faults d' ∧ reason) :=
  Disk.Ends.bind ((h.ends_discard hp).imp (fun _ h => h) fun _ _ h => h.elim)
    fun _ hd' => Disk.ends_throw ⟨hd', hreason⟩

end IsSteady

theorem IsUsable.ends_orDiscard {step : DiskM FileError Unit} {good : Disk → Prop} {reason : Prop}
    (hp : w.IsUsable p a)
    (h : Ends step d good fun _ d' => w.IsSteady base m faults d' ∧ reason) :
    Ends (orDiscard p step) d good fun _ d' => w.IsSteady base m faults d' ∧ reason :=
  Disk.Ends.tryCatch h fun e _ hd' => hd'.1.ends_discard_throw hp hd'.2 e

end Places

/-! ## Filling the new directory -/

/-- Whether no name of an output is too long for the system in a directory. -/
def FitsIn (o : BuildOutput) (directory : Path) : Prop :=
  ∀ f ∈ o.files.toList, Disk.textFailure? (directory.join ⟨f.1⟩) = none ∧
    ¬ FileTree.nameLimit < f.1.utf8ByteSize

theorem ends_create_of_steady (h : w.IsSteady base m faults d)
    (hstaging : w.IsUsable w.staging w.stagingName)
    (hfree : d.tree.node? (m ++ [w.stagingName]) = none) :
    Ends (Disk.create w.staging) d (Made w base m d.tree d) (fun _ d' => d' = d ∧ faults ≠ []) := by
  have habsent : d.isPresent w.staging = false := not_isPresent_staging h.around hfree
  cases hdenied : d.isDenied .create w.staging with
  | false =>
    refine (Disk.ends_create_of_free hdenied w.staging_namedSteps? hstaging.text hstaging.limit
      (hstaging.home?_eq h.around) hfree).imp ?_ fun _ _ h => h.elim
    rintro d' rfl
    exact ⟨h.around, h.grounded, hfree, rfl⟩
  | true =>
    exact (ends_create_of_home h.around h.grounded habsent).imp (fun _ h => h)
      fun _ _ hd' => ⟨hd', h.faults_ne_nil hdenied⟩

/-- In a free place, all files are written unless one of them is denied or its name is too long. -/
theorem ends_writeFiles_of_steady (h : w.IsSteady base m faults d)
    (hstaging : w.IsUsable w.staging w.stagingName)
    (hfree : d.tree.node? (m ++ [w.stagingName]) = none)
    (hplain : ∀ f ∈ o.files.toList, IsPlainName f.1) :
    Ends (o.writeFiles w.staging) d (d.Fills (m ++ [w.stagingName]) o.files.toList)
      (fun _ d' => w.IsSteady base m faults d' ∧ (faults = [] → ¬ o.FitsIn w.staging)) := by
  refine Disk.Ends.bind ((ends_create_of_steady h hstaging hfree).imp (fun _ h => h) ?_) ?_
  · rintro - d' ⟨rfl, hfaults⟩
    exact ⟨h, fun hnone => absurd hnone hfaults⟩
  · intro d' hmade
    refine (hmade.ends_files hplain).imp (fun _ h => h) ?_
    rintro - d'' ⟨⟨others, hfills⟩, f, hf, hblocked⟩
    refine ⟨h.fills hfills, fun hnone hfits => hblocked ⟨?_, ⟨hstaging.text, hstaging.limit⟩,
      hfits f hf⟩⟩
    rw [Bool.eq_false_iff]
    exact fun hdenied => h.faults_ne_nil hdenied hnone

/-! ## Putting it in place -/

/-- Whether a disk holds in place of the output directory what stood in the place of the new
    directory on another one, and nothing beside it. -/
structure TakesPlace (w : Places) (m : Location) (d d' : Disk) : Prop where
  name : d'.tree.entryAt (m ++ [w.name]) = d.tree.entryAt (m ++ [w.stagingName])
  staging : d'.tree.node? (m ++ [w.stagingName]) = none
  previous : d'.tree.node? (m ++ [w.previousName]) = none

/-- Once the old directory is put aside, the new one takes its place unless a step is denied; also
    the one that would bring the old directory back. -/
theorem ends_takePlace_of_steady (h : w.IsSteady base m faults d) (hw : w.AreUsable)
    (hname : d.tree.node? (m ++ [w.name]) = none)
    (hstaging : d.tree.node? (m ++ [w.stagingName]) = some .directory)
    (hprevious : d.tree.node? (m ++ [w.previousName]) = some .directory) :
    Ends (do
        tryCatch (Disk.rename w.staging w.directory) fun error => do
          Disk.rename w.previous w.directory
          discard w.staging
          throw error
        Disk.remove w.previous) d
      (fun d' => w.IsSteady base m faults d' ∧ TakesPlace w m d d')
      (fun _ d' => w.IsSteady base m faults d' ∧ faults ≠ []) := by
  refine Disk.Ends.bind (Disk.Ends.tryCatch
    (h.ends_rename hw.staging hw.directory w.name_ne_staging.symm hstaging hname) ?_) ?_
  · -- a step was denied: the old directory is brought back, or that is denied, too
    rintro e d' ⟨rfl, hfaults⟩
    refine Disk.Ends.bind ((h.ends_rename hw.previous hw.directory w.name_ne_previous.symm
      hprevious hname).imp (fun _ h => h) ?_) ?_
    · rintro - d'' ⟨rfl, -⟩
      exact ⟨h, hfaults⟩
    · rintro d'' rfl
      exact (h.move w.isPlace_previous w.isPlace_directory
        w.name_ne_previous.symm).ends_discard_throw hw.staging hfaults e
  · rintro d' rfl
    have h' := h.move w.isPlace_staging w.isPlace_directory w.name_ne_staging.symm
    have hname' := FileTree.entryAt_move_target (t := d.tree) (m := m) (a := w.stagingName)
      (b := w.name)
    have hstaging' := FileTree.entryAt_move_source (t := d.tree) (m := m) w.name_ne_staging.symm
    have hprevious' := (FileTree.node?_eq_of_entryAt (FileTree.entryAt_move_of_ne (t := d.tree)
      (m := m) w.staging_ne_previous w.name_ne_previous)).trans hprevious
    generalize d.tree.move (m ++ [w.stagingName]) (m ++ [w.name]) = t at *
    refine (h'.ends_remove hw.previous hprevious').imp ?_ ?_
    · rintro d'' rfl
      refine ⟨h'.remove w.isPlace_previous, ?_, ?_, ?_⟩
      · exact (FileTree.entryAt_remove_of_ne w.name_ne_previous.symm).trans hname'
      · exact FileTree.node?_of_entryAt (congrFun ((FileTree.entryAt_remove_of_ne
          w.staging_ne_previous.symm).trans hstaging') [])
      · exact FileTree.node?_of_entryAt (congrFun FileTree.entryAt_remove_self [])
    · rintro - d'' ⟨rfl, hfaults⟩
      exact ⟨h', hfaults⟩

/-- The new directory takes the place of the old one, if there is one, unless a step is denied. -/
theorem ends_replace_of_steady (h : w.IsSteady base m faults d) (hw : w.AreUsable)
    (hstaging : d.tree.node? (m ++ [w.stagingName]) = some .directory)
    (hprevious : d.tree.node? (m ++ [w.previousName]) = none) :
    Ends (replace w.directory w.staging w.previous) d
      (fun d' => w.IsSteady base m faults d' ∧ TakesPlace w m d d')
      (fun _ d' => w.IsSteady base m faults d' ∧ faults ≠ []) := by
  unfold replace
  refine Disk.ends_get ?_
  -- without an old directory one rename is enough; with one, it is put aside first
  cases hpresent : d.isPresent w.directory with
  | false =>
    have hname := h.node?_of_not_isPresent hw.directory hpresent
    simp only [Bool.false_eq_true, if_false]
    refine Disk.Ends.bind (Disk.Ends.tryCatch
      (h.ends_rename hw.staging hw.directory w.name_ne_staging.symm hstaging hname) ?_)
      fun d' hd' => Disk.ends_pure ?_
    · rintro e d' ⟨rfl, hfaults⟩
      exact h.ends_discard_throw hw.staging hfaults e
    · rw [hd']
      refine ⟨h.move w.isPlace_staging w.isPlace_directory w.name_ne_staging.symm,
        FileTree.entryAt_move_target, ?_, ?_⟩
      · exact FileTree.node?_of_entryAt
          (congrFun (FileTree.entryAt_move_source w.name_ne_staging.symm) [])
      · exact (FileTree.node?_eq_of_entryAt (FileTree.entryAt_move_of_ne w.staging_ne_previous
          w.name_ne_previous)).trans hprevious
  | true =>
    have hname := (h.isPresent_iff hw.directory).1 hpresent
    simp only [if_true]
    refine Disk.Ends.bind (hw.staging.ends_orDiscard ((h.ends_rename hw.directory hw.previous
      w.name_ne_previous hname hprevious).imp (fun _ h => h) ?_)) ?_
    · rintro - d' ⟨rfl, hfaults⟩
      exact ⟨h, hfaults⟩
    · rintro d' rfl
      have hkeeps := FileTree.entryAt_move_of_ne (t := d.tree) (m := m) w.name_ne_staging
        w.staging_ne_previous.symm
      refine (ends_takePlace_of_steady (h.move w.isPlace_directory w.isPlace_previous
        w.name_ne_previous) hw ?_ ?_ ?_).imp ?_ fun _ _ h => h
      · exact FileTree.node?_of_entryAt
          (congrFun (FileTree.entryAt_move_source w.name_ne_previous) [])
      · exact (FileTree.node?_eq_of_entryAt hkeeps).trans hstaging
      · exact (FileTree.node?_eq_of_entryAt FileTree.entryAt_move_target).trans hname
      · rintro d'' ⟨hd'', htakes⟩
        exact ⟨hd'', htakes.name.trans hkeeps, htakes.staging, htakes.previous⟩

/-! ## Whole writes -/

/-- Whether the output directory holds just the files of an output and nothing is beside it. -/
structure Stands (w : Places) (m : Location) (o : BuildOutput) (d : Disk) : Prop where
  name : d.tree.entryAt (m ++ [w.name]) = o.entry
  staging : d.tree.node? (m ++ [w.stagingName]) = none
  previous : d.tree.node? (m ++ [w.previousName]) = none

/-- On a steady disk a write fails only if something is denied or a name is too long, and it leaves
    a steady disk however it ends. -/
theorem Places.IsSteady.ends_write (h : w.IsSteady base m faults d) (hw : w.AreUsable)
    (hplain : ∀ f ∈ o.files.toList, IsPlainName f.1) :
    Ends (do
        clear w.staging
        clear w.previous
        orDiscard w.staging (o.writeFiles w.staging)
        replace w.directory w.staging w.previous) d
      (fun d' => w.IsSteady base m faults d' ∧ Stands w m o d')
      (fun _ d' => w.IsSteady base m faults d' ∧ (faults = [] → ¬ o.FitsIn w.staging)) := by
  have hreason : ∀ {d'}, w.IsSteady base m faults d' ∧ faults ≠ [] →
      w.IsSteady base m faults d' ∧ (faults = [] → ¬ o.FitsIn w.staging) :=
    fun hd' => ⟨hd'.1, fun hnone => absurd hnone hd'.2⟩
  refine Disk.Ends.bind ((h.ends_clear hw.staging).imp (fun _ h => h) fun _ _ h => hreason h) ?_
  rintro d₁ ⟨h₁, hstaging, -⟩
  refine Disk.Ends.bind ((h₁.ends_clear hw.previous).imp (fun _ h => h) fun _ _ h => hreason h) ?_
  rintro d₂ ⟨h₂, hprevious, hkeeps⟩
  refine Disk.Ends.bind (hw.staging.ends_orDiscard
    (ends_writeFiles_of_steady h₂ hw.staging (hkeeps _ hstaging) hplain)) ?_
  intro d₃ hfills
  have hdir : d₃.tree.node? (m ++ [w.stagingName]) = some .directory :=
    FileTree.node?_of_entryAt (congrFun hfills.entry [])
  have hfree : d₃.tree.node? (m ++ [w.previousName]) = none :=
    (FileTree.node?_eq_of_entryAt (hfills.outside.entryAt w.staging_ne_previous)).trans hprevious
  refine (ends_replace_of_steady (h₂.fills hfills) hw hdir hfree).imp ?_ fun _ _ h => hreason h
  rintro d' ⟨hd', htakes⟩
  exact ⟨hd', htakes.name.trans hfills.entry, htakes.staging, htakes.previous⟩

/-! ## Writes to the path of a location -/

/-- The names of the places of a write to a directory of a name. -/
def placeNames (name : String) : List String :=
  [name, markedName name stagingMark, markedName name previousMark]

/-- Whether a location can be reached by its path: neither the path nor one of the names is too long
    for the system. -/
def IsReachable (l : Location) : Prop :=
  Disk.textFailure? l.path = none ∧ ∀ name ∈ l, ¬ FileTree.nameLimit < name.utf8ByteSize

/-- The places of a write to a directory of a name in the directory at a location. -/
def placesIn (parent : Location) (name : String) (hparent : parent.IsPlain)
    (hname : IsPlainName name) : Places where
  directory := Location.path (parent ++ [name])
  relative := false
  reversed := parent.reverse.map String.toList
  name := name
  stagingName := markedName name stagingMark
  previousName := markedName name previousMark
  trimmed := Path.isTrimmed_names fun x hx => hparent x (List.mem_reverse.1 hx)
  parent := by
    rw [Path.path_concat]
    exact Path.parent?_ofReversed_name
      (Path.isTrimmed_names fun x hx => hparent x (List.mem_reverse.1 hx)) hname
  fileName := by
    rw [Path.path_concat]
    exact Path.fileName?_ofReversed_name
      ((Path.isTrimmed_names fun x hx => hparent x (List.mem_reverse.1 hx)).cons hname) hname
  stagingPlain := isPlainName_markedName hname stagingMark (by decide)
  previousPlain := isPlainName_markedName hname previousMark (by decide)
  name_ne_staging := ne_markedName name stagingMark
  name_ne_previous := ne_markedName name previousMark
  staging_ne_previous := fun h => absurd (markedName_inj h) (by decide)

section

variable {parent : Location} {name : String} (hparent : parent.IsPlain) (hname : IsPlainName name)

theorem sibling?_placesIn :
    sibling? (placesIn parent name hparent hname).directory stagingMark =
        some (placesIn parent name hparent hname).staging ∧
      sibling? (placesIn parent name hparent hname).directory previousMark =
        some (placesIn parent name hparent hname).previous := by
  have hsibling : ∀ mark, IsPlainName (markedName name mark) →
      sibling? (placesIn parent name hparent hname).directory mark =
        some (.ofReversed false ((markedName name mark).toList ::
          parent.reverse.map String.toList)) := by
    intro mark hmarked
    unfold sibling? Path.withFileName
    rw [(placesIn parent name hparent hname).fileName, (placesIn parent name hparent hname).parent]
    exact congrArg some
      (Path.join_ofReversed (placesIn parent name hparent hname).trimmed hmarked)
  exact ⟨hsibling _ (placesIn parent name hparent hname).stagingPlain,
    hsibling _ (placesIn parent name hparent hname).previousPlain⟩

/-- A place whose location can be reached is usable. -/
theorem isUsable_placesIn (hp : (placesIn parent name hparent hname).IsPlace p a)
    (hpath : p = Location.path (parent ++ [a])) (ha : IsPlainName a)
    (hreach : IsReachable (parent ++ [a])) :
    (placesIn parent name hparent hname).IsUsable p a := by
  have htrimmed := (placesIn parent name hparent hname).trimmed.cons ha
  subst hpath
  refine ⟨hp, hreach.1, hreach.2 a (by simp), ?_⟩
  rw [Path.path_concat]
  exact ⟨_, Path.namedSteps?_ofReversed_name htrimmed ha, Path.steps_ofReversed_name htrimmed ha⟩

theorem areUsable_placesIn (hreach : ∀ place ∈ placeNames name, IsReachable (parent ++ [place])) :
    (placesIn parent name hparent hname).AreUsable := by
  simp only [placeNames, List.forall_mem_cons, List.not_mem_nil, false_imp_iff, implies_true,
    and_true] at hreach
  obtain ⟨hdirectory, hstaging, hprevious⟩ := hreach
  exact ⟨isUsable_placesIn hparent hname (Places.isPlace_directory _) rfl hname hdirectory,
    isUsable_placesIn hparent hname (Places.isPlace_staging _) (Path.path_concat _ _).symm
      (isPlainName_markedName hname stagingMark (by decide)) hstaging,
    isUsable_placesIn hparent hname (Places.isPlace_previous _) (Path.path_concat _ _).symm
      (isPlainName_markedName hname previousMark (by decide)) hprevious⟩

theorem fitsIn_placesIn (hplain : ∀ f ∈ o.files.toList, IsPlainName f.1)
    (hfits : ∀ f ∈ o.files.toList, IsReachable (parent ++ [markedName name stagingMark, f.1])) :
    o.FitsIn (placesIn parent name hparent hname).staging := by
  intro f hf
  have hjoin : (placesIn parent name hparent hname).staging.join ⟨f.1⟩ =
      Location.path (parent ++ [markedName name stagingMark, f.1]) := by
    rw [Path.path_eq_ofReversed, List.reverse_append]
    exact Path.join_ofReversed ((placesIn parent name hparent hname).trimmed.cons
      (placesIn parent name hparent hname).stagingPlain) (hplain f hf)
  rw [hjoin]
  exact ⟨(hfits f hf).1, (hfits f hf).2 f.1 (by simp)⟩

/-- The way to the places goes through directories above them only. -/
theorem isAround_placesIn (hgrounded : d.tree.IsGrounded)
    (hlimit : ∀ x ∈ parent, ¬ FileTree.nameLimit < x.utf8ByteSize)
    (hdir : d.tree.node? parent = some .directory) :
    (placesIn parent name hparent hname).IsAround (withoutPlaces d.tree parent name) parent d := by
  have hnode : (withoutPlaces d.tree parent name).node? parent = some .directory :=
    (node?_withoutPlaces fun place _ => FileTree.not_concat_prefix parent place).trans hdir
  have hgrounded' : (withoutPlaces d.tree parent name).IsGrounded :=
    ((hgrounded.remove (by simp)).remove (by simp)).remove (by simp)
  have hparentPath : (placesIn parent name hparent hname).directory.parent? = some parent.path :=
    (placesIn parent name hparent hname).parent.trans
      (congrArg some (Path.path_eq_ofReversed parent).symm)
  refine around_withoutPlaces ⟨rfl, rfl⟩ (FileTree.home?_eq_some_iff.2 ⟨_, hparentPath, ?_,
    FileTree.isDirectory_iff.2 hnode⟩)
  rw [FileTree.start, if_pos (Path.isAbsolute_path parent)]
  exact FileTree.leads_path hgrounded' hparent hlimit hnode fun _ => Node.noConfusion

end

/-! ## Writes after each other -/

/-- A write that some operations are denied to. -/
structure Attempt where
  output : BuildOutput
  faults : List Fault

/-- The disk that a write leaves behind, whether it succeeds or fails. -/
def Attempt.after (directory root : Path) (d : Disk) (a : Attempt) : Disk :=
  match (a.output.writeTo directory root).run { d with faults := a.faults } with
  | .ok _ d' => d'
  | .error _ d' => d'

theorem Places.IsSteady.ends_writeTo (h : w.IsSteady base m faults d) (hw : w.AreUsable)
    (hstaging : sibling? w.directory stagingMark = some w.staging)
    (hprevious : sibling? w.directory previousMark = some w.previous) {root : Path}
    (hroot : root.isWithin w.directory = false)
    (hplain : ∀ f ∈ o.files.toList, IsPlainName f.1) :
    Ends (o.writeTo w.directory root) d (fun d' => w.IsSteady base m faults d' ∧ Stands w m o d')
      (fun _ d' => w.IsSteady base m faults d' ∧ (faults = [] → ¬ o.FitsIn w.staging)) := by
  unfold writeTo
  rw [if_neg (by rw [hroot]; exact Bool.false_ne_true), hstaging, hprevious]
  exact Disk.Ends.adaptExcept (h.ends_write hw hplain)

/-- Whatever writes are tried one after the other, and however they end, the disk stays steady. -/
theorem Places.IsSteady.after (h : w.IsSteady base m faults d) (hw : w.AreUsable)
    (hstaging : sibling? w.directory stagingMark = some w.staging)
    (hprevious : sibling? w.directory previousMark = some w.previous) {root : Path}
    (hroot : root.isWithin w.directory = false) {attempts : List Attempt}
    (hplain : ∀ a ∈ attempts, ∀ f ∈ a.output.files.toList, IsPlainName f.1) :
    ∃ faults', w.IsSteady base m faults' (attempts.foldl (Attempt.after w.directory root) d) := by
  induction attempts generalizing faults d with
  | nil => exact ⟨faults, h⟩
  | cons a rest ih =>
    have hends := (h.withFaults a.faults).ends_writeTo hw hstaging hprevious hroot
      (hplain a List.mem_cons_self)
    have hafter : w.IsSteady base m a.faults (a.after w.directory root d) := by
      unfold Attempt.after
      split
      · next d' hrun => exact (hends.1 d' hrun).1
      · next e d' hrun => exact (hends.2 e d' hrun).1
    exact ih hafter fun b hb => hplain b (List.mem_cons_of_mem _ hb)

/-- However earlier writes to a directory have ended, a write that nothing is denied to succeeds and
    leaves just its own files in the directory and nothing beside it.

    This needs names and paths that are not too long for the system, also those of the places beside
    the directory. -/
theorem writeTo_after_attempts (o : BuildOutput) (d : Disk) (parent : Location) (name : String)
    (root : Path) (attempts : List Attempt) (hlocation : Location.IsPlain (parent ++ [name]))
    (hgrounded : d.tree.IsGrounded) (hdir : d.tree.node? parent = some .directory)
    (hreplaceable : ∀ place ∈ placeNames name, d.tree.IsReplaceable (parent ++ [place]))
    (hroot : root.isWithin (Location.path (parent ++ [name])) = false)
    (hattempts : ∀ a ∈ attempts, ∀ f ∈ a.output.files.toList, IsPlainName f.1)
    (hplain : ∀ f ∈ o.files.toList, IsPlainName f.1)
    (hreach : ∀ place ∈ placeNames name, IsReachable (parent ++ [place]))
    (hfits : ∀ f ∈ o.files.toList,
      IsReachable (parent ++ [markedName name stagingMark, f.1])) :
    let directory := Location.path (parent ++ [name])
    ∃ d', (o.writeTo directory root).run
        { attempts.foldl (Attempt.after directory root) d with faults := [] } = .ok () d' ∧
      d'.tree.entryAt (parent ++ [name]) = o.entry ∧
      d'.tree.node? (parent ++ [markedName name stagingMark]) = none ∧
      d'.tree.node? (parent ++ [markedName name previousMark]) = none := by
  intro directory
  obtain ⟨hparent, hname⟩ := Location.isPlain_append.1 hlocation
  have hname := Location.isPlain_singleton.1 hname
  have hw := areUsable_placesIn hparent hname hreach
  obtain ⟨hstaging, hprevious⟩ := sibling?_placesIn hparent hname
  have hlimit : ∀ x ∈ parent, ¬ FileTree.nameLimit < x.utf8ByteSize := fun x hx =>
    (hreach name (by simp [placeNames])).2 x (List.mem_append_left _ hx)
  have hsteady : (placesIn parent name hparent hname).IsSteady (withoutPlaces d.tree parent name)
      parent d.faults d := by
    refine ⟨rfl, isAround_placesIn hparent hname hgrounded hlimit hdir, hgrounded, fun p a hp => ?_⟩
    refine hreplaceable a ?_
    rcases hp.mem with rfl | rfl | rfl <;> simp [placeNames, placesIn]
  obtain ⟨faults', hafter⟩ := hsteady.after hw hstaging hprevious hroot hattempts
  have hends := (hafter.withFaults []).ends_writeTo hw hstaging hprevious hroot hplain
  have hfitsIn := fitsIn_placesIn hparent hname hplain hfits
  cases hrun : (o.writeTo directory root).run
      { attempts.foldl (Attempt.after directory root) d with faults := [] } with
  | ok u d' =>
    obtain ⟨-, hstands⟩ := hends.1 d' hrun
    exact ⟨d', rfl, hstands.name, hstands.staging, hstands.previous⟩
  | error e d' => exact absurd hfitsIn ((hends.2 e d' hrun).2 rfl)

/-- Writes that leave something behind: the new directory does not take its place and the old one
    does not come back, and a part of the new directory is not removed. -/
def interrupted : List Attempt :=
  [⟨freshOutput, [⟨.rename, ".dist.weft-staging"⟩, ⟨.rename, ".dist.weft-previous"⟩]⟩,
    ⟨freshOutput, [⟨.write, "a.js"⟩, ⟨.remove, ".dist.weft-staging"⟩]⟩]

theorem writeTo_after_attempts_stale :
    Location.IsPlain (["project"] ++ ["dist"]) ∧ staleDisk.tree.IsGrounded ∧
      staleDisk.tree.node? ["project"] = some .directory ∧
      (∀ place ∈ placeNames "dist", staleDisk.tree.IsReplaceable (["project"] ++ [place])) ∧
      (⟨"/project"⟩ : Path).isWithin (Location.path (["project"] ++ ["dist"])) = false ∧
      (∀ a ∈ interrupted, ∀ f ∈ a.output.files.toList, IsPlainName f.1) ∧
      (∀ place ∈ placeNames "dist", IsReachable (["project"] ++ [place])) ∧
      (∀ f ∈ freshOutput.files.toList,
        IsReachable (["project"] ++ [markedName "dist" stagingMark, f.1])) ∧
      ∃ d', (freshOutput.writeTo (Location.path (["project"] ++ ["dist"])) ⟨"/project"⟩).run
          { interrupted.foldl (Attempt.after (Location.path (["project"] ++ ["dist"]))
              ⟨"/project"⟩) staleDisk with faults := [] } = .ok () d' ∧
        d'.tree.entryAt (["project"] ++ ["dist"]) = freshOutput.entry ∧
        d'.tree.node? (["project"] ++ [markedName "dist" stagingMark]) = none ∧
        d'.tree.node? (["project"] ++ [markedName "dist" previousMark]) = none := by
  have hlocation : Location.IsPlain (["project"] ++ ["dist"]) := by decide
  have hreplaceable : ∀ place ∈ placeNames "dist",
      staleDisk.tree.IsReplaceable (["project"] ++ [place]) := by
    unfold FileTree.IsReplaceable
    decide
  have hroot : (⟨"/project"⟩ : Path).isWithin (Location.path (["project"] ++ ["dist"])) = false := by
    decide +kernel
  have hattempts : ∀ a ∈ interrupted, ∀ f ∈ a.output.files.toList, IsPlainName f.1 := by decide
  have hreach : ∀ place ∈ placeNames "dist", IsReachable (["project"] ++ [place]) := by
    unfold IsReachable
    decide
  have hfits : ∀ f ∈ freshOutput.files.toList,
      IsReachable (["project"] ++ [markedName "dist" stagingMark, f.1]) := by
    unfold IsReachable
    decide
  exact ⟨hlocation, isGrounded_stale, rfl, hreplaceable, hroot, hattempts, hreach, hfits,
    writeTo_after_attempts freshOutput staleDisk ["project"] "dist" ⟨"/project"⟩ interrupted
      hlocation isGrounded_stale rfl hreplaceable hroot hattempts (by decide) hreach hfits⟩

/-! ## Names that are too long -/

theorem ends_trivial {ε : Type} (step : DiskM ε Unit) (d : Disk) :
    Ends step d (fun _ => True) (fun _ _ => True) :=
  ⟨fun _ _ => trivial, fun _ _ _ => trivial⟩

/-- A directory of a name that is too long is not made. -/
theorem ends_makeDirectory_of_long {before : List Step} (hp : p.namedSteps? = some (before, a))
    (hsteps : p.steps = before ++ [.down a]) (hlong : FileTree.nameLimit < a.utf8ByteSize) :
    Ends (Disk.makeDirectory p) d (fun _ => False) (fun _ _ => True) := by
  refine Disk.ends_makeDirectory.imp ?_ fun _ _ _ => trivial
  rintro d' (⟨-, hdir⟩ | ⟨m, name, hplace, -⟩)
  · exact (Disk.exists_home?_of_isPresent hp hsteps (Disk.isPresent_of_isDirectory hdir)).2.1 hlong
  · obtain ⟨before', hp', -, hlimit⟩ := FileTree.place_eq_ok_iff.1 hplace
    rw [hp] at hp'
    cases hp'
    exact hlimit hlong

/-- A write never succeeds if the name beside the output directory is too long for the system. -/
theorem ends_writeTo_of_long {directory root : Path} {name : String}
    (hname : directory.fileName? = some name)
    (hlong : FileTree.nameLimit < (markedName name stagingMark).utf8ByteSize) :
    Ends (o.writeTo directory root) d (fun _ => False) (fun _ _ => True) := by
  obtain ⟨w, rfl, rfl, hstagingName, -, hstaging, hprevious, -⟩ := exists_places hname
  rw [← hstagingName] at hlong
  have htrimmed := w.trimmed.cons w.stagingPlain
  have hmake : ∀ d, Ends (Disk.makeDirectory w.staging) d (fun _ => False) fun _ _ => True :=
    fun d => ends_makeDirectory_of_long w.staging_namedSteps? w.staging_steps hlong
  -- making the directories above does not help, since the name itself is too long
  have hcreate : ∀ d, Ends (Disk.create w.staging) d (fun _ => False) fun _ _ => True := by
    intro d
    refine Disk.ends_guarded (fun _ => trivial) (Disk.ends_naming ?_)
    show Ends (Disk.makeNested (w.staging :: _)) d _ _
    unfold Disk.makeNested
    rw [Places.staging, Path.isEmpty_text_ofReversed_cons htrimmed]
    refine Disk.Ends.tryCatch (hmake d) fun failure d₁ _ => ?_
    by_cases hfailure : failure ≠ .notFound
    · rw [if_pos hfailure]
      exact Disk.ends_throw_bind trivial
    · rw [if_neg hfailure]
      exact Disk.Ends.bind (ends_trivial _ d₁) fun d₂ _ => hmake d₂
  unfold writeTo
  by_cases hwithin : root.isWithin w.directory = true
  · rw [if_pos hwithin]
    exact Disk.ends_throw_bind trivial
  rw [if_neg hwithin, hstaging, hprevious]
  refine Disk.Ends.adaptExcept ?_
  refine Disk.Ends.bind (ends_trivial _ d) fun d₁ _ => ?_
  refine Disk.Ends.bind (ends_trivial _ d₁) fun d₂ _ => ?_
  have hfill : Ends (orDiscard w.staging (o.writeFiles w.staging)) d₂ (fun _ => False)
      fun _ _ => True := by
    refine Disk.Ends.tryCatch (Disk.Ends.bind (hcreate d₂) fun _ h => h.elim) fun e d₃ _ => ?_
    exact Disk.Ends.bind (ends_trivial _ d₃) fun _ _ => Disk.ends_throw trivial
  exact hfill.bind fun _ h => h.elim

/-- A name that is short enough, but not with a mark. -/
def longName : String := String.ofList (List.replicate 250 'a')

/-- A disk with a project and nothing in it. -/
def bareDisk : Disk := { tree := ⟨[(["project"], .directory)]⟩ }

theorem utf8ByteSize_replicate (n : Nat) :
    (String.ofList (List.replicate n 'a')).utf8ByteSize = n := by
  induction n with
  | zero => rfl
  | succ n ih =>
    have hlast : (String.ofList ['a']).utf8ByteSize = 1 := by decide
    rw [List.replicate_succ', String.ofList_append, String.utf8ByteSize_append, ih, hlast]

theorem utf8ByteSize_longName : longName.utf8ByteSize = 250 := utf8ByteSize_replicate 250

theorem isPlain_longName : Location.IsPlain (["project"] ++ [longName]) := by
  have htext : longName.toList = List.replicate 250 'a' := String.toList_ofList
  have hne : ∀ name : String, name.toList.length < 250 → longName ≠ name := by
    rintro name hlength rfl
    rw [htext, List.length_replicate] at hlength
    exact absurd hlength (Nat.lt_irrefl 250)
  refine Location.isPlain_append.2 ⟨by decide, Location.isPlain_singleton.2
    ⟨hne _ (by decide), hne _ (by decide), hne _ (by decide), fun hslash => ?_⟩⟩
  rw [htext] at hslash
  exact absurd (List.eq_of_mem_replicate hslash) (by decide)

theorem writeTo_of_longName :
    longName.utf8ByteSize ≤ FileTree.nameLimit ∧
      Location.IsPlain (["project"] ++ [longName]) ∧ bareDisk.tree.IsGrounded ∧
      bareDisk.tree.node? ["project"] = some .directory ∧
      (∀ place ∈ placeNames longName, bareDisk.tree.node? (["project"] ++ [place]) = none) ∧
      (⟨"/project"⟩ : Path).isWithin (Location.path (["project"] ++ [longName])) = false ∧
      (∀ f ∈ freshOutput.files.toList, IsPlainName f.1) ∧ bareDisk.faults = [] ∧
      ∀ d', (freshOutput.writeTo (Location.path (["project"] ++ [longName])) ⟨"/project"⟩).run
        bareDisk ≠ .ok () d' := by
  have hsize := utf8ByteSize_longName
  obtain ⟨hparent, hplain⟩ := Location.isPlain_append.1 isPlain_longName
  have hname : (Location.path (["project"] ++ [longName])).fileName? = some longName :=
    (placesIn ["project"] longName hparent (Location.isPlain_singleton.1 hplain)).fileName
  have hroot : (⟨"/project"⟩ : Path).isWithin (Location.path (["project"] ++ [longName])) = false := by
    unfold Path.isWithin Path.lexical
    rw [Path.components_path isPlain_longName]
    rfl
  have hlong : FileTree.nameLimit < (markedName longName stagingMark).utf8ByteSize := by
    have hmark : ".".utf8ByteSize = 1 ∧ stagingMark.utf8ByteSize = 12 := by decide
    unfold markedName FileTree.nameLimit
    simp only [String.utf8ByteSize_append, hsize, hmark]
    omega
  refine ⟨?_, isPlain_longName, FileTree.isGrounded_of_nodes (by decide), rfl, fun _ _ => rfl,
    hroot, by decide, rfl, fun d' hrun => (ends_writeTo_of_long hname hlong).1 d' hrun⟩
  rw [hsize]
  decide

end BuildOutput

end Bundler
