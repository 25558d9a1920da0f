import Bundler.Proofs.Output.Write

set_option autoImplicit false

/-! # What a write leaves alone

A write works in three places only, the output directory and the two beside it. As long as the way
to them does not lead through one of them, every operation leaves the way and all that is outside of
the places alone, whether it succeeds, fails or is denied (`Places.Spares`). If the directory that
they lie in is not there, it is made in addition, and nothing can be in its places before.

So what stands outside of the places before a write still stands there after it, however the write
ends (`ends_writeTo_of_outside`). Other than the state of the output directory, this does not depend
on which operations are denied. -/

namespace Bundler.BuildOutput

open Disk (DiskM Ends)

variable {w : Places} {base : FileTree} {m : Location} {d : Disk} {o : BuildOutput}

namespace Places

/-! ## Steps that spare what is outside -/

/-- Whether the places of a write lie in a directory of a disk that is reached without them. -/
def IsAround (w : Places) (base : FileTree) (m : Location) (d : Disk) : Prop :=
  w.Around base m d.current d.tree

/-- Whether a step leaves the way to the places of a write, and all that is outside of them, alone,
    however it ends. -/
def Spares (w : Places) (base : FileTree) (m : Location) (step : DiskM FileError Unit) : Prop :=
  ∀ d, w.IsAround base m d → Ends step d (w.IsAround base m) fun _ => w.IsAround base m

namespace Spares

variable {step : DiskM FileError Unit}

theorem pure : w.Spares base m (pure ()) := fun _ h => Disk.ends_pure h

theorem throw (e : FileError) : w.Spares base m (throw e) := fun _ h => Disk.ends_throw h

theorem bind {next : Unit → DiskM FileError Unit} (h : w.Spares base m step)
    (hnext : w.Spares base m (next ())) : w.Spares base m (step >>= next) :=
  fun d hd => (h d hd).bind hnext

theorem tryCatch {handle : FileError → DiskM FileError Unit} (h : w.Spares base m step)
    (hhandle : ∀ e, w.Spares base m (handle e)) : w.Spares base m (tryCatch step handle) :=
  fun d hd => (h d hd).tryCatch fun e d' hd' => hhandle e d' hd'

theorem get {next : Disk → DiskM FileError Unit} (h : ∀ d, w.Spares base m (next d)) :
    w.Spares base m (get >>= next) := fun d hd => Disk.ends_get (h d d hd)

end Spares

/-- Whether a path gives one of the places of a write, under a name. -/
structure IsPlace (w : Places) (p : Path) (name : String) : Prop where
  fileName : p.fileName? = some name
  home : ∀ (t : FileTree) (here : Location), t.home? here p = t.home? here w.directory
  mem : name = w.name ∨ name = w.stagingName ∨ name = w.previousName

theorem isPlace_directory (w : Places) : w.IsPlace w.directory w.name :=
  ⟨w.fileName, fun _ _ => rfl, .inl rfl⟩

theorem isPlace_staging (w : Places) : w.IsPlace w.staging w.stagingName :=
  ⟨w.staging_fileName?, w.staging_home?, .inr (.inl rfl)⟩

theorem isPlace_previous (w : Places) : w.IsPlace w.previous w.previousName :=
  ⟨w.previous_fileName?, w.previous_home?, .inr (.inr rfl)⟩

namespace IsPlace

variable {p q : Path} {a b : String}

theorem isFree (hp : w.IsPlace p a) {here : Location} {t : FileTree} (h : w.Around base m here t) :
    base.IsFree (m ++ [a]) := by
  rcases hp.mem with rfl | rfl | rfl
  · exact h.name
  · exact h.staging
  · exact h.previous

theorem home?_eq (hp : w.IsPlace p a) (h : w.IsAround base m d) :
    d.tree.home? d.current p = some m := (hp.home _ _).trans h.home?

theorem spares_remove (hp : w.IsPlace p a) : w.Spares base m (Disk.remove p) := by
  intro d h
  refine (Disk.ends_remove (hp.home?_eq h) hp.fileName).imp ?_ ?_
  · rintro d' rfl
    exact h.remove (hp.isFree h)
  · rintro - d' rfl
    exact h

theorem spares_rename (hp : w.IsPlace p a) (hq : w.IsPlace q b) (hab : a ≠ b) :
    w.Spares base m (Disk.rename p q) := by
  intro d h
  refine (Disk.ends_rename (hp.home?_eq h) (hq.home?_eq h) hp.fileName hq.fileName hab).imp ?_ ?_
  · rintro d' ⟨rfl, -⟩
    exact h.move (hp.isFree h) (hq.isFree h)
  · rintro - d' rfl
    exact h

theorem spares_clear (hp : w.IsPlace p a) : w.Spares base m (clear p) := by
  refine .get fun d => ?_
  cases d.isPresent p with
  | false => exact .pure
  | true => exact hp.spares_remove

theorem spares_discard (hp : w.IsPlace p a) : w.Spares base m (discard p) :=
  hp.spares_clear.tryCatch fun _ => .pure

theorem spares_orDiscard (hp : w.IsPlace p a) {step : DiskM FileError Unit}
    (h : w.Spares base m step) : w.Spares base m (orDiscard p step) :=
  h.tryCatch fun e => hp.spares_discard.bind (.throw e)

end IsPlace

/-- Putting the new directory in place spares what is outside, whichever renaming fails. -/
theorem spares_replace (w : Places) :
    w.Spares base m (replace w.directory w.staging w.previous) := by
  have hdirectory := w.isPlace_directory
  have hstaging := w.isPlace_staging
  have hprevious := w.isPlace_previous
  refine .get fun d => ?_
  cases d.isPresent w.directory with
  | false =>
    refine Spares.bind (Spares.tryCatch ?_ fun e => ?_) .pure
    · exact hstaging.spares_rename hdirectory w.name_ne_staging.symm
    · exact hstaging.spares_discard.bind (.throw e)
  | true =>
    refine Spares.bind (hstaging.spares_orDiscard ?_) (Spares.bind (Spares.tryCatch ?_ fun e => ?_) ?_)
    · exact hdirectory.spares_rename hprevious w.name_ne_previous
    · exact hstaging.spares_rename hdirectory w.name_ne_staging.symm
    · refine Spares.bind ?_ (hstaging.spares_discard.bind (.throw e))
      exact hprevious.spares_rename hdirectory w.name_ne_previous.symm
    · exact hprevious.spares_remove

end Places

/-- Filling the new directory changes nothing outside of it. -/
theorem Places.Around.isAround_of_fills {t : FileTree} {d' : Disk}
    {files : List (String × ByteArray)} (h : w.Around base m d.current t)
    (hfills : { d with tree := t }.Fills (m ++ [w.stagingName]) files d') :
    w.IsAround base m d' := by
  unfold Places.IsAround
  rw [hfills.same]
  exact h.agreeOutside hfills.outside

/-! ## Writes in a directory that is there -/

/-- Files are written into the new directory if nothing is present in its place. -/
theorem ends_writeFiles_of_around (hplain : ∀ f ∈ o.files.toList, IsPlainName f.1)
    (h : w.IsAround base m d) (hgrounded : d.tree.IsGrounded)
    (habsent : d.isPresent w.staging = false) :
    Ends (o.writeFiles w.staging) d (w.IsAround base m) fun _ => w.IsAround base m := by
  refine Disk.Ends.bind ((ends_create_of_home h hgrounded habsent).imp (fun _ h => h) ?_) ?_
  · rintro - d' rfl
    exact h
  · intro d' hmade
    refine (hmade.ends_forM hplain).imp (fun d'' hfills => h.isAround_of_fills hfills) ?_
    rintro - d'' ⟨t, rfl, ht, -⟩
    exact ht

/-- A write in a directory that is there spares what is outside of its places. -/
theorem ends_write_of_around (hplain : ∀ f ∈ o.files.toList, IsPlainName f.1)
    (h : w.IsAround base m d) (hgrounded : d.tree.IsGrounded) :
    Ends (do
        clear w.staging
        clear w.previous
        orDiscard w.staging (o.writeFiles w.staging)
        replace w.directory w.staging w.previous) d
      (w.IsAround base m) fun _ => w.IsAround base m := by
  have hdiscard : w.Spares base m (discard w.staging) := w.isPlace_staging.spares_discard
  refine Disk.Ends.bind ((ends_clear_staging h hgrounded).imp (fun _ h => h) ?_) ?_
  · rintro - d' rfl
    exact h
  rintro - ⟨t, rfl, hc⟩
  -- the place of the new directory stays empty when that of the old one is cleared
  have hclear : Ends (clear w.previous) { d with tree := t }
      (fun d' => w.IsAround base m d' ∧ d'.tree.IsGrounded ∧ d'.isPresent w.staging = false)
      fun _ => w.IsAround base m := by
    refine (ends_clear w.previous_namedSteps? w.previous_steps).imp ?_ ?_
    · rintro d' (⟨-, rfl⟩ | ⟨m', hm', rfl⟩)
      · exact ⟨hc.around, hc.grounded, hc.absent⟩
      · obtain rfl : m = m' := Option.some.inj (hc.around.previous_home?.symm.trans hm')
        have hpart : (t.remove (m ++ [w.previousName])).IsPart t := FileTree.isPart_remove (by simp)
        refine ⟨hc.around.remove hc.around.previous, hc.grounded.remove (by simp), ?_⟩
        refine Bool.eq_false_iff.2 fun hpresent => Bool.eq_false_iff.1 hc.absent ?_
        exact Disk.isPresent_mono (d := { d with tree := t }) hpart hpresent
    · rintro - d' rfl
      exact hc.around
  refine hclear.bind ?_
  rintro d' ⟨h', hgrounded', habsent'⟩
  refine Disk.Ends.bind (Disk.Ends.tryCatch
    (ends_writeFiles_of_around hplain h' hgrounded' habsent') fun e d₂ h₂ => ?_)
    fun d₂ h₂ => w.spares_replace d₂ h₂
  exact hdiscard.bind (.throw e) d₂ h₂

/-! ## Writes in a directory that is made first -/

theorem ends_writeFiles_of_homeless (hplain : ∀ f ∈ o.files.toList, IsPlainName f.1)
    (hhome : d.tree.home? d.current w.directory = none) (hup : ['.', '.'] ∉ w.reversed)
    (hgrounded : d.tree.IsGrounded) :
    Ends (orDiscard w.staging (o.writeFiles w.staging)) d
      (fun d' => ∃ t m, d.tree.IsPart t ∧ w.IsAround t m d') fun _ d' => d.tree.IsPart d'.tree := by
  -- what is discarded after a failure stands in a place that was free
  have hwrite : Ends (o.writeFiles w.staging) d
      (fun d' => ∃ t m, d.tree.IsPart t ∧ w.IsAround t m d')
      fun _ d' => d.tree.IsPart d'.tree ∧
        ∀ m, d'.tree.home? d'.current w.directory = some m →
          ∃ t, d.tree.IsPart t ∧ w.IsAround t m d' := by
    refine Disk.Ends.bind ((ends_create_of_homeless hhome hup hgrounded).imp (fun _ h => h) ?_) ?_
    · rintro - d' ⟨hpart, hbare⟩
      exact ⟨hpart, fun m hm => ⟨_, hpart, hbare m hm⟩⟩
    · rintro d' ⟨t, m, hpart, hmade⟩
      refine (hmade.ends_forM hplain).imp
        (fun d'' hfills => ⟨t, m, hpart, hmade.around.isAround_of_fills hfills⟩) ?_
      rintro - d'' ⟨t', rfl, ht', -⟩
      refine ⟨hpart.trans ht'.part, fun m' hm' => ⟨t, hpart, ?_⟩⟩
      obtain rfl : m = m' := Option.some.inj (ht'.home?.symm.trans hm')
      exact ht'
  refine ends_orDiscard w.staging_namedSteps? w.staging_steps hwrite (fun _ _ h => h.1) ?_
  rintro - d' m ⟨-, haround⟩ hm
  obtain ⟨t, hpart, ht⟩ := haround m ((w.staging_home? _ _).symm.trans hm)
  exact hpart.trans (ht.remove ht.staging).part

/-- A write in a directory that is not there takes nothing away. -/
theorem ends_write_of_homeless_part (hplain : ∀ f ∈ o.files.toList, IsPlainName f.1)
    (hhome : d.tree.home? d.current w.directory = none) (hup : ['.', '.'] ∉ w.reversed)
    (hgrounded : d.tree.IsGrounded) :
    Ends (do
        clear w.staging
        clear w.previous
        orDiscard w.staging (o.writeFiles w.staging)
        replace w.directory w.staging w.previous) d
      (fun d' => d.tree.IsPart d'.tree) fun _ d' => d.tree.IsPart d'.tree := by
  refine ends_clear_places_of_homeless hhome (fun _ => .refl _) ?_
  refine Disk.Ends.bind (ends_writeFiles_of_homeless hplain hhome hup hgrounded) ?_
  rintro d' ⟨t, m, ht, h⟩
  exact (w.spares_replace d' h).imp (fun _ h => ht.trans h.part) fun _ _ h => ht.trans h.part

/-! ## Whole writes -/

/-- Whether a location is in none of the places of a write to a directory. -/
def IsOutside (d : Disk) (directory : Path) (l : Location) : Prop :=
  ∀ m name, d.tree.home? d.current directory = some m → directory.fileName? = some name →
    ∀ place ∈ [name, markedName name stagingMark, markedName name previousMark],
      ¬ m ++ [place] <+: l

theorem node?_withoutPlaces {t : FileTree} {name : String} {l : Location}
    (hl : ∀ place ∈ [name, markedName name stagingMark, markedName name previousMark],
      ¬ m ++ [place] <+: l) : (withoutPlaces t m name).node? l = t.node? l := by
  simp only [List.mem_cons, List.not_mem_nil, or_false, forall_eq_or_imp, forall_eq] at hl
  unfold withoutPlaces
  rw [FileTree.node?_remove (by simp), if_neg hl.2.2, FileTree.node?_remove (by simp),
    if_neg hl.2.1, FileTree.node?_remove (by simp), if_neg hl.1]

/-- What stands outside of the places of a write still stands there afterwards, however the write
    ends. -/
theorem ends_writeTo_of_outside (o : BuildOutput) (d : Disk) (directory root : Path)
    (hplain : ∀ f ∈ o.files.toList, IsPlainName f.1) (hgrounded : d.tree.IsGrounded)
    (happroaches : Approaches d directory) {l : Location} {n : Node}
    (hnode : d.tree.node? l = some n) (hl : IsOutside d directory l) :
    Ends (o.writeTo directory root) d (fun d' => d'.tree.node? l = some n)
      (fun _ d' => d'.tree.node? l = some n) := by
  unfold writeTo
  by_cases hwithin : root.isWithin directory = true
  · rw [if_pos hwithin]
    exact Disk.ends_throw_bind hnode
  rw [if_neg hwithin]
  cases hname : directory.fileName? with
  | none =>
    unfold sibling?
    rw [hname]
    exact Disk.ends_throw hnode
  | some name =>
    obtain ⟨w, rfl, rfl, hstagingName, hpreviousName, hstaging, hprevious, hsegments⟩ :=
      exists_places hname
    rw [hstaging, hprevious]
    refine Disk.Ends.adaptExcept ?_
    cases hhome : d.tree.home? d.current w.directory with
    | some m =>
      have hthere := (happroaches w.name w.fileName).1 m hhome
      have hkept := (node?_withoutPlaces (hl m w.name hhome w.fileName)).trans hnode
      exact (ends_write_of_around hplain (around_withoutPlaces ⟨hstagingName, hpreviousName⟩ hthere)
        hgrounded).imp (fun _ h => h.part _ _ hkept) fun _ _ h => h.part _ _ hkept
    | none =>
      have hup := happroaches.not_mem_reversed hsegments hhome
      exact (ends_write_of_homeless_part hplain hhome hup hgrounded).imp
        (fun _ h => h _ _ hnode) fun _ _ h => h _ _ hnode

end Bundler.BuildOutput
