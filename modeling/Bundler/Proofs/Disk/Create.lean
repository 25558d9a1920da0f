import Bundler.Proofs.Disk

set_option autoImplicit false

/-! # Making directories

If the home of a path is there, making the directory at the path puts it there or changes nothing
(`ends_makeNested_of_home`). If it is not, the directories above are made first. As long as the path
does not go up, nothing can stand in what is made this way: the home that the path has afterwards,
if it has any, is bare (`ends_makeNested_of_homeless`). The induction that gives this is on the
segments of the path. -/

namespace Bundler

namespace FileTree

variable {t : FileTree} {here m : Location} {before : List Step} {name : String} {p : Path}

/-- In a home, the only thing that can be wrong with a place is the length of the name. -/
theorem place_of_home? (unnamed : FileFailure) (hp : p.namedSteps? = some (before, name))
    (hhome : t.home? here p = some m) :
    t.place here p unnamed = .ok (m, name) ∨ t.place here p unnamed = .error .nameTooLong := by
  by_cases hlimit : nameLimit < name.utf8ByteSize
  · right
    obtain ⟨hleads, hdir⟩ := (leads_iff_home? hp).2 hhome
    unfold place
    rw [hp]
    show (t.walk linkLimit (start here p) before >>= _) = _
    rw [hleads.walk_eq_ok]
    show (if (!t.isDirectory m) = true then _ else _) = _
    simp only [hdir, hlimit]
    rfl
  · exact .inl (place_eq_ok_iff.2 ⟨before, hp, hhome, hlimit⟩)

end FileTree

namespace Disk

variable {d : Disk} {p : Path} {m : Location} {name : String} {before : List Step}

theorem textFailure?_ne_notFound (hp : p.text.isEmpty = false) :
    textFailure? p ≠ some .notFound := by
  unfold textFailure?
  rw [hp]
  split
  · exact fun h => by cases h
  · simp only [Bool.false_eq_true, if_false]
    split
    · exact fun h => by cases h
    · exact fun h => by cases h

/-- Making one directory puts it in its place, or changes nothing. -/
theorem ends_makeDirectory :
    Ends (makeDirectory p) d
      (fun d' => d' = d ∧ d.isDirectory p = true ∨
        ∃ m name, d.tree.place d.current p .alreadyThere = .ok (m, name) ∧
          d.tree.node? (m ++ [name]) = none ∧
          d' = { d with tree := d.tree.put (m ++ [name]) .directory })
      (fun e d' => d' = d ∧ d.isDirectory p = false ∧
        (textFailure? p = some e ∨ d.tree.makeDirectory d.current p = .error e)) := by
  refine Ends.tryCatch (ends_change.imp ?_ fun _ _ h => h) ?_
  · rintro d' ⟨-, t, ht, rfl⟩
    obtain ⟨m, name, hplace, hnode, rfl⟩ := FileTree.makeDirectory_eq_ok_iff.1 ht
    exact .inr ⟨m, name, hplace, hnode, rfl⟩
  · rintro e d' ⟨rfl, he⟩
    refine ends_get ?_
    cases hdir : d'.isDirectory p with
    | true => exact ends_pure (.inl ⟨rfl, rfl⟩)
    | false => exact ends_throw ⟨rfl, rfl, he.imp_right And.right⟩

/-- In a home, a directory is never made by making others first. -/
theorem makeDirectory_ne_notFound (hp : p.namedSteps? = some (before, name))
    (hhome : d.tree.home? d.current p = some m) :
    d.tree.makeDirectory d.current p ≠ .error .notFound := by
  intro heq
  unfold FileTree.makeDirectory at heq
  rcases FileTree.place_of_home? .alreadyThere hp hhome with h | h
  · rw [h] at heq
    cases hnode : d.tree.node? (m ++ [name]) with
    | none =>
      simp only [bind, Except.bind, hnode] at heq
      cases heq
    | some n =>
      simp only [bind, Except.bind, hnode] at heq
      cases heq
  · rw [h] at heq
    cases heq

/-- In its home, a directory is made at once. -/
theorem ends_makeNested_of_home {above : List Path} (hp : p.namedSteps? = some (before, name))
    (htext : p.text.isEmpty = false) (hhome : d.tree.home? d.current p = some m) :
    Ends (makeNested (p :: above)) d
      (fun d' => d' = d ∧ d.isDirectory p = true ∨ d.tree.node? (m ++ [name]) = none ∧
        d' = { d with tree := d.tree.put (m ++ [name]) .directory })
      (fun _ d' => d' = d ∧ d.isDirectory p = false) := by
  have hname := (Path.exists_parent_of_namedSteps? hp).1
  unfold makeNested
  rw [if_neg (by rw [htext]; exact Bool.false_ne_true)]
  refine Ends.tryCatch (ends_makeDirectory.imp ?_ fun _ _ h => h) ?_
  · rintro d' (h | ⟨m', name', hplace, hnode, rfl⟩)
    · exact .inl h
    · obtain ⟨rfl, rfl⟩ := home?_of_place hhome hname hplace
      exact .inr ⟨hnode, rfl⟩
  · rintro e d' ⟨rfl, hdir, he⟩
    -- in a home, whatever fails is not that something above is missing
    have hne : e ≠ .notFound := by
      rintro rfl
      rcases he with he | he
      · exact textFailure?_ne_notFound htext he
      · exact makeDirectory_ne_notFound hp hhome he
    rw [if_pos hne]
    exact ends_throw_bind ⟨rfl, hdir⟩

/-- A directory that is there need not be made. -/
theorem ends_makeNested_of_directory {above : List Path} (hp : p.namedSteps? = some (before, name))
    (htext : p.text.isEmpty = false) (hhome : d.tree.home? d.current p = some m)
    (hnode : d.tree.node? (m ++ [name]) = some .directory) :
    Ends (makeNested (p :: above)) d (fun d' => d' = d)
      (fun _ d' => d' = d ∧ d.isDirectory p = false) := by
  refine (ends_makeNested_of_home hp htext hhome).imp ?_ fun _ _ h => h
  rintro d' (⟨rfl, -⟩ | ⟨hnone, -⟩)
  · rfl
  · rw [hnode] at hnone
    cases hnone

/-- A directory is made in a free place if the text of the path lets it. -/
theorem ends_create_of_free (hdenied : d.isDenied .create p = false)
    (hp : p.namedSteps? = some (before, name)) (htext : textFailure? p = none)
    (hlimit : ¬ FileTree.nameLimit < name.utf8ByteSize)
    (hhome : d.tree.home? d.current p = some m) (hfree : d.tree.node? (m ++ [name]) = none) :
    Ends (create p) d (fun d' => d' = { d with tree := d.tree.put (m ++ [name]) .directory })
      (fun _ _ => False) := by
  have hmade : d.tree.makeDirectory d.current p = .ok (d.tree.put (m ++ [name]) .directory) :=
    FileTree.makeDirectory_eq_ok_iff.2
      ⟨m, name, FileTree.place_eq_ok_iff.2 ⟨before, hp, hhome, hlimit⟩, hfree, rfl⟩
  have hempty : p.text.isEmpty = false := by
    unfold textFailure? at htext
    cases hempty : p.text.isEmpty with
    | false => rfl
    | true =>
      rw [hempty] at htext
      split at htext <;> cases htext
  refine ends_guarded (fun hd => ?_) (ends_naming ?_)
  · rw [hdenied] at hd
    cases hd
  · have hone : Ends (makeDirectory p) d
        (fun d' => d' = { d with tree := d.tree.put (m ++ [name]) .directory })
        (fun _ _ => False) :=
      Ends.tryCatch (ends_change_of_ok htext hmade) fun _ _ h => h.elim
    show Ends (makeNested (p :: _)) d _ _
    unfold makeNested
    rw [hempty]
    exact Ends.tryCatch hone fun _ _ h => h.elim

/-! ## Homes that are not there -/

/-- Whether a tree grows out of another one and has nothing in the directory at a path. -/
structure GrowsBare (t t' : FileTree) (here : Location) (p : Path) : Prop where
  grounded : t'.IsGrounded
  part : t.IsPart t'
  bare : ∀ m, t'.directory? here p = some m → ∀ name, t'.node? (m ++ [name]) = none

theorem GrowsBare.refl {t : FileTree} {here : Location} (hgrounded : t.IsGrounded)
    (hnone : t.directory? here p = none) : GrowsBare t t here p :=
  ⟨hgrounded, .refl t, fun _ hm => nomatch hm.symm.trans hnone⟩

/-- A directory that is put where nothing stood has nothing in it. -/
theorem growsBare_put {t : FileTree} {here : Location} (hp : p.namedSteps? = some (before, name))
    (hsteps : p.steps = before ++ [.down name]) (hgrounded : t.IsGrounded)
    (hhome : t.home? here p = some m) (hnode : t.node? (m ++ [name]) = none) :
    GrowsBare t (t.put (m ++ [name]) .directory) here p := by
  have hne : m ++ [name] ≠ [] := by simp
  have hpart := FileTree.isPart_put hnode hne .directory
  refine ⟨hgrounded.put_directory (FileTree.isDirectory_iff.1 (FileTree.isDirectory_of_home? hhome)),
    hpart, fun k hk x => ?_⟩
  have hk : k = m ++ [name] :=
    FileTree.eq_of_directory? hp hsteps (hpart.home? hhome) (by simp [FileTree.node?_put]) hk
  rw [hk, FileTree.node?_put hne, if_neg (by simp)]
  exact hgrounded.node?_append_of_none hnode [x]

/-- Whether a step leaves the directory at a path bare, however it ends. -/
def LeavesBare (step : DiskM FileFailure Unit) (d : Disk) (p : Path) : Prop :=
  Ends step d (fun d' => ∃ t, d' = { d with tree := t } ∧ GrowsBare d.tree t d.current p)
    (fun _ d' => ∃ t, d' = { d with tree := t } ∧ GrowsBare d.tree t d.current p)

variable {relative : Bool} {reversed : List (List Char)}

/-- A directory whose home is bare, or not there, is not there already. -/
theorem ends_makeDirectory_of_bare (hp : p.namedSteps? = some (before, name))
    (hsteps : p.steps = before ++ [.down name])
    (hbare : ∀ m, d.tree.home? d.current p = some m → d.tree.node? (m ++ [name]) = none) :
    Ends (makeDirectory p) d
      (fun d' => ∃ m, d.tree.home? d.current p = some m ∧
        d' = { d with tree := d.tree.put (m ++ [name]) .directory })
      (fun _ d' => d' = d) := by
  refine ends_makeDirectory.imp ?_ fun _ _ h => h.1
  rintro d' (⟨-, hdir⟩ | ⟨m, name', hplace, -, rfl⟩)
  · obtain ⟨-, -, m, hm, hnode⟩ := exists_home?_of_isPresent hp hsteps (isPresent_of_isDirectory hdir)
    exact absurd (hbare m hm) hnode
  · obtain ⟨before', hp', hm, -⟩ := FileTree.place_eq_ok_iff.1 hplace
    obtain ⟨-, rfl⟩ := Prod.mk.inj (Option.some.inj (hp.symm.trans hp'))
    exact ⟨m, hm, rfl⟩

/-- If the home of a path is not there, the directories above are made first. -/
theorem ends_makeNested_of_homeless (h : Path.IsTrimmed relative (name.toList :: reversed))
    (hname : IsPlainName name) {above : Path}
    (heq : above = .ofReversed relative (Path.dropUncounted relative reversed))
    (hhome : d.tree.home? d.current (.ofReversed relative (name.toList :: reversed)) = none)
    (hgrounded : d.tree.IsGrounded)
    (habove : LeavesBare (makeNested above.ancestors) d above) :
    Ends (makeNested (Path.ofReversed relative (name.toList :: reversed)).ancestors) d
      (fun d' => ∃ t m, GrowsBare d.tree t d.current above ∧
        t.home? d.current (.ofReversed relative (name.toList :: reversed)) = some m ∧
        d' = { d with tree := t.put (m ++ [name]) .directory })
      (fun _ d' => ∃ t, d' = { d with tree := t } ∧ GrowsBare d.tree t d.current above) := by
  have hp := Path.namedSteps?_ofReversed_name h hname
  have hsteps := Path.steps_ofReversed_name h hname
  have hhomes : ∀ t : FileTree, t.home? d.current (.ofReversed relative (name.toList :: reversed))
      = t.directory? d.current above := by
    intro t
    rw [FileTree.home?_ofReversed_cons h, heq]
  rw [Path.ancestors_ofReversed_cons h, ← heq]
  unfold makeNested
  rw [if_neg (by rw [Path.isEmpty_text_ofReversed_cons h]; exact Bool.false_ne_true)]
  have hnowhere : ∀ m, d.tree.home? d.current (.ofReversed relative (name.toList :: reversed))
      ≠ some m := fun m hm => nomatch hhome.symm.trans hm
  refine Ends.tryCatch ((ends_makeDirectory_of_bare hp hsteps fun m hm =>
    absurd hm (hnowhere m)).imp ?_ fun _ _ h => h) ?_
  · rintro d' ⟨m, hm, -⟩
    exact absurd hm (hnowhere m)
  · rintro e d' rfl
    have hnow : GrowsBare d'.tree d'.tree d'.current above :=
      .refl hgrounded ((hhomes d'.tree).symm.trans hhome)
    by_cases he : e = .notFound
    · -- the directories above are made, and then the directory in what they became
      rw [if_neg (not_not.2 he)]
      refine habove.bind ?_
      rintro d₁ ⟨t, rfl, hgrows⟩
      refine (ends_makeDirectory_of_bare hp hsteps fun m hm => ?_).imp ?_ fun _ _ h => ⟨t, h, hgrows⟩
      · exact hgrows.bare m ((hhomes t).symm.trans hm) name
      · rintro d₂ ⟨m, hm, rfl⟩
        exact ⟨t, m, hgrows, hm, rfl⟩
    · rw [if_pos he]
      exact ends_throw_bind ⟨_, rfl, hnow⟩

/-- The directory that paths start from is not made. -/
theorem ends_makeNested_current (above : List Path)
    (hnone : d.tree.directory? d.current ⟨"."⟩ = none) :
    Ends (makeNested (⟨"."⟩ :: above)) d (fun _ => False) (fun _ d' => d' = d) := by
  have hp : (⟨"."⟩ : Path).namedSteps? = none := by decide
  unfold makeNested
  rw [if_neg (by decide)]
  refine Ends.tryCatch (ends_makeDirectory.imp ?_ fun _ _ h => h) ?_
  · rintro d' (⟨-, hdir⟩ | ⟨m, name, hplace, -⟩)
    · obtain ⟨l, hl⟩ := exists_directory?_of_isDirectory hdir
      rw [hnone] at hl
      cases hl
    · obtain ⟨before, hp', -⟩ := FileTree.place_eq_ok_iff.1 hplace
      rw [hp] at hp'
      cases hp'
  · rintro e d' ⟨rfl, -, he⟩
    have htext : textFailure? ⟨"."⟩ = none := by decide
    -- the failure is another one, so the directories above are not made either
    have hne : e ≠ .notFound := by
      rintro rfl
      rcases he with he | he
      · rw [htext] at he
        cases he
      · unfold FileTree.makeDirectory FileTree.place at he
        have hsteps : (⟨"."⟩ : Path).steps = [.stay] := by decide
        rw [hp, hsteps, FileTree.walk, FileTree.walk] at he
        cases hdir : d'.tree.isDirectory (FileTree.start d'.current ⟨"."⟩) with
        | true =>
          simp only [hdir] at he
          cases he
        | false =>
          simp only [hdir] at he
          cases he
    rw [if_pos hne]
    exact ends_throw_bind rfl

/-- One more name of a path keeps the directory at the path bare. -/
theorem leavesBare_makeNested_name (h : Path.IsTrimmed relative (name.toList :: reversed))
    (hname : IsPlainName name) (hgrounded : d.tree.IsGrounded) {above : Path}
    (heq : above = .ofReversed relative (Path.dropUncounted relative reversed))
    (hnone : d.tree.directory? d.current (.ofReversed relative (name.toList :: reversed)) = none)
    (habove : d.tree.directory? d.current above = none →
      LeavesBare (makeNested above.ancestors) d above) :
    LeavesBare (makeNested (Path.ofReversed relative (name.toList :: reversed)).ancestors) d
      (.ofReversed relative (name.toList :: reversed)) := by
  have hp := Path.namedSteps?_ofReversed_name h hname
  have hsteps := Path.steps_ofReversed_name h hname
  have hhomes : ∀ t : FileTree, t.home? d.current (.ofReversed relative (name.toList :: reversed))
      = t.directory? d.current above := by
    intro t
    rw [FileTree.home?_ofReversed_cons h, heq]
  cases hhome : d.tree.home? d.current (.ofReversed relative (name.toList :: reversed)) with
  | some m =>
    rw [Path.ancestors_ofReversed_cons h]
    refine (ends_makeNested_of_home hp (Path.isEmpty_text_ofReversed_cons h) hhome).imp ?_ ?_
    · rintro d' (⟨-, hdir⟩ | ⟨hnode, rfl⟩)
      · obtain ⟨l, hl⟩ := exists_directory?_of_isDirectory hdir
        exact absurd (hl.symm.trans hnone) (Option.some_ne_none _)
      · exact ⟨_, rfl, growsBare_put hp hsteps hgrounded hhome hnode⟩
    · rintro - d' ⟨rfl, -⟩
      exact ⟨d'.tree, rfl, .refl hgrounded hnone⟩
  | none =>
    refine (ends_makeNested_of_homeless h hname heq hhome hgrounded
      (habove ((hhomes d.tree).symm.trans hhome))).imp ?_ ?_
    · rintro d' ⟨t, m, hgrows, hm, rfl⟩
      have hnode := hgrows.bare m ((hhomes t).symm.trans hm) name
      have hput := growsBare_put hp hsteps hgrows.grounded hm hnode
      exact ⟨_, rfl, hput.grounded, hgrows.part.trans hput.part, hput.bare⟩
    · rintro - d' ⟨t, rfl, hgrows⟩
      refine ⟨t, rfl, hgrows.grounded, hgrows.part, fun k hk => ?_⟩
      obtain ⟨hleads, -⟩ := FileTree.directory?_eq_some_iff.1 hk
      obtain ⟨-, m, hm, hnode⟩ := FileTree.exists_home?_of_leads hp hsteps hleads
      exact absurd (hgrows.bare m ((hhomes t).symm.trans hm) name) hnode

/-- Making the directories of a path that does not go up leaves the last of them bare, if it was
    not there. -/
theorem leavesBare_makeNested (hslash : ∀ segment ∈ reversed, '/' ∉ segment)
    (hfirst : relative = true → reversed.getLast? ≠ some []) (hup : ['.', '.'] ∉ reversed)
    (hgrounded : d.tree.IsGrounded)
    (hnone : d.tree.directory? d.current
      (.ofReversed relative (Path.dropUncounted relative reversed)) = none) :
    LeavesBare
      (makeNested (Path.ofReversed relative (Path.dropUncounted relative reversed)).ancestors) d
      (.ofReversed relative (Path.dropUncounted relative reversed)) := by
  induction reversed with
  | nil =>
    cases relative with
    | false =>
      have hroot : d.tree.directory? d.current (.ofReversed false []) = some [] := by
        refine FileTree.directory?_eq_some_iff.2 ⟨?_, FileTree.isDirectory_iff.2 rfl⟩
        have hsteps : (Path.ofReversed false []).steps = [.stay] := by decide
        rw [hsteps]
        exact .stay (FileTree.isDirectory_iff.2 rfl) (.done _ _)
      exact absurd (hroot.symm.trans hnone) (Option.some_ne_none _)
    | true =>
      exact ends_pure ⟨d.tree, rfl, .refl hgrounded hnone⟩
  | cons segment rest ih =>
    have hfirst' : relative = true → rest.getLast? ≠ some [] := by
      intro hrelative hlast
      apply hfirst hrelative
      rw [List.getLast?_cons, hlast]
      rfl
    have ih := ih (fun s hs => hslash s (List.mem_cons_of_mem _ hs)) hfirst'
      fun h => hup (List.mem_cons_of_mem _ h)
    unfold Path.dropUncounted at hnone ⊢
    by_cases hcounts : Path.countsLast relative segment rest = true
    · simp only [if_pos hcounts] at hnone ⊢
      have htrimmed : Path.IsTrimmed relative (segment :: rest) :=
        ⟨hslash, hfirst, fun s before heq => by cases heq; exact hcounts⟩
      by_cases hdot : segment = ['.']
      · -- a `.` counts only as the first segment of a relative path
        subst hdot
        obtain ⟨rfl, rfl⟩ : relative = true ∧ rest = [] := by
          simpa [Path.countsLast] using hcounts
        refine (ends_makeNested_current _ hnone).imp (fun _ h => h.elim) ?_
        rintro - d' rfl
        exact ⟨d'.tree, rfl, .refl hgrounded hnone⟩
      · obtain ⟨name, rfl, hname⟩ : ∃ name : String, segment = name.toList ∧ IsPlainName name := by
          have hempty := Path.ne_nil_of_countsLast hcounts
          have hdots : segment ≠ ['.', '.'] := fun h => hup (h ▸ List.mem_cons_self)
          refine ⟨.ofList segment, String.toList_ofList.symm, ?_⟩
          exact Path.isPlainName_of_stepOf? (hslash segment List.mem_cons_self)
            (by simp [Path.stepOf?, hempty, hdot, hdots])
        exact leavesBare_makeNested_name htrimmed hname hgrounded rfl hnone ih
    · simp only [if_neg hcounts] at hnone ⊢
      exact ih hnone

end Disk

end Bundler
