import Bundler.Output.Write
import Bundler.Proofs.Disk.Create
import Bundler.Proofs.NameMap

set_option autoImplicit false

/-! # Writing files into a new directory

Files are written into a directory that has just been made one after the other. What stands in it
is at any time what the files written so far make up (`filesEntry`), and nothing outside of it
changes, however the writing ends (`ends_writeFiles`). -/

namespace Bundler

namespace FileTree

variable {t t' : FileTree} {l : Location}

/-- What stands at a location and below it. -/
def entryAt (t : FileTree) (l below : Location) : Option Node := t.node? (l ++ below)

/-- Whether two trees differ at most at a location and below it. -/
def AgreeOutside (t t' : FileTree) (l : Location) : Prop :=
  ∀ k, ¬ l <+: k → t'.node? k = t.node? k

theorem AgreeOutside.refl (t : FileTree) (l : Location) : t.AgreeOutside t l := fun _ _ => rfl

theorem AgreeOutside.trans {t'' : FileTree} (h : t.AgreeOutside t' l) (h' : t'.AgreeOutside t'' l) :
    t.AgreeOutside t'' l := fun k hk => (h' k hk).trans (h k hk)

theorem agreeOutside_put (hl : l ≠ []) (below : Location) (n : Node) :
    t.AgreeOutside (t.put (l ++ below) n) l := by
  intro k hk
  rw [node?_put (by simp [hl]), if_neg]
  rintro rfl
  exact hk (List.prefix_append l below)

theorem AgreeOutside.isPart {base : FileTree} (h : t.AgreeOutside t' l) (hpart : base.IsPart t)
    (hfree : base.IsFree l) : base.IsPart t' := by
  intro k n hk
  rw [h k (hfree.not_prefix (by rw [hk]; exact Option.some_ne_none n))]
  exact hpart k n hk

end FileTree

/-! ## Entries -/

/-- What stands in a directory that holds some files and nothing else. -/
def filesEntry (files : List (String × ByteArray)) : Location → Option Node
  | [] => some .directory
  | [name] => (files.lookup name).map .file
  | _ :: _ :: _ => none

theorem lookup_eq_none_of_not_mem {files : List (String × ByteArray)} {name : String}
    (h : name ∉ files.map (·.1)) : files.lookup name = none := by
  by_contra hsome
  obtain ⟨content, hcontent⟩ := Option.ne_none_iff_exists'.1 hsome
  exact h (List.mem_map.2 ⟨_, NameMap.mem_of_lookup hcontent, rfl⟩)

theorem filesEntry_of_not_mem {files : List (String × ByteArray)} {name : String}
    (h : name ∉ files.map (·.1)) : filesEntry files [name] = none := by
  show (files.lookup name).map Node.file = none
  rw [lookup_eq_none_of_not_mem h, Option.map_none]

theorem filesEntry_append {files : List (String × ByteArray)} {f : String × ByteArray}
    (hf : f.1 ∉ files.map (·.1)) (below : Location) :
    filesEntry (files ++ [f]) below =
      if below = [f.1] then some (.file f.2) else filesEntry files below := by
  have hnone := lookup_eq_none_of_not_mem hf
  rcases below with _ | ⟨name, _ | ⟨second, rest⟩⟩
  · rfl
  · show Option.map _ (List.lookup name (files ++ [f])) = _
    rw [List.lookup_append]
    by_cases hname : name = f.1
    · subst hname
      rw [hnone, if_pos rfl, Option.none_or, List.lookup_cons_self]
      rfl
    · rw [if_neg (by simpa using hname)]
      have hlast : List.lookup name [f] = none := by
        rw [List.lookup_cons, beq_false_of_ne hname]
        rfl
      rw [hlast, Option.or_none]
      rfl
  · rw [if_neg (by simp)]
    rfl

/-! ## Writing one file -/

namespace Disk

variable {d : Disk} {m : Location} {name mark : String} {relative : Bool}
  {reversed : List (List Char)}

/-- A file that is written into a directory stands in it, or nothing changes. -/
theorem ends_write (h : Path.IsTrimmed relative (mark.toList :: reversed)) (hmark : IsPlainName mark)
    (hname : IsPlainName name) (content : ByteArray)
    (hhome : d.tree.home? d.current (.ofReversed relative (mark.toList :: reversed)) = some m)
    (hdir : d.tree.node? (m ++ [mark]) = some .directory)
    (hlink : ∀ target, d.tree.node? (m ++ [mark] ++ [name]) ≠ some (.link target)) :
    Ends (write ((Path.ofReversed relative (mark.toList :: reversed)).join ⟨name⟩) content) d
      (fun d' => d' = { d with tree := d.tree.put (m ++ [mark] ++ [name]) (.file content) })
      (fun _ d' => d' = d) := by
  have hp := Path.namedSteps?_ofReversed_name h hmark
  have hsteps := Path.steps_ofReversed_name h hmark
  have hparent := Path.parent?_ofReversed_name h hname
  have hfile := Path.fileName?_ofReversed_name (h.cons hname) hname
  have hjoin := Path.join_ofReversed h hname
  have hmade : Ends (makeNested (Path.ofReversed relative (mark.toList :: reversed)).ancestors) d
      (fun d' => d' = d) (fun _ d' => d' = d) := by
    rw [Path.ancestors_ofReversed_cons h]
    exact (ends_makeNested_of_directory hp (Path.isEmpty_text_ofReversed_cons h) hhome hdir).imp
      (fun _ h => h) fun _ _ h => h.1
  -- the directory is there already, so nothing is made for the file
  rw [hjoin]
  refine ends_guarded (fun _ => rfl) ?_
  rw [hparent]
  refine Ends.bind (ends_naming hmade) ?_
  rintro d' rfl
  refine ends_naming (ends_change.imp ?_ fun _ _ h => h.1)
  rintro d₁ ⟨-, t, ht, rfl⟩
  unfold FileTree.write at ht
  obtain ⟨l, hl, ht⟩ := Result.bind_eq_ok_iff.1 ht
  cases ht
  obtain ⟨k, name', hplace, hplaced⟩ := FileTree.exists_place_of_writingPlace hl
  obtain ⟨before, hp', hk, -⟩ := FileTree.place_eq_ok_iff.1 hplace
  obtain rfl : name' = name :=
    Option.some.inj ((Path.exists_parent_of_namedSteps? hp').1.symm.trans hfile)
  have hk : k = m ++ [mark] := by
    rw [FileTree.home?_ofReversed_cons (h.cons hname), h.dropUncounted_eq] at hk
    exact FileTree.eq_of_directory? hp hsteps hhome hdir hk
  subst hk
  rw [hplaced hlink]

/-- A file is written to a free place of a directory if the texts of the paths let it. -/
theorem ends_write_of_free (h : Path.IsTrimmed relative (mark.toList :: reversed))
    (hmark : IsPlainName mark) (hname : IsPlainName name) (content : ByteArray)
    (hhome : d.tree.home? d.current (.ofReversed relative (mark.toList :: reversed)) = some m)
    (hdir : d.tree.node? (m ++ [mark]) = some .directory)
    (hfree : d.tree.node? (m ++ [mark] ++ [name]) = none)
    (hdenied : d.isDenied .write
      ((Path.ofReversed relative (mark.toList :: reversed)).join ⟨name⟩) = false)
    (htext : textFailure? (.ofReversed relative (mark.toList :: reversed)) = none ∧
      ¬ FileTree.nameLimit < mark.utf8ByteSize)
    (htext' : textFailure? ((Path.ofReversed relative (mark.toList :: reversed)).join ⟨name⟩)
      = none ∧ ¬ FileTree.nameLimit < name.utf8ByteSize) :
    Ends (write ((Path.ofReversed relative (mark.toList :: reversed)).join ⟨name⟩) content) d
      (fun d' => d' = { d with tree := d.tree.put (m ++ [mark] ++ [name]) (.file content) })
      (fun _ _ => False) := by
  have hp := Path.namedSteps?_ofReversed_name h hmark
  have hsteps := Path.steps_ofReversed_name h hmark
  have hpath := Path.namedSteps?_ofReversed_name (h.cons hname) hname
  have hthere := isDirectory_of_node? hp htext.1 htext.2 hhome hdir
  have hwritten : d.tree.write d.current
      (.ofReversed relative (name.toList :: mark.toList :: reversed)) content
        = .ok (d.tree.put (m ++ [mark] ++ [name]) (.file content)) := by
    refine FileTree.write_of_free content (FileTree.place_eq_ok_iff.2 ⟨_, hpath, ?_, htext'.2⟩)
      (Path.endsWithSlash_ofReversed (h.cons hname)) hfree
    rw [FileTree.home?_ofReversed_cons (h.cons hname), h.dropUncounted_eq]
    obtain ⟨l, hl⟩ := exists_directory?_of_isDirectory hthere
    rwa [FileTree.eq_of_directory? hp hsteps hhome hdir hl] at hl
  rw [Path.join_ofReversed h hname] at hdenied htext' ⊢
  refine ends_guarded (fun hd => ?_) ?_
  · rw [hdenied] at hd
    cases hd
  rw [Path.parent?_ofReversed_name h hname]
  -- the directory is there, so nothing is made for the file
  have hmade : Ends (makeNested (Path.ofReversed relative (mark.toList :: reversed)).ancestors) d
      (fun d' => d' = d) (fun _ _ => False) := by
    rw [Path.ancestors_ofReversed_cons h]
    refine (ends_makeNested_of_directory hp (Path.isEmpty_text_ofReversed_cons h) hhome hdir).imp
      (fun _ h => h) ?_
    rintro - d' ⟨-, hmissing⟩
    rw [hthere] at hmissing
    cases hmissing
  refine Ends.bind (ends_naming hmade) ?_
  rintro d' rfl
  exact ends_naming (ends_change_of_ok htext'.1 hwritten)

/-- Whether nothing stands against writing a file of a name into a marked directory. -/
structure Lets (d : Disk) (directory : Path) (mark name : String) : Prop where
  allowed : d.isDenied .write (directory.join ⟨name⟩) = false
  marked : textFailure? directory = none ∧ ¬ FileTree.nameLimit < mark.utf8ByteSize
  named : textFailure? (directory.join ⟨name⟩) = none ∧ ¬ FileTree.nameLimit < name.utf8ByteSize

/-- A file is written to a free place of a directory if nothing stands against it. -/
theorem ends_write_of_lets (h : Path.IsTrimmed relative (mark.toList :: reversed))
    (hmark : IsPlainName mark) (hname : IsPlainName name) (content : ByteArray)
    (hhome : d.tree.home? d.current (.ofReversed relative (mark.toList :: reversed)) = some m)
    (hdir : d.tree.node? (m ++ [mark]) = some .directory)
    (hfree : d.tree.node? (m ++ [mark] ++ [name]) = none) :
    Ends (write ((Path.ofReversed relative (mark.toList :: reversed)).join ⟨name⟩) content) d
      (fun d' => d' = { d with tree := d.tree.put (m ++ [mark] ++ [name]) (.file content) })
      (fun _ d' => d' = d ∧ ¬ d.Lets (.ofReversed relative (mark.toList :: reversed)) mark name) := by
  by_cases hlets : d.Lets (.ofReversed relative (mark.toList :: reversed)) mark name
  · exact (ends_write_of_free h hmark hname content hhome hdir hfree hlets.allowed hlets.marked
      hlets.named).imp (fun _ h => h) fun _ _ h => h.elim
  · have hlink : ∀ target, d.tree.node? (m ++ [mark] ++ [name]) ≠ some (.link target) := by
      intro target
      rw [hfree]
      exact (Option.some_ne_none _).symm
    exact (ends_write h hmark hname content hhome hdir hlink).imp (fun _ h => h)
      fun _ _ h => ⟨h, hlets⟩

/-! ## Writing all files -/

/-- Whether a disk is another one but for a directory that holds just some files. -/
structure Fills (d : Disk) (l : Location) (files : List (String × ByteArray)) (d' : Disk) :
    Prop where
  same : d' = { d with tree := d'.tree }
  outside : d.tree.AgreeOutside d'.tree l
  entry : d'.tree.entryAt l = filesEntry files

theorem Fills.put {d' : Disk} {l : Location} {files : List (String × ByteArray)}
    (h : d.Fills l files d') (hl : l ≠ []) {f : String × ByteArray} (hf : f.1 ∉ files.map (·.1)) :
    d.Fills l (files ++ [f]) { d' with tree := d'.tree.put (l ++ [f.1]) (.file f.2) } := by
  refine ⟨?_, h.outside.trans (FileTree.agreeOutside_put hl [f.1] _), ?_⟩
  · rw [h.same]
  · funext below
    rw [filesEntry_append hf, ← h.entry]
    unfold FileTree.entryAt
    rw [FileTree.node?_put (by simp)]
    simp only [List.append_cancel_left_eq]

/-- A directory that holds just files leaves the tree grounded. -/
theorem Fills.isGrounded {d' : Disk} {files : List (String × ByteArray)}
    (h : d.Fills (m ++ [mark]) files d') (hgrounded : d.tree.IsGrounded)
    (hm : d.tree.node? m = some .directory) : d'.tree.IsGrounded := by
  intro k child hnode
  by_cases hk : m ++ [mark] <+: k
  · obtain ⟨below, rfl⟩ := hk
    have hentry := congrFun h.entry (below ++ [child])
    rw [FileTree.entryAt, ← List.append_assoc] at hentry
    rw [hentry] at hnode
    -- nothing is below a file
    cases below with
    | nil => exact congrFun h.entry []
    | cons first rest => cases rest <;> exact absurd rfl hnode
  · rw [h.outside k hk]
    by_cases hchild : m ++ [mark] <+: k ++ [child]
    · have heq := (List.prefix_concat_iff.1 hchild).resolve_right hk
      rwa [← (List.append_inj' heq rfl).1]
    · rw [h.outside _ hchild] at hnode
      exact hgrounded k child hnode

/-- Files that are written after others stand in the directory beside them. -/
theorem ends_forM_write (h : Path.IsTrimmed relative (mark.toList :: reversed))
    (hmark : IsPlainName mark) {base : FileTree} (hbase : base.IsPart d.tree)
    (hfree : base.IsFree (m ++ [mark]))
    (hhome : base.home? d.current (.ofReversed relative (mark.toList :: reversed)) = some m)
    {files written : List (String × ByteArray)} (hplain : ∀ f ∈ files, IsPlainName f.1)
    (hnodup : ((written ++ files).map (·.1)).Nodup) {d' : Disk}
    (hd : d.Fills (m ++ [mark]) written d') :
    Ends (files.forM fun f =>
        write ((Path.ofReversed relative (mark.toList :: reversed)).join ⟨f.1⟩) f.2) d'
      (d.Fills (m ++ [mark]) (written ++ files))
      (fun _ d'' => (∃ others, d.Fills (m ++ [mark]) others d'') ∧
        ∃ f ∈ files, ¬ d.Lets (.ofReversed relative (mark.toList :: reversed)) mark f.1) := by
  induction files generalizing written d' with
  | nil =>
    rw [List.append_nil]
    exact ends_pure hd
  | cons f rest ih =>
    have hpart : base.IsPart d'.tree := hd.outside.isPart hbase hfree
    have hcurrent : d'.current = d.current := by rw [hd.same]
    -- what has been written so far has other names, so the place of this file is still free
    have hnew : f.1 ∉ written.map (·.1) := by
      rw [List.map_append, List.map_cons] at hnodup
      exact fun hmem => List.disjoint_of_nodup_append hnodup hmem List.mem_cons_self
    have hdir : d'.tree.node? (m ++ [mark]) = some .directory := by
      have hentry := congrFun hd.entry []
      rwa [FileTree.entryAt, List.append_nil] at hentry
    have hfree : d'.tree.node? (m ++ [mark] ++ [f.1]) = none := by
      have hentry := congrFun hd.entry [f.1]
      rwa [filesEntry_of_not_mem hnew] at hentry
    have hlets : ∀ {directory mark name}, d.Lets directory mark name → d'.Lets directory mark name := by
      rw [hd.same]
      exact fun h => ⟨h.allowed, h.marked, h.named⟩
    have hhome' : d'.tree.home? d'.current (.ofReversed relative (mark.toList :: reversed))
        = some m := hcurrent ▸ hpart.home? hhome
    show Ends (write _ f.2 >>= fun _ => rest.forM _) d' _ _
    refine Ends.bind ((ends_write_of_lets h hmark (hplain f List.mem_cons_self) f.2 hhome' hdir
      hfree).imp (fun _ h => h) ?_) ?_
    · rintro - d'' ⟨rfl, hblocked⟩
      exact ⟨⟨written, hd⟩, f, List.mem_cons_self, fun h => hblocked (hlets h)⟩
    · rintro d'' rfl
      rw [List.append_cons written f rest] at hnodup ⊢
      refine (ih (fun g hg => hplain g (List.mem_cons_of_mem _ hg)) hnodup
        (hd.put (by simp) hnew)).imp (fun _ h => h) ?_
      rintro - d'' ⟨hothers, g, hg, hblocked⟩
      exact ⟨hothers, g, List.mem_cons_of_mem _ hg, hblocked⟩

end Disk

end Bundler
