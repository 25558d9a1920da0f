import Bundler.Disk
import Bundler.Proofs.FileTree.Home

set_option autoImplicit false

/-! # What steps on a disk do

A step on a disk ends well or badly, and both leave a disk behind. What it leaves is stated by
`Ends`, with one rule for each way to build steps. An operation that fails leaves the disk as it
was, and one that succeeds changes the tree at the places of its paths only (`ends_remove`,
`ends_rename`). -/

namespace Bundler

namespace Disk

variable {ε ε' : Type} {d : Disk} {p q : Path} {m : Location} {name : String}

/-! ## Questions -/

theorem locate_eq_ok_iff {l : Location} :
    d.locate p = .ok l ↔ textFailure? p = none ∧
      d.tree.Leads FileTree.linkLimit (FileTree.start d.current p) p.steps l := by
  unfold locate
  cases textFailure? p with
  | some failure => simp
  | none => simp [FileTree.walk_eq_ok_iff]

/-- A canonical path leads to what stands at its location, if that is no link. -/
theorem locate_path {l : Location} {n : Node} (h : d.tree.IsGrounded) (hplain : l.IsPlain)
    (hlimit : ∀ name ∈ l, ¬ FileTree.nameLimit < name.utf8ByteSize)
    (htext : textFailure? l.path = none) (hl : d.tree.node? l = some n)
    (hlink : ∀ target, n ≠ .link target) : d.locate l.path = .ok l := by
  have hstart : FileTree.start d.current l.path = [] := by
    unfold FileTree.start
    rw [if_pos (Path.isAbsolute_path l)]
  rw [locate_eq_ok_iff, hstart]
  exact ⟨htext, FileTree.leads_path h hplain hlimit hl hlink⟩

/-- Whether a path is the canonical path of a file that can be read. -/
structure Holds (d : Disk) (p : Path) (content : ByteArray) : Prop where
  isFile : d.isFile p = true
  canonicalize : d.canonicalize p = .ok p
  read : d.read p = .ok content

theorem holds_of_node? {l : Location} {content : ByteArray} (hp : l.path = p)
    (h : d.tree.IsGrounded) (hplain : l.IsPlain)
    (hlimit : ∀ name ∈ l, ¬ FileTree.nameLimit < name.utf8ByteSize) (htext : textFailure? p = none)
    (hl : d.tree.node? l = some (.file content)) (hread : d.isDenied .read p = false)
    (hcanonical : d.isDenied .canonicalize p = false) : d.Holds p content := by
  subst hp
  have hlocate := locate_path h hplain hlimit htext hl fun _ => Node.noConfusion
  exact ⟨isFile_of_locate hlocate hl, canonicalize_of_locate hlocate hcanonical,
    read_of_locate hlocate hl hread⟩

/-- Without links, a canonical path leads to what stands at its location. -/
theorem node?_path (h : d.tree.IsGrounded) (hlinks : d.tree.HasNoLinks) {l : Location}
    (hplain : l.IsPlain) (hlimit : ∀ name ∈ l, ¬ FileTree.nameLimit < name.utf8ByteSize)
    (htext : textFailure? l.path = none) : d.node? l.path = d.tree.node? l := by
  unfold node?
  cases hnode : d.tree.node? l with
  | some n =>
    have hlink : ∀ target, n ≠ .link target := by
      rintro target rfl
      exact hlinks l target hnode
    rw [locate_path h hplain hlimit htext hnode hlink]
    exact hnode
  | none =>
    cases hl : d.locate l.path with
    | error failure => rfl
    | ok l' =>
      have hne : l ≠ [] := by
        rintro rfl
        cases hnode
      have hleads := (locate_eq_ok_iff.1 hl).2
      rw [FileTree.start, if_pos (Path.isAbsolute_path l), Path.steps_path hne hplain] at hleads
      obtain ⟨rfl, hsome⟩ := hleads.of_names hlinks
      exact absurd hnode (hsome hne)

/-- Without links, it is a file just if a file stands at its location. -/
theorem isFile_path (h : d.tree.IsGrounded) (hlinks : d.tree.HasNoLinks) {l : Location}
    (hplain : l.IsPlain) (hlimit : ∀ name ∈ l, ¬ FileTree.nameLimit < name.utf8ByteSize)
    (htext : textFailure? l.path = none) : d.isFile l.path = (d.contentAt l).toOption.isSome := by
  unfold isFile contentAt
  rw [node?_path h hlinks hplain hlimit htext]
  rcases d.tree.node? l with _ | _ | _ | _ <;> rfl

theorem isPresent_iff :
    d.isPresent p = true ↔ textFailure? p = none ∧
      ∃ l, d.tree.Leads FileTree.linkLimit (FileTree.start d.current p) p.steps l ∧
        d.tree.node? l ≠ none := by
  unfold isPresent node?
  constructor
  · intro h
    cases hl : d.locate p with
    | error failure =>
      rw [hl] at h
      cases h
    | ok l =>
      rw [hl] at h
      obtain ⟨htext, hleads⟩ := locate_eq_ok_iff.1 hl
      exact ⟨htext, l, hleads, Option.isSome_iff_ne_none.1 h⟩
  · rintro ⟨htext, l, hleads, hnode⟩
    rw [locate_eq_ok_iff.2 ⟨htext, hleads⟩]
    exact Option.isSome_iff_ne_none.2 hnode

/-- What is present in a part of the tree is present. -/
theorem isPresent_mono {t : FileTree} (hpart : t.IsPart d.tree)
    (h : { d with tree := t }.isPresent p = true) : d.isPresent p = true := by
  obtain ⟨htext, l, hleads, hnode⟩ := isPresent_iff.1 h
  obtain ⟨n, hn⟩ := Option.ne_none_iff_exists'.1 hnode
  refine isPresent_iff.2 ⟨htext, l, hleads.mono hpart, ?_⟩
  rw [hpart l n hn]
  exact Option.some_ne_none n

/-- What is present on two disks is present in what their trees have in common, provided that
    neither has anything in the place of something else of the other. -/
theorem isPresent_common {t : FileTree} {d' : Disk} (hpart : t.IsPart d.tree)
    (hpart' : t.IsPart d'.tree) (hcurrent : d'.current = d.current)
    (hnone : ∀ k, t.node? k = none → d.tree.node? k = none ∨ d'.tree.node? k = none)
    (h : d.isPresent p = true) (h' : d'.isPresent p = true) :
    { d with tree := t }.isPresent p = true := by
  obtain ⟨htext, l, hleads, hl⟩ := isPresent_iff.1 h
  obtain ⟨-, l', hleads', hl'⟩ := isPresent_iff.1 h'
  rw [hcurrent] at hleads'
  have hcommon := hleads.common hpart hpart' hnone hleads'
  obtain rfl : l = l' := (hcommon.mono hpart').unique hleads'
  exact isPresent_iff.2 ⟨htext, l, hcommon, fun hk => (hnone l hk).elim hl hl'⟩

/-- What is present stands in its home, be it a link only. -/
theorem exists_home?_of_isPresent {before : List Step} (hp : p.namedSteps? = some (before, name))
    (hsteps : p.steps = before ++ [.down name]) (h : d.isPresent p = true) :
    textFailure? p = none ∧ ¬ FileTree.nameLimit < name.utf8ByteSize ∧
      ∃ m, d.tree.home? d.current p = some m ∧ d.tree.node? (m ++ [name]) ≠ none := by
  obtain ⟨htext, l, hleads, -⟩ := isPresent_iff.1 h
  exact ⟨htext, FileTree.exists_home?_of_leads hp hsteps hleads⟩

/-- Where nothing stands, nothing is present. -/
theorem not_isPresent_of_free {before : List Step} (hp : p.namedSteps? = some (before, name))
    (hsteps : p.steps = before ++ [.down name]) (hhome : d.tree.home? d.current p = some m)
    (hfree : d.tree.node? (m ++ [name]) = none) : d.isPresent p = false := by
  rw [Bool.eq_false_iff]
  intro hpresent
  obtain ⟨-, -, m', hm', hnode⟩ := exists_home?_of_isPresent hp hsteps hpresent
  obtain rfl : m = m' := Option.some.inj (hhome.symm.trans hm')
  exact hnode hfree

/-- What stands in its home and is no link is present. -/
theorem isPresent_of_node? {before : List Step} {n : Node}
    (hp : p.namedSteps? = some (before, name)) (hsteps : p.steps = before ++ [.down name])
    (htext : textFailure? p = none) (hlimit : ¬ FileTree.nameLimit < name.utf8ByteSize)
    (hhome : d.tree.home? d.current p = some m) (hnode : d.tree.node? (m ++ [name]) = some n)
    (hlink : ∀ target, n ≠ .link target) : d.isPresent p = true := by
  obtain ⟨hleads, hdir⟩ := (FileTree.leads_iff_home? hp).2 hhome
  refine isPresent_iff.2 ⟨htext, m ++ [name], ?_, ?_⟩
  · rw [hsteps]
    exact hleads.append fun links => .down hdir hlimit hnode hlink (.done links _)
  · rw [hnode]
    exact Option.some_ne_none n

/-- A directory that stands in its home is one at its path, also with a slash behind the path. -/
theorem isDirectory_of_node? {before : List Step} (hp : p.namedSteps? = some (before, name))
    (htext : textFailure? p = none) (hlimit : ¬ FileTree.nameLimit < name.utf8ByteSize)
    (hhome : d.tree.home? d.current p = some m)
    (hnode : d.tree.node? (m ++ [name]) = some .directory) : d.isDirectory p = true := by
  obtain ⟨hleads, hdir⟩ := (FileTree.leads_iff_home? hp).2 hhome
  obtain ⟨stays, hstays, hsteps⟩ := Path.exists_stays_of_namedSteps? hp
  have hlocate : d.locate p = .ok (m ++ [name]) := by
    refine locate_eq_ok_iff.2 ⟨htext, ?_⟩
    rw [hsteps]
    exact hleads.append fun links => .down hdir hlimit hnode (fun _ => Node.noConfusion)
      (FileTree.leads_stays (FileTree.isDirectory_iff.2 hnode) hstays links)
  unfold isDirectory node?
  rw [hlocate]
  exact beq_iff_eq.2 hnode

theorem isPresent_of_isDirectory (h : d.isDirectory p = true) : d.isPresent p = true := by
  unfold isDirectory at h
  unfold isPresent
  rw [beq_iff_eq.1 h]
  rfl

theorem exists_directory?_of_isDirectory (h : d.isDirectory p = true) :
    ∃ l, d.tree.directory? d.current p = some l := by
  unfold isDirectory node? at h
  obtain ⟨l, hl, hnode⟩ := Option.bind_eq_some_iff.1 (beq_iff_eq.1 h)
  cases hlocate : d.locate p with
  | error e =>
    rw [hlocate] at hl
    cases hl
  | ok l' =>
    rw [hlocate] at hl
    cases hl
    exact ⟨l, FileTree.directory?_eq_some_iff.2
      ⟨(locate_eq_ok_iff.1 hlocate).2, FileTree.isDirectory_iff.2 hnode⟩⟩

/-! ## How steps end -/

/-- What a step leaves behind if it ends well, and if it ends badly. -/
def Ends (step : DiskM ε Unit) (d : Disk) (good : Disk → Prop) (bad : ε → Disk → Prop) : Prop :=
  (∀ d', step.run d = .ok () d' → good d') ∧ ∀ e d', step.run d = .error e d' → bad e d'

variable {step : DiskM ε Unit} {good good' : Disk → Prop} {bad bad' : ε → Disk → Prop}

theorem Ends.imp (h : Ends step d good bad) (hgood : ∀ d', good d' → good' d')
    (hbad : ∀ e d', bad e d' → bad' e d') : Ends step d good' bad' :=
  ⟨fun d' hd' => hgood d' (h.1 d' hd'), fun e d' hd' => hbad e d' (h.2 e d' hd')⟩

theorem Ends.with_run (h : Ends step d good bad) :
    Ends step d good fun e d' => bad e d' ∧ step.run d = .error e d' :=
  ⟨h.1, fun e d' hd' => ⟨h.2 e d' hd', hd'⟩⟩

theorem ends_pure (h : good d) : Ends (pure () : DiskM ε Unit) d good bad := by
  refine ⟨fun d' hd' => ?_, fun e d' hd' => ?_⟩
  · cases hd'
    exact h
  · cases hd'

theorem ends_throw {e : ε} (h : bad e d) : Ends (throw e : DiskM ε Unit) d good bad := by
  refine ⟨fun d' hd' => ?_, fun e d' hd' => ?_⟩
  · cases hd'
  · cases hd'
    exact h

theorem ends_get {f : Disk → DiskM ε Unit} (h : Ends (f d) d good bad) :
    Ends (get >>= f) d good bad := h

theorem run_bind_ok {next : Unit → DiskM ε Unit} {d' : Disk} (h : step.run d = .ok () d') :
    (step >>= next).run d = (next ()).run d' := by
  show EStateM.bind step next d = _
  unfold EStateM.bind
  rw [show step d = _ from h]
  rfl

theorem run_bind_error {next : Unit → DiskM ε Unit} {e : ε} {d' : Disk}
    (h : step.run d = .error e d') : (step >>= next).run d = .error e d' := by
  show EStateM.bind step next d = _
  unfold EStateM.bind
  rw [show step d = _ from h]

theorem run_tryCatch_ok {handle : ε → DiskM ε Unit} {d' : Disk} (h : step.run d = .ok () d') :
    (MonadExcept.tryCatch step handle : DiskM ε Unit).run d = .ok () d' := by
  show EStateM.tryCatch step handle d = _
  unfold EStateM.tryCatch
  rw [show step d = _ from h]

theorem run_tryCatch_error {handle : ε → DiskM ε Unit} {e : ε} {d' : Disk}
    (h : step.run d = .error e d') :
    (MonadExcept.tryCatch step handle : DiskM ε Unit).run d = (handle e).run d' := by
  show EStateM.tryCatch step handle d = _
  unfold EStateM.tryCatch
  rw [show step d = _ from h]
  rfl

theorem run_adaptExcept_ok {f : ε → ε'} {d' : Disk} (h : step.run d = .ok () d') :
    (EStateM.adaptExcept f step).run d = .ok () d' := by
  show EStateM.adaptExcept f step d = _
  unfold EStateM.adaptExcept
  simp only [show step d = _ from h]

theorem run_adaptExcept_error {f : ε → ε'} {e : ε} {d' : Disk} (h : step.run d = .error e d') :
    (EStateM.adaptExcept f step).run d = .error (f e) d' := by
  show EStateM.adaptExcept f step d = _
  unfold EStateM.adaptExcept
  simp only [show step d = _ from h]

theorem ends_of_ok {d' : Disk} (hstep : step.run d = .ok () d') (h : good d') :
    Ends step d good bad := by
  refine ⟨fun d'' hd'' => ?_, fun e d'' hd'' => ?_⟩
  · rw [hstep] at hd''
    cases hd''
    exact h
  · rw [hstep] at hd''
    cases hd''

theorem ends_of_error {e : ε} {d' : Disk} (hstep : step.run d = .error e d') (h : bad e d') :
    Ends step d good bad := by
  refine ⟨fun d'' hd'' => ?_, fun e d'' hd'' => ?_⟩
  · rw [hstep] at hd''
    cases hd''
  · rw [hstep] at hd''
    cases hd''
    exact h

theorem Ends.bind {next : Unit → DiskM ε Unit} (h : Ends step d good' bad)
    (hnext : ∀ d', good' d' → Ends (next ()) d' good bad) : Ends (step >>= next) d good bad := by
  cases hstep : step.run d with
  | ok u d' =>
    have hend := hnext d' (h.1 d' hstep)
    unfold Ends at hend ⊢
    rwa [run_bind_ok hstep]
  | error e d' => exact ends_of_error (run_bind_error hstep) (h.2 e d' hstep)

/-- After a step that ends well for sure, the next one starts from what it leaves. -/
theorem Ends.next {next : Unit → DiskM ε Unit} {d' : Disk}
    (h : Ends step d (fun d'' => d'' = d') fun _ _ => False) (hnext : Ends (next ()) d' good bad) :
    Ends (step >>= next) d good bad := by
  refine (h.imp (fun _ h => h) fun _ _ h => h.elim).bind ?_
  intro d'' hd''
  rw [hd'']
  exact hnext

theorem ends_throw_bind {e : ε} {next : Unit → DiskM ε Unit} (h : bad e d) :
    Ends (throw e >>= next) d good bad :=
  ends_of_error (run_bind_error rfl) h

theorem Ends.tryCatch {handle : ε → DiskM ε Unit} (h : Ends step d good bad')
    (hhandle : ∀ e d', bad' e d' → Ends (handle e) d' good bad) :
    Ends (tryCatch step handle) d good bad := by
  cases hstep : step.run d with
  | ok u d' => exact ends_of_ok (run_tryCatch_ok hstep) (h.1 d' hstep)
  | error e d' =>
    have hend := hhandle e d' (h.2 e d' hstep)
    unfold Ends at hend ⊢
    rwa [run_tryCatch_error hstep]

theorem Ends.adaptExcept {f : ε → ε'} {bad' : ε' → Disk → Prop}
    (h : Ends step d good fun e d' => bad' (f e) d') :
    Ends (EStateM.adaptExcept f step) d good bad' := by
  cases hstep : step.run d with
  | ok u d' => exact ends_of_ok (run_adaptExcept_ok hstep) (h.1 d' hstep)
  | error e d' => exact ends_of_error (run_adaptExcept_error hstep) (h.2 e d' hstep)

/-! ## Operations -/

/-- An operation changes the tree if it succeeds, and nothing if it fails. -/
theorem ends_change {f : FileTree → Location → Except FileFailure FileTree} :
    Ends (change p f) d
      (fun d' => textFailure? p = none ∧ ∃ t, f d.tree d.current = .ok t ∧ d' = { d with tree := t })
      (fun e d' => d' = d ∧ (textFailure? p = some e ∨
        textFailure? p = none ∧ f d.tree d.current = .error e)) := by
  unfold change
  refine ends_get ?_
  cases htext : textFailure? p with
  | some failure => exact ends_throw ⟨rfl, .inl rfl⟩
  | none =>
    cases hf : f d.tree d.current with
    | error failure => exact ends_throw ⟨rfl, .inr ⟨rfl, rfl⟩⟩
    | ok t => exact ends_of_ok rfl ⟨rfl, t, rfl, rfl⟩

/-- A change that is possible ends well. -/
theorem ends_change_of_ok {f : FileTree → Location → Except FileFailure FileTree} {t : FileTree}
    (htext : textFailure? p = none) (h : f d.tree d.current = .ok t) :
    Ends (change p f) d (fun d' => d' = { d with tree := t }) (fun _ _ => False) := by
  refine ends_change.imp ?_ ?_
  · rintro d' ⟨-, t', ht', rfl⟩
    rw [h] at ht'
    cases ht'
    rfl
  · rintro e d' ⟨-, he | ⟨-, he⟩⟩
    · rw [htext] at he
      cases he
    · rw [h] at he
      cases he

theorem ends_naming {step : DiskM FileFailure Unit} {bad : FileError → Disk → Prop}
    (h : Ends step d good fun failure d' => bad ⟨failure, p.trimmed⟩ d') :
    Ends (naming p step) d good bad := h.adaptExcept

theorem ends_guarded {operation : FileOperation} {step : DiskM FileError Unit}
    {bad : FileError → Disk → Prop} (hdenied : d.isDenied operation p = true → bad ⟨.denied, p⟩ d)
    (h : Ends step d good bad) : Ends (guarded operation p step) d good bad := by
  unfold guarded
  refine ends_get ?_
  by_cases hd : d.isDenied operation p = true
  · rw [if_pos hd]
    exact ends_of_error rfl (hdenied hd)
  · rw [if_neg hd]
    exact h

theorem home?_of_place {t : FileTree} {here m' : Location} {name' : String} {unnamed : FileFailure}
    (hhome : t.home? here p = some m) (hname : p.fileName? = some name)
    (h : t.place here p unnamed = .ok (m', name')) : m' = m ∧ name' = name := by
  obtain ⟨before, hp, hhome', -⟩ := FileTree.place_eq_ok_iff.1 h
  have hname' := (Path.exists_parent_of_namedSteps? hp).1
  exact ⟨Option.some.inj (hhome'.symm.trans hhome), Option.some.inj (hname'.symm.trans hname)⟩

/-- Removing takes away what stands in the place of a path, or nothing. -/
theorem ends_remove (hhome : d.tree.home? d.current p = some m) (hname : p.fileName? = some name) :
    Ends (remove p) d (fun d' => d' = { d with tree := d.tree.remove (m ++ [name]) })
      (fun _ d' => d' = d) := by
  refine ends_guarded (fun _ => rfl) (ends_naming ?_)
  refine ends_change.imp ?_ fun _ _ h => h.1
  rintro d' ⟨-, t, ht, rfl⟩
  obtain ⟨m', name', n, hplace, -, -, rfl⟩ := FileTree.removeAt_eq_ok_iff.1 ht
  obtain ⟨rfl, rfl⟩ := home?_of_place hhome hname hplace
  rfl

/-- Removing succeeds if something but a file stands in the place of a path whose text lets it. -/
theorem ends_remove_of_node? {before : List Step} {n : Node} (hdenied : d.isDenied .remove p = false)
    (hp : p.namedSteps? = some (before, name)) (htext : textFailure? p = none)
    (hlimit : ¬ FileTree.nameLimit < name.utf8ByteSize) (hhome : d.tree.home? d.current p = some m)
    (hnode : d.tree.node? (m ++ [name]) = some n) (hfile : ∀ content, n ≠ .file content) :
    Ends (remove p) d (fun d' => d' = { d with tree := d.tree.remove (m ++ [name]) })
      (fun _ _ => False) := by
  have hremove : d.tree.removeAt d.current p = .ok (d.tree.remove (m ++ [name])) :=
    FileTree.removeAt_eq_ok_iff.2
      ⟨m, name, n, FileTree.place_eq_ok_iff.2 ⟨before, hp, hhome, hlimit⟩, hnode, hfile, rfl⟩
  refine ends_guarded (fun hd => ?_) (ends_naming (ends_change_of_ok htext hremove))
  rw [hdenied] at hd
  cases hd

/-- A file is not removed. -/
theorem ends_remove_of_file {content : ByteArray} (hhome : d.tree.home? d.current p = some m)
    (hname : p.fileName? = some name) (hnode : d.tree.node? (m ++ [name]) = some (.file content)) :
    Ends (remove p) d (fun _ => False) (fun _ d' => d' = d) := by
  refine ends_guarded (fun _ => rfl) (ends_naming ?_)
  refine ends_change.imp ?_ fun _ _ h => h.1
  rintro d' ⟨-, t, ht, -⟩
  obtain ⟨m', name', n, hplace, hn, hfile, -⟩ := FileTree.removeAt_eq_ok_iff.1 ht
  obtain ⟨rfl, rfl⟩ := home?_of_place hhome hname hplace
  rw [hnode] at hn
  exact hfile content (Option.some.inj hn).symm

/-- Whether the texts of two paths let a node be brought from a place of one name to one of
    another. -/
structure CanRename (p q : Path) (a b : String) (n : Node) : Prop where
  source : textFailure? p = none ∧ ¬ FileTree.nameLimit < a.utf8ByteSize ∧
    ∃ before, p.namedSteps? = some (before, a)
  target : textFailure? q = none ∧ ¬ FileTree.nameLimit < b.utf8ByteSize ∧
    ∃ before, q.namedSteps? = some (before, b)
  slash : n ≠ .directory → p.endsWithSlash = false ∧ q.endsWithSlash = false

theorem CanRename.symm {a b : String} {n : Node} (h : CanRename p q a b n) : CanRename q p b a n :=
  ⟨h.target, h.source, fun hn => (h.slash hn).symm⟩

variable {a b : String}

/-- Renaming inside a directory brings a node to another place, or nothing. -/
theorem ends_rename (hp : d.tree.home? d.current p = some m) (hq : d.tree.home? d.current q = some m)
    (ha : p.fileName? = some a) (hb : q.fileName? = some b) (hab : a ≠ b) :
    Ends (rename p q) d
      (fun d' => d' = { d with tree := d.tree.move (m ++ [a]) (m ++ [b]) } ∧
        ∃ n, d.tree.node? (m ++ [a]) = some n ∧ CanRename p q a b n ∧
          d.tree.replacementFailure? n (m ++ [b]) = none)
      (fun _ d' => d' = d) := by
  refine ends_guarded (fun _ => rfl) (ends_naming ?_)
  cases htext : textFailure? q with
  | some failure => exact ends_throw rfl
  | none =>
    refine ends_change.imp ?_ fun _ _ h => h.1
    rintro d' ⟨htext', t, ht, rfl⟩
    obtain ⟨m₁, a', m₂, b', n, hsource, htarget, hnode, hslash, -, -, h⟩ :=
      FileTree.rename_eq_ok_iff.1 ht
    obtain ⟨rfl, rfl⟩ := home?_of_place hp ha hsource
    obtain ⟨rfl, rfl⟩ := home?_of_place hq hb htarget
    obtain ⟨before, hbefore, -, hlimit⟩ := FileTree.place_eq_ok_iff.1 hsource
    obtain ⟨before', hbefore', -, hlimit'⟩ := FileTree.place_eq_ok_iff.1 htarget
    rcases h with ⟨heq, -⟩ | ⟨-, hfailure, rfl⟩
    · exact absurd (List.append_inj' heq rfl).2 (by simpa using hab)
    · exact ⟨rfl, n, hnode, ⟨⟨htext', hlimit, before, hbefore⟩, ⟨htext, hlimit', before', hbefore'⟩,
        hslash⟩, hfailure⟩

/-- Nothing is renamed if one of its places has no home. -/
theorem ends_rename_of_homeless
    (h : d.tree.home? d.current p = none ∨ d.tree.home? d.current q = none) :
    Ends (rename p q) d (fun _ => False) (fun _ d' => d' = d) := by
  refine ends_guarded (fun _ => rfl) (ends_naming ?_)
  cases htext : textFailure? q with
  | some failure => exact ends_throw rfl
  | none =>
    refine ends_change.imp ?_ fun _ _ h => h.1
    rintro d' ⟨-, t, ht, rfl⟩
    obtain ⟨m, a, m', b, n, hsource, htarget, -⟩ := FileTree.rename_eq_ok_iff.1 ht
    obtain ⟨-, -, hm, -⟩ := FileTree.place_eq_ok_iff.1 hsource
    obtain ⟨-, -, hm', -⟩ := FileTree.place_eq_ok_iff.1 htarget
    rcases h with h | h
    · exact absurd (hm.symm.trans h) (Option.some_ne_none m)
    · exact absurd (hm'.symm.trans h) (Option.some_ne_none m')

/-- Renaming to a free place of the same directory succeeds if the texts of the paths let it. -/
theorem ends_rename_of_free {n : Node} (hdenied : d.isDenied .rename p = false)
    (hp : d.tree.home? d.current p = some m) (hq : d.tree.home? d.current q = some m)
    (h : CanRename p q a b n) (hab : a ≠ b) (hnode : d.tree.node? (m ++ [a]) = some n)
    (hfree : d.tree.node? (m ++ [b]) = none) :
    Ends (rename p q) d (fun d' => d' = { d with tree := d.tree.move (m ++ [a]) (m ++ [b]) })
      (fun _ _ => False) := by
  obtain ⟨htext, hlimit, before, hbefore⟩ := h.source
  obtain ⟨htext', hlimit', before', hbefore'⟩ := h.target
  have hbelow := FileTree.not_concat_prefix m
  have hfailure : d.tree.replacementFailure? n (m ++ [b]) = none := by
    unfold FileTree.replacementFailure?
    rw [hfree]
  have hrename : d.tree.rename d.current p q = .ok (d.tree.move (m ++ [a]) (m ++ [b])) :=
    FileTree.rename_eq_ok_iff.2 ⟨m, a, m, b, n,
      FileTree.place_eq_ok_iff.2 ⟨before, hbefore, hp, hlimit⟩,
      FileTree.place_eq_ok_iff.2 ⟨before', hbefore', hq, hlimit'⟩, hnode, h.slash, hbelow a, hbelow b,
      .inr ⟨by simpa using hab, hfailure, rfl⟩⟩
  refine ends_guarded (fun hd => ?_) (ends_naming ?_)
  · rw [hdenied] at hd
    cases hd
  · rw [htext']
    exact ends_change_of_ok htext hrename

end Disk

end Bundler
