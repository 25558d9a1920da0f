import Bundler.Proofs.FileTree.Changes
import Bundler.Proofs.Path.Parent

set_option autoImplicit false

/-! # The place that a path gives to something

What a path names stands in the directory that the path lies in, its home (`home?`), under the last
name of the path. If there is a home, it is the directory that `place` answers
(`home?_of_place`, `place_of_home?`).

The walks that succeed are given by a relation (`Leads`) that has one rule for each step. A walk
that succeeds in a part of a tree succeeds in the tree as well and leads to the same location
(`Leads.mono`), so the home stays where it is as long as the part does that the walk reads. -/

namespace Bundler

namespace FileTree

variable {t t' : FileTree} {links : Nat} {here l m : Location} {steps xs ys : List Step}
  {name : String} {n : Node}

/-! ## Successful walks -/

/-- Whether a walk leads to a location. -/
inductive Leads (t : FileTree) : Nat → Location → List Step → Location → Prop
  | done (links : Nat) (l : Location) : Leads t links l [] l
  | stay {links : Nat} {here l : Location} {rest : List Step} (hdir : t.isDirectory here = true)
      (h : Leads t links here rest l) : Leads t links here (.stay :: rest) l
  | up {links : Nat} {here l : Location} {rest : List Step} (hdir : t.isDirectory here = true)
      (h : Leads t links here.dropLast rest l) : Leads t links here (.up :: rest) l
  | down {links : Nat} {here l : Location} {rest : List Step} {name : String} {n : Node}
      (hdir : t.isDirectory here = true) (hlimit : ¬ nameLimit < name.utf8ByteSize)
      (hnode : t.node? (here ++ [name]) = some n) (hlink : ∀ target, n ≠ .link target)
      (h : Leads t links (here ++ [name]) rest l) : Leads t links here (.down name :: rest) l
  | follow {links : Nat} {here l : Location} {rest : List Step} {name : String} {target : Path}
      (hdir : t.isDirectory here = true) (hlimit : ¬ nameLimit < name.utf8ByteSize)
      (hnode : t.node? (here ++ [name]) = some (.link target))
      (h : Leads t links (start here target) (target.steps ++ rest) l) :
      Leads t (links + 1) here (.down name :: rest) l

theorem leads_of_walk (h : t.walk links here steps = .ok l) : t.Leads links here steps l := by
  fun_induction walk t links here steps with
  | case1 links here =>
    cases h
    exact .done links _
  | case3 links here rest hdir ih => exact .stay (by simpa using hdir) (ih h)
  | case4 links here rest hdir ih => exact .up (by simpa using hdir) (ih h)
  | case8 here rest hdir name hlimit target hnode links ih =>
    exact .follow (by simpa using hdir) hlimit hnode (ih h)
  | case9 links here rest hdir name hlimit node hlink hnode ih =>
    exact .down (by simpa using hdir) hlimit hnode hlink (ih h)
  | _ => cases h

theorem Leads.walk_eq_ok (h : t.Leads links here steps l) : t.walk links here steps = .ok l := by
  induction h with
  | done links l => rw [walk]
  | stay hdir _ ih =>
    rw [walk, hdir]
    exact ih
  | up hdir _ ih =>
    rw [walk, hdir]
    exact ih
  | down hdir hlimit hnode hlink _ ih =>
    rw [walk, hdir]
    simp only [Bool.not_true, Bool.false_eq_true, if_false, if_neg hlimit]
    split
    · next heq =>
      rw [hnode] at heq
      cases heq
    · next target heq =>
      rw [hnode] at heq
      exact absurd (Option.some.inj heq) (hlink target)
    · exact ih
  | follow hdir hlimit hnode _ ih =>
    rw [walk, hdir]
    simp only [Bool.not_true, Bool.false_eq_true, if_false, if_neg hlimit, hnode]
    exact ih

theorem walk_eq_ok_iff : t.walk links here steps = .ok l ↔ t.Leads links here steps l :=
  ⟨leads_of_walk, Leads.walk_eq_ok⟩

/-- A walk that succeeds in a part of a tree succeeds in the tree. -/
theorem Leads.mono (hpart : t.IsPart t') (h : t.Leads links here steps l) :
    t'.Leads links here steps l := by
  induction h with
  | done links l => exact .done links l
  | stay hdir _ ih => exact .stay (hpart.isDirectory hdir) ih
  | up hdir _ ih => exact .up (hpart.isDirectory hdir) ih
  | down hdir hlimit hnode hlink _ ih =>
    exact .down (hpart.isDirectory hdir) hlimit (hpart _ _ hnode) hlink ih
  | follow hdir hlimit hnode _ ih =>
    exact .follow (hpart.isDirectory hdir) hlimit (hpart _ _ hnode) ih

/-- If a walk succeeds in two trees, it succeeds in what they have in common, provided that neither
    has anything in the place of something else of the other. -/
theorem Leads.common {t'' : FileTree} {l' : Location} (hpart : t''.IsPart t) (hpart' : t''.IsPart t')
    (hnone : ∀ k, t''.node? k = none → t.node? k = none ∨ t'.node? k = none)
    (h : t.Leads links here steps l) (h' : t'.Leads links here steps l') :
    t''.Leads links here steps l := by
  have hcommon : ∀ {k n n'}, t.node? k = some n → t'.node? k = some n' →
      t''.node? k = some n ∧ n = n' := by
    intro k n n' hn hn'
    cases hk : t''.node? k with
    | none => rcases hnone k hk with h | h <;> simp [h] at hn hn'
    | some n'' =>
      have h1 := hpart k n'' hk
      have h2 := hpart' k n'' hk
      rw [hn] at h1
      rw [hn'] at h2
      cases h1
      cases h2
      exact ⟨rfl, rfl⟩
  have hdirectory : ∀ {k}, t.isDirectory k = true → t'.isDirectory k = true →
      t''.isDirectory k = true := fun hk hk' =>
    isDirectory_iff.2 (hcommon (isDirectory_iff.1 hk) (isDirectory_iff.1 hk')).1
  -- what both walks come to is in the common tree, so both take the same step there
  induction h generalizing l' with
  | done links l => exact .done links l
  | stay hdir _ ih =>
    cases h' with
    | stay hdir' h' => exact .stay (hdirectory hdir hdir') (ih h')
  | up hdir _ ih =>
    cases h' with
    | up hdir' h' => exact .up (hdirectory hdir hdir') (ih h')
  | down hdir hlimit hnode hlink _ ih =>
    cases h' with
    | down hdir' _ hnode' _ h' =>
      exact .down (hdirectory hdir hdir') hlimit (hcommon hnode hnode').1 hlink (ih h')
    | follow _ _ hnode' _ => exact absurd (hcommon hnode hnode').2 (hlink _)
  | follow hdir hlimit hnode _ ih =>
    cases h' with
    | down _ _ hnode' hlink' _ => exact absurd (hcommon hnode hnode').2.symm (hlink' _)
    | follow hdir' _ hnode' h' =>
      obtain ⟨hnode'', heq⟩ := hcommon hnode hnode'
      cases heq
      exact .follow (hdirectory hdir hdir') hlimit hnode'' (ih h')

theorem Leads.append (h : t.Leads links here xs m) (hys : ∀ links', t.Leads links' m ys l) :
    t.Leads links here (xs ++ ys) l := by
  induction h with
  | done links m => exact hys links
  | stay hdir _ ih => exact .stay hdir (ih hys)
  | up hdir _ ih => exact .up hdir (ih hys)
  | down hdir hlimit hnode hlink _ ih => exact .down hdir hlimit hnode hlink (ih hys)
  | follow hdir hlimit hnode _ ih =>
    refine .follow hdir hlimit hnode ?_
    have h := ih hys
    rwa [List.append_assoc] at h

/-- A walk to some steps after others leads to the others first. -/
theorem Leads.exists_of_append (h : t.Leads links here (xs ++ ys) l) :
    ∃ m links', t.Leads links here xs m ∧ t.Leads links' m ys l := by
  generalize hsteps : xs ++ ys = steps at h
  induction h generalizing xs with
  | done links l =>
    obtain ⟨rfl, rfl⟩ := List.append_eq_nil_iff.1 hsteps
    exact ⟨l, links, .done links l, .done links l⟩
  | stay hdir h ih =>
    rcases List.append_eq_cons_iff.1 hsteps with ⟨rfl, rfl⟩ | ⟨xs, rfl, rfl⟩
    · exact ⟨_, _, .done _ _, .stay hdir h⟩
    · obtain ⟨m, links', hxs, hys⟩ := ih rfl
      exact ⟨m, links', .stay hdir hxs, hys⟩
  | up hdir h ih =>
    rcases List.append_eq_cons_iff.1 hsteps with ⟨rfl, rfl⟩ | ⟨xs, rfl, rfl⟩
    · exact ⟨_, _, .done _ _, .up hdir h⟩
    · obtain ⟨m, links', hxs, hys⟩ := ih rfl
      exact ⟨m, links', .up hdir hxs, hys⟩
  | down hdir hlimit hnode hlink h ih =>
    rcases List.append_eq_cons_iff.1 hsteps with ⟨rfl, rfl⟩ | ⟨xs, rfl, rfl⟩
    · exact ⟨_, _, .done _ _, .down hdir hlimit hnode hlink h⟩
    · obtain ⟨m, links', hxs, hys⟩ := ih rfl
      exact ⟨m, links', .down hdir hlimit hnode hlink hxs, hys⟩
  | follow hdir hlimit hnode h ih =>
    rcases List.append_eq_cons_iff.1 hsteps with ⟨rfl, rfl⟩ | ⟨xs, rfl, rfl⟩
    · exact ⟨_, _, .done _ _, .follow hdir hlimit hnode h⟩
    · obtain ⟨m, links', hxs, hys⟩ := ih (List.append_assoc _ _ _)
      exact ⟨m, links', .follow hdir hlimit hnode hxs, hys⟩

theorem leads_stays (hdir : t.isDirectory m = true) (hys : ∀ s ∈ ys, s = .stay) (links : Nat) :
    t.Leads links m ys m := by
  induction ys with
  | nil => exact .done links m
  | cons s rest ih =>
    rw [hys s List.mem_cons_self]
    exact .stay hdir (ih fun s hs => hys s (List.mem_cons_of_mem _ hs))

theorem Leads.eq_of_stays (hys : ∀ s ∈ ys, s = .stay) (h : t.Leads links m ys l) : l = m := by
  induction ys generalizing links with
  | nil =>
    cases h
    rfl
  | cons s rest ih =>
    rw [hys s List.mem_cons_self] at h
    cases h with
    | stay _ h => exact ih (fun s hs => hys s (List.mem_cons_of_mem _ hs)) h

/-- Steps that stay do not change where a walk leads. -/
theorem leads_append_stays_iff {stays stays' : List Step} (hdir : t.isDirectory m = true)
    (hstays : ∀ s ∈ stays, s = .stay) (hstays' : ∀ s ∈ stays', s = .stay) :
    t.Leads links here (xs ++ stays) m ↔ t.Leads links here (xs ++ stays') m := by
  constructor
  · intro h
    obtain ⟨m', links', hxs, hm⟩ := h.exists_of_append
    obtain rfl := hm.eq_of_stays hstays
    exact hxs.append fun links' => leads_stays hdir hstays' links'
  · intro h
    obtain ⟨m', links', hxs, hm⟩ := h.exists_of_append
    obtain rfl := hm.eq_of_stays hstays'
    exact hxs.append fun links' => leads_stays hdir hstays links'

/-- The names of a location lead to it if no link is there. -/
theorem leads_names (h : t.IsGrounded) (hlimit : ∀ name ∈ l, ¬ nameLimit < name.utf8ByteSize)
    {n : Node} (hl : t.node? l = some n) (hlink : ∀ target, n ≠ .link target) :
    t.Leads links [] (l.map .down) l := by
  induction l using List.reverseRecOn generalizing n with
  | nil => exact .done links []
  | append_singleton parent name ih =>
    have hparent : t.node? parent = some .directory := h parent name (by simp [hl])
    have hbefore := ih (fun x hx => hlimit x (List.mem_append_left _ hx)) hparent
      fun _ => Node.noConfusion
    rw [List.map_append]
    exact hbefore.append fun links' => .down (isDirectory_iff.2 hparent)
      (hlimit name (by simp)) hl hlink (.done links' _)

/-- So does its path. -/
theorem leads_path (h : t.IsGrounded) (hplain : l.IsPlain)
    (hlimit : ∀ name ∈ l, ¬ nameLimit < name.utf8ByteSize) {n : Node} (hl : t.node? l = some n)
    (hlink : ∀ target, n ≠ .link target) : t.Leads links [] l.path.steps l := by
  by_cases hempty : l = []
  · subst hempty
    have hsteps : (Location.path []).steps = [.stay] := by decide
    rw [hsteps]
    exact .stay (isDirectory_iff.2 rfl) (.done links [])
  · rw [Path.steps_path hempty hplain]
    exact leads_names h hlimit hl hlink

/-- Whether there are no links in a tree. -/
def HasNoLinks (t : FileTree) : Prop := ∀ l target, t.node? l ≠ some (.link target)

theorem hasNoLinks_of_nodes (h : ∀ e ∈ t.nodes, ∀ target, e.2 ≠ .link target) : t.HasNoLinks := by
  intro l target hl
  by_cases hempty : l = []
  · rw [hempty] at hl
    cases hl
  · exact h _ (mem_nodes_of_node? hempty hl) target rfl

/-- Without links, names lead down and only to what is there. -/
theorem Leads.of_names (hlinks : t.HasNoLinks) {names : List String}
    (h : t.Leads links here (names.map .down) l) :
    l = here ++ names ∧ (names ≠ [] → t.node? l ≠ none) := by
  induction names generalizing here with
  | nil =>
    cases h
    exact ⟨(List.append_nil _).symm, fun hne => absurd rfl hne⟩
  | cons name rest ih =>
    cases h with
    | down hdir hlimit hnode hlink h =>
      obtain ⟨rfl, hrest⟩ := ih h
      refine ⟨by simp, fun _ => ?_⟩
      cases rest with
      | nil => simp [hnode]
      | cons second others => exact hrest (List.cons_ne_nil _ _)
    | follow hdir hlimit hnode _ => exact absurd hnode (hlinks _ _)

/-! ## Homes -/

/-- The directory at a path, if it is there. -/
def directory? (t : FileTree) (here : Location) (p : Path) : Option Location :=
  (t.walk linkLimit (start here p) p.steps).toOption.filter t.isDirectory

theorem directory?_eq_some_iff {p : Path} :
    t.directory? here p = some m ↔
      t.Leads linkLimit (start here p) p.steps m ∧ t.isDirectory m = true := by
  unfold directory?
  rw [Option.filter_eq_some_iff, ← walk_eq_ok_iff]
  refine and_congr_left fun _ => ?_
  cases t.walk linkLimit (start here p) p.steps with
  | error e => simp [Except.toOption]
  | ok l => simp [Except.toOption]

/-- The directory that a path lies in, if it is there. -/
def home? (t : FileTree) (here : Location) (p : Path) : Option Location :=
  p.parent?.bind (t.directory? here)

theorem home?_eq_some_iff {p : Path} :
    t.home? here p = some m ↔ ∃ parent, p.parent? = some parent ∧
      t.Leads linkLimit (start here parent) parent.steps m ∧ t.isDirectory m = true := by
  unfold home?
  simp only [Option.bind_eq_some_iff, directory?_eq_some_iff]

theorem home?_congr {p q : Path} (h : p.parent? = q.parent?) : t.home? here p = t.home? here q := by
  unfold home?
  rw [h]

/-- What has a home in a part of a tree has it in the tree. -/
theorem IsPart.home? {p : Path} (hpart : t.IsPart t') (h : t.home? here p = some m) :
    t'.home? here p = some m := by
  obtain ⟨parent, hparent, hleads, hdir⟩ := home?_eq_some_iff.1 h
  exact home?_eq_some_iff.2 ⟨parent, hparent, hleads.mono hpart, hpart.isDirectory hdir⟩

theorem isDirectory_of_home? {p : Path} (h : t.home? here p = some m) : t.isDirectory m = true := by
  obtain ⟨-, -, -, hdir⟩ := home?_eq_some_iff.1 h
  exact hdir

/-- The steps before the last name of a path lead to its home. -/
theorem leads_iff_home? {p : Path} {before : List Step} (hp : p.namedSteps? = some (before, name)) :
    t.Leads linkLimit (start here p) before m ∧ t.isDirectory m = true ↔
      t.home? here p = some m := by
  obtain ⟨-, parent, hparent, habsolute, core, stays, stays', hstays, hstays', rfl, hsteps⟩ :=
    Path.exists_parent_of_namedSteps? hp
  have hstart : start here parent = start here p := by
    unfold start
    rw [habsolute]
  rw [home?_eq_some_iff]
  constructor
  · rintro ⟨hleads, hdir⟩
    refine ⟨parent, hparent, ?_, hdir⟩
    rw [hstart, hsteps]
    exact (leads_append_stays_iff hdir hstays hstays').1 hleads
  · rintro ⟨q, hq, hleads, hdir⟩
    obtain rfl : parent = q := Option.some.inj (hparent.symm.trans hq)
    rw [hstart, hsteps] at hleads
    exact ⟨(leads_append_stays_iff hdir hstays hstays').2 hleads, hdir⟩

theorem home?_ofReversed_cons {relative : Bool} {segment : List Char} {before : List (List Char)}
    (h : Path.IsTrimmed relative (segment :: before)) :
    t.home? here (.ofReversed relative (segment :: before)) =
      t.directory? here (.ofReversed relative (Path.dropUncounted relative before)) := by
  unfold home?
  rw [Path.parent?_ofReversed_cons h]
  rfl

/-- Whatever a path leads to, something stands in its home, be it a link. -/
theorem exists_home?_of_leads {p : Path} {before : List Step}
    (hp : p.namedSteps? = some (before, name)) (hsteps : p.steps = before ++ [.down name])
    (h : t.Leads linkLimit (start here p) p.steps l) :
    ¬ nameLimit < name.utf8ByteSize ∧
      ∃ m, t.home? here p = some m ∧ t.node? (m ++ [name]) ≠ none := by
  rw [hsteps] at h
  obtain ⟨m, links, hbefore, hdown⟩ := h.exists_of_append
  cases hdown with
  | down hdir hlimit hnode _ _ =>
    refine ⟨hlimit, m, (leads_iff_home? hp).1 ⟨hbefore, hdir⟩, ?_⟩
    rw [hnode]
    exact Option.some_ne_none _
  | follow hdir hlimit hnode _ =>
    refine ⟨hlimit, m, (leads_iff_home? hp).1 ⟨hbefore, hdir⟩, ?_⟩
    rw [hnode]
    exact Option.some_ne_none _

theorem Leads.unique {l' : Location} (h : t.Leads links here steps l)
    (h' : t.Leads links here steps l') : l = l' :=
  Except.ok.inj (h.walk_eq_ok.symm.trans h'.walk_eq_ok)

/-- A directory that stands in the home of a path is the one at the path. -/
theorem eq_of_directory? {p : Path} {before : List Step} (hp : p.namedSteps? = some (before, name))
    (hsteps : p.steps = before ++ [.down name]) (hhome : t.home? here p = some m)
    (hnode : t.node? (m ++ [name]) = some .directory) (h : t.directory? here p = some l) :
    l = m ++ [name] := by
  obtain ⟨hleads, -⟩ := directory?_eq_some_iff.1 h
  rw [hsteps] at hleads
  obtain ⟨m', links, hbefore, hdown⟩ := hleads.exists_of_append
  obtain rfl := hbefore.unique ((leads_iff_home? hp).2 hhome).1
  cases hdown with
  | down _ _ _ _ h =>
    cases h
    rfl
  | follow _ _ hlink _ =>
    rw [hnode] at hlink
    cases hlink

theorem place_eq_ok_iff {p : Path} {unnamed : FileFailure} :
    t.place here p unnamed = .ok (m, name) ↔ ∃ before, p.namedSteps? = some (before, name) ∧
      t.home? here p = some m ∧ ¬ nameLimit < name.utf8ByteSize := by
  unfold place
  cases hp : p.namedSteps? with
  | none =>
    constructor
    · intro h
      obtain ⟨-, -, h⟩ := Result.bind_eq_ok_iff.1 h
      cases h
    · rintro ⟨before, h, -⟩
      cases h
  | some named =>
    obtain ⟨before, name'⟩ := named
    rw [Result.bind_eq_ok_iff]
    simp only [Result.guard_eq_ok_iff, Bool.not_eq_true', Bool.not_eq_false]
    constructor
    · rintro ⟨m', hwalk, hdir, hlimit, h⟩
      cases h
      exact ⟨before, rfl, (leads_iff_home? hp).1 ⟨leads_of_walk hwalk, hdir⟩, hlimit⟩
    · rintro ⟨_, heq, hhome, hlimit⟩
      cases heq
      obtain ⟨hleads, hdir⟩ := (leads_iff_home? hp).2 hhome
      exact ⟨m, hleads.walk_eq_ok, hdir, hlimit, rfl⟩

/-! ## Changing operations -/

theorem makeDirectory_eq_ok_iff {p : Path} :
    t.makeDirectory here p = .ok t' ↔ ∃ m name, t.place here p .alreadyThere = .ok (m, name) ∧
      t.node? (m ++ [name]) = none ∧ t' = t.put (m ++ [name]) .directory := by
  unfold makeDirectory
  rw [Result.bind_eq_ok_iff]
  constructor
  · rintro ⟨⟨m, name⟩, hplace, h⟩
    refine ⟨m, name, hplace, ?_⟩
    cases hnode : t.node? (m ++ [name]) with
    | some n =>
      simp only [hnode] at h
      cases h
    | none =>
      simp only [hnode] at h
      cases h
      exact ⟨rfl, rfl⟩
  · rintro ⟨m, name, hplace, hnode, rfl⟩
    refine ⟨(m, name), hplace, ?_⟩
    simp only [hnode]
    rfl

theorem removeAt_eq_ok_iff {p : Path} :
    t.removeAt here p = .ok t' ↔ ∃ m name n, t.place here p .busy = .ok (m, name) ∧
      t.node? (m ++ [name]) = some n ∧ (∀ content, n ≠ .file content) ∧
      t' = t.remove (m ++ [name]) := by
  unfold removeAt
  rw [Result.bind_eq_ok_iff]
  constructor
  · rintro ⟨⟨m, name⟩, hplace, h⟩
    simp only at h
    split at h
    · cases h
    · cases h
    · next n hfile hnode =>
      cases h
      exact ⟨m, name, n, hplace, hnode, hfile, rfl⟩
  · rintro ⟨m, name, n, hplace, hnode, hfile, rfl⟩
    refine ⟨(m, name), hplace, ?_⟩
    simp only [hnode]
    cases n with
    | directory => rfl
    | file content => exact absurd rfl (hfile content)
    | link target => rfl

/-- A file is written in its place, unless a link stands there. -/
theorem exists_place_of_writingPlace {p : Path} (h : t.writingPlace links here p = .ok l) :
    ∃ m name, t.place here p .isDirectory = .ok (m, name) ∧
      ((∀ target, t.node? (m ++ [name]) ≠ some (.link target)) → l = m ++ [name]) := by
  unfold writingPlace at h
  obtain ⟨⟨m, name⟩, hplace, h⟩ := Result.bind_eq_ok_iff.1 h
  refine ⟨m, name, hplace, fun hlink => ?_⟩
  obtain ⟨-, h⟩ := Result.guard_eq_ok_iff.1 h
  cases hnode : t.node? (m ++ [name]) with
  | none =>
    simp only [hnode] at h
    cases h
    rfl
  | some n =>
    cases n with
    | directory =>
      simp only [hnode] at h
      cases h
    | file content =>
      simp only [hnode] at h
      cases h
      rfl
    | link target => exact absurd hnode (hlink target)

/-- A file is written to a free place. -/
theorem write_of_free {p : Path} (content : ByteArray)
    (hplace : t.place here p .isDirectory = .ok (m, name)) (hslash : p.endsWithSlash = false)
    (hfree : t.node? (m ++ [name]) = none) :
    t.write here p content = .ok (t.put (m ++ [name]) (.file content)) := by
  have hwriting : t.writingPlace linkLimit here p = .ok (m ++ [name]) := by
    unfold writingPlace
    rw [hplace]
    refine Result.guard_eq_ok_iff.2 ⟨Bool.eq_false_iff.1 hslash, ?_⟩
    rw [hfree]
    rfl
  unfold write
  rw [hwriting]
  rfl

theorem rename_eq_ok_iff {source target : Path} :
    t.rename here source target = .ok t' ↔ ∃ m a m' b n,
      t.place here source .busy = .ok (m, a) ∧ t.place here target .busy = .ok (m', b) ∧
      t.node? (m ++ [a]) = some n ∧
      (n ≠ .directory → source.endsWithSlash = false ∧ target.endsWithSlash = false) ∧
      ¬ m ++ [a] <+: m' ∧ ¬ m' ++ [b] <+: m ∧
      (m ++ [a] = m' ++ [b] ∧ t' = t ∨
        m ++ [a] ≠ m' ++ [b] ∧ t.replacementFailure? n (m' ++ [b]) = none ∧
          t' = t.move (m ++ [a]) (m' ++ [b])) := by
  have hbelow_iff : ∀ l k : Location, k.isBelow l = true ↔ l <+: k :=
    fun l k => List.isPrefixOf_iff_prefix
  have hslash_iff : ∀ n : Node,
      ¬ (n ≠ .directory && (source.endsWithSlash || target.endsWithSlash)) = true ↔
        (n ≠ .directory → source.endsWithSlash = false ∧ target.endsWithSlash = false) := by
    intro n
    cases source.endsWithSlash <;> cases target.endsWithSlash <;> simp
  unfold rename
  rw [Result.bind_eq_ok_iff]
  constructor
  · rintro ⟨⟨m, a⟩, hsource, h⟩
    obtain ⟨⟨m', b⟩, htarget, h⟩ := Result.bind_eq_ok_iff.1 h
    cases hnode : t.node? (m ++ [a]) with
    | none =>
      simp only [hnode] at h
      cases h
    | some n =>
      simp only [hnode, Result.guard_eq_ok_iff, hslash_iff, hbelow_iff] at h
      obtain ⟨hslash, hbelow, habove, h⟩ := h
      refine ⟨m, a, m', b, n, hsource, htarget, hnode, hslash, hbelow, habove, ?_⟩
      by_cases heq : m ++ [a] = m' ++ [b]
      · rw [if_pos heq] at h
        cases h
        exact .inl ⟨heq, rfl⟩
      · rw [if_neg heq] at h
        split at h
        · cases h
        · next hfailure =>
          cases h
          exact .inr ⟨heq, hfailure, rfl⟩
  · rintro ⟨m, a, m', b, n, hsource, htarget, hnode, hslash, hbelow, habove, h⟩
    refine ⟨(m, a), hsource, Result.bind_eq_ok_iff.2 ⟨(m', b), htarget, ?_⟩⟩
    simp only [hnode, Result.guard_eq_ok_iff, hslash_iff, hbelow_iff]
    refine ⟨hslash, hbelow, habove, ?_⟩
    rcases h with ⟨heq, rfl⟩ | ⟨hne, hfailure, rfl⟩
    · rw [if_pos heq]
      rfl
    · rw [if_neg hne, hfailure]
      rfl

end FileTree

end Bundler
