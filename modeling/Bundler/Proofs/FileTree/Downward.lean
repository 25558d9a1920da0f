import Bundler.Proofs.Disk
import Bundler.Proofs.Path.Ancestors
import Bundler.Proofs.Path.Join

set_option autoImplicit false

/-! # Walks that do not go up

Without links and without steps up, a walk leads to where it starts with the names of its steps
added (`Leads.eq_append_names`), and it reads nothing but what stands on the way. So it leads to the
same place in every tree that has the same there (`Leads.congr`).

A path that ends at a file cannot end with `..`, so that a path with `..` nowhere but at its end
leads down if it leads to a file (`Disk.exists_below_of_isFile`). -/

namespace Bundler

/-- The names that steps go down to. -/
def Step.names : List Step → Location
  | [] => []
  | .down name :: rest => name :: names rest
  | _ :: rest => names rest

theorem Step.names_append (xs ys : List Step) : names (xs ++ ys) = names xs ++ names ys := by
  induction xs with
  | nil => rfl
  | cons s rest ih => cases s <;> simp [names, ih]

namespace FileTree

variable {t t' : FileTree} {links : Nat} {here l k : Location} {steps xs : List Step} {s : Step}

/-! ## Walks -/

theorem Leads.eq_append_names (hlinks : t.HasNoLinks) (h : t.Leads links here steps l)
    (hup : .up ∉ steps) : l = here ++ Step.names steps := by
  induction h with
  | done links l => simp [Step.names]
  | stay hdir _ ih => simpa [Step.names] using ih fun h => hup (List.mem_cons_of_mem _ h)
  | up hdir _ ih => exact absurd List.mem_cons_self hup
  | down hdir hlimit hnode hlink _ ih =>
    simpa [Step.names] using ih fun h => hup (List.mem_cons_of_mem _ h)
  | follow hdir hlimit hnode _ ih => exact absurd hnode (hlinks _ _)

/-- Such a walk reads what stands on the way only. -/
theorem Leads.congr (hlinks : t.HasNoLinks) (h : t.Leads links here steps l) (hup : .up ∉ steps)
    (hsame : ∀ k, k <+: l → t'.node? k = t.node? k) : t'.Leads links here steps l := by
  induction h with
  | done links l => exact .done links l
  | @stay links here l rest hdir h ih =>
    have hup : .up ∉ rest := fun h => hup (List.mem_cons_of_mem _ h)
    have hhere : here <+: l := ⟨_, (h.eq_append_names hlinks hup).symm⟩
    refine .stay (isDirectory_iff.2 ?_) (ih hup hsame)
    rw [hsame here hhere, isDirectory_iff.1 hdir]
  | up hdir _ ih => exact absurd List.mem_cons_self hup
  | @down links here l rest name n hdir hlimit hnode hlink h ih =>
    have hup : .up ∉ rest := fun h => hup (List.mem_cons_of_mem _ h)
    have hnext : here ++ [name] <+: l := ⟨_, (h.eq_append_names hlinks hup).symm⟩
    have hhere : here <+: l := (List.prefix_append here [name]).trans hnext
    refine .down (isDirectory_iff.2 ?_) hlimit ?_ hlink (ih hup hsame)
    · rw [hsame here hhere, isDirectory_iff.1 hdir]
    · rw [hsame _ hnext, hnode]
  | follow hdir hlimit hnode _ ih => exact absurd hnode (hlinks _ _)

/-- Above what stands in a tree there are directories. -/
theorem IsGrounded.isDirectory_above (h : t.IsGrounded) (hl : t.node? l ≠ none) (hk : k <+: l)
    (hne : k ≠ l) : t.node? k = some .directory := by
  obtain ⟨below, rfl⟩ := hk
  by_contra hnot
  exact hl (h.node?_append hnot fun hempty => hne (by rw [hempty, List.append_nil]))

/-- Where two trees have the same, they have the same above it. -/
theorem IsGrounded.node?_eq_above (h : t.IsGrounded) (h' : t'.IsGrounded)
    (hsame : t'.node? l = t.node? l) (hl : t.node? l ≠ none) (hk : k <+: l) :
    t'.node? k = t.node? k := by
  by_cases hne : k = l
  · rw [hne, hsame]
  · rw [h.isDirectory_above hl hk hne, h'.isDirectory_above (hsame ▸ hl) hk hne]

/-- The last step of a walk to a file goes down. -/
theorem Leads.exists_down_of_file (hgrounded : t.IsGrounded) (h : t.Leads links here (xs ++ [s]) l)
    {content : ByteArray} (hfile : t.node? l = some (.file content)) : ∃ name, s = .down name := by
  obtain ⟨m, links', -, hlast⟩ := h.exists_of_append
  cases s with
  | down name => exact ⟨name, rfl⟩
  | stay =>
    cases hlast with
    | stay hdir hdone =>
      cases hdone
      rw [isDirectory_iff.1 hdir] at hfile
      cases hfile
  | up =>
    cases hlast with
    | up hdir hdone =>
      cases hdone
      have habove : t.node? m.dropLast = some .directory := by
        by_cases hm : m.dropLast = m
        · rw [hm, isDirectory_iff.1 hdir]
        · refine hgrounded.isDirectory_above ?_ (List.dropLast_prefix m) hm
          rw [isDirectory_iff.1 hdir]
          exact Option.some_ne_none _
      rw [habove] at hfile
      cases hfile

end FileTree

/-! ## The steps of joined paths -/

namespace Path

variable {p q : Path} {segments : List (List Char)}

theorem up_mem_iff : .up ∈ segments.filterMap stepOf? ↔ ['.', '.'] ∈ segments := by
  refine ⟨fun h => ?_, fun h => List.mem_filterMap.2 ⟨_, h, rfl⟩⟩
  obtain ⟨segment, hsegment, hup⟩ := List.mem_filterMap.1 h
  obtain rfl : segment = ['.', '.'] := by
    unfold stepOf? at hup
    grind
  exact hsegment

theorem parent_mem_iff : .parent ∈ segments.filterMap innerComponent ↔ ['.', '.'] ∈ segments := by
  refine ⟨fun h => ?_, fun h => List.mem_filterMap.2 ⟨_, h, rfl⟩⟩
  obtain ⟨segment, hsegment, hparent⟩ := List.mem_filterMap.1 h
  obtain rfl : segment = ['.', '.'] := by
    unfold innerComponent at hparent
    grind
  exact hsegment

/-- Segments that do not go up go down to the names of their components. -/
theorem map_name_names (h : .parent ∉ segments.filterMap innerComponent) :
    (Step.names (segments.filterMap stepOf?)).map .name = segments.filterMap innerComponent := by
  induction segments with
  | nil => rfl
  | cons segment rest ih =>
    by_cases hempty : segment = []
    · subst hempty
      exact ih h
    · by_cases hdot : segment = ['.']
      · subst hdot
        exact ih h
      · by_cases hdots : segment = ['.', '.']
        · subst hdots
          exact absurd List.mem_cons_self h
        · have hstep : stepOf? segment = some (.down (.ofList segment)) := by
            simp [stepOf?, hempty, hdot, hdots]
          have hinner : innerComponent segment = some (.name (.ofList segment)) := by
            simp [innerComponent, hempty, hdot, hdots]
          rw [List.filterMap_cons_some hinner] at h ⊢
          rw [List.filterMap_cons_some hstep, Step.names, List.map_cons,
            ih fun hrest => h (List.mem_cons_of_mem _ hrest)]

/-- The last segment of a path asks for its last step, which stays if the segment is empty. -/
theorem exists_last_step (h : p.text.toList ≠ []) :
    ∃ before last, splitSlash p.text.toList = before ++ [last] ∧
      p.steps = before.filterMap stepOf? ++ [(stepOf? last).getD .stay] := by
  unfold steps endsWithSlash
  rw [filterMap_segments rfl]
  rcases List.eq_nil_or_concat p.text.toList with hnil | ⟨text, c, htext⟩
  · exact absurd hnil h
  rw [htext, List.concat_eq_append, List.getLast?_concat]
  by_cases hc : c = '/'
  · subst hc
    refine ⟨splitSlash text, [], splitSlash_append_slash text [], ?_⟩
    rw [splitSlash_append_slash, List.filterMap_append]
    simp [splitSlash, stepOf?]
  · have hslash : '/' ∉ [c] := by simpa using fun h : '/' = c => hc h.symm
    obtain ⟨before, last, -, hsplit⟩ := splitSlash_append_of_noSlash text hslash
    refine ⟨before, last ++ [c], hsplit, ?_⟩
    obtain ⟨step, hstep⟩ : ∃ step, stepOf? (last ++ [c]) = some step := by
      unfold stepOf?
      rw [if_neg (by simp)]
      split
      · exact ⟨_, rfl⟩
      · split <;> exact ⟨_, rfl⟩
    rw [hsplit, List.filterMap_append]
    simp [hstep, hc]

/-- The steps of a joined path are those of the first path, without what its end asks for, and then
    those of the second one. -/
theorem exists_steps_join (hp : p.isAbsolute = true) (hq : q.isAbsolute = false) :
    ∃ before last, splitSlash q.text.toList = before ++ [last] ∧
      (p.join q).steps = p.segments.filterMap stepOf? ++ before.filterMap stepOf? ++
        [(stepOf? last).getD .stay] := by
  obtain ⟨text, htext, hsegments⟩ := exists_text_join (f := stepOf?) rfl hp hq
  obtain ⟨before', last, hsplit, hsteps⟩ := exists_last_step (p := p.join q) (by simp [htext])
  rcases List.eq_nil_or_concat (splitSlash q.text.toList) with hnil | ⟨before, last', hq⟩
  · exact absurd hnil (splitSlash_ne_nil _)
  rw [htext, splitSlash_append_slash, hq, List.concat_eq_append, ← List.append_assoc] at hsplit
  obtain ⟨rfl, hlast⟩ := List.append_inj' hsplit rfl
  obtain rfl := List.singleton_inj.1 hlast
  refine ⟨before, last', by rw [hq, List.concat_eq_append], ?_⟩
  rw [hsteps, List.filterMap_append, hsegments]

theorem Descends.exists_steps (hp : p.isAbsolute = true) (hq : q.Descends) :
    ∃ (before : List Step) (last : Step), .up ∉ before ∧
      (p.join q).steps = p.segments.filterMap stepOf? ++ before ++ [last] := by
  obtain ⟨before, last, hsplit, hsteps⟩ := exists_steps_join hp hq.relative
  refine ⟨_, _, fun hup => ?_, hsteps⟩
  have hnoUp := hq.noUp
  rw [hsplit, List.dropLast_concat] at hnoUp
  exact hnoUp (up_mem_iff.1 hup)

end Path

/-! ## Files below a path -/

namespace Disk

variable {d d' : Disk} {p base q : Path} {l : Location}

theorem leads_of_locate (hp : p.isAbsolute = true) (h : d.locate p = .ok l) :
    d.tree.Leads FileTree.linkLimit [] p.steps l := by
  have hleads := (locate_eq_ok_iff.1 h).2
  rwa [FileTree.start, if_pos hp] at hleads

/-- If a path that goes down leads to a file, it leads to one below the path that it is joined to,
    and no step on the way goes up. -/
theorem exists_below_of_isFile (hgrounded : d.tree.IsGrounded) (hlinks : d.tree.HasNoLinks)
    (hbase : base.isAbsolute = true) (hnames : .parent ∉ base.components) (hq : q.Descends)
    (hfile : d.isFile (base.join q) = true) :
    ∃ l content, d.locate (base.join q) = .ok l ∧ d.tree.node? l = some (.file content) ∧
      l.IsPlain ∧ l.path.IsDeeper base ∧ .up ∉ (base.join q).steps := by
  obtain ⟨l, content, hlocate, hnode⟩ := exists_file_of_isFile hfile
  have habsolute : (base.join q).isAbsolute = true := by
    rw [Path.isAbsolute_join hq.relative, hbase]
  have hleads := leads_of_locate habsolute hlocate
  obtain ⟨before, last, hbefore, hsteps⟩ := hq.exists_steps hbase
  have hinner : .parent ∉ base.segments.filterMap Path.innerComponent :=
    fun h => hnames (Path.mem_components_of_mem_segments h)
  rw [hsteps] at hleads
  obtain ⟨name, rfl⟩ := hleads.exists_down_of_file hgrounded hnode
  have hup : .up ∉ base.segments.filterMap Path.stepOf? ++ before ++ [.down name] := by
    simp only [List.mem_append, List.mem_singleton, reduceCtorEq, or_false, not_or]
    exact ⟨fun h => hinner (Path.parent_mem_iff.2 (Path.up_mem_iff.1 h)), hbefore⟩
  -- without links and without steps up, a walk leads to the names that it goes down
  have hl := hleads.eq_append_names hlinks hup
  have hnil : Location.IsPlain [] := nofun
  have hplain : l.IsPlain := FileTree.walk_isPlain hnil
    (fun name hdown => Path.isPlainName_of_mem_steps hdown)
    (leads_of_locate habsolute hlocate).walk_eq_ok
  have hcomponents : l.path.components = base.components ++
      (Step.names before ++ [name]).map .name := by
    rw [Path.components_path hplain, Path.components_of_isAbsolute hbase, hl, List.nil_append,
      Step.names_append, Step.names_append, List.append_assoc, List.map_append,
      Path.map_name_names hinner]
    rfl
  refine ⟨l, content, hlocate, hnode, hplain, ⟨Path.startsWith_of_components_eq hcomponents, ?_⟩,
    hsteps ▸ hup⟩
  rw [Bool.eq_false_iff, ne_eq, Path.same_iff, hcomponents]
  simp

/-- A path that goes down to something leads to it on every disk that has it. -/
theorem locate_congr (hgrounded : d.tree.IsGrounded) (hgrounded' : d'.tree.IsGrounded)
    (hlinks : d.tree.HasNoLinks) (hp : p.isAbsolute = true) (hup : .up ∉ p.steps)
    (h : d.locate p = .ok l) (hl : d.tree.node? l ≠ none)
    (hsame : d'.tree.node? l = d.tree.node? l) : d'.locate p = .ok l := by
  have hleads := (leads_of_locate hp h).congr hlinks hup
    fun k hk => hgrounded.node?_eq_above hgrounded' hsame hl hk
  refine locate_eq_ok_iff.2 ⟨(locate_eq_ok_iff.1 h).1, ?_⟩
  rw [FileTree.start, if_pos hp]
  exact hleads

end Disk

end Bundler
