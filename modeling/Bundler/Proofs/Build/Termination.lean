import Bundler.Proofs.Build.Closure
import Mathlib.Data.Set.Card

set_option autoImplicit false

/-! # Builds end

`LoadsWaves` is the loop over the waves of a build without a bound on their number: as long as a wave
holds something it is loaded, and the next wave holds what it refers to and no wave held before. Every
file has one canonical path, however many references lead to it, and waves hold canonical paths only.
So each wave takes from a finite supply (`finite_canonicalPaths`), and the loop ends however files refer
to each other (`exists_loadsWaves`).

A build therefore does what the loop does, and loads each path once (`run_graph_ends`). -/

namespace Bundler

/-! ## Canonical paths -/

/-- Whether a location is one of a tree or of a starting point, or lies above one. -/
def FileTree.IsAbove (t : FileTree) (here l : Location) : Prop :=
  ∃ l' ∈ here :: t.nodes.map (·.1), l <+: l'

/-- A walk leads to locations of the tree, and up from them and from where it started. -/
theorem FileTree.isAbove_of_walk {t : FileTree} {origin : Location} {links : Nat} {here l : Location}
    {steps : List Step} (hhere : t.IsAbove origin here) (h : t.walk links here steps = .ok l) :
    t.IsAbove origin l := by
  fun_induction walk t links here steps with
  | case1 links here =>
    cases h
    exact hhere
  | case3 links here rest hdir ih => exact ih hhere h
  | case4 links here rest hdir ih =>
    obtain ⟨l', hl', hprefix⟩ := hhere
    exact ih ⟨l', hl', (List.dropLast_prefix here).trans hprefix⟩ h
  | case8 here rest hdir name hlimit target hnode k ih =>
    refine ih ?_ h
    unfold start
    split
    · exact ⟨origin, List.mem_cons_self, List.nil_prefix⟩
    · exact hhere
  | case9 links here rest hdir name hlimit node hlink hnode ih =>
    have hmem := mem_nodes_of_node? (by simp) hnode
    exact ih ⟨_, List.mem_cons_of_mem _ (List.mem_map_of_mem hmem), List.prefix_rfl⟩ h
  | _ => cases h

/-- The canonical paths of all that can be found on a disk. -/
def Disk.canonicalPaths (d : Disk) : Set Path := { p | ∃ q, d.canonicalize q = .ok p }

theorem Disk.finite_canonicalPaths (d : Disk) : d.canonicalPaths.Finite := by
  let above := (d.current :: d.tree.nodes.map (·.1)).flatMap List.inits
  refine (List.finite_toSet (above.map Location.path)).subset ?_
  rintro p ⟨q, hq⟩
  obtain ⟨l, hl, rfl⟩ := Disk.exists_locate_of_canonicalize hq
  have hstart : d.tree.IsAbove d.current (FileTree.start d.current q) := by
    refine ⟨d.current, List.mem_cons_self, ?_⟩
    unfold FileTree.start
    split
    · exact List.nil_prefix
    · exact List.prefix_rfl
  have habove : d.tree.IsAbove d.current l := by
    unfold Disk.locate at hl
    split at hl
    · cases hl
    · exact FileTree.isAbove_of_walk hstart hl
  obtain ⟨l', hl', hprefix⟩ := habove
  exact List.mem_map_of_mem (List.mem_flatMap.2 ⟨l', hl', (List.mem_inits _ _).2 hprefix⟩)

/-- There are no more different paths in a list than canonical paths. -/
theorem Disk.length_le_ncard {d : Disk} {paths : List Path} (hdistinct : Path.AllDistinct paths)
    (hpaths : ∀ p ∈ paths, p ∈ d.canonicalPaths) : paths.length ≤ d.canonicalPaths.ncard := by
  have hcard : ((paths.toFinset : Finset Path) : Set Path).ncard = paths.length := by
    rw [Set.ncard_coe_finset, List.toFinset_card_of_nodup hdistinct.nodup]
  rw [← hcard]
  refine Set.ncard_le_ncard (fun p hp => ?_) d.finite_canonicalPaths
  exact hpaths p (by simpa using hp)

namespace BuildContext

open Bundler.Path (AllDistinct)

variable {c : BuildContext}

theorem IsResolved.mem_canonicalPaths {p : Path} (h : c.IsResolved p) :
    p ∈ c.disk.canonicalPaths := by
  obtain ⟨importer, reference, h⟩ := h
  obtain ⟨q, -, -, hq, -⟩ := Resolution.exists_file_of_resolve (Result.mapError_eq_ok_iff.1 h)
  exact ⟨q, hq⟩

/-! ## The loop -/

/-- What a wave refers to and is not queued yet. -/
def nextWave (queued : List Path) (loaded : List Loaded) : List Path :=
  freshPaths queued (loaded.flatMap (·.dependencies.map (·.2)))

/-- A run of the loop over the waves, from the paths that are queued, the wave that comes next and
    what the build has left so far: the waves that it loads, its result and what it leaves. -/
inductive LoadsWaves (c : BuildContext) : List Path → List Path → BuildState → List (List Path) →
    Except BuildError (List (List Loaded)) → BuildState → Prop
  | done {queued : List Path} {s : BuildState} : LoadsWaves c queued [] s [] (.ok []) s
  | failed {queued wave : List Path} {s s' : BuildState} {e : BuildError} (hwave : wave ≠ [])
      (hload : (c.loadWave wave).run.run s = (.error e, s')) :
      LoadsWaves c queued wave s [wave] (.error e) s'
  | next {queued wave : List Path} {s s' s'' : BuildState} {loaded : List Loaded}
      {waves : List (List Path)} {result : Except BuildError (List (List Loaded))}
      (hwave : wave ≠ []) (hload : (c.loadWave wave).run.run s = (.ok loaded, s'))
      (hrest : LoadsWaves c (queued ++ nextWave queued loaded) (nextWave queued loaded) s'
        waves result s'') :
      LoadsWaves c queued wave s (wave :: waves) (result.map (loaded :: ·)) s''

/-- What the loop keeps: what was queued before the wave that comes next, and that wave, are
    different canonical paths. -/
structure IsQueued (c : BuildContext) (before wave : List Path) : Prop where
  distinct : AllDistinct (before ++ wave)
  canonical : ∀ p ∈ before ++ wave, p ∈ c.disk.canonicalPaths

variable {queued before wave : List Path} {s s' : BuildState} {waves : List (List Path)}
  {result : Except BuildError (List (List Loaded))}

/-- What comes next is resolved. -/
theorem isResolved_of_mem_nextWave {loaded : List Loaded} (hwave : AllDistinct wave)
    (hload : (c.loadWave wave).run.run s = (.ok loaded, s')) {p : Path}
    (hp : p ∈ nextWave queued loaded) : c.IsResolved p := by
  have hresult := (c.run_loadWave hwave s).1
  rw [hload] at hresult
  exact isResolved_of_mem_wave hresult.symm (mem_of_mem_freshPaths hp).1

theorem IsQueued.distinct_wave (h : c.IsQueued before wave) : AllDistinct wave :=
  (List.pairwise_append.1 h.distinct).2.1

/-- One round of the loop. -/
theorem IsQueued.next (h : c.IsQueued before wave) {loaded : List Loaded}
    (hload : (c.loadWave wave).run.run s = (.ok loaded, s')) :
    c.IsQueued (before ++ wave) (nextWave (before ++ wave) loaded) where
  distinct := allDistinct_append_freshPaths h.distinct _
  canonical := by
    intro p hp
    rcases List.mem_append.1 hp with hp | hp
    · exact h.canonical p hp
    · exact (isResolved_of_mem_nextWave h.distinct_wave hload hp).mem_canonicalPaths

/-- Paths that are queued in two parts are queued as a whole. -/
theorem IsQueued.join {later : List Path} (h : c.IsQueued (before ++ wave) later) :
    c.IsQueued before (wave ++ later) where
  distinct := List.append_assoc before wave later ▸ h.distinct
  canonical := List.append_assoc before wave later ▸ h.canonical

/-- The loop ends. -/
theorem exists_loadsWaves {before wave : List Path} (h : c.IsQueued before wave) (s : BuildState) :
    ∃ waves result s', c.LoadsWaves (before ++ wave) wave s waves result s' := by
  by_cases hwave : wave = []
  · subst hwave
    exact ⟨[], _, s, .done⟩
  cases hload : (c.loadWave wave).run.run s with
  | mk loading s' =>
    cases loading with
    | error e => exact ⟨[wave], _, s', .failed hwave hload⟩
    | ok loaded =>
      obtain ⟨waves, result, s'', hrest⟩ := exists_loadsWaves (h.next hload) s'
      exact ⟨_, _, s'', .next hwave hload hrest⟩
termination_by c.disk.canonicalPaths.ncard - before.length
decreasing_by
  -- the wave has used up some of the canonical paths
  have hlength := Disk.length_le_ncard h.distinct h.canonical
  have hpos := List.length_pos_iff.2 hwave
  rw [List.length_append] at hlength ⊢
  omega

/-- Whatever the loop loads was queued for the next wave or is resolved. -/
theorem LoadsWaves.mem_or_isResolved (h : c.LoadsWaves queued wave s waves result s')
    (hwave : AllDistinct wave) {p : Path} (hp : p ∈ waves.flatten) : p ∈ wave ∨ c.IsResolved p := by
  induction h with
  | done => cases hp
  | failed => exact .inl (by simpa using hp)
  | next _ hload hrest ih =>
    rcases List.mem_append.1 hp with hp | hp
    · exact .inl hp
    · refine .inr ((ih (allDistinct_freshPaths _ _) hp).elim (fun hp => ?_) id)
      exact isResolved_of_mem_nextWave hwave hload hp

/-- All paths that the loop loads are different. -/
theorem LoadsWaves.isQueued (h : c.LoadsWaves queued wave s waves result s')
    (hqueued : queued = before ++ wave) (hbefore : c.IsQueued before wave) :
    c.IsQueued before waves.flatten := by
  induction h generalizing before with
  | done => exact hbefore
  | failed => simpa using hbefore
  | next _ hload hrest ih =>
    subst hqueued
    exact (ih rfl (hbefore.next hload)).join

theorem LoadsWaves.ne_nil (h : c.LoadsWaves queued wave s waves result s') :
    ∀ w ∈ waves, w ≠ [] := by
  induction h with
  | done => exact fun w hw => by cases hw
  | failed hwave => simpa using hwave
  | next hwave _ _ ih => exact List.forall_mem_cons.2 ⟨hwave, ih⟩

/-- The first wave that the loop loads is the one that comes next. -/
theorem LoadsWaves.exists_later (h : c.LoadsWaves queued wave s waves result s')
    (hwaves : waves ≠ []) : ∃ later, waves = wave :: later := by
  cases h with
  | done => exact absurd rfl hwaves
  | failed => exact ⟨[], rfl⟩
  | next => exact ⟨_, rfl⟩

theorem length_le_length_flatten (h : ∀ w ∈ waves, w ≠ []) :
    waves.length ≤ waves.flatten.length := by
  induction waves with
  | nil => exact Nat.le_refl 0
  | cons w rest ih =>
    obtain ⟨hw, hrest⟩ := List.forall_mem_cons.1 h
    have hpos := List.length_pos_iff.2 hw
    have hle := ih hrest
    rw [List.length_cons, List.flatten_cons, List.length_append]
    omega

/-- The bound that a build puts on the number of waves is not reached: all waves but the first hold
    files of the tree. -/
theorem LoadsWaves.length_le_size (h : c.LoadsWaves queued wave s waves result s')
    (hqueued : queued = before ++ wave) (hbefore : c.IsQueued before wave) :
    waves.length ≤ c.disk.tree.size + 1 := by
  by_cases hwaves : waves = []
  · rw [hwaves]
    exact Nat.zero_le _
  obtain ⟨later, rfl⟩ := h.exists_later hwaves
  have hdistinct := (h.isQueued hqueued hbefore).distinct_wave
  rw [List.flatten_cons] at hdistinct
  obtain ⟨-, hlater, hcross⟩ := List.pairwise_append.1 hdistinct
  have hresolved : ∀ p ∈ later.flatten, c.IsResolved p := by
    intro p hp
    refine (h.mem_or_isResolved hbefore.distinct_wave (List.mem_append_right _ hp)).resolve_left ?_
    intro hfirst
    have hsame := hcross p hfirst p hp
    rw [Path.same_self] at hsame
    cases hsame
  have hsize := BuildContext.length_le_size hlater hresolved
  have hflatten := length_le_length_flatten fun w hw => h.ne_nil w (List.mem_cons_of_mem _ hw)
  rw [List.length_cons]
  omega

/-- A build that may load as many waves as the loop does what the loop does. -/
theorem LoadsWaves.run_loadWaves (h : c.LoadsWaves queued wave s waves result s') {n : Nat}
    (hn : waves.length ≤ n) : (c.loadWaves n queued wave).run.run s = (result, s') := by
  induction h generalizing n with
  | done => cases n <;> rfl
  | failed hwave hload =>
    obtain ⟨m, rfl⟩ := Nat.exists_eq_add_of_le' hn
    rw [List.length_singleton, loadWaves_succ c m _ hwave, BuildM.run_bind_error hload]
  | next hwave hload _ ih =>
    obtain ⟨m, rfl⟩ := Nat.exists_eq_add_of_le' hn
    have hrest := ih (Nat.le_add_left _ m)
    unfold nextWave at hrest
    rw [List.length_cons, ← Nat.add_assoc, loadWaves_succ c _ _ hwave, BuildM.run_bind_ok hload,
      BuildM.run_bind_pure, hrest]
    rfl

/-! ## Whole builds -/

/-- The graph of a build whose loop has ended in some way, and what the build leaves. -/
def graphOfWaves (entries : List (String × Path)) (result : Except BuildError (List (List Loaded)))
    (s : BuildState) : Except BuildError ModuleGraph × BuildState :=
  match result with
  | .error e => (.error e, s)
  | .ok loaded =>
    let g := ModuleGraph.ofLoaded loaded.flatten entries
    (.ok g, { s with events := s.events ++ g.cycles.map fun cycle => .cycle (g.paths cycle) })

/-- A build whose entries have no canonical paths ends at once. Any other one is a run of the loop,
    which loads each path once, in waves that have no path in common, and there are at most as many
    waves as canonical paths. -/
theorem run_graph_ends (c : BuildContext) (s : BuildState) :
    (∃ e, c.entryPaths = .error e ∧ c.graph.run.run s = (.error (.file e), s)) ∨
      ∃ entries waves result s', c.entryPaths = .ok entries ∧
        c.LoadsWaves (freshPaths [] (entries.map (·.2))) (freshPaths [] (entries.map (·.2))) s
          waves result s' ∧
        c.graph.run.run s = graphOfWaves entries result s' ∧
        waves.Pairwise (fun w w' => ∀ p ∈ w, ∀ q ∈ w', p.same q = false) ∧
        AllDistinct waves.flatten ∧
        waves.length ≤ c.disk.canonicalPaths.ncard := by
  cases hentries : c.entryPaths with
  | error e =>
    have hrun : (BuildM.ofResult BuildError.file c.entryPaths).run.run s = (.error (.file e), s) := by
      rw [BuildM.run_ofResult, hentries]
      rfl
    exact .inl ⟨e, rfl, BuildM.run_bind_error hrun _⟩
  | ok entries =>
    have hfirst : c.IsQueued [] (freshPaths [] (entries.map (·.2))) := by
      refine ⟨allDistinct_freshPaths _ _, fun p hp => ?_⟩
      obtain ⟨entry, hentry, rfl⟩ := List.mem_map.1 (mem_of_mem_freshPaths hp).1
      obtain ⟨e, -, -, he⟩ := Result.exists_of_mem_right (entryPaths_eq_ok_iff.1 hentries) hentry
      exact ⟨e.path, he⟩
    obtain ⟨waves, result, s', hloop⟩ := exists_loadsWaves hfirst s
    have hflatten := hloop.isQueued rfl hfirst
    refine .inr ⟨entries, waves, result, s', rfl, hloop, ?_,
      (List.pairwise_flatten.1 hflatten.distinct_wave).2, hflatten.distinct_wave,
      (length_le_length_flatten hloop.ne_nil).trans
        (Disk.length_le_ncard hflatten.distinct hflatten.canonical)⟩
    have hwaves := hloop.run_loadWaves (hloop.length_le_size rfl hfirst)
    have hentriesRun : (BuildM.ofResult BuildError.file c.entryPaths).run.run s
        = (.ok entries, s) := by
      rw [BuildM.run_ofResult, hentries]
      rfl
    unfold graph
    rw [BuildM.run_bind_ok hentriesRun]
    cases result with
    | error e => exact BuildM.run_bind_error hwaves _
    | ok loaded =>
      refine (BuildM.run_bind_ok hwaves _).trans ?_
      exact BuildM.run_bind_ok (run_forM_note _ _ s') _

end BuildContext

end Bundler
