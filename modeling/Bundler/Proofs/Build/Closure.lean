import Bundler.Chunk.Assignment
import Bundler.Proofs.Build.Known
import Bundler.Proofs.Digest.Words
import Bundler.Proofs.Graph.Assembly
import Mathlib.Data.List.Perm.Subperm

set_option autoImplicit false

/-! # The graph of a build is a closure

`BuildContext.Needed` is the least set of paths with the canonical paths of the entries and, for each
path in it, what the references of the module there stand for. The waves of a build load exactly
these paths, each once. They do not run out before all are loaded: from the second wave on, a wave
holds files of the tree that no wave before held, and there are only so many (`length_le_size`).

So a graph that is built is the closure of the entries (`IsClosure`), and there is one unless an
entry has no canonical path or a path that is needed cannot be loaded. The graph and the chunks of a
project of two scripts and an image are computed step by step at the end (`pictured`). -/

namespace Bundler

/-- Whether every module is known under its own path. -/
def ModuleCache.Own (cache : ModuleCache) : Prop :=
  ∀ e ∈ cache.entries, e.2.path.same e.1 = true

theorem ModuleCache.own_empty : ModuleCache.empty.Own := fun e he => by cases he

namespace BuildContext

open Bundler.Path (AllDistinct)

variable {c : BuildContext} {cache : ModuleCache}

/-! ## Needed paths -/

/-- The paths of the modules of a project, with some known modules: those of the entries, and those
    that the references of a module stand for. -/
inductive Needed (c : BuildContext) (cache : ModuleCache) : Path → Prop
  | entry {e : Entry} {p : Path} (he : e ∈ c.configuration.entries)
      (hp : c.disk.canonicalize e.path = .ok p) : Needed c cache p
  | reference {p q : Path} {m : Module} {reference : String} (hp : Needed c cache p)
      (hm : c.moduleWith cache p = .ok m) (hr : reference ∈ m.references)
      (hq : c.resolve p reference = .ok q) : Needed c cache q

/-- Whether the module at a path cannot be made, or one of its references stands for nothing. -/
def CannotLoad (c : BuildContext) (cache : ModuleCache) (p : Path) : Prop :=
  (∃ e, c.moduleWith cache p = .error e) ∨
    ∃ m, c.moduleWith cache p = .ok m ∧ ∃ reference ∈ m.references,
      ∃ e, c.resolve p reference = .error e

/-- What a reference stands for is a file of the tree. -/
theorem exists_file_of_isResolved {p : Path} (h : c.IsResolved p) :
    ∃ l, p = l.path ∧ l ∈ c.disk.tree.nodes.map (·.1) := by
  obtain ⟨importer, reference, h⟩ := h
  obtain ⟨-, l, content, -, -, rfl, hnode⟩ :=
    Resolution.exists_file_of_resolve (Result.mapError_eq_ok_iff.1 h)
  have hmem := FileTree.mem_nodes_of_node? (FileTree.ne_nil_of_file hnode) hnode
  exact ⟨l, rfl, List.mem_map_of_mem hmem⟩

theorem Needed.isCanonical (hd : c.disk.current.IsPlain) {p : Path} (h : c.Needed cache p) :
    p.IsCanonical := by
  cases h with
  | entry he hp => exact Disk.isCanonical_of_canonicalize hd hp
  | reference hp hm hr hq => exact isCanonical_of_isResolved hd ⟨_, _, hq⟩

theorem exists_loadWith_eq_error_iff {p : Path} :
    (∃ e, c.loadWith cache p = .error e) ↔ c.CannotLoad cache p := by
  unfold loadWith CannotLoad
  rw [Result.exists_bind_eq_error_iff]
  refine or_congr Iff.rfl (exists_congr fun m => and_congr_right fun _ => ?_)
  rw [Result.exists_bind_eq_error_iff]
  constructor
  · rintro (h | ⟨d, -, e, h⟩)
    · obtain ⟨reference, hr, h⟩ := Result.exists_mapM_eq_error_iff.1 h
      rcases Result.exists_bind_eq_error_iff.1 h with h | ⟨q, -, e, h⟩
      · exact ⟨reference, hr, h⟩
      · cases h
    · cases h
  · rintro ⟨reference, hr, h⟩
    exact .inl (Result.exists_mapM_eq_error_iff.2
      ⟨reference, hr, Result.exists_bind_eq_error_iff.2 (.inl h)⟩)

theorem Needed.of_loadWith {p : Path} (hp : c.Needed cache p) {l : Loaded}
    (hl : c.loadWith cache p = .ok l) {d : String × Path} (hd : d ∈ l.dependencies) :
    c.Needed cache d.2 := by
  obtain ⟨hm, hdependencies⟩ := loadWith_eq_ok_iff.1 hl
  obtain ⟨reference, hr, -, hq⟩ := Result.exists_of_mem_right hdependencies hd
  exact .reference hp hm hr hq

/-- What a wave refers to is needed if the wave is. -/
theorem needed_of_mem_wave {wave : List Path} {loaded : List Loaded}
    (h : wave.mapM (c.loadWith cache) = .ok loaded) (hwave : ∀ p ∈ wave, c.Needed cache p) {p : Path}
    (hp : p ∈ loaded.flatMap (·.dependencies.map (·.2))) : c.Needed cache p := by
  obtain ⟨l, hl, hp⟩ := List.mem_flatMap.1 hp
  obtain ⟨d, hd, rfl⟩ := List.mem_map.1 hp
  obtain ⟨q, hq, hload⟩ := Result.exists_of_mem_right (Result.mapM_eq_ok_iff.1 h) hl
  exact (hwave q hq).of_loadWith hload hd

/-! ## Waves -/

/-- There are at most as many files as locations. -/
theorem length_le_size {paths : List Path} (hdistinct : AllDistinct paths)
    (hpaths : ∀ p ∈ paths, c.IsResolved p) : paths.length ≤ c.disk.tree.size := by
  have hsubset : paths ⊆ (c.disk.tree.nodes.map (·.1)).map Location.path := by
    intro p hp
    obtain ⟨l, rfl, hl⟩ := exists_file_of_isResolved (hpaths p hp)
    exact List.mem_map_of_mem hl
  have hlength := (List.subperm_of_subset hdistinct.nodup hsubset).length_le
  rwa [List.length_map, List.length_map] at hlength

/-- What a wave and the waves behind it load, with some paths loaded before: the wave and further
    paths, all different, with everything that the modules there refer to. -/
structure LoadsBehind (c : BuildContext) (cache : ModuleCache) (done wave paths : List Path)
    (loaded : List Loaded) : Prop where
  loads : List.Forall₂ (fun p l => c.loadWith cache p = .ok l) (wave ++ paths) loaded
  distinct : AllDistinct (done ++ (wave ++ paths))
  closed : ∀ l ∈ loaded, ∀ d ∈ l.dependencies, ∃ q ∈ done ++ (wave ++ paths), q.same d.2 = true
  needed : (∀ p ∈ wave, c.Needed cache p) → ∀ p ∈ paths, c.Needed cache p

namespace LoadsBehind

variable {done wave paths : List Path} {loaded later : List Loaded}

theorem nothing (h : AllDistinct done) : c.LoadsBehind cache done [] [] [] where
  loads := .nil
  distinct := by simpa using h
  closed := fun _ hl => nomatch hl
  needed := fun _ _ hp => nomatch hp

/-- What the later waves load comes behind a wave and the paths that it adds. -/
theorem cons (hloaded : wave.mapM (c.loadWith cache) = .ok loaded)
    (h : c.LoadsBehind cache (done ++ wave)
      (freshPaths (done ++ wave) (loaded.flatMap (·.dependencies.map (·.2)))) paths later) :
    c.LoadsBehind cache done wave
      (freshPaths (done ++ wave) (loaded.flatMap (·.dependencies.map (·.2))) ++ paths)
      (loaded ++ later) where
  loads := List.rel_append (Result.mapM_eq_ok_iff.1 hloaded) h.loads
  distinct := by simpa only [List.append_assoc] using h.distinct
  closed := by
    intro l hl d hd
    rw [← List.append_assoc]
    rcases List.mem_append.1 hl with hl | hl
    · have hmem : d.2 ∈ loaded.flatMap (·.dependencies.map (·.2)) :=
        List.mem_flatMap.2 ⟨l, hl, List.mem_map_of_mem hd⟩
      obtain ⟨q, hq, hsame⟩ := exists_same_queued_or_fresh (done ++ wave) hmem
      refine ⟨q, ?_, hsame⟩
      rw [← List.append_assoc]
      exact List.mem_append_left _ hq
    · exact h.closed l hl d hd
  needed := by
    intro hwave p hp
    have hfresh : ∀ p ∈ freshPaths (done ++ wave) (loaded.flatMap (·.dependencies.map (·.2))),
        c.Needed cache p :=
      fun p hp => needed_of_mem_wave hloaded hwave (mem_of_mem_freshPaths hp).1
    exact (List.mem_append.1 hp).elim (hfresh p) (h.needed hfresh p)

end LoadsBehind

/-- If no wave fails, then nothing that the modules of the waves refer to is left over: the bound on
    the number of waves is not reached, since each wave behind the first holds one more file of the
    tree at least. -/
theorem exists_loadsBehind_of_wavesWith {n : Nat} {first wave : List Path}
    (later done : List Path) {waves : List (List Loaded)}
    (h : c.wavesWith cache n (done ++ wave) wave = .ok waves)
    (hdistinct : AllDistinct (done ++ wave)) (hqueued : done ++ wave = first ++ later)
    (hlater : ∀ p ∈ later, c.IsResolved p)
    (hfuel : wave = [] ∨ c.disk.tree.size < later.length + n) :
    ∃ paths, c.LoadsBehind cache done wave paths waves.flatten := by
  induction n generalizing later done wave waves with
  | zero =>
    -- there is no file left that a wave could hold
    have hwave : wave = [] := by
      refine hfuel.resolve_right fun hlt => ?_
      rw [hqueued] at hdistinct
      have := length_le_size (List.pairwise_append.1 hdistinct).2.1 hlater
      omega
    subst hwave
    obtain rfl : [] = waves := Except.ok.inj h
    exact ⟨[], .nothing (List.append_nil done ▸ hdistinct)⟩
  | succ n ih =>
    by_cases hwave : wave = []
    · subst hwave
      obtain rfl : [] = waves := Except.ok.inj h
      exact ⟨[], .nothing (List.append_nil done ▸ hdistinct)⟩
    rw [wavesWith_succ c cache n _ hwave] at h
    obtain ⟨loaded, hloaded, h⟩ := Result.bind_eq_ok_iff.1 h
    obtain ⟨rest, hrest, h⟩ := Result.bind_eq_ok_iff.1 h
    cases h
    have hresolved := fun p => isResolved_of_mem_wave (p := p) hloaded
    generalize hrefs : loaded.flatMap (·.dependencies.map (·.2)) = refs at hrest hresolved
    have hfuelNext : freshPaths (done ++ wave) refs = [] ∨
        c.disk.tree.size < (later ++ freshPaths (done ++ wave) refs).length + n := by
      by_cases hfresh : freshPaths (done ++ wave) refs = []
      · exact .inl hfresh
      · have hpos := List.length_pos_iff.2 hfresh
        have hlt := hfuel.resolve_left hwave
        rw [List.length_append]
        exact .inr (by omega)
    obtain ⟨paths, hpaths⟩ :=
      ih (later ++ freshPaths (done ++ wave) refs) (done ++ wave) hrest
        (allDistinct_append_freshPaths hdistinct refs) (by rw [hqueued, List.append_assoc])
        (fun p hp => (List.mem_append.1 hp).elim (hlater p)
          fun hp => hresolved p (mem_of_mem_freshPaths hp).1)
        hfuelNext
    subst hrefs
    exact ⟨_, .cons hloaded hpaths⟩

/-- If a wave fails, then because of a file that is needed. -/
theorem exists_loadWith_of_wavesWith {n : Nat} {queued wave : List Path} {e : BuildError}
    (h : c.wavesWith cache n queued wave = .error e) (hwave : ∀ p ∈ wave, c.Needed cache p) :
    ∃ p, c.Needed cache p ∧ c.loadWith cache p = .error e := by
  induction n generalizing queued wave with
  | zero => cases wave <;> cases h
  | succ n ih =>
    by_cases hempty : wave = []
    · subst hempty
      cases h
    rw [wavesWith_succ c cache n _ hempty] at h
    rcases Result.bind_eq_error_iff.1 h with h | ⟨loaded, hloaded, h⟩
    · obtain ⟨p, hp, h⟩ := Result.exists_of_mapM_eq_error h
      exact ⟨p, hwave p hp, h⟩
    · rcases Result.bind_eq_error_iff.1 h with h | ⟨rest, -, h⟩
      · exact ih h fun p hp => needed_of_mem_wave hloaded hwave (mem_of_mem_freshPaths hp).1
      · cases h

/-! ## Loaded paths -/

/-- The paths that a build loads, with the modules there. -/
structure IsLoad (c : BuildContext) (cache : ModuleCache) (entries : List (String × Path))
    (paths : List Path) (loaded : List Loaded) : Prop where
  entries_eq : c.entryPaths = .ok entries
  loads : List.Forall₂ (fun p l => c.loadWith cache p = .ok l) paths loaded
  distinct : AllDistinct paths
  needed : ∀ p ∈ paths, c.Needed cache p
  entry_mem : ∀ entry ∈ entries, entry.2 ∈ paths
  dependency_mem : ∀ l ∈ loaded, ∀ d ∈ l.dependencies, d.2 ∈ paths

theorem needed_of_mem_first {entries : List (String × Path)} (h : c.entryPaths = .ok entries)
    {p : Path} (hp : p ∈ freshPaths [] (entries.map (·.2))) : c.Needed cache p := by
  obtain ⟨entry, hentry, rfl⟩ := List.mem_map.1 (mem_of_mem_freshPaths hp).1
  obtain ⟨e, he, -, hp⟩ := Result.exists_of_mem_right (entryPaths_eq_ok_iff.1 h) hentry
  exact .entry he hp

theorem exists_isLoad_of_graphWith (hd : c.disk.current.IsPlain) {g : ModuleGraph}
    (h : c.graphWith cache = .ok g) :
    ∃ entries paths loaded, c.IsLoad cache entries paths loaded ∧ g = .ofLoaded loaded entries := by
  obtain ⟨entries, hentries, h⟩ := Result.bind_eq_ok_iff.1 h
  have hentries := Result.mapError_eq_ok_iff.1 hentries
  obtain ⟨waves, hwaves, h⟩ := Result.bind_eq_ok_iff.1 h
  cases h
  have hneededEntry : ∀ entry ∈ entries, c.Needed cache entry.2 := by
    intro entry hentry
    obtain ⟨e, he, -, hp⟩ := Result.exists_of_mem_right (entryPaths_eq_ok_iff.1 hentries) hentry
    exact .entry he hp
  have hneededFirst : ∀ p ∈ freshPaths [] (entries.map (·.2)), c.Needed cache p :=
    fun p => needed_of_mem_first hentries
  obtain ⟨paths, hloads, hdistinct, hclosed, hneeded⟩ :=
    exists_loadsBehind_of_wavesWith [] [] hwaves (allDistinct_freshPaths _ _)
      (List.append_nil _).symm (fun p hp => by cases hp)
      (.inr (by rw [List.length_nil]; omega))
  have hneededPaths : ∀ p ∈ freshPaths [] (entries.map (·.2)) ++ paths, c.Needed cache p :=
    fun p hp => (List.mem_append.1 hp).elim (hneededFirst p) (hneeded hneededFirst p)
  -- canonical paths are the same only if they are equal
  have hmem : ∀ p, c.Needed cache p →
      (∃ q ∈ freshPaths [] (entries.map (·.2)) ++ paths, q.same p = true) →
      p ∈ freshPaths [] (entries.map (·.2)) ++ paths := by
    rintro p hp ⟨q, hq, hsame⟩
    rwa [← ((hneededPaths q hq).isCanonical hd).eq_of_same (hp.isCanonical hd) hsame]
  refine ⟨entries, _, _, ⟨hentries, hloads, hdistinct, hneededPaths, ?_, ?_⟩, rfl⟩
  · intro entry hentry
    refine hmem _ (hneededEntry entry hentry) ?_
    obtain ⟨q, hq, hsame⟩ := exists_same_queued_or_fresh [] (List.mem_map_of_mem hentry)
    exact ⟨q, List.mem_append_left _ hq, hsame⟩
  · intro l hl d hd'
    obtain ⟨p, hp, hload⟩ := Result.exists_of_mem_right hloads hl
    exact hmem _ ((hneededPaths p hp).of_loadWith hload hd') (hclosed l hl d hd')

/-- Every module of the graph is known or was made from the file at some path. -/
theorem exists_moduleWith_of_mem_graph {g : ModuleGraph} (h : c.graphWith cache = .ok g) {m : Module}
    (hm : m ∈ g.modules) : ∃ p, c.moduleWith cache p = .ok m := by
  obtain ⟨entries, -, h⟩ := Result.bind_eq_ok_iff.1 h
  obtain ⟨waves, hwaves, h⟩ := Result.bind_eq_ok_iff.1 h
  cases h
  obtain ⟨l, hl, rfl⟩ := ModuleGraph.exists_of_mem_ofLoaded hm
  obtain ⟨p, hp⟩ := exists_loadWith_of_mem_waves hwaves hl
  exact ⟨p, (loadWith_eq_ok_iff.1 hp).1⟩

namespace IsLoad

variable {entries : List (String × Path)} {paths : List Path} {loaded : List Loaded}

/-- Everything that is needed is loaded. -/
theorem mem_of_needed (h : c.IsLoad cache entries paths loaded) {p : Path}
    (hp : c.Needed cache p) : p ∈ paths := by
  induction hp with
  | entry he hp =>
    obtain ⟨entry, hentry, -, hentryPath⟩ :=
      Result.exists_of_mem_left (entryPaths_eq_ok_iff.1 h.entries_eq) he
    rw [hp] at hentryPath
    cases hentryPath
    exact h.entry_mem entry hentry
  | reference _ hm hr hq ih =>
    obtain ⟨l, hl, hload⟩ := Result.exists_of_mem_left h.loads ih
    obtain ⟨hlm, hdependencies⟩ := loadWith_eq_ok_iff.1 hload
    obtain rfl := Except.ok.inj (hlm.symm.trans hm)
    obtain ⟨d, hd, -, hdq⟩ := Result.exists_of_mem_left hdependencies hr
    obtain rfl := Except.ok.inj (hdq.symm.trans hq)
    exact h.dependency_mem l hl d hd

/-- Nothing that is needed cannot be loaded. -/
theorem not_cannotLoad (h : c.IsLoad cache entries paths loaded) {p : Path}
    (hp : c.Needed cache p) : ¬ c.CannotLoad cache p := by
  intro hfail
  obtain ⟨l, -, hload⟩ := Result.exists_of_mem_left h.loads (h.mem_of_needed hp)
  obtain ⟨e, hfail⟩ := exists_loadWith_eq_error_iff.2 hfail
  rw [hload] at hfail
  cases hfail

end IsLoad

theorem same_of_moduleWith (hcache : cache.Own) {p : Path} {m : Module}
    (h : c.moduleWith cache p = .ok m) : m.path.same p = true := by
  unfold moduleWith at h
  split at h
  · next m' hget =>
    obtain rfl := Except.ok.inj h
    obtain ⟨e, he, rfl⟩ := Option.map_eq_some_iff.1 hget
    have hkey : e.1.same p = true := by simpa using List.find?_some he
    exact Path.same_trans (hcache e (List.mem_of_find?_eq_some he)) hkey
  · rw [path_of_made h]
    exact Path.same_self p

/-! ## The closure -/

/-- Whether a graph is the closure of the entries, with some known modules. -/
structure IsClosure (c : BuildContext) (cache : ModuleCache) (g : ModuleGraph) : Prop where
  /-- No two modules have the same path. -/
  distinct : AllDistinct (g.modules.map (·.path))
  /-- A path has a number exactly if the module of that number has it. -/
  indexed : g.Indexed
  /-- Every module is that of a needed path, and its dependencies are its references in order, each
      with the module at the path that it stands for. -/
  modules : ∀ i m, g.module? i = some m → ∃ p, c.Needed cache p ∧ m.path.same p = true ∧
    c.moduleWith cache p = .ok m ∧
    List.Forall₂ (fun reference d => d.1 = reference ∧
      ∃ q, c.resolve p reference = .ok q ∧ g.index? q = some d.2) m.references (g.dependencies i)
  /-- Every needed path has its module. -/
  needed : ∀ p, c.Needed cache p → ∃ i, g.index? p = some i
  /-- The entries are those of the configuration in order, each with the module at its path. -/
  entries : List.Forall₂ (fun (e : Entry) d => d.1 = e.name ∧
    ∃ p, c.disk.canonicalize e.path = .ok p ∧ g.index? p = some d.2)
    c.configuration.entries g.entries

theorem IsLoad.isClosure {entries : List (String × Path)} {paths : List Path}
    {loaded : List Loaded} (h : c.IsLoad cache entries paths loaded) (hcache : cache.Own) :
    c.IsClosure cache (.ofLoaded loaded entries) := by
  have hsame : List.Forall₂ (fun p l => l.module.path.same p = true) paths loaded :=
    h.loads.imp fun p l hload => same_of_moduleWith hcache (loadWith_eq_ok_iff.1 hload).1
  have hdistinct : AllDistinct (loaded.map (·.module.path)) := by
    refine h.distinct.of_forall₂ (List.forall₂_map_right_iff.2 hsame)
  have hmodules := ModuleGraph.modules_ofLoaded hdistinct entries
  have hindexed := ModuleGraph.indexed_ofLoaded loaded entries
  have hindex : ∀ p ∈ paths, ∃ i, (ModuleGraph.ofLoaded loaded entries).index? p = some i := by
    intro p hp
    obtain ⟨l, hl, hlp⟩ := Result.exists_of_mem_left hsame hp
    refine hindexed.exists_index?_of_mem (m := l.module) ?_ hlp
    rw [hmodules]
    exact List.mem_map_of_mem hl
  refine ⟨?_, hindexed, ?_, fun p hp => hindex p (h.mem_of_needed hp), ?_⟩
  · rw [hmodules, List.map_map]
    exact hdistinct
  · intro i m hm
    rw [ModuleGraph.module?, hmodules, List.getElem?_map] at hm
    obtain ⟨l, hl, rfl⟩ := Option.map_eq_some_iff.1 hm
    have hmem := List.mem_of_getElem? hl
    obtain ⟨p, hp, hload⟩ := Result.exists_of_mem_right h.loads hmem
    obtain ⟨hlm, hdependencies⟩ := loadWith_eq_ok_iff.1 hload
    refine ⟨p, h.needed p hp, same_of_moduleWith hcache hlm, hlm, ?_⟩
    rw [ModuleGraph.dependencies_ofLoaded hdistinct ?_ entries hl]
    · have hnumbered := ModuleGraph.forall₂_numbered? fun d hd =>
        hindex d.2 (h.dependency_mem l hmem d hd)
      refine (Result.forall₂_comp hdependencies hnumbered).imp ?_
      rintro reference n ⟨d, ⟨hd, hq⟩, hn, hindex⟩
      exact ⟨hn.trans hd, d.2, hq, hindex⟩
    · intro l hl
      obtain ⟨p, -, hload⟩ := Result.exists_of_mem_right h.loads hl
      obtain ⟨-, hdependencies⟩ := loadWith_eq_ok_iff.1 hload
      have hnames := Result.map_eq_map (f := id) hdependencies fun reference d h => h.1.symm
      rw [← hnames, List.map_id]
  · rw [ModuleGraph.entries_ofLoaded]
    have hnumbered := ModuleGraph.forall₂_numbered? fun entry hentry =>
      hindex entry.2 (h.entry_mem entry hentry)
    refine (Result.forall₂_comp (entryPaths_eq_ok_iff.1 h.entries_eq) hnumbered).imp ?_
    rintro e n ⟨entry, ⟨hname, hp⟩, hn, hindex⟩
    exact ⟨hn.trans hname, entry.2, hp, hindex⟩

theorem isClosure_of_run_graph {s : BuildState} (hd : c.disk.current.IsPlain) (hs : s.cache.Own)
    {g : ModuleGraph} (hg : (c.graph.run.run s).1 = .ok g) : c.IsClosure s.cache g := by
  rw [(c.run_graph s).1] at hg
  obtain ⟨entries, paths, loaded, hload, rfl⟩ := exists_isLoad_of_graphWith hd hg
  exact hload.isClosure hs

/-- There is no graph because of an entry without a canonical path, or of a file that is needed. -/
theorem graphWith_error_cases {e : BuildError} (h : c.graphWith cache = .error e) :
    (∃ entry ∈ c.configuration.entries, ∃ error,
      c.disk.canonicalize entry.path = .error error ∧ e = .file error) ∨
      ∃ p, c.Needed cache p ∧ c.loadWith cache p = .error e := by
  rcases Result.bind_eq_error_iff.1 h with h | ⟨entries, hentries, h⟩
  · left
    obtain ⟨error, herror, rfl⟩ := Result.mapError_eq_error_iff.1 h
    obtain ⟨entry, hentry, herror⟩ := Result.exists_of_mapM_eq_error herror
    rcases Result.bind_eq_error_iff.1 herror with herror | ⟨p, -, herror⟩
    · exact ⟨entry, hentry, error, herror, rfl⟩
    · cases herror
  · right
    have hentries := Result.mapError_eq_ok_iff.1 hentries
    rcases Result.bind_eq_error_iff.1 h with h | ⟨waves, -, h⟩
    · exact exists_loadWith_of_wavesWith h fun p => needed_of_mem_first hentries
    · cases h

/-- There is no graph just if an entry has no canonical path or something that is needed cannot be
    loaded. -/
theorem exists_error_run_graph_iff {s : BuildState} (hd : c.disk.current.IsPlain) :
    (∃ e, (c.graph.run.run s).1 = .error e) ↔
      (∃ e ∈ c.configuration.entries, ∃ error, c.disk.canonicalize e.path = .error error) ∨
        ∃ p, c.Needed s.cache p ∧ c.CannotLoad s.cache p := by
  rw [(c.run_graph s).1]
  constructor
  · rintro ⟨e, he⟩
    rcases graphWith_error_cases he with ⟨entry, hentry, error, herror, -⟩ | ⟨p, hp, he⟩
    · exact .inl ⟨entry, hentry, error, herror⟩
    · exact .inr ⟨p, hp, exists_loadWith_eq_error_iff.1 ⟨e, he⟩⟩
  · intro hfail
    -- a graph that is built has loaded everything that is needed
    refine Result.exists_eq_error_iff.2 ?_
    rintro ⟨g, hg⟩
    obtain ⟨entries, paths, loaded, hload, -⟩ := exists_isLoad_of_graphWith hd hg
    rcases hfail with ⟨entry, hentry, e, he⟩ | ⟨p, hp, hfail⟩
    · obtain ⟨named, -, -, hp⟩ :=
        Result.exists_of_mem_left (entryPaths_eq_ok_iff.1 hload.entries_eq) hentry
      rw [he] at hp
      cases hp
    · exact hload.not_cannotLoad hp hfail

/-- There is a graph if the entries are there and everything that is needed can be loaded. -/
theorem exists_run_graph {s : BuildState} (hd : c.disk.current.IsPlain)
    (hentries : ∀ e ∈ c.configuration.entries, ∃ p, c.disk.canonicalize e.path = .ok p)
    (hloads : ∀ p, c.Needed s.cache p → ¬ c.CannotLoad s.cache p) :
    ∃ g, (c.graph.run.run s).1 = .ok g := by
  by_contra hnone
  rcases (exists_error_run_graph_iff hd).1 (Result.exists_eq_error_iff.2 hnone) with
    ⟨e, he, error, herror⟩ | ⟨p, hp, hfail⟩
  · obtain ⟨p, hp⟩ := hentries e he
    rw [hp] at herror
    cases herror
  · exact hloads p hp hfail

/-- A build gives a graph that is the closure of the entries, unless an entry has no canonical path
    or something that is needed cannot be loaded. -/
theorem run_graph_isClosure (c : BuildContext) (s : BuildState) (hd : c.disk.current.IsPlain)
    (hs : s.cache.Own) :
    (∀ g, (c.graph.run.run s).1 = .ok g → c.IsClosure s.cache g) ∧
      ((∃ e, (c.graph.run.run s).1 = .error e) ↔
        (∃ e ∈ c.configuration.entries, ∃ error, c.disk.canonicalize e.path = .error error) ∨
          ∃ p, c.Needed s.cache p ∧ c.CannotLoad s.cache p) :=
  ⟨fun _ hg => isClosure_of_run_graph hd hs hg, exists_error_run_graph_iff hd⟩

/-! ## Two scripts and an image -/

/-- The configuration of a project at the root whose entry is `a.js`, with paths as ids. Files that
    nothing else handles are copied. -/
def picturedConfiguration : Configuration :=
  (Configuration.ofStatements ⟨"/"⟩ .empty { mode := some .development } Transform.standard
    [.entry "main" "a.js", .setting ⟨"unhandled", "copy"⟩,
      .setting ⟨"deterministic_ids", "false"⟩]).toOption.get (by decide +kernel)

/-- The text of the entry, which refers to another script and to an image. -/
def picturedText : String := "require(\"/b.js\"); require(\"/c.png\");"

/-- The project of that configuration, with the two scripts and the image on the disk. -/
def pictured : BuildContext :=
  ⟨picturedConfiguration, Transform.standard, { tree := ⟨[(["a.js"], .file picturedText.toUTF8),
    (["b.js"], .file "".toUTF8), (["c.png"], .file "x".toUTF8)]⟩ }⟩

theorem ofStatements_pictured :
    Configuration.ofStatements ⟨"/"⟩ .empty { mode := some .development } Transform.standard
      [.entry "main" "a.js", .setting ⟨"unhandled", "copy"⟩, .setting ⟨"deterministic_ids", "false"⟩]
        = .ok picturedConfiguration :=
  Result.eq_ok_get _

/-- What the configuration says of the three files. -/
theorem configuration_pictured :
    let c := pictured.configuration
    let bases := c.resolution.bases c.root ((⟨"/a.js"⟩ : Path).parent?.getD c.root)
    c.entries = [⟨"main", ⟨"/a.js"⟩⟩] ∧ c.rules.length = 0 ∧ c.output.template = none ∧
      (∀ p ∈ [(⟨"/a.js"⟩ : Path), ⟨"/b.js"⟩],
        c.passthrough.classify? c.resolution.extensions p = some .module) ∧
      c.passthrough.classify? c.resolution.extensions ⟨"/c.png"⟩ = some .asset ∧
      bases "/b.js" = [⟨"/b.js"⟩] ∧ bases "/c.png" = [⟨"/c.png"⟩] := by
  decide +kernel

theorem settings_pictured : pictured.configuration.root = ⟨"/"⟩ ∧
    pictured.configuration.context.mode = .development ∧
      pictured.configuration.context.publicPath = "/" ∧
      pictured.configuration.optimization.deterministicIds = false := by
  decide +kernel

theorem holds_pictured : pictured.disk.Holds ⟨"/a.js"⟩ picturedText.toUTF8 ∧
    pictured.disk.Holds ⟨"/b.js"⟩ "".toUTF8 ∧ pictured.disk.Holds ⟨"/c.png"⟩ "x".toUTF8 := by
  have hgrounded : pictured.disk.tree.IsGrounded := FileTree.isGrounded_of_nodes (by decide)
  refine ⟨Disk.holds_of_node? (l := ["a.js"]) ?_ hgrounded ?_ ?_ ?_ rfl rfl rfl,
    Disk.holds_of_node? (l := ["b.js"]) ?_ hgrounded ?_ ?_ ?_ rfl rfl rfl,
    Disk.holds_of_node? (l := ["c.png"]) ?_ hgrounded ?_ ?_ ?_ rfl rfl rfl⟩
  all_goals decide +kernel

/-- The module of the entry. -/
def picturedEntry : Module :=
  ⟨⟨"/a.js"⟩, picturedText, ["/b.js", "/c.png"], [], [], by decide⟩

/-- The module of the other script, which is empty. -/
def picturedScript : Module := ⟨⟨"/b.js"⟩, "", [], [], [], List.nodup_nil⟩

/-- The file of the image. -/
def picturedAsset : Asset := ⟨"c__2d711642b726b0440162.png", "x".toUTF8⟩

/-- The module of the image, which exports its address. -/
def picturedImage : Module :=
  ⟨⟨"/c.png"⟩, "module.exports = \"/c__2d711642b726b0440162.png\";", [], [picturedAsset], [],
    List.nodup_nil⟩

/-- What is loaded for the project: its entry, then what the entry refers to. -/
def picturedLoaded : List Loaded :=
  [⟨picturedEntry, [("/b.js", ⟨"/b.js"⟩), ("/c.png", ⟨"/c.png"⟩)]⟩, ⟨picturedScript, []⟩,
    ⟨picturedImage, []⟩]

/-- The graph of the project. -/
def picturedGraph : ModuleGraph where
  modules := [picturedEntry, picturedScript, picturedImage]
  edges := [⟨0, "/c.png", 2⟩, ⟨0, "/b.js", 1⟩]
  indexes := [(⟨"/c.png"⟩, 2), (⟨"/b.js"⟩, 1), (⟨"/a.js"⟩, 0)]
  entries := [("main", 0)]

theorem made_picturedEntry : pictured.made ⟨"/a.js"⟩ = .ok picturedEntry := by
  obtain ⟨-, hrules, -, hkind, -⟩ := configuration_pictured
  have hreferences : Script.references picturedText = ["/b.js", "/c.png"] := by decide +kernel
  have hmade := made_of_passModule holds_pictured.1.read (List.length_eq_zero_iff.1 hrules)
    (hkind _ List.mem_cons_self)
  rwa [hreferences] at hmade

theorem made_picturedScript : pictured.made ⟨"/b.js"⟩ = .ok picturedScript := by
  obtain ⟨-, hrules, -, hkind, -⟩ := configuration_pictured
  have hmade := made_of_passModule holds_pictured.2.1.read (List.length_eq_zero_iff.1 hrules)
    (hkind _ (by simp))
  rwa [references_empty] at hmade

theorem ofFile_picturedAsset : Digest.ofFile picturedAsset.content = "2d711642b726b0440162" := by
  rw [Digest.ofFile, Digest.ofContent_eq]
  decide +kernel

theorem made_picturedImage : pictured.made ⟨"/c.png"⟩ = .ok picturedImage := by
  obtain ⟨-, hrules, -, -, hkind, -⟩ := configuration_pictured
  obtain ⟨-, hmode, hpublic, -⟩ := settings_pictured
  have hname : Transform.assetFileName .development ⟨"/c.png"⟩ "x".toUTF8
      = picturedAsset.fileName := by
    unfold Transform.assetFileName
    rw [show Digest.ofFile "x".toUTF8 = _ from ofFile_picturedAsset]
    decide
  have hpass : Transform.passAsset pictured.configuration.context ⟨"/c.png"⟩ "x".toUTF8 =
      .ok ⟨Transform.exportText ("/" ++ picturedAsset.fileName), [.asset picturedAsset]⟩ := by
    rw [Transform.passAsset, Transform.asset]
    dsimp only
    rw [hmode, hpublic, hname]
    rfl
  have hfile := transformFile_eq_of_passAsset holds_pictured.2.2.read
    (rule?_of_rules_eq_nil (List.length_eq_zero_iff.1 hrules) _) hkind hpass
  have htext : "module.exports = " ++ Text.quote ("/" ++ picturedAsset.fileName) ++ ";"
      = picturedImage.content := by
    decide
  rw [made_of_transformFile hfile rfl, htext]
  rfl

theorem resolve_pictured : pictured.resolve ⟨"/a.js"⟩ "/b.js" = .ok ⟨"/b.js"⟩ ∧
    pictured.resolve ⟨"/a.js"⟩ "/c.png" = .ok ⟨"/c.png"⟩ := by
  obtain ⟨-, -, -, -, -, hscript, himage⟩ := configuration_pictured
  obtain ⟨-, hholds, hholds'⟩ := holds_pictured
  exact ⟨Result.mapError_eq_ok_iff.2
      (Resolution.resolve_of_isFile hscript hholds.isFile hholds.canonicalize),
    Result.mapError_eq_ok_iff.2
      (Resolution.resolve_of_isFile himage hholds'.isFile hholds'.canonicalize)⟩

theorem load_picturedEntry : pictured.loadWith .empty ⟨"/a.js"⟩
    = .ok ⟨picturedEntry, [("/b.js", ⟨"/b.js"⟩), ("/c.png", ⟨"/c.png"⟩)]⟩ := by
  obtain ⟨hscript, himage⟩ := resolve_pictured
  exact loadWith_eq_ok_iff.2
    ⟨made_picturedEntry, .cons ⟨rfl, hscript⟩ (.cons ⟨rfl, himage⟩ .nil)⟩

/-- The entry is loaded in the first wave, what it refers to in the second. -/
theorem wavesWith_pictured (n : Nat) : pictured.wavesWith .empty (n + 2) [⟨"/a.js"⟩] [⟨"/a.js"⟩]
    = .ok [picturedLoaded.take 1, picturedLoaded.drop 1] := by
  have hfresh : freshPaths [⟨"/a.js"⟩] [⟨"/b.js"⟩, ⟨"/c.png"⟩] = [⟨"/b.js"⟩, ⟨"/c.png"⟩] := by
    decide
  have hscript : pictured.loadWith .empty ⟨"/b.js"⟩ = .ok ⟨picturedScript, []⟩ :=
    loadWith_eq_ok_iff.2 ⟨made_picturedScript, .nil⟩
  have himage : pictured.loadWith .empty ⟨"/c.png"⟩ = .ok ⟨picturedImage, []⟩ :=
    loadWith_eq_ok_iff.2 ⟨made_picturedImage, .nil⟩
  have hsecond : ∀ queued, pictured.wavesWith .empty (n + 1) queued [⟨"/b.js"⟩, ⟨"/c.png"⟩]
      = .ok [[⟨picturedScript, []⟩, ⟨picturedImage, []⟩]] := by
    intro queued
    rw [wavesWith_succ _ _ _ _ (List.cons_ne_nil _ _), List.mapM_cons, List.mapM_cons, hscript,
      himage]
    show (pictured.wavesWith .empty n _ [] >>= _) = _
    rw [wavesWith_nil]
    rfl
  rw [wavesWith_succ _ _ _ _ (List.cons_ne_nil _ _), List.mapM_cons, load_picturedEntry]
  show (pictured.wavesWith .empty (n + 1) _ (freshPaths [⟨"/a.js"⟩] [⟨"/b.js"⟩, ⟨"/c.png"⟩]) >>= _)
    = _
  rw [hfresh, hsecond]
  rfl

theorem graphWith_pictured : pictured.graphWith .empty = .ok picturedGraph := by
  obtain ⟨hentries, -⟩ := configuration_pictured
  have hsize : pictured.disk.tree.size + 1 = 2 + 2 := rfl
  rw [graphWith_of_entry hentries holds_pictured.1.canonicalize, hsize, wavesWith_pictured]
  rfl

theorem run_graph_pictured : (pictured.graph.run.run {}).1 = .ok picturedGraph :=
  (pictured.run_graph {}).1.trans graphWith_pictured

/-- The graph of the two scripts and the image is a closure. -/
theorem run_graph_isClosure_pictured :
    let s : BuildState := {}
    pictured.disk.current.IsPlain ∧ s.cache.Own ∧
      (pictured.graph.run.run s).1 = .ok picturedGraph ∧
      pictured.IsClosure s.cache picturedGraph := by
  intro s
  have hplain : pictured.disk.current.IsPlain := by decide
  exact ⟨hplain, ModuleCache.own_empty, run_graph_pictured,
    (run_graph_isClosure pictured s hplain ModuleCache.own_empty).1 _ run_graph_pictured⟩

/-- The chunks of the project. -/
def picturedChunks : ChunkSet where
  chunks := [⟨"runtime", .runtime, [], none⟩, ⟨"main", .entry, [0, 1, 2], some 0⟩]
  ids := [(0, "a.js"), (1, "b.js"), (2, "c.png")]

theorem assignChunks_pictured : picturedGraph.assignChunks pictured.configuration.root
    pictured.configuration.optimization = picturedChunks := by
  obtain ⟨hroot, -, -, hids⟩ := settings_pictured
  have hsorted : picturedGraph.sortedByPath ⟨"/"⟩ [0, 1, 2]
      = [(0, "a.js"), (1, "b.js"), (2, "c.png")] :=
    List.mergeSort_of_pairwise (by decide +kernel)
  have howned : picturedGraph.owned = [0, 1, 2] := by decide +kernel
  have hdestination : ∀ i ∈ [0, 1, 2], picturedGraph.destination
      pictured.configuration.optimization picturedGraph.reached i = .entry 0 := by
    decide +kernel
  have hrange : List.range picturedGraph.size = [0, 1, 2] := rfl
  unfold ModuleGraph.assignChunks ModuleGraph.assignChunksFrom ModuleGraph.moduleIds
    ModuleGraph.byRelativePath
  rw [howned, hrange, hroot, hids, hsorted]
  simp only [List.map_cons, List.map_nil, hdestination 0 (by simp), hdestination 1 (by simp),
    hdestination 2 (by simp)]
  rfl

end BuildContext

end Bundler
