import Bundler.Proofs.Build.Loading
import Bundler.Proofs.Path.Distinct

set_option autoImplicit false

/-! # Waves with known modules

The pure form of the waves of a build, and of its graph (`wavesWith`, `graphWith`). A file is loaded
in one wave only, so that what earlier waves have added to the known modules does not matter to it:
all waves can be read off the modules that were known before the build (`run_graph`). What is known
after the build, also after one that fails, comes from loading canonical paths one after another. -/

namespace Bundler.BuildContext

open Bundler.Path (AllDistinct)

/-! ## One wave -/

/-- The known modules of a path do not change when a different path is loaded. -/
theorem get?_cacheAfter (c : BuildContext) (cache : ModuleCache) {p q : Path}
    (h : p.same q = false) : (c.cacheAfter cache p).get? q = cache.get? q := by
  unfold cacheAfter
  split
  · rw [ModuleCache.get?_insert, h]
    rfl
  · rfl

theorem get?_foldl_cacheAfter (c : BuildContext) {paths : List Path} {q : Path}
    (cache : ModuleCache) (h : ∀ p ∈ paths, p.same q = false) :
    (paths.foldl c.cacheAfter cache).get? q = cache.get? q := by
  induction paths generalizing cache with
  | nil => rfl
  | cons p rest ih =>
    rw [List.foldl_cons, ih _ fun p' hp' => h p' (List.mem_cons_of_mem _ hp'),
      c.get?_cacheAfter cache (h p List.mem_cons_self)]

/-- Loading a file depends on the known modules through the module of the file only. -/
theorem loadWith_congr (c : BuildContext) {cache cache' : ModuleCache} {p : Path}
    (h : cache.get? p = cache'.get? p) : c.loadWith cache p = c.loadWith cache' p := by
  unfold loadWith moduleWith
  rw [h]

theorem run_mapM_cons {σ α β : Type} (f : α → StateM σ β) (a : α) (rest : List α) (s : σ) :
    ((a :: rest).mapM f).run s =
      (((f a).run s).1 :: ((rest.mapM f).run ((f a).run s).2).1,
        ((rest.mapM f).run ((f a).run s).2).2) := by
  rw [List.mapM_cons, StateT.run_bind]
  rfl

/-- The files of a wave are loaded as if nothing had been loaded before them. -/
theorem run_mapM_load (c : BuildContext) {wave : List Path} (hwave : AllDistinct wave)
    (s : BuildState) :
    ((wave.mapM fun p => (c.load p).run).run s).1 = wave.map (c.loadWith s.cache) ∧
      ((wave.mapM fun p => (c.load p).run).run s).2.cache = wave.foldl c.cacheAfter s.cache := by
  induction wave generalizing s with
  | nil => exact ⟨rfl, rfl⟩
  | cons p rest ih =>
    obtain ⟨hfirst, hrest⟩ := List.pairwise_cons.1 hwave
    obtain ⟨hresult, hcache⟩ := c.run_load p s
    obtain ⟨hresults, hcache'⟩ := ih hrest ((c.load p).run.run s).2
    rw [run_mapM_cons]
    refine ⟨?_, ?_⟩
    · rw [hresult, hresults, hcache, List.map_cons]
      refine congrArg (c.loadWith s.cache p :: ·) ?_
      apply List.map_congr_left
      intro q hq
      exact c.loadWith_congr (c.get?_cacheAfter s.cache (hfirst q hq))
    · rw [hcache', hcache]
      rfl

theorem run_loadWave (c : BuildContext) {wave : List Path} (hwave : AllDistinct wave)
    (s : BuildState) :
    ((c.loadWave wave).run.run s).1 = wave.mapM (c.loadWith s.cache) ∧
      ((c.loadWave wave).run.run s).2.cache = wave.foldl c.cacheAfter s.cache := by
  obtain ⟨hresults, hcache⟩ := c.run_mapM_load hwave s
  unfold loadWave
  rw [BuildM.run_bind]
  cases hrun : (wave.mapM fun p => (c.load p).run).run s with
  | mk results s' =>
    rw [hrun] at hresults hcache
    have hlift : (ExceptT.lift (wave.mapM fun p => (c.load p).run) : BuildM _).run.run s
        = (.ok results, s') := by
      rw [ExceptT.run_lift, StateT.run_map, hrun]
      rfl
    rw [hlift]
    refine ⟨?_, hcache⟩
    show (results.mapM id).mapError id = _
    have hid : ∀ x : Except BuildError (List Loaded), x.mapError id = x := by
      intro x
      cases x <;> rfl
    obtain rfl : results = wave.map (c.loadWith s.cache) := hresults
    rw [hid, List.mapM_map]
    rfl

/-! ## All waves -/

/-- The waves from one on, at most as many as given, with some known modules. -/
def wavesWith (c : BuildContext) (cache : ModuleCache) :
    Nat → List Path → List Path → Except BuildError (List (List Loaded))
  | _, _, [] => return []
  | 0, _, _ => return []
  | n + 1, queued, wave => do
    let loaded ← wave.mapM (c.loadWith cache)
    let next := freshPaths queued (loaded.flatMap (·.dependencies.map (·.2)))
    return loaded :: (← wavesWith c cache n (queued ++ next) next)

theorem wavesWith_nil (c : BuildContext) (cache : ModuleCache) (n : Nat) (queued : List Path) :
    c.wavesWith cache n queued [] = .ok [] := by
  cases n <;> rfl

/-- The graph of a build, with some known modules. -/
def graphWith (c : BuildContext) (cache : ModuleCache) : Except BuildError ModuleGraph := do
  let entries ← c.entryPaths.mapError .file
  let first := freshPaths [] (entries.map (·.2))
  let waves ← c.wavesWith cache (c.disk.tree.size + 1) first first
  return .ofLoaded waves.flatten entries

/-- Whether a path is what some reference stands for. -/
def IsResolved (c : BuildContext) (p : Path) : Prop :=
  ∃ importer reference, c.resolve importer reference = .ok p

/-- What loading a file gives: its module, and each of its references with the path that it stands
    for, in order. -/
theorem loadWith_eq_ok_iff {c : BuildContext} {cache : ModuleCache} {p : Path} {l : Loaded} :
    c.loadWith cache p = .ok l ↔ c.moduleWith cache p = .ok l.module ∧
      List.Forall₂ (fun reference d => d.1 = reference ∧ c.resolve p reference = .ok d.2)
        l.module.references l.dependencies := by
  unfold loadWith
  rw [Result.bind_eq_ok_iff]
  constructor
  · rintro ⟨m, hm, h⟩
    obtain ⟨dependencies, hdependencies, h⟩ := Result.bind_eq_ok_iff.1 h
    cases h
    exact ⟨hm, (Result.mapM_eq_ok_iff.1 hdependencies).imp fun _ _ => Result.pair_eq_ok_iff.1⟩
  · rintro ⟨hm, hdependencies⟩
    refine ⟨l.module, hm, Result.bind_eq_ok_iff.2 ⟨l.dependencies, ?_, rfl⟩⟩
    exact Result.mapM_eq_ok_iff.2 (hdependencies.imp fun _ _ => Result.pair_eq_ok_iff.2)

/-- What a loaded file depends on is resolved. -/
theorem isResolved_of_mem_dependencies {c : BuildContext} {cache : ModuleCache} {p : Path}
    {l : Loaded} (h : c.loadWith cache p = .ok l) {d : String × Path} (hd : d ∈ l.dependencies) :
    c.resolve p d.1 = .ok d.2 := by
  obtain ⟨-, hdependencies⟩ := loadWith_eq_ok_iff.1 h
  obtain ⟨i, hi, hget⟩ := List.getElem_of_mem hd
  have hlength := hdependencies.length_eq
  obtain ⟨hreference, hresolve⟩ := hdependencies.get (i := i) (by omega) hi
  rw [List.get_eq_getElem, List.get_eq_getElem, hget] at *
  rw [hreference]
  exact hresolve

theorem isResolved_of_mem_wave {c : BuildContext} {cache : ModuleCache} {wave : List Path}
    {loaded : List Loaded} (h : wave.mapM (c.loadWith cache) = .ok loaded) {p : Path}
    (hp : p ∈ loaded.flatMap (·.dependencies.map (·.2))) : c.IsResolved p := by
  obtain ⟨l, hl, hp⟩ := List.mem_flatMap.1 hp
  obtain ⟨d, hd, rfl⟩ := List.mem_map.1 hp
  obtain ⟨q, -, hq⟩ := Result.exists_of_mem_right (Result.mapM_eq_ok_iff.1 h) hl
  exact ⟨q, d.1, isResolved_of_mem_dependencies hq hd⟩

/-- One more wave, unless there is nothing to load. -/
theorem loadWaves_succ (c : BuildContext) (n : Nat) (queued : List Path) {wave : List Path}
    (hwave : wave ≠ []) :
    c.loadWaves (n + 1) queued wave = (do
      let loaded ← c.loadWave wave
      let next := freshPaths queued (loaded.flatMap (·.dependencies.map (·.2)))
      return loaded :: (← c.loadWaves n (queued ++ next) next)) := by
  cases wave with
  | nil => exact absurd rfl hwave
  | cons p rest => rfl

theorem wavesWith_succ (c : BuildContext) (cache : ModuleCache) (n : Nat) (queued : List Path)
    {wave : List Path} (hwave : wave ≠ []) :
    c.wavesWith cache (n + 1) queued wave = (do
      let loaded ← wave.mapM (c.loadWith cache)
      let next := freshPaths queued (loaded.flatMap (·.dependencies.map (·.2)))
      return loaded :: (← c.wavesWith cache n (queued ++ next) next)) := by
  cases wave with
  | nil => exact absurd rfl hwave
  | cons p rest => rfl

/-- All that the waves give was loaded from some path. -/
theorem exists_loadWith_of_mem_waves {c : BuildContext} {cache : ModuleCache} {n : Nat}
    {queued wave : List Path} {waves : List (List Loaded)}
    (h : c.wavesWith cache n queued wave = .ok waves) {l : Loaded} (hl : l ∈ waves.flatten) :
    ∃ p, c.loadWith cache p = .ok l := by
  induction n generalizing queued wave waves with
  | zero =>
    obtain rfl : [] = waves := by cases wave <;> exact Except.ok.inj h
    cases hl
  | succ n ih =>
    by_cases hwave : wave = []
    · subst hwave
      obtain rfl : [] = waves := Except.ok.inj h
      cases hl
    rw [wavesWith_succ c cache n _ hwave] at h
    obtain ⟨loaded, hloaded, h⟩ := Result.bind_eq_ok_iff.1 h
    obtain ⟨rest, hrest, h⟩ := Result.bind_eq_ok_iff.1 h
    cases h
    rcases List.mem_append.1 hl with hl | hl
    · obtain ⟨p, -, hp⟩ := Result.exists_of_mem_right (Result.mapM_eq_ok_iff.1 hloaded) hl
      exact ⟨p, hp⟩
    · exact ih hrest hl

/-- All waves can be read off the modules that were known before the first of them: those of the
    files in `done` may have been added since. -/
theorem run_loadWaves (c : BuildContext) (cache : ModuleCache) (n : Nat) (done : List Path)
    {wave : List Path} {s : BuildState} (hdistinct : AllDistinct (done ++ wave))
    (hcache : ∀ p, (∀ q ∈ done, q.same p = false) → s.cache.get? p = cache.get? p) :
    ((c.loadWaves n (done ++ wave) wave).run.run s).1
        = c.wavesWith cache n (done ++ wave) wave ∧
      ∃ paths : List Path, (∀ p ∈ paths, p ∈ wave ∨ c.IsResolved p) ∧
        ((c.loadWaves n (done ++ wave) wave).run.run s).2.cache
          = paths.foldl c.cacheAfter s.cache := by
  have hnothing : ∀ p ∈ ([] : List Path), p ∈ wave ∨ c.IsResolved p := fun p hp => by cases hp
  induction n generalizing done wave s with
  | zero => cases wave <;> exact ⟨rfl, [], hnothing, rfl⟩
  | succ n ih =>
    by_cases hwave : wave = []
    · subst hwave
      exact ⟨rfl, [], hnothing, rfl⟩
    obtain ⟨-, hdistinctWave, hcross⟩ := List.pairwise_append.1 hdistinct
    -- no path of the wave is among those loaded before, so nothing new is known for it
    have hsame : wave.mapM (c.loadWith s.cache) = wave.mapM (c.loadWith cache) :=
      Result.mapM_congr fun p hp => c.loadWith_congr (hcache p fun q hq => hcross q hq p hp)
    obtain ⟨hresult, hcacheWave⟩ := c.run_loadWave hdistinctWave s
    rw [hsame] at hresult
    rw [loadWaves_succ c n _ hwave, wavesWith_succ c cache n _ hwave, ← hresult]
    cases hrun : (c.loadWave wave).run.run s with
    | mk result s' =>
      rw [hrun] at hresult hcacheWave
      cases result with
      | error e =>
        -- what the wave has loaded so far is kept also if it fails
        rw [BuildM.run_bind_error hrun]
        exact ⟨rfl, wave, fun p hp => .inl hp, hcacheWave⟩
      | ok loaded =>
        have hcache' : ∀ p, (∀ q ∈ done ++ wave, q.same p = false) →
            s'.cache.get? p = cache.get? p := by
          intro p hp
          rw [show s'.cache = _ from hcacheWave,
            c.get?_foldl_cacheAfter _ fun q hq => hp q (List.mem_append_right _ hq)]
          exact hcache p fun q hq => hp q (List.mem_append_left _ hq)
        obtain ⟨hwaves, paths, hpaths, hcachePaths⟩ :=
          ih (done ++ wave)
            (allDistinct_append_freshPaths hdistinct (loaded.flatMap (·.dependencies.map (·.2))))
            hcache' (fun p hp => by cases hp)
        simp only [BuildM.run_bind_ok hrun, BuildM.run_bind_pure]
        refine ⟨?_, wave ++ paths, ?_, ?_⟩
        · rw [hwaves]
          rfl
        · intro p hp
          rcases List.mem_append.1 hp with hp | hp
          · exact .inl hp
          · refine .inr ((hpaths p hp).elim (fun hp => ?_) id)
            exact isResolved_of_mem_wave hresult.symm (mem_of_mem_freshPaths hp).1
        · rw [List.foldl_append, ← show s'.cache = _ from hcacheWave, ← hcachePaths]

/-! ## The graph -/

theorem run_forM_note {α : Type} (event : α → LogEvent) (l : List α) (s : BuildState) :
    (l.forM fun a => BuildM.note (event a)).run.run s =
      (.ok (), { s with events := s.events ++ l.map event }) := by
  induction l generalizing s with
  | nil =>
    rw [List.map_nil, List.append_nil]
    rfl
  | cons a rest ih =>
    show StateT.run (ExceptT.run (BuildM.note (event a) >>= fun _ => rest.forM _)) s = _
    rw [BuildM.run_bind_ok (BuildM.run_note (event a) s), ih, List.append_assoc]
    rfl

/-- The entries have names and canonical paths if each of them has. -/
theorem entryPaths_eq_ok_iff {c : BuildContext} {entries : List (String × Path)} :
    c.entryPaths = .ok entries ↔
      List.Forall₂ (fun e entry => entry.1 = e.name ∧ c.disk.canonicalize e.path = .ok entry.2)
        c.configuration.entries entries := by
  unfold entryPaths
  rw [Result.mapM_eq_ok_iff]
  constructor
  · intro h
    exact h.imp fun _ _ => Result.pair_eq_ok_iff.1
  · intro h
    exact h.imp fun _ _ => Result.pair_eq_ok_iff.2

/-- The graph of a build can be read off the modules that were known before it. What is known after
    it comes from loading paths that are canonical, one after another. -/
theorem run_graph (c : BuildContext) (s : BuildState) :
    (c.graph.run.run s).1 = c.graphWith s.cache ∧
      ∃ paths : List Path, (∀ p ∈ paths, (∃ q, c.disk.canonicalize q = .ok p) ∨ c.IsResolved p) ∧
        (c.graph.run.run s).2.cache = paths.foldl c.cacheAfter s.cache := by
  unfold graph graphWith
  cases hentries : c.entryPaths with
  | error e =>
    rw [BuildM.run_bind_error (BuildM.run_ofResult_error rfl s)]
    exact ⟨rfl, [], (fun p hp => by cases hp), rfl⟩
  | ok entries =>
    rw [BuildM.run_bind_ok (BuildM.run_ofResult_ok rfl s)]
    have hdistinct := allDistinct_freshPaths [] (entries.map (·.2))
    have hfirst : ∀ p ∈ freshPaths [] (entries.map (·.2)), ∃ q, c.disk.canonicalize q = .ok p := by
      intro p hp
      obtain ⟨entry, hentry, rfl⟩ := List.mem_map.1 (mem_of_mem_freshPaths hp).1
      obtain ⟨e, -, -, he⟩ := Result.exists_of_mem_right (entryPaths_eq_ok_iff.1 hentries) hentry
      exact ⟨e.path, he⟩
    -- the number of waves that may be loaded does not matter here
    generalize hn : c.disk.tree.size + 1 = n
    show (StateT.run (ExceptT.run (c.loadWaves n (freshPaths _ _) _ >>= _)) s).1
      = (c.wavesWith s.cache n (freshPaths _ _) _ >>= _) ∧ ∃ paths : List Path, _ ∧
        (StateT.run (ExceptT.run (c.loadWaves n (freshPaths _ _) _ >>= _)) s).2.cache = _
    generalize freshPaths [] (entries.map (·.2)) = first at hdistinct hfirst ⊢
    obtain ⟨hwaves, paths, hpaths, hcache⟩ :=
      c.run_loadWaves s.cache n [] (s := s) hdistinct fun p _ => rfl
    have hreached : ∀ p ∈ paths, (∃ q, c.disk.canonicalize q = .ok p) ∨ c.IsResolved p :=
      fun p hp => (hpaths p hp).imp (hfirst p) id
    rw [List.nil_append] at hwaves hcache
    rw [← hwaves]
    cases hrunWaves : (c.loadWaves n first first).run.run s with
    | mk result s' =>
      rw [hrunWaves] at hcache
      cases result with
      | error e =>
        rw [BuildM.run_bind_error hrunWaves]
        exact ⟨rfl, paths, hreached, hcache⟩
      | ok waves =>
        rw [BuildM.run_bind_ok hrunWaves, BuildM.run_bind_ok (run_forM_note _ _ s')]
        exact ⟨rfl, paths, hreached, hcache⟩

end Bundler.BuildContext
