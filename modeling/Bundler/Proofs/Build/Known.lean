import Bundler.Build
import Bundler.Configuration.OfStatements
import Bundler.Proofs.Build.Waves
import Bundler.Proofs.Disk
import Bundler.Proofs.Graph.Built

set_option autoImplicit false

/-! # Builds with known modules

Known modules are up to date if each is what its file would be made into again. A build with such
modules gives the same as one that knows none (`buildWithFrom_eq_of_upToDate`), and leaves such
modules behind, whether it succeeds or fails halfway (`upToDate_run_buildFrom`). Only canonical paths
matter, since a build asks for the modules of no others. -/

namespace Bundler

namespace BuildContext

variable {c : BuildContext} {cache : ModuleCache}

/-- Whether each known module is what its file would be made into again. -/
def UpToDate (c : BuildContext) (cache : ModuleCache) : Prop :=
  ∀ p m, p.IsCanonical → cache.get? p = some m → c.made p = .ok m

theorem upToDate_empty : c.UpToDate .empty := by
  intro p m _ hget
  rw [ModuleCache.get?_empty] at hget
  cases hget

/-! ## What is known after a build -/

theorem UpToDate.cacheAfter (h : c.UpToDate cache) {p : Path} (hp : p.IsCanonical) :
    c.UpToDate (c.cacheAfter cache p) := by
  intro q m hq hget
  unfold BuildContext.cacheAfter at hget
  split at hget
  · next m' _ hmade =>
    rw [ModuleCache.get?_insert] at hget
    split at hget
    · next hsame =>
      obtain rfl := Option.some_inj.1 hget
      rwa [← hp.eq_of_same hq hsame]
    · exact h q m hq hget
  · exact h q m hq hget

theorem UpToDate.foldl_cacheAfter {paths : List Path} (h : c.UpToDate cache)
    (hpaths : ∀ p ∈ paths, p.IsCanonical) : c.UpToDate (paths.foldl c.cacheAfter cache) := by
  induction paths generalizing cache with
  | nil => exact h
  | cons p rest ih =>
    rw [List.foldl_cons]
    exact ih (h.cacheAfter (hpaths p List.mem_cons_self))
      fun q hq => hpaths q (List.mem_cons_of_mem _ hq)

theorem isCanonical_of_isResolved (hd : c.disk.current.IsPlain) {p : Path} (h : c.IsResolved p) :
    p.IsCanonical := by
  obtain ⟨importer, reference, h⟩ := h
  obtain ⟨q, -, -, hq, -⟩ := Resolution.exists_file_of_resolve (Result.mapError_eq_ok_iff.1 h)
  exact Disk.isCanonical_of_canonicalize hd hq

theorem upToDate_run_graph (hd : c.disk.current.IsPlain) {s : BuildState}
    (h : c.UpToDate s.cache) : c.UpToDate (c.graph.run.run s).2.cache := by
  obtain ⟨-, paths, hpaths, hcache⟩ := c.run_graph s
  rw [hcache]
  refine h.foldl_cacheAfter fun p hp => ?_
  rcases hpaths p hp with ⟨q, hq⟩ | hp
  · exact Disk.isCanonical_of_canonicalize hd hq
  · exact isCanonical_of_isResolved hd hp

/-! ## What a build gives -/

/-- Loading a file gives the same as with no known modules. -/
theorem loadWith_eq_of_upToDate (h : c.UpToDate cache) {p : Path} (hp : p.IsCanonical) :
    c.loadWith cache p = c.loadWith .empty p := by
  have hmodule : c.moduleWith cache p = c.moduleWith .empty p := by
    unfold moduleWith
    rw [ModuleCache.get?_empty]
    split
    · next m hget => exact (h p m hp hget).symm
    · rfl
  unfold loadWith
  rw [hmodule]

theorem wavesWith_eq_of_upToDate (hd : c.disk.current.IsPlain) (h : c.UpToDate cache) (n : Nat)
    (queued : List Path) {wave : List Path} (hwave : ∀ p ∈ wave, p.IsCanonical) :
    c.wavesWith cache n queued wave = c.wavesWith .empty n queued wave := by
  induction n generalizing queued wave with
  | zero => cases wave <;> rfl
  | succ n ih =>
    by_cases hempty : wave = []
    · rw [hempty]
      rfl
    have hloads : wave.mapM (c.loadWith cache) = wave.mapM (c.loadWith .empty) :=
      Result.mapM_congr fun p hp => loadWith_eq_of_upToDate h (hwave p hp)
    rw [wavesWith_succ c cache n _ hempty, wavesWith_succ c .empty n _ hempty, hloads]
    cases hloaded : wave.mapM (c.loadWith .empty) with
    | error e => rfl
    | ok loaded =>
      have hnext : ∀ p ∈ freshPaths queued (loaded.flatMap (·.dependencies.map (·.2))),
          p.IsCanonical := fun p hp =>
        isCanonical_of_isResolved hd (isResolved_of_mem_wave hloaded (mem_of_mem_freshPaths hp).1)
      show (c.wavesWith cache n _ _ >>= _) = (c.wavesWith .empty n _ _ >>= _)
      rw [ih _ hnext]

theorem graphWith_eq_of_upToDate (hd : c.disk.current.IsPlain) (h : c.UpToDate cache) :
    c.graphWith cache = c.graphWith .empty := by
  unfold graphWith
  cases hentries : c.entryPaths with
  | error e => rfl
  | ok entries =>
    have hfirst : ∀ p ∈ freshPaths [] (entries.map (·.2)), p.IsCanonical := by
      intro p hp
      obtain ⟨entry, hentry, rfl⟩ := List.mem_map.1 (mem_of_mem_freshPaths hp).1
      obtain ⟨e, -, -, he⟩ := Result.exists_of_mem_right (entryPaths_eq_ok_iff.1 hentries) hentry
      exact Disk.isCanonical_of_canonicalize hd he
    show (c.wavesWith cache _ _ _ >>= _) = (c.wavesWith .empty _ _ _ >>= _)
    rw [wavesWith_eq_of_upToDate hd h _ _ hfirst]

theorem built_of_graphWith {g : ModuleGraph} (h : c.graphWith cache = .ok g) : g.Built := by
  obtain ⟨entries, -, h⟩ := Result.bind_eq_ok_iff.1 h
  obtain ⟨waves, -, h⟩ := Result.bind_eq_ok_iff.1 h
  cases h
  exact ModuleGraph.built_ofLoaded _ _

/-! ## Whole builds -/

theorem template_of_eq_none (h : c.configuration.output.template = none) :
    c.template = .ok none := by
  unfold template
  rw [h]
  rfl

/-- The files of a graph whose modules are divided into chunks, without the events. -/
def outputOf (c : BuildContext) (g : ModuleGraph) (chunks : ChunkSet) :
    Except BuildError BuildOutput := do
  let template ← c.template
  let output ← (emit c.configuration g chunks template).mapError .emit
  match c.configuration.context.mode with
  | .development => return output
  | .production => return (output.compress c.configuration.optimization.compression).1

/-- The build of a project with some known modules, which finds the modules that entries reach in
    some order. -/
def buildWithFrom (c : BuildContext) (found : ModuleGraph → List Nat) (cache : ModuleCache) :
    Except BuildError Build := do
  let graph ← c.graphWith cache
  let chunks := graph.assignChunksFrom c.configuration.root c.configuration.optimization
    (found graph)
  return ⟨graph, chunks, ← c.outputOf graph chunks⟩

/-- The build of a project with some known modules. -/
def buildWith (c : BuildContext) (cache : ModuleCache) : Except BuildError Build :=
  c.buildWithFrom ModuleGraph.owned cache

theorem run_output (c : BuildContext) (g : ModuleGraph) (chunks : ChunkSet) (s : BuildState) :
    ((c.output g chunks).run.run s).1 = c.outputOf g chunks ∧
      ((c.output g chunks).run.run s).2.cache = s.cache := by
  unfold output outputOf
  rw [BuildM.run_bind, BuildM.run_ofResult]
  cases c.template with
  | error e => exact ⟨rfl, rfl⟩
  | ok template =>
    show (StateT.run (ExceptT.run (BuildM.ofResult _ _ >>= _)) s).1 = _ ∧
      (StateT.run (ExceptT.run (BuildM.ofResult _ _ >>= _)) s).2.cache = _
    rw [BuildM.run_bind, BuildM.run_ofResult]
    show _ = (Except.mapError BuildError.emit (emit c.configuration g chunks template) >>= _) ∧ _
    cases emit c.configuration g chunks template with
    | error e => exact ⟨rfl, rfl⟩
    | ok output =>
      show (StateT.run (ExceptT.run (BuildM.note _ >>= _)) s).1 = _ ∧
        (StateT.run (ExceptT.run (BuildM.note _ >>= _)) s).2.cache = _
      rw [BuildM.run_bind_ok (BuildM.run_note _ s)]
      cases hmode : c.configuration.context.mode with
      | development => exact ⟨rfl, rfl⟩
      | production => exact ⟨rfl, rfl⟩

/-- The build of a project can be read off the modules that were known before it, and what is known
    after it is what the graph has left. -/
theorem run_buildFrom (c : BuildContext) (found : ModuleGraph → List Nat) (s : BuildState) :
    ((c.buildFrom found).run.run s).1 = c.buildWithFrom found s.cache ∧
      ((c.buildFrom found).run.run s).2.cache = (c.graph.run.run s).2.cache := by
  unfold buildFrom buildWithFrom
  rw [← (c.run_graph s).1]
  cases hgraph : c.graph.run.run s with
  | mk result s' =>
    cases result with
    | error e =>
      rw [BuildM.run_bind_error hgraph]
      exact ⟨rfl, rfl⟩
    | ok g =>
      rw [BuildM.run_bind_ok hgraph, BuildM.run_bind_ok (BuildM.run_note _ s')]
      show (StateT.run (ExceptT.run (BuildM.note _ >>= _)) _).1 = _ ∧
        (StateT.run (ExceptT.run (BuildM.note _ >>= _)) _).2.cache = _
      rw [BuildM.run_bind_ok (BuildM.run_note _ _)]
      show (StateT.run (ExceptT.run (c.output g _ >>= _)) _).1 = (c.outputOf g _ >>= _) ∧ _
      generalize g.assignChunksFrom _ _ _ = chunks
      generalize hs : BuildState.mk _ _ = s₂
      have hcache : s₂.cache = s'.cache := by
        rw [← hs]
      obtain ⟨hresult, hcache'⟩ := c.run_output g chunks s₂
      rw [← hresult, BuildM.run_bind_pure]
      exact ⟨rfl, hcache'.trans hcache⟩

theorem run_build (c : BuildContext) (s : BuildState) :
    (c.build.run.run s).1 = c.buildWith s.cache ∧
      (c.build.run.run s).2.cache = (c.graph.run.run s).2.cache :=
  c.run_buildFrom ModuleGraph.owned s

theorem buildWithFrom_eq_of_upToDate (hd : c.disk.current.IsPlain) (h : c.UpToDate cache)
    (found : ModuleGraph → List Nat) :
    c.buildWithFrom found cache = c.buildWithFrom found .empty := by
  unfold buildWithFrom
  rw [graphWith_eq_of_upToDate hd h]

theorem upToDate_run_buildFrom (hd : c.disk.current.IsPlain) {s : BuildState}
    (h : c.UpToDate s.cache) (found : ModuleGraph → List Nat) :
    c.UpToDate ((c.buildFrom found).run.run s).2.cache := by
  rw [(c.run_buildFrom found s).2]
  exact upToDate_run_graph hd h

/-! ## Files without a rule -/

theorem rule?_of_rules_eq_nil (h : c.configuration.rules = []) (p : Path) :
    c.configuration.rule? p = none := by
  unfold Configuration.rule?
  rw [h]
  rfl

/-- A file without a rule is passed on as what it is classified as. -/
theorem transformFile_of_rule?_eq_none {p : Path} {content : ByteArray}
    (hread : c.disk.read p = .ok content) (hrule : c.configuration.rule? p = none) :
    c.transformFile p =
      match c.configuration.passthrough.classify? c.configuration.resolution.extensions p with
      | some .module => ((Transform.passModule p content).mapError .transform).map (·, [])
      | some .asset =>
        ((Transform.passAsset c.configuration.context p content).mapError .transform).map (·, [])
      | none => .error (.unhandled p) := by
  unfold transformFile
  simp only [hread, Except.mapError, bind, Except.bind, hrule]
  rfl

theorem eq_of_fromUTF8? {content : ByteArray} {text : String}
    (h : String.fromUTF8? content = some text) : content = text.toUTF8 := by
  unfold String.fromUTF8? at h
  split at h
  · cases h
    rfl
  · cases h

/-- A module without a rule has the text of its file and refers to what the text refers to. -/
theorem made_eq_ok_iff_of_module {p : Path} {m : Module}
    (hrule : c.configuration.rule? p = none)
    (hkind : c.configuration.passthrough.classify? c.configuration.resolution.extensions p
      = some .module) :
    c.made p = .ok m ↔ ∃ text, c.disk.read p = .ok text.toUTF8 ∧
      m = .ofContent p text (Script.references text) [] [] := by
  have hmade : ∀ text, c.disk.read p = .ok text.toUTF8 →
      c.made p = .ok (.ofContent p text (Script.references text) [] []) := by
    intro text hread
    have hpass : Transform.passModule p text.toUTF8
        = .ok ⟨text.toUTF8, Transform.referencesOf text⟩ := by
      unfold Transform.passModule Transform.decode
      rw [fromUTF8?_toUTF8]
    have hfile : c.transformFile p = .ok (⟨text.toUTF8, Transform.referencesOf text⟩, []) := by
      rw [transformFile_of_rule?_eq_none hread hrule, hkind, hpass]
      rfl
    rw [made_of_transformFile hfile rfl]
    simp [Transformed.references, Transformed.assets, Transform.referencesOf, List.filterMap_map]
  constructor
  · intro h
    obtain ⟨result, htransformed, -⟩ := Result.bind_eq_ok_iff.1 h
    obtain ⟨content, hread, -⟩ := Result.bind_eq_ok_iff.1 htransformed
    have hread := Result.mapError_eq_ok_iff.1 hread
    rw [transformFile_of_rule?_eq_none hread hrule, hkind] at htransformed
    -- only a file that is a text can be passed on as a module
    cases htext : String.fromUTF8? content with
    | some text =>
      rw [eq_of_fromUTF8? htext] at hread
      exact ⟨text, hread, Except.ok.inj (h.symm.trans (hmade text hread))⟩
    | none =>
      unfold Transform.passModule Transform.decode at htransformed
      rw [htext] at htransformed
      cases htransformed
  · rintro ⟨text, hread, rfl⟩
    exact hmade text hread

theorem made_of_passModule {p : Path} {text : String} (hread : c.disk.read p = .ok text.toUTF8)
    (hrules : c.configuration.rules = [])
    (hkind : c.configuration.passthrough.classify? c.configuration.resolution.extensions p
      = some .module) :
    c.made p = .ok (.ofContent p text (Script.references text) [] []) :=
  (made_eq_ok_iff_of_module (rule?_of_rules_eq_nil hrules p) hkind).2 ⟨text, hread, rfl⟩

theorem references_empty : Script.references "" = [] := by decide +kernel

theorem transformFile_eq_of_passAsset {p : Path} {content : ByteArray} {transformed : Transformed}
    (hread : c.disk.read p = .ok content) (hrule : c.configuration.rule? p = none)
    (hkind : c.configuration.passthrough.classify? c.configuration.resolution.extensions p
      = some .asset)
    (hpass : Transform.passAsset c.configuration.context p content = .ok transformed) :
    c.transformFile p = .ok (transformed, []) := by
  rw [transformFile_of_rule?_eq_none hread hrule, hkind, hpass]
  rfl

/-! ## A project of one file -/

/-- The configuration of a project at the root whose entry is `a.js`. -/
def loneConfiguration : Configuration :=
  (Configuration.ofStatements ⟨"/"⟩ .empty { mode := some .development } Transform.standard
    [.entry "main" "a.js"]).toOption.get (by decide +kernel)

/-- The project of that configuration, with nothing but its entry on the disk. -/
def lone (content : String) : BuildContext :=
  ⟨loneConfiguration, Transform.standard, { tree := ⟨[(["a.js"], .file content.toUTF8)]⟩ }⟩

theorem ofStatements_lone :
    Configuration.ofStatements ⟨"/"⟩ .empty { mode := some .development } Transform.standard
      [.entry "main" "a.js"] = .ok loneConfiguration :=
  Result.eq_ok_get _

/-- What the configuration says of the entry and of the ids. -/
theorem configuration_lone :
    let c := loneConfiguration
    c.entries = [⟨"main", ⟨"/a.js"⟩⟩] ∧ c.rules.length = 0 ∧ c.output.template = none ∧
      c.passthrough.classify? c.resolution.extensions ⟨"/a.js"⟩ = some .module ∧
      c.root = ⟨"/"⟩ ∧ c.optimization.deterministicIds = true := by
  decide +kernel

theorem entries_lone : loneConfiguration.entries = [⟨"main", ⟨"/a.js"⟩⟩] :=
  configuration_lone.1

theorem rules_lone : loneConfiguration.rules = [] :=
  List.length_eq_zero_iff.1 configuration_lone.2.1

theorem template_lone : loneConfiguration.output.template = none :=
  configuration_lone.2.2.1

theorem classify?_lone : loneConfiguration.passthrough.classify?
    loneConfiguration.resolution.extensions ⟨"/a.js"⟩ = some .module :=
  configuration_lone.2.2.2.1

theorem root_lone : loneConfiguration.root = ⟨"/"⟩ :=
  configuration_lone.2.2.2.2.1

theorem holds_lone (content : String) : (lone content).disk.Holds ⟨"/a.js"⟩ content.toUTF8 :=
  Disk.holds_of_node? (l := ["a.js"]) (by decide)
    (FileTree.isGrounded_of_nodes (by simp [lone, FileTree.node?])) (by decide) (by decide)
    (by decide) rfl rfl rfl

/-! ## The graph of one file -/

/-- A module with an entry of some name. -/
def loneGraph (name : String) (m : Module) : ModuleGraph where
  modules := [m]
  indexes := [(m.path, 0)]
  entries := [(name, 0)]

theorem ofLoaded_single (name : String) (m : Module) :
    ModuleGraph.ofLoaded [⟨m, []⟩] [(name, m.path)] = loneGraph name m := by
  have hindex : (ModuleGraph.addModule {} m).1.index? m.path = some 0 := by
    simp [ModuleGraph.index?, ModuleGraph.addModule, Path.same_self]
  have hlinked : (ModuleGraph.addModule {} m).1.addDependencies ⟨m, []⟩
      = (ModuleGraph.addModule {} m).1 := by
    unfold ModuleGraph.addDependencies
    split <;> rfl
  unfold ModuleGraph.ofLoaded
  rw [List.foldl_cons, List.foldl_nil, List.foldl_cons, List.foldl_nil, List.foldl_cons,
    List.foldl_nil, hlinked]
  unfold ModuleGraph.addEntryAt
  rw [hindex]
  rfl

/-- The first wave of a project with one entry holds its file. -/
theorem graphWith_of_entry {name : String} {p : Path}
    (hentries : c.configuration.entries = [⟨name, p⟩])
    (hcanonical : c.disk.canonicalize p = .ok p) :
    c.graphWith .empty = (do
      let waves ← c.wavesWith .empty (c.disk.tree.size + 1) [p] [p]
      return .ofLoaded waves.flatten [(name, p)]) := by
  have hpaths : c.entryPaths = .ok [(name, p)] := by
    rw [entryPaths_eq_ok_iff, hentries]
    exact .cons ⟨rfl, hcanonical⟩ .nil
  have hfirst : freshPaths [] [p] = [p] := ModuleGraph.distinctPaths_cons p []
  unfold BuildContext.graphWith
  rw [hpaths]
  show (c.wavesWith .empty _ (freshPaths [] [p]) (freshPaths [] [p]) >>= _) = _
  rw [hfirst]

/-- If the file of the only entry refers to nothing, the graph is its module. -/
theorem graphWith_of_single {name : String} {p : Path} {m : Module}
    (hentries : c.configuration.entries = [⟨name, p⟩]) (hcanonical : c.disk.canonicalize p = .ok p)
    (hmade : c.made p = .ok m) (hreferences : m.references = []) :
    c.graphWith .empty = .ok (loneGraph name m) := by
  have hload : c.loadWith .empty p = .ok ⟨m, []⟩ := by
    refine loadWith_eq_ok_iff.2 ⟨?_, hreferences ▸ .nil⟩
    unfold moduleWith
    rw [ModuleCache.get?_empty]
    exact hmade
  have hwaves : ∀ n, c.wavesWith .empty (n + 1) [p] [p] = .ok [[⟨m, []⟩]] := by
    intro n
    rw [wavesWith_succ c .empty n _ (List.cons_ne_nil _ _), List.mapM_cons, hload]
    show (c.wavesWith .empty n _ [] >>= _) = _
    rw [wavesWith_nil]
    rfl
  rw [graphWith_of_entry hentries hcanonical, hwaves, ← path_of_made hmade]
  exact congrArg Except.ok (ofLoaded_single name m)

/-- If there is no module of the only entry, there is no build, for the same reason. -/
theorem run_build_of_made_error {name : String} {p : Path} {e : BuildError}
    (hentries : c.configuration.entries = [⟨name, p⟩]) (hcanonical : c.disk.canonicalize p = .ok p)
    (hmade : c.made p = .error e) : (c.build.run.run {}).1 = .error e := by
  have hload : c.loadWith .empty p = .error e := by
    unfold loadWith moduleWith
    rw [ModuleCache.get?_empty]
    dsimp only
    rw [hmade]
    rfl
  have hwaves : ∀ n, c.wavesWith .empty (n + 1) [p] [p] = .error e := by
    intro n
    rw [wavesWith_succ c .empty n _ (List.cons_ne_nil _ _), List.mapM_cons, hload]
    rfl
  rw [(c.run_build {}).1]
  unfold buildWith buildWithFrom
  rw [graphWith_of_entry hentries hcanonical, hwaves]
  rfl

/-! ## The graph of one empty file -/

/-- Whether a project is that of one empty script, where its entry of some name is. -/
structure IsEmptyScript (c : BuildContext) (name : String) : Prop where
  disk : c.disk = (lone "").disk
  entries : c.configuration.entries = [⟨name, ⟨"/a.js"⟩⟩]
  rules : c.configuration.rules = []
  passthrough : c.configuration.passthrough.classify? c.configuration.resolution.extensions
    ⟨"/a.js"⟩ = some .module
  template : c.configuration.output.template = none

/-- The module of an empty script. -/
def emptyModule : Module := ⟨⟨"/a.js"⟩, "", [], [], [], List.nodup_nil⟩

/-- The graph of an empty script with an entry of some name. -/
def emptyScriptGraph (name : String) : ModuleGraph := loneGraph name emptyModule

namespace IsEmptyScript

variable {name : String}

theorem made (h : c.IsEmptyScript name) : c.made ⟨"/a.js"⟩ = .ok emptyModule := by
  have hmade := made_of_passModule (h.disk ▸ (holds_lone "").read) h.rules h.passthrough
  rwa [references_empty] at hmade

theorem graphWith (h : c.IsEmptyScript name) :
    c.graphWith .empty = .ok (emptyScriptGraph name) :=
  graphWith_of_single h.entries (h.disk ▸ (holds_lone "").canonicalize) h.made rfl

theorem run_graph (h : c.IsEmptyScript name) :
    (c.graph.run.run {}).1 = .ok (emptyScriptGraph name) :=
  (c.run_graph {}).1.trans h.graphWith

end IsEmptyScript

theorem isEmptyScript_lone : (lone "").IsEmptyScript "main" where
  disk := rfl
  entries := entries_lone
  rules := rules_lone
  passthrough := classify?_lone
  template := template_lone

end BuildContext

end Bundler
