import Bundler.Development.Session
import Bundler.Proofs.Build.Failures
import Bundler.Proofs.Output.Linking

set_option autoImplicit false

/-! # What a build looks up

A build looks up the transforms that rules name, the modules that references and entries stand for,
and the ids of modules. What makes sure that they are found stands far from where they are looked
up: rules are checked when the settings are read, and the rest holds of every graph that is a
closure of the entries. The modules that a build knows from before do not get in the way, since
builds leave every module under its own path (`ModuleCache.FilledBy.own`). So no build fails because
of a lookup, and with a graph and a template it succeeds (`internal_errors_unreachable`). -/

namespace Bundler

/-! ## Known modules -/

namespace ModuleCache

variable {cache : ModuleCache}

theorem Own.erase (h : cache.Own) (p : Path) : (cache.erase p).Own :=
  fun e he => h e (List.mem_filter.1 he).1

theorem Own.insert (h : cache.Own) {p : Path} {m : Module} (hm : m.path.same p = true) :
    (cache.insert p m).Own := by
  intro e he
  rcases List.mem_cons.1 he with rfl | he
  · exact hm
  · exact h.erase p e he

theorem Own.cacheAfter (h : cache.Own) (c : BuildContext) (p : Path) :
    (c.cacheAfter cache p).Own := by
  unfold BuildContext.cacheAfter
  split
  · next m _ hmade =>
    refine h.insert ?_
    rw [BuildContext.path_of_made hmade]
    exact Path.same_self p
  · exact h

/-- A build leaves modules under their own paths, whether it succeeds or fails halfway. -/
theorem Own.run_build {s : BuildState} (h : s.cache.Own) (c : BuildContext) :
    (c.build.run.run s).2.cache.Own := by
  obtain ⟨-, paths, -, hcache⟩ := c.run_graph s
  rw [(c.run_build s).2, hcache]
  exact List.foldlRecOn (motive := ModuleCache.Own) _ _ h fun _ h p _ => h.cacheAfter c p

/-- Whether some known modules are what builds of a configuration leave, one after another and each
    with files of its own, some of which may be forgotten in between. -/
inductive FilledBy (configuration : Configuration) (registry : Registry) : ModuleCache → Prop
  | empty : FilledBy configuration registry .empty
  | build (disk : Disk) (s : BuildState) (h : FilledBy configuration registry s.cache) :
      FilledBy configuration registry
        ((⟨configuration, registry, disk⟩ : BuildContext).build.run.run s).2.cache
  | erase (cache : ModuleCache) (p : Path) (h : FilledBy configuration registry cache) :
      FilledBy configuration registry (cache.erase p)

theorem FilledBy.own {configuration : Configuration} {registry : Registry}
    (h : cache.FilledBy configuration registry) : cache.Own := by
  induction h with
  | empty => exact own_empty
  | build disk s _ ih => exact ih.run_build _
  | erase cache p _ ih => exact ih.erase p

theorem FilledBy.foldl_erase {configuration : Configuration} {registry : Registry}
    (h : cache.FilledBy configuration registry) (paths : List Path) :
    (paths.foldl .erase cache).FilledBy configuration registry :=
  List.foldlRecOn (motive := FilledBy configuration registry) _ _ h
    fun cache h p _ => h.erase cache p

end ModuleCache

/-- The modules that a session knows are left by its builds: when it starts, and after each group of
    changes. -/
theorem Session.filledBy_rebuild {c : BuildContext} {s : Session}
    (h : s.cache.FilledBy c.configuration c.registry) :
    (s.rebuild c).1.cache.FilledBy c.configuration c.registry := by
  have hbuild : ((c.buildFrom ModuleGraph.owned).run.run { cache := s.cache }).2.cache.FilledBy
      c.configuration c.registry := .build c.disk { cache := s.cache } h
  unfold rebuild rebuildFrom
  split
  · next build state heq =>
    rw [heq] at hbuild
    exact hbuild
  · next e state heq =>
    rw [heq] at hbuild
    exact hbuild

theorem Session.filledBy_update {c : BuildContext} {s : Session}
    (h : s.cache.FilledBy c.configuration c.registry) (changed : List Path) :
    (s.update c changed).1.cache.FilledBy c.configuration c.registry :=
  filledBy_rebuild (h.foldl_erase _)

namespace BuildContext

variable {c : BuildContext} {cache : ModuleCache} {g : ModuleGraph}

/-! ## Graphs -/

/-- Every entry has a chunk of its own, which starts the module at the path of the entry. -/
theorem IsClosure.exists_entryChunk (h : c.IsClosure cache g) {e : Entry}
    (he : e ∈ c.configuration.entries) :
    ∃ p i m, c.disk.canonicalize e.path = .ok p ∧ g.module? i = some m ∧ m.path.same p = true ∧
      ∃ chunk ∈ (g.assignChunks c.configuration.root c.configuration.optimization).chunks,
        chunk.kind = .entry ∧ chunk.name = e.name ∧ chunk.entry = some i := by
  obtain ⟨⟨name, i⟩, hentry, rfl, p, hp, hindex⟩ := Result.exists_of_mem_left h.entries he
  obtain ⟨m, hm, hsame⟩ := h.indexed.exists_module hindex
  obtain ⟨k, hk⟩ := List.getElem?_of_mem hentry
  refine ⟨p, i, m, hp, hm, hsame, ⟨e.name, .entry, g.sentTo c.configuration.root
    c.configuration.optimization g.owned (.entry k), some i⟩, ?_, rfl, rfl, rfl⟩
  rw [ModuleGraph.chunks_assignChunks]
  exact List.mem_cons_of_mem _ (List.mem_append_right _
    (List.mem_map.2 ⟨((e.name, i), k), List.mem_zipIdx_iff_getElem?.2 hk, rfl⟩))

/-! ## Builds -/

/-- For every configuration that statements make with a registry, every disk, and known modules that
    builds of the configuration have left: no build fails because a transform is not registered,
    and no failure reads so unless a transform of the registry gives this reason itself. No build
    misses the id of a module. With a graph, everything can be emitted, the build succeeds if the
    template is a text, and each entry has a chunk that starts its module. -/
theorem internal_errors_unreachable (c : BuildContext) (s : BuildState) {root : Path}
    {environment : NameMap String} {overrides : Configuration.Overrides}
    {statements : List Settings.Statement}
    (hc : Configuration.ofStatements root environment overrides c.registry statements
      = .ok c.configuration)
    (hd : c.disk.current.IsPlain) (hs : s.cache.FilledBy c.configuration c.registry) :
    (∀ e, (c.build.run.run s).1 = .error (.transform e) → e.cause ≠ .notRegistered ∧
      (e.cause.message = TransformCause.notRegistered.message →
        ∃ name t content, c.registry.get? name = some t ∧
          t.run c.configuration.context e.path content =
            .error (.because TransformCause.notRegistered.message))) ∧
    (∀ p, (c.build.run.run s).1 ≠ .error (.emit (.moduleIdNotFound p))) ∧
    ∀ g, (c.graph.run.run s).1 = .ok g →
      (∀ template, ∃ o, emit c.configuration g
        (g.assignChunks c.configuration.root c.configuration.optimization) template = .ok o) ∧
      (∀ template, c.template = .ok template →
        ∃ b, (c.build.run.run s).1 = .ok b ∧ b.graph = g) ∧
      ∀ e ∈ c.configuration.entries, ∃ p i m, c.disk.canonicalize e.path = .ok p ∧
        g.module? i = some m ∧ m.path.same p = true ∧
        ∃ chunk ∈ (g.assignChunks c.configuration.root c.configuration.optimization).chunks,
          chunk.kind = .entry ∧ chunk.name = e.name ∧ chunk.entry = some i := by
  have hrules : ∀ r ∈ c.configuration.rules, r.IsRegistered c.registry :=
    fun r hr => Configuration.isRegistered_of_mem_rules hc hr
  have hclosure : ∀ g, (c.graph.run.run s).1 = .ok g → c.IsClosure s.cache g :=
    fun g hg => isClosure_of_run_graph hd hs.own hg
  refine ⟨fun e he => ?_, fun p hp => ?_, fun g hg => ⟨(hclosure g hg).exists_emit,
    fun template htemplate => ?_, fun e he => (hclosure g hg).exists_entryChunk he⟩⟩
  · rcases cause_of_run_build hrules he with
      hcause | hcause | ⟨name, t, content, refusal, ht, hrun, hcause⟩
    · rw [hcause]
      exact ⟨nofun, fun hmessage => absurd hmessage (by decide)⟩
    · rw [hcause]
      exact ⟨nofun, fun hmessage => absurd hmessage (by decide)⟩
    · rw [hcause]
      refine ⟨nofun, fun hmessage => ⟨name, t, content, ht, ?_⟩⟩
      cases refusal with
      | notUtf8 => exact absurd hmessage (by decide)
      | because message =>
        obtain rfl : message = TransformCause.notRegistered.message := hmessage
        exact hrun
  · obtain ⟨g, template, hg, hfail⟩ := emit_of_moduleIdNotFound hp
    obtain ⟨o, ho⟩ := (hclosure g ((c.run_graph s).1.trans hg)).exists_emit template
    rw [ho] at hfail
    cases hfail
  · obtain ⟨b, hb, hgraph, -⟩ :=
      exists_build_of_graphWith s hd hs.own ((c.run_graph s).1.symm.trans hg) htemplate
    exact ⟨b, hb, hgraph⟩

/-! ## A project with a rule -/

/-- What the settings of a project at the root say whose scripts have a rule. -/
def ruledStatements : List Settings.Statement :=
  [.entry "main" "a.js", .rule "scripts" [⟨"test", "\\.js$"⟩, ⟨"use", "script"⟩]]

/-- The configuration of that project. -/
def ruledConfiguration : Configuration :=
  (Configuration.ofStatements ⟨"/"⟩ .empty { mode := some .development } Transform.standard
    ruledStatements).toOption.get (by decide +kernel)

/-- The project of that configuration, with an empty file for its entry. -/
def ruled : BuildContext := ⟨ruledConfiguration, Transform.standard, (lone "").disk⟩

theorem ofStatements_ruled :
    Configuration.ofStatements ⟨"/"⟩ .empty { mode := some .development } Transform.standard
      ruledStatements = .ok ruledConfiguration :=
  Result.eq_ok_get _

/-- An empty script without constants stays empty. -/
theorem run_script_empty {context : TransformContext} (p : Path)
    (h : Script.replaceConstants context.constants "" = "") :
    Transform.script.run context p "".toUTF8 = .ok ⟨"".toUTF8, []⟩ := by
  have hdecode : Transform.decode "".toUTF8 = .ok "" := by
    unfold Transform.decode
    rw [fromUTF8?_toUTF8]
  refine Result.bind_eq_ok_iff.2 ⟨"", hdecode, ?_⟩
  dsimp only
  rw [h]
  unfold Transform.referencesOf
  rw [references_empty]
  rfl

theorem exists_made_ruled : ∃ m, ruled.made ⟨"/a.js"⟩ = .ok m ∧ m.references = [] := by
  have hrules : (ruledConfiguration.rule? ⟨"/a.js"⟩).map (·.transforms) = some ["script"] := by
    decide +kernel
  have hconstants : Script.replaceConstants ruledConfiguration.context.constants "" = "" := by
    decide +kernel
  have hscript : ruled.registry.get? "script" = some Transform.script := rfl
  obtain ⟨rule, hrule, htransforms⟩ := Option.map_eq_some_iff.1 hrules
  have hfile := transformFile_of_applyChain (c := ruled) (holds_lone "").read hrule
    (htransforms ▸ .cons hscript .nil)
    (Transform.applyChain_singleton (run_script_empty ⟨"/a.js"⟩ hconstants))
  have htext : (⟨"".toUTF8, []⟩ : Transformed).content = "".toUTF8 := rfl
  exact ⟨_, made_of_transformFile hfile htext, rfl⟩

/-- With the modules that a build has left, that project has a graph again, and a build. -/
theorem internal_errors_unreachable_ruled :
    let c := ruled
    let s : BuildState := { cache := (c.build.run.run {}).2.cache }
    Configuration.ofStatements ⟨"/"⟩ .empty { mode := some .development } c.registry
      ruledStatements = .ok c.configuration ∧
    c.disk.current.IsPlain ∧ s.cache.FilledBy c.configuration c.registry ∧
    (∀ e, (c.build.run.run s).1 = .error (.transform e) → e.cause ≠ .notRegistered) ∧
    (∀ p, (c.build.run.run s).1 ≠ .error (.emit (.moduleIdNotFound p))) ∧
    ∃ g b, (c.graph.run.run s).1 = .ok g ∧ (c.build.run.run s).1 = .ok b ∧ b.graph = g ∧
      ∃ i, ∃ chunk ∈ (g.assignChunks c.configuration.root c.configuration.optimization).chunks,
        chunk.kind = .entry ∧ chunk.name = "main" ∧ chunk.entry = some i := by
  intro c s
  have hd : c.disk.current.IsPlain := by decide
  have hs : s.cache.FilledBy c.configuration c.registry := .build c.disk {} .empty
  have hentries : c.configuration.entries = [⟨"main", ⟨"/a.js"⟩⟩] := by decide
  have htemplate : c.configuration.output.template = none := by decide
  obtain ⟨m, hmade, hreferences⟩ := exists_made_ruled
  -- what the first build has left is what the second one would make again
  have hsame : c.graphWith s.cache = c.graphWith .empty :=
    graphWith_eq_of_upToDate hd (upToDate_run_buildFrom hd upToDate_empty _)
  have hgraph := (c.run_graph s).1.trans (hsame.trans
    (graphWith_of_single hentries (holds_lone "").canonicalize hmade hreferences))
  obtain ⟨htransforms, hids, hbuilt⟩ := internal_errors_unreachable c s ofStatements_ruled hd hs
  obtain ⟨-, hbuild, hchunks⟩ := hbuilt _ hgraph
  obtain ⟨b, hb, hbgraph⟩ := hbuild none (template_of_eq_none htemplate)
  obtain ⟨-, i, -, -, -, -, chunk, hchunk, hkind, hname, hentry⟩ :=
    hchunks _ (hentries ▸ List.mem_singleton_self _)
  exact ⟨ofStatements_ruled, hd, hs, fun e he => (htransforms e he).1, hids, _, b, hgraph, hb,
    hbgraph, i, chunk, hchunk, hkind, hname, hentry⟩

end BuildContext

end Bundler
