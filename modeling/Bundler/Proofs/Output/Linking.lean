import Bundler.Proofs.Build.Closure
import Bundler.Proofs.Chunk.ModuleId
import Bundler.Proofs.Configuration.Entries
import Bundler.Proofs.Output.Emission

set_option autoImplicit false

/-! # The chunks of an entry link

The scripts that an entry needs hold together (`build_links`): every module that the entry reaches is
registered once in one of them, each of its references stands for the id of the module at the path
that the reference resolves to, which is registered there as well, and the script of the entry's own
chunk starts the entry's module, wherever that module is registered. -/

namespace Bundler

/-! ## Graphs that are closures -/

namespace BuildContext

variable {c : BuildContext} {cache : ModuleCache} {g : ModuleGraph}

theorem IsClosure.edgesInRange (h : c.IsClosure cache g) : g.EdgesInRange := by
  intro i hi j hj
  obtain ⟨m, hm⟩ := ModuleGraph.exists_module_of_lt hi
  obtain ⟨p, -, -, -, hdependencies⟩ := h.modules i m hm
  obtain ⟨d, hd, rfl⟩ := ModuleGraph.mem_targets_iff.1 hj
  obtain ⟨reference, -, -, q, -, hq⟩ := Result.exists_of_mem_right hdependencies hd
  exact h.indexed.lt_size hq

theorem IsClosure.nodup_dependencies (h : c.IsClosure cache g) {i : Nat} (hi : i < g.size) :
    ((g.dependencies i).map (·.1)).Nodup := by
  obtain ⟨m, hm⟩ := ModuleGraph.exists_module_of_lt hi
  obtain ⟨p, -, -, -, hdependencies⟩ := h.modules i m hm
  have hnames : m.references.map id = (g.dependencies i).map (·.1) :=
    Result.map_eq_map hdependencies fun reference d h => h.1.symm
  rw [← hnames, List.map_id]
  exact m.references_nodup

theorem IsClosure.nodup_entries (h : c.IsClosure cache g)
    (hnames : (c.configuration.entries.map (·.name)).Nodup) : (g.entries.map (·.1)).Nodup := by
  have heq : c.configuration.entries.map (·.name) = g.entries.map (·.1) :=
    Result.map_eq_map h.entries fun e d h => h.1.symm
  rwa [← heq]

/-! ## Linking -/

/-- Whether a registration is that of a module of a build: it has the id and the content of the
    module, and each reference of the module stands in it for the id of the module at the path that
    the reference resolves to. -/
def RegistersModule (c : BuildContext) (cache : ModuleCache) (b : Build) (i : Nat)
    (r : Emit.Registration) : Prop :=
  ∃ m p, b.graph.module? i = some m ∧ c.Needed cache p ∧ m.path.same p = true ∧
    c.moduleWith cache p = .ok m ∧ b.chunks.moduleId? i = some r.id ∧ r.content = m.content ∧
    (∀ reference, reference ∈ r.dependencies.names ↔ reference ∈ m.references) ∧
    ∀ reference ∈ m.references, ∃ q j id, c.resolve p reference = .ok q ∧
      b.graph.index? q = some j ∧ j ∈ b.graph.targets i ∧
      b.chunks.moduleId? j = some id ∧ r.dependencies.get? reference = some id

/-- Whether the chunks that an entry needs link, with the module of the entry at a number. -/
structure Links (c : BuildContext) (cache : ModuleCache) (b : Build) (e : Entry) (i : Nat) :
    Prop where
  /-- The number is that of the module at the canonical path of the entry. -/
  entry : ∃ p, c.disk.canonicalize e.path = .ok p ∧ b.graph.index? p = some i
  /-- What the entry reaches stands once in its chunks. -/
  once : ∀ j, b.graph.Reaches i j →
    ((b.chunks.entryChunks e.name).flatMap (·.modules)).count j = 1
  /-- The loader comes without modules. -/
  loader : ∀ chunk ∈ b.chunks.entryChunks e.name, chunk.kind = .runtime → chunk.modules = []
  /-- Every other script registers the modules of its chunk. -/
  scripts : ∀ chunk ∈ b.chunks.entryChunks e.name, chunk.kind ≠ .runtime →
    ∃ s : Emit.ChunkScript,
      Emit.script c.configuration.context.mode b.graph b.chunks chunk = .ok s.text ∧
      List.Forall₂ (c.RegistersModule cache b) chunk.modules s.registrations ∧
      (chunk.kind = .entry → ∃ id, b.chunks.moduleId? i = some id ∧ s.entries = [id])
  /-- What a reached module refers to is registered as well. -/
  closed : ∀ j, b.graph.Reaches i j → ∀ k ∈ b.graph.targets j,
    ∃ chunk ∈ b.chunks.entryChunks e.name, k ∈ chunk.modules
  /-- One of the chunks is the entry's own. -/
  own : ∃ chunk, (b.chunks.entryChunks e.name).filter (·.kind = .entry) = [chunk] ∧
    chunk.name = e.name

theorem IsClosure.registersModule {b : Build} (h : c.IsClosure cache b.graph) {i : Nat}
    (hi : i < b.graph.size) {r : Emit.Registration} (hr : Emit.Registers b.graph b.chunks i r) :
    c.RegistersModule cache b i r := by
  obtain ⟨m, hm⟩ := ModuleGraph.exists_module_of_lt hi
  obtain ⟨p, hp, hsame, hmade, hdependencies⟩ := h.modules i m hm
  have hcontent : r.content = m.content := by
    rw [hr.content_eq, hm]
    rfl
  refine ⟨m, p, hm, hp, hsame, hmade, hr.id_eq, hcontent, fun reference => ?_,
    fun reference hreference => ?_⟩
  · rw [hr.mem_names_iff]
    constructor
    · rintro ⟨d, hd, rfl⟩
      obtain ⟨reference, hreference, hname, -⟩ := Result.exists_of_mem_right hdependencies hd
      rwa [hname]
    · intro hreference
      obtain ⟨d, hd, hname, -⟩ := Result.exists_of_mem_left hdependencies hreference
      exact ⟨d, hd, hname⟩
  · obtain ⟨d, hd, hname, q, hq, hindex⟩ := Result.exists_of_mem_left hdependencies hreference
    obtain ⟨id, hid, hget⟩ := hr.get?_eq d hd
    exact ⟨q, d.2, id, hq, hindex, ModuleGraph.mem_targets_iff.2 ⟨d, hd, rfl⟩, hid, hname ▸ hget⟩

theorem IsClosure.lt_size_of_mem_entries (h : c.IsClosure cache g) {e : String × Nat}
    (he : e ∈ g.entries) : e.2 < g.size := by
  obtain ⟨entry, -, -, p, -, hindex⟩ := Result.exists_of_mem_right h.entries he
  exact h.indexed.lt_size hindex

theorem IsClosure.exists_emit (h : c.IsClosure cache g) (template : Option String) :
    ∃ o, emit c.configuration g
      (g.assignChunks c.configuration.root c.configuration.optimization) template = .ok o :=
  Emit.exists_emit c.configuration h.edgesInRange (fun _ he => h.lt_size_of_mem_entries he) template

/-- A build of such a graph fails by its template only. -/
theorem IsClosure.exists_outputOf (h : c.IsClosure cache g) {template : Option String}
    (htemplate : c.template = .ok template) :
    ∃ o, c.outputOf g (g.assignChunks c.configuration.root c.configuration.optimization) = .ok o := by
  obtain ⟨o, ho⟩ := h.exists_emit template
  have hemit : (emit c.configuration g
      (g.assignChunks c.configuration.root c.configuration.optimization) template).mapError
        BuildError.emit = .ok o := Result.mapError_eq_ok_iff.2 ho
  unfold outputOf
  rw [htemplate]
  cases c.configuration.context.mode with
  | development =>
    exact ⟨_, Result.bind_eq_ok_iff.2 ⟨template, rfl, Result.bind_eq_ok_iff.2 ⟨o, hemit, rfl⟩⟩⟩
  | production =>
    exact ⟨_, Result.bind_eq_ok_iff.2 ⟨template, rfl, Result.bind_eq_ok_iff.2 ⟨o, hemit, rfl⟩⟩⟩

/-- A build whose graph is there succeeds if the template can be read. -/
theorem exists_build_of_graphWith (s : BuildState) (hd : c.disk.current.IsPlain)
    (hs : s.cache.Own) {g : ModuleGraph} (hg : c.graphWith s.cache = .ok g)
    {template : Option String} (htemplate : c.template = .ok template) :
    ∃ b, (c.build.run.run s).1 = .ok b ∧ b.graph = g ∧
      b.chunks = g.assignChunks c.configuration.root c.configuration.optimization := by
  have hclosure := isClosure_of_run_graph hd hs ((c.run_graph s).1.trans hg)
  obtain ⟨o, ho⟩ := hclosure.exists_outputOf htemplate
  refine ⟨⟨g, _, o⟩, (c.run_build s).1.trans ?_, rfl, rfl⟩
  exact Result.bind_eq_ok_iff.2 ⟨_, hg, Result.bind_eq_ok_iff.2 ⟨o, ho, rfl⟩⟩

/-- A project has a build if its entries are there, everything that is needed can be loaded, and the
    template can be read. -/
theorem exists_build (c : BuildContext) (s : BuildState) (hd : c.disk.current.IsPlain)
    (hs : s.cache.Own)
    (hentries : ∀ e ∈ c.configuration.entries, ∃ p, c.disk.canonicalize e.path = .ok p)
    (hloads : ∀ p, c.Needed s.cache p → ¬ c.CannotLoad s.cache p) {template : Option String}
    (htemplate : c.template = .ok template) : ∃ b, (c.build.run.run s).1 = .ok b := by
  obtain ⟨g, hg⟩ := exists_run_graph hd hentries hloads
  obtain ⟨b, hb, -⟩ := exists_build_of_graphWith s hd hs ((c.run_graph s).1.symm.trans hg) htemplate
  exact ⟨b, hb⟩

theorem buildWith_eq_ok {b : Build} (h : c.buildWith cache = .ok b) :
    c.graphWith cache = .ok b.graph ∧
      b.chunks = b.graph.assignChunks c.configuration.root c.configuration.optimization ∧
      ∀ chunk ∈ b.chunks.chunks, ∃ text,
        Emit.script c.configuration.context.mode b.graph b.chunks chunk = .ok text := by
  obtain ⟨g, hg, h⟩ := Result.bind_eq_ok_iff.1 h
  obtain ⟨output, houtput, h⟩ := Result.bind_eq_ok_iff.1 h
  cases h
  refine ⟨hg, rfl, fun chunk hchunk => ?_⟩
  obtain ⟨template, -, h⟩ := Result.bind_eq_ok_iff.1 houtput
  obtain ⟨emitted, hemitted, -⟩ := Result.bind_eq_ok_iff.1 h
  exact Emit.exists_script_of_emit (Result.mapError_eq_ok_iff.1 hemitted) hchunk

/-- The chunks that an entry needs link, for every configuration that statements make and every
    build that succeeds. -/
theorem build_links (c : BuildContext) (s : BuildState) {root : Path} {environment : NameMap String}
    {overrides : Configuration.Overrides} {registry : Registry}
    {statements : List Settings.Statement}
    (hc : Configuration.ofStatements root environment overrides registry statements
      = .ok c.configuration)
    (hd : c.disk.current.IsPlain) (hs : s.cache.Own) {b : Build}
    (hb : (c.build.run.run s).1 = .ok b) {e : Entry} (he : e ∈ c.configuration.entries) :
    ∃ i, c.Links s.cache b e i := by
  rw [(c.run_build s).1] at hb
  obtain ⟨hgraph, hchunks, hscripts⟩ := buildWith_eq_ok hb
  -- resolution and loading count through the closure only
  have hclosure : c.IsClosure s.cache b.graph := by
    obtain ⟨entries, paths, loaded, hload, hg⟩ := exists_isLoad_of_graphWith hd hgraph
    rw [hg]
    exact hload.isClosure hs
  have hnames := hclosure.nodup_entries (Configuration.nodup_entries_ofStatements hc)
  have hrange := hclosure.edgesInRange
  -- the entry is named once, so the chunks it needs are those of the graph's entry
  obtain ⟨⟨name, i⟩, hentry, hname, p, hp, hindex⟩ := Result.exists_of_mem_left hclosure.entries he
  obtain rfl : name = e.name := hname
  obtain ⟨k, hk⟩ := List.getElem?_of_mem hentry
  have hsize := hclosure.indexed.lt_size hindex
  have hown := ModuleGraph.filter_entryChunks c.configuration.root c.configuration.optimization
    hnames hk
  have honce := fun j => ModuleGraph.count_entryChunks c.configuration.root
    c.configuration.optimization hrange hnames hk hsize (j := j)
  have hmem : ∀ chunk ∈ b.chunks.entryChunks e.name, chunk ∈ b.chunks.chunks :=
    fun chunk hchunk => (List.mem_filter.1 hchunk).1
  have hsizes := fun chunk hchunk j hj => ModuleGraph.lt_size_of_mem_chunks (g := b.graph)
    c.configuration.root c.configuration.optimization (c := chunk) (i := j) hchunk hj
  rw [← hchunks] at hown honce hsizes
  refine ⟨i, ⟨p, hp, hindex⟩, honce, fun chunk hchunk hkind => ?_, fun chunk hchunk hkind => ?_,
    fun j hj k hk => ?_, _, hown, rfl⟩
  · refine List.eq_nil_iff_forall_not_mem.2 fun j hj => ?_
    exact (hsizes chunk (hmem chunk hchunk) j hj).2 hkind
  · obtain ⟨text, htext⟩ := hscripts chunk (hmem chunk hchunk)
    have hmodules : Emit.moduleScript b.graph b.chunks chunk = .ok text := by
      rw [← htext]
      unfold Emit.script
      cases hk : chunk.kind with
      | runtime => exact absurd hk hkind
      | vendor => rfl
      | common => rfl
      | entry => rfl
    obtain ⟨script, rfl, hregistrations, hentries⟩ := Emit.exists_chunkScript
      (fun j hj => hclosure.nodup_dependencies (hsizes chunk (hmem chunk hchunk) j hj).1) hmodules
    refine ⟨script, htext, Result.forall₂_imp_of_mem hregistrations fun j hj r hr =>
      hclosure.registersModule (hsizes chunk (hmem chunk hchunk) j hj).1 hr, fun hentryKind => ?_⟩
    -- the only chunk of this kind is the entry's own
    have hchunkOwn : chunk ∈ (b.chunks.entryChunks e.name).filter (·.kind = .entry) :=
      List.mem_filter.2 ⟨hchunk, decide_eq_true hentryKind⟩
    rw [hown] at hchunkOwn
    rw [List.mem_singleton.1 hchunkOwn] at hentries
    cases hids : script.entries with
    | nil =>
      rw [hids] at hentries
      cases hentries
    | cons id rest =>
      rw [hids] at hentries
      cases hentries with
      | cons hid hrest =>
        cases hrest
        exact ⟨id, hid, rfl⟩
  · have hcount := honce k (hj.tail hk)
    have hpos : 0 < ((b.chunks.entryChunks e.name).flatMap (·.modules)).count k := by
      rw [hcount]
      exact Nat.one_pos
    exact List.mem_flatMap.1 (List.count_pos_iff.1 hpos)

/-- The chunks of two scripts and an image link, and the registration of the first script names the
    ids of the other script and of the image. -/
theorem build_links_pictured :
    let c := pictured
    let s : BuildState := {}
    (c.disk.current.IsPlain ∧ s.cache.Own) ∧
    ∃ b, (c.build.run.run s).1 = .ok b ∧ (∀ e ∈ c.configuration.entries, ∃ i, c.Links s.cache b e i) ∧
      ∃ chunk ∈ b.chunks.entryChunks "main", ∃ (script : Emit.ChunkScript) (r : Emit.Registration),
        Emit.script c.configuration.context.mode b.graph b.chunks chunk = .ok script.text ∧
        r ∈ script.registrations ∧ r.id = "a.js" ∧ r.dependencies.get? "/b.js" = some "b.js" ∧
        r.dependencies.get? "/c.png" = some "c.png" := by
  intro c s
  have hplain : c.disk.current.IsPlain := by decide
  obtain ⟨hentries, -, htemplate, -⟩ := configuration_pictured
  obtain ⟨b, hb, hgraph, hchunks⟩ := exists_build_of_graphWith s hplain ModuleCache.own_empty
    graphWith_pictured (template_of_eq_none htemplate)
  rw [assignChunks_pictured] at hchunks
  have hlinks : ∀ e ∈ c.configuration.entries, ∃ i, c.Links s.cache b e i := fun e he =>
    build_links c s ofStatements_pictured hplain ModuleCache.own_empty hb he
  refine ⟨⟨hplain, ModuleCache.own_empty⟩, b, hb, hlinks, ?_⟩
  obtain ⟨i, hi⟩ := hlinks ⟨"main", ⟨"/a.js"⟩⟩ (hentries ▸ List.mem_cons_self)
  have hchunk : ⟨"main", .entry, [0, 1, 2], some 0⟩ ∈ b.chunks.entryChunks "main" := by
    rw [hchunks]
    decide
  obtain ⟨script, hscript, hregistrations, -⟩ := hi.scripts _ hchunk (by decide)
  obtain ⟨r, hr, hregisters⟩ :=
    Result.exists_of_mem_left hregistrations (List.mem_cons_self : 0 ∈ [0, 1, 2])
  obtain ⟨m, p, hm, hp, hsame, -, hid, -, -, hdependencies⟩ := hregisters
  rw [hgraph] at hm hdependencies
  rw [hchunks] at hid hdependencies
  obtain rfl : picturedEntry = m := Option.some.inj hm
  obtain rfl : ⟨"/a.js"⟩ = p := by
    have hcanonical : (⟨"/a.js"⟩ : Path).IsCanonical := ⟨["a.js"], by decide, by decide⟩
    exact hcanonical.eq_of_same (hp.isCanonical hplain) hsame
  obtain ⟨hresolved, hresolved'⟩ := resolve_pictured
  obtain ⟨q, j, id, hq, hj, -, hjd, hget⟩ := hdependencies "/b.js" (by decide)
  obtain rfl := Except.ok.inj (hresolved.symm.trans hq)
  obtain rfl : 1 = j := Option.some.inj hj
  obtain ⟨q, j, id', hq, hj, -, hjd', hget'⟩ := hdependencies "/c.png" (by decide)
  obtain rfl := Except.ok.inj (hresolved'.symm.trans hq)
  obtain rfl : 2 = j := Option.some.inj hj
  exact ⟨_, hchunk, script, r, hscript, hr, (Option.some.inj hid).symm, hget.trans hjd.symm,
    hget'.trans hjd'.symm⟩

end BuildContext

end Bundler
