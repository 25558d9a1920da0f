import Bundler.Proofs.Output.Addresses
import Bundler.Proofs.Output.Companions
import Bundler.Proofs.Output.Insertion
import Bundler.Proofs.Output.Linking

set_option autoImplicit false

/-! # What the document loads

The document loads the chunks that the entry it starts needs: the loader, the packages, what entries
share, and the entry's own. It asks for their files by the names of the chunks, and of chunks of one
name the first is found. So every script is the right one exactly if the entry does not have the name
of a chunk that belongs to no entry (`document_loads_iff`). -/

namespace Bundler

/-! ## The order of chunks -/

namespace ChunkSet

/-- The chunks of a kind. -/
def ofKind (s : ChunkSet) (kind : ChunkKind) : List Chunk := s.chunks.filter (·.kind = kind)

/-- The chunks that belong to no entry. -/
def shared (s : ChunkSet) : List Chunk := s.ofKind .runtime ++ s.ofKind .vendor ++ s.ofKind .common

/-- The own chunks of the entries of a name. -/
def own (s : ChunkSet) (entry : String) : List Chunk := (s.ofKind .entry).filter (·.name = entry)

/-- The chunks that an entry needs, in the order in which they are loaded. -/
def loadOrder (s : ChunkSet) (entry : String) : List Chunk := s.shared ++ s.own entry

/-- Whether the own chunks of entries stand behind all others, and among these and those, names are
    different. -/
structure IsOrdered (s : ChunkSet) : Prop where
  chunks_eq : s.chunks = s.shared ++ s.ofKind .entry
  nodup_shared : (s.shared.map (·.name)).Nodup
  nodup_entries : ((s.ofKind .entry).map (·.name)).Nodup

variable {s : ChunkSet} {entry : String} {chunk : Chunk}

theorem mem_ofKind_iff {kind : ChunkKind} :
    chunk ∈ s.ofKind kind ↔ chunk ∈ s.chunks ∧ chunk.kind = kind := by
  unfold ofKind
  rw [List.mem_filter, decide_eq_true_iff]

theorem mem_shared_iff : chunk ∈ s.shared ↔ chunk ∈ s.chunks ∧ chunk.kind ≠ .entry := by
  unfold shared
  simp only [List.mem_append, mem_ofKind_iff]
  cases chunk.kind <;> simp

theorem mem_own_iff :
    chunk ∈ s.own entry ↔ chunk ∈ s.chunks ∧ chunk.kind = .entry ∧ chunk.name = entry := by
  unfold own
  rw [List.mem_filter, mem_ofKind_iff, decide_eq_true_iff, and_assoc]

theorem own_eq_filter_entryChunks (s : ChunkSet) (entry : String) :
    s.own entry = (s.entryChunks entry).filter (·.kind = .entry) := by
  unfold own ofKind entryChunks
  rw [List.filter_filter, List.filter_filter]
  refine List.filter_congr fun c _ => ?_
  by_cases hkind : c.kind = .entry
  · simp [hkind]
  · simp [hkind]

theorem IsOrdered.entryChunks_eq (h : s.IsOrdered) (entry : String) :
    s.entryChunks entry = s.loadOrder entry := by
  have hshared : s.shared.filter (fun c => c.kind ≠ .entry ∨ c.name = entry) = s.shared :=
    List.filter_eq_self.2 fun c hc => decide_eq_true (.inl (mem_shared_iff.1 hc).2)
  have hown : (s.ofKind .entry).filter (fun c => c.kind ≠ .entry ∨ c.name = entry) = s.own entry := by
    refine List.filter_congr fun c hc => ?_
    simp [(mem_ofKind_iff.1 hc).2]
  unfold entryChunks loadOrder
  rw [h.chunks_eq, List.filter_append, hshared, hown]

/-- Of the chunks that an entry needs, each is the first of its name, unless the entry has the name
    of a chunk that belongs to no entry. -/
theorem IsOrdered.exists_first (h : s.IsOrdered) (hchunk : chunk ∈ s.chunks)
    (hfree : chunk.kind = .entry → ∀ other ∈ s.shared, other.name ≠ chunk.name) :
    ∃ before after, s.chunks = before ++ chunk :: after ∧
      ∀ other ∈ before, other.name ≠ chunk.name := by
  have hbefore : ∀ {l before after : List Chunk}, (l.map (·.name)).Nodup →
      l = before ++ chunk :: after → ∀ other ∈ before, other.name ≠ chunk.name := by
    rintro l before after hnodup rfl other hother
    rw [List.map_append, List.nodup_append] at hnodup
    exact hnodup.2.2 _ (List.mem_map_of_mem hother) _ (by simp)
  by_cases hkind : chunk.kind = .entry
  · obtain ⟨before, after, heq⟩ := List.append_of_mem (mem_ofKind_iff.2 ⟨hchunk, hkind⟩)
    refine ⟨s.shared ++ before, after, ?_, fun other hother => ?_⟩
    · rw [h.chunks_eq, heq, List.append_assoc]
    · exact (List.mem_append.1 hother).elim (hfree hkind other)
        (hbefore h.nodup_entries heq other)
  · obtain ⟨before, after, heq⟩ := List.append_of_mem (mem_shared_iff.2 ⟨hchunk, hkind⟩)
    refine ⟨before, after ++ s.ofKind .entry, ?_, hbefore h.nodup_shared heq⟩
    rw [h.chunks_eq, heq, List.append_assoc, List.cons_append]

end ChunkSet

namespace ModuleGraph

variable {g : ModuleGraph} {root : Path} {optimization : Optimization}

theorem filter_kind {chunks : List Chunk} {kind : ChunkKind} (h : ∀ c ∈ chunks, c.kind = kind)
    (kind' : ChunkKind) :
    chunks.filter (·.kind = kind') = if kind = kind' then chunks else [] := by
  split
  · next heq => exact List.filter_eq_self.2 fun c hc => decide_eq_true ((h c hc).trans heq)
  · next hne =>
    refine List.filter_eq_nil_iff.2 fun c hc => ?_
    rw [h c hc]
    simpa using hne

/-- The chunks of a graph by their kinds. -/
theorem ofKind_assignChunks (g : ModuleGraph) (root : Path) (optimization : Optimization) :
    let s := g.assignChunks root optimization
    s.ofKind .runtime = [⟨runtimeName, .runtime, [], none⟩] ∧
    s.ofKind .vendor = chunkUnlessEmpty vendorName .vendor (g.sentTo root optimization g.owned .vendor) ∧
    s.ofKind .common = chunkUnlessEmpty commonName .common (g.sentTo root optimization g.owned .common) ∧
    s.ofKind .entry = g.entries.zipIdx.map fun x =>
      ⟨x.1.1, .entry, g.sentTo root optimization g.owned (.entry x.2), some x.1.2⟩ := by
  have hkind : ∀ name kind modules, ∀ c ∈ chunkUnlessEmpty name kind modules, c.kind = kind :=
    fun _ _ _ _ hc => kind_of_mem_chunkUnlessEmpty hc
  have hentry : ∀ c ∈ g.entries.zipIdx.map fun x => (⟨x.1.1, .entry,
      g.sentTo root optimization g.owned (.entry x.2), some x.1.2⟩ : Chunk), c.kind = .entry := by
    intro c hc
    obtain ⟨x, -, rfl⟩ := List.mem_map.1 hc
    rfl
  unfold ChunkSet.ofKind
  simp [chunks_assignChunks, filter_kind (hkind _ _ _), filter_kind hentry]

theorem length_chunkUnlessEmpty_le (name : String) (kind : ChunkKind) (modules : List Nat) :
    (chunkUnlessEmpty name kind modules).length ≤ 1 := by
  unfold chunkUnlessEmpty
  split
  · exact Nat.zero_le 1
  · exact Nat.le_refl 1

theorem isOrdered_assignChunks (hnames : (g.entries.map (·.1)).Nodup) :
    (g.assignChunks root optimization).IsOrdered := by
  obtain ⟨hruntime, hvendor, hcommon, hentry⟩ := ofKind_assignChunks g root optimization
  refine ⟨?_, ?_, ?_⟩
  · unfold ChunkSet.shared
    rw [hruntime, hvendor, hcommon, hentry, chunks_assignChunks, List.append_assoc, List.append_assoc,
      List.append_assoc]
    rfl
  · have hname : ∀ name kind modules, (chunkUnlessEmpty name kind modules).map (·.name) = [] ∨
        (chunkUnlessEmpty name kind modules).map (·.name) = [name] := by
      intro name kind modules
      unfold chunkUnlessEmpty
      split
      · exact .inl rfl
      · exact .inr rfl
    unfold ChunkSet.shared
    rw [hruntime, hvendor, hcommon, List.map_append, List.map_append]
    rcases hname vendorName .vendor (g.sentTo root optimization g.owned .vendor) with hvendor | hvendor
    all_goals
      rcases hname commonName .common (g.sentTo root optimization g.owned .common) with hcommon | hcommon
      all_goals
        rw [hvendor, hcommon]
        decide
  · rw [hentry, List.map_map]
    have hzip : (g.entries.zipIdx.map (·.1)).map (·.1) = g.entries.map (·.1) := by
      rw [List.zipIdx_map_fst]
    rw [List.map_map] at hzip
    exact hzip ▸ hnames

/-- The chunks that belong to no entry have three names. -/
theorem name_of_mem_shared {chunk : Chunk}
    (h : chunk ∈ (g.assignChunks root optimization).shared) :
    chunk.name ∈ [runtimeName, vendorName, commonName] := by
  obtain ⟨hruntime, hvendor, hcommon, -⟩ := ofKind_assignChunks g root optimization
  have hname : ∀ {name kind modules}, chunk ∈ chunkUnlessEmpty name kind modules →
      chunk.name = name := by
    intro name kind modules hmem
    unfold chunkUnlessEmpty at hmem
    split at hmem
    · cases hmem
    · rw [List.mem_singleton.1 hmem]
  unfold ChunkSet.shared at h
  rw [hruntime, hvendor, hcommon] at h
  rcases List.mem_append.1 h with h | h
  · rcases List.mem_append.1 h with h | h
    · rw [List.mem_singleton.1 h]
      exact List.mem_cons_self
    · simp [hname h]
  · simp [hname h]

end ModuleGraph

/-! ## Files that are found by name -/

/-- Of the values of one name, the first is found. -/
theorem lookup_of_first {α : Type} {entries : List (String × α)} {before after : List String}
    {name : String} (h : entries.map (·.1) = before ++ name :: after) (hfirst : name ∉ before) :
    ∃ value, entries[before.length]? = some (name, value) ∧ entries.lookup name = some value := by
  induction before generalizing entries with
  | nil =>
    cases entries with
    | nil => cases h
    | cons first rest =>
      obtain ⟨name', value⟩ := first
      obtain rfl : name' = name := (List.cons.inj h).1
      exact ⟨value, rfl, List.lookup_cons_self⟩
  | cons other before ih =>
    cases entries with
    | nil => cases h
    | cons first rest =>
      obtain ⟨name', other'⟩ := first
      obtain ⟨hother, hrest⟩ := List.cons.inj h
      obtain rfl : name' = other := hother
      rw [List.mem_cons, not_or] at hfirst
      obtain ⟨hne, hfirst⟩ := hfirst
      obtain ⟨value, hplace, hlookup⟩ := ih hrest hfirst
      refine ⟨value, by simpa using hplace, ?_⟩
      rw [List.lookup_cons, beq_false_of_ne hne]
      exact hlookup

namespace Emit

variable {c : Configuration} {g : ModuleGraph} {chunks : ChunkSet} {template : Option String}
  {o : BuildOutput}

/-- Of the chunks of one name, the file of the first is found. -/
theorem chunkFile?_of_first (h : emit c g chunks template = .ok o) {before after : List Chunk}
    {chunk : Chunk} (hchunks : chunks.chunks = before ++ chunk :: after)
    (hfirst : ∀ other ∈ before, other.name ≠ chunk.name) :
    ∃ file, chunks.chunks[before.length]? = some chunk ∧
      o.chunkFiles[before.length]? = some (chunk.name, file) ∧
      o.chunkFile? chunk.name = some file := by
  have hnames : chunks.chunks.map (·.name) = o.chunkFiles.map (·.1) := by
    refine Result.map_eq_map (chunkFiles_of_emit h) fun chunk file hfile => ?_
    obtain ⟨text, -, rfl⟩ := hfile
    rfl
  rw [hchunks, List.map_append, List.map_cons] at hnames
  obtain ⟨file, hplace, hlookup⟩ := lookup_of_first hnames.symm fun hmem => by
    obtain ⟨other, hother, hname⟩ := List.mem_map.1 hmem
    exact hfirst other hother hname
  rw [List.length_map] at hplace
  exact ⟨file, by simp [hchunks], hplace, hlookup⟩

/-- Files that are found by different names are different. -/
theorem eq_of_chunkFile?_eq (h : emit c g chunks template = .ok o) {name name' file : String}
    (hname : o.chunkFile? name = some file) (hname' : o.chunkFile? name' = some file) :
    name = name' := by
  have hnamed : ∀ name, o.chunkFile? name = some file →
      ∃ (chunk : Chunk) (text : String), chunk.name = name ∧
        chunkFileName chunk text.toUTF8 = file := by
    intro name hname
    obtain ⟨chunk, -, text, -, heq⟩ :=
      Result.exists_of_mem_right (chunkFiles_of_emit h) (NameMap.mem_of_lookup hname)
    obtain ⟨hchunk, hfile⟩ := Prod.mk.inj heq
    exact ⟨chunk, text, hchunk.symm, hfile.symm⟩
  obtain ⟨chunk, text, rfl, hfile⟩ := hnamed name hname
  obtain ⟨chunk', text', rfl, hfile'⟩ := hnamed name' hname'
  exact (eq_of_chunkFileName_eq (hfile.trans hfile'.symm)).1

/-- A chunk has one file. -/
theorem eq_of_chunkFiles_eq (h : emit c g chunks template = .ok o) {chunk : Chunk}
    {place place' : Nat} {file file' : String} (hplace : chunks.chunks[place]? = some chunk)
    (hplace' : chunks.chunks[place']? = some chunk)
    (hfile : o.chunkFiles[place]? = some (chunk.name, file))
    (hfile' : o.chunkFiles[place']? = some (chunk.name, file')) : file = file' := by
  have hscript : ∀ {place : Nat} {file : String}, chunks.chunks[place]? = some chunk →
      o.chunkFiles[place]? = some (chunk.name, file) → ∃ text,
        script c.context.mode g chunks chunk = .ok text ∧
          file = chunkFileName chunk text.toUTF8 := by
    intro place file hplace hfile
    obtain ⟨hlt, hchunk⟩ := List.getElem?_eq_some_iff.1 hplace
    obtain ⟨hlt', hnamed⟩ := List.getElem?_eq_some_iff.1 hfile
    obtain ⟨text, htext, heq⟩ := (chunkFiles_of_emit h).get hlt hlt'
    rw [List.get_eq_getElem, List.get_eq_getElem, hchunk] at *
    rw [hnamed] at heq
    exact ⟨text, htext, (Prod.mk.inj heq).2⟩
  obtain ⟨text, htext, rfl⟩ := hscript hplace hfile
  obtain ⟨text', htext', rfl⟩ := hscript hplace' hfile'
  rw [Except.ok.inj (htext.symm.trans htext')]

end Emit

/-! ## Documents -/

namespace Document

theorem join_append_singleton (texts : List String) (text : String) :
    String.join (texts ++ [text]) = String.join texts ++ text := by
  simp [String.join]

/-- The last script can be read off a document. -/
theorem eq_of_render_eq {template : Option String} {publicPath script script' : String}
    {scripts : List String} (h : render template publicPath (scripts ++ [script])
      = render template publicPath (scripts ++ [script'])) : script = script' := by
  obtain ⟨before, after, -, -, hrender⟩ := exists_render_eq template
  rw [hrender, hrender, List.map_append, List.map_append, List.map_singleton, List.map_singleton,
    join_append_singleton, join_append_singleton] at h
  have htag := (String.append_right_inj _).1 ((String.append_right_inj _).1
    ((String.append_left_inj after).1 h))
  unfold scriptTag at htag
  exact (String.append_right_inj _).1 ((String.append_left_inj _).1 htag)

end Document

/-- The output of a build is what is emitted, in production with companions that touch neither the
    document nor the files of chunks, nor any other file whose name does not end as theirs do. -/
theorem BuildContext.exists_emit_of_buildWith {c : BuildContext} {cache : ModuleCache} {b : Build}
    (h : c.buildWith cache = .ok b) :
    ∃ template emitted, c.template = .ok template ∧
      emit c.configuration b.graph b.chunks template = .ok emitted ∧
      b.output.chunkFiles = emitted.chunkFiles ∧ b.output.document = emitted.document ∧
      (∀ name : String, ¬ BuildOutput.companionEnding.toList <:+ name.toList →
        b.output.file? name = emitted.file? name) ∧
      (c.configuration.context.mode = .development → b.output = emitted) := by
  obtain ⟨g, -, h⟩ := Result.bind_eq_ok_iff.1 h
  obtain ⟨o, ho, h⟩ := Result.bind_eq_ok_iff.1 h
  obtain rfl := Except.ok.inj h
  obtain ⟨template, htemplate, ho⟩ := Result.bind_eq_ok_iff.1 ho
  obtain ⟨emitted, hemitted, ho⟩ := Result.bind_eq_ok_iff.1 ho
  refine ⟨template, emitted, htemplate, Result.mapError_eq_ok_iff.1 hemitted, ?_⟩
  cases hmode : c.configuration.context.mode with
  | development =>
    rw [hmode] at ho
    obtain rfl := Except.ok.inj ho
    exact ⟨rfl, rfl, fun _ _ => rfl, fun _ => rfl⟩
  | production =>
    rw [hmode] at ho
    obtain rfl := Except.ok.inj ho
    exact ⟨emitted.chunkFiles_compress _, emitted.document_compress _,
      fun _ => emitted.file?_compress _, fun hdevelopment => by cases hdevelopment⟩

/-! ## Scripts of the document -/

/-- Whether a file is the one of a chunk of a build. -/
def Build.HasChunkFile (b : Build) (chunk : Chunk) (file : String) : Prop :=
  ∃ place : Nat, b.chunks.chunks[place]? = some chunk ∧
    b.output.chunkFiles[place]? = some (chunk.name, file)

/-- Whether some scripts are the files of the chunks that an entry needs, in their order and each
    once. -/
structure Build.Loads (b : Build) (entry : String) (scripts : List String) : Prop where
  files : List.Forall₂ b.HasChunkFile (b.chunks.loadOrder entry) scripts
  nodup : scripts.Nodup

namespace Emit

variable {c : Configuration} {g : ModuleGraph} {chunks : ChunkSet} {template : Option String}
  {o : BuildOutput} {b : Build} {entry : String}

/-- A chunk's own file is found if no chunk before it has its name. -/
theorem exists_chunkFile? (h : emit c b.graph b.chunks template = .ok o)
    (hfiles : b.output.chunkFiles = o.chunkFiles) (hordered : b.chunks.IsOrdered) {chunk : Chunk}
    (hchunk : chunk ∈ b.chunks.chunks)
    (hfree : chunk.kind = .entry → ∀ other ∈ b.chunks.shared, other.name ≠ chunk.name) :
    ∃ file, o.chunkFile? chunk.name = some file ∧ b.HasChunkFile chunk file := by
  obtain ⟨before, after, hchunks, hfirst⟩ := hordered.exists_first hchunk hfree
  obtain ⟨file, hplace, hfile, hfound⟩ := chunkFile?_of_first h hchunks hfirst
  exact ⟨file, hfound, before.length, hplace, hfiles ▸ hfile⟩

/-- If the entry has a name of its own, the files that are found are those of the chunks that it
    needs. -/
theorem loads_of_free (h : emit c b.graph b.chunks template = .ok o)
    (hfiles : b.output.chunkFiles = o.chunkFiles) (hordered : b.chunks.IsOrdered)
    (hfree : ∀ other ∈ b.chunks.shared, other.name ≠ entry) :
    b.Loads entry ((b.chunks.loadOrder entry).filterMap fun chunk => o.chunkFile? chunk.name) where
  files := by
    refine Result.forall₂_filterMap fun chunk hchunk => ?_
    rcases List.mem_append.1 hchunk with hshared | hown
    · obtain ⟨hmem, hkind⟩ := ChunkSet.mem_shared_iff.1 hshared
      exact exists_chunkFile? h hfiles hordered hmem fun hentry => absurd hentry hkind
    · obtain ⟨hmem, -, hname⟩ := ChunkSet.mem_own_iff.1 hown
      exact exists_chunkFile? h hfiles hordered hmem fun _ => hname ▸ hfree
  nodup := by
    have hnames : ((b.chunks.loadOrder entry).map (·.name)).Nodup := by
      unfold ChunkSet.loadOrder
      rw [List.map_append, List.nodup_append]
      refine ⟨hordered.nodup_shared, ?_, ?_⟩
      · exact hordered.nodup_entries.sublist (List.filter_sublist.map _)
      · rintro name hname name' hname' rfl
        obtain ⟨other, hother, rfl⟩ := List.mem_map.1 hname
        obtain ⟨own, hown, heq⟩ := List.mem_map.1 hname'
        exact hfree other hother (heq ▸ (ChunkSet.mem_own_iff.1 hown).2.2)
    have hfound : ((b.chunks.loadOrder entry).map (·.name)).filterMap o.chunkFile?
        = (b.chunks.loadOrder entry).filterMap fun chunk => o.chunkFile? chunk.name :=
      List.filterMap_map
    rw [← hfound]
    exact hnames.filterMap fun name name' file hname hname' => eq_of_chunkFile?_eq h hname hname'

/-- If the entry has the name of another chunk, the file of that chunk is found for both, so that no
    document with this many scripts is one that loads all files. -/
theorem not_loads_of_taken (h : emit c b.graph b.chunks template = .ok o)
    (hfiles : b.output.chunkFiles = o.chunkFiles) (hordered : b.chunks.IsOrdered) {own : Chunk}
    (hown : b.chunks.own entry = [own]) {taken : Chunk} (htaken : taken ∈ b.chunks.shared)
    (hname : taken.name = entry) {scripts : List String} (hscripts : b.Loads entry scripts)
    (publicPath : String) :
    Document.render template publicPath scripts ≠ Document.render template publicPath
      ((b.chunks.loadOrder entry).filterMap fun chunk => o.chunkFile? chunk.name) := by
  intro hrender
  have hshared : ∀ chunk ∈ b.chunks.shared, ∃ file, o.chunkFile? chunk.name = some file ∧
      b.HasChunkFile chunk file := by
    intro chunk hchunk
    obtain ⟨hmem, hkind⟩ := ChunkSet.mem_shared_iff.1 hchunk
    exact exists_chunkFile? h hfiles hordered hmem fun hentry => absurd hentry hkind
  have hfound := Result.forall₂_filterMap hshared
  obtain ⟨file, hfile, -⟩ := hshared taken htaken
  have hownName : own.name = entry := (ChunkSet.mem_own_iff.1 (hown ▸ List.mem_cons_self)).2.2
  -- the scripts are the files of the shared chunks, which are found, and one more
  have hall := hscripts.files
  unfold ChunkSet.loadOrder at hall hrender
  rw [hown] at hall hrender
  rw [List.filterMap_append, List.filterMap_cons_some (hownName ▸ hname ▸ hfile)] at hrender
  obtain ⟨others, last, rfl, hothers, hlast⟩ := Result.exists_of_forall₂_append hall
  have hunique : Relator.RightUnique b.HasChunkFile := by
    rintro chunk script script' ⟨place, hplace, hscript⟩ ⟨place', hplace', hscript'⟩
    rw [hfiles] at hscript hscript'
    exact eq_of_chunkFiles_eq h hplace hplace' hscript hscript'
  obtain rfl := List.right_unique_forall₂' hunique hothers hfound
  cases hlast with
  | cons hscript hnil =>
    cases hnil
    -- the one more is a file that was there before
    obtain rfl := Document.eq_of_render_eq hrender
    have hnodup := (List.nodup_append.1 hscripts.nodup).2.2 _
      (List.mem_filterMap.2 ⟨taken, htaken, hfile⟩) _ List.mem_cons_self
    exact hnodup rfl

end Emit

namespace BuildContext

variable {c : BuildContext} {cache : ModuleCache} {b : Build}

/-- The document of a build loads what the entry needs exactly if the entry does not have the name
    of another chunk. -/
theorem loads_iff (h : c.buildWith cache = .ok b) (hordered : b.chunks.IsOrdered) {e : Entry}
    (he : c.configuration.startEntry = some e) {own : Chunk} (hown : b.chunks.own e.name = [own]) :
    ∃ template, c.template = .ok template ∧ b.output.document = some Document.fileName ∧
      ((∃ scripts, b.Loads e.name scripts ∧ b.output.file? Document.fileName =
          some (Document.render template c.configuration.context.publicPath scripts).toUTF8) ↔
        ∀ chunk ∈ b.chunks.chunks, chunk.kind ≠ .entry → chunk.name ≠ e.name) := by
  obtain ⟨template, o, htemplate, ho, hfiles, hdocument, hnames, -⟩ := exists_emit_of_buildWith h
  have hfile := hnames Document.fileName (by decide)
  obtain ⟨hnamed, hrendered⟩ := Emit.document_of_emit ho he
  rw [hordered.entryChunks_eq] at hrendered
  rw [hfile, hdocument, hrendered]
  refine ⟨template, htemplate, hnamed, ?_, fun hfree => ⟨_, ?_, rfl⟩⟩
  · rintro ⟨scripts, hscripts, hsame⟩ chunk hchunk hkind hname
    refine Emit.not_loads_of_taken ho hfiles hordered hown
      (ChunkSet.mem_shared_iff.2 ⟨hchunk, hkind⟩) hname hscripts
      c.configuration.context.publicPath ?_
    exact String.toByteArray_inj.1 (Option.some.inj hsame).symm
  · refine Emit.loads_of_free ho hfiles hordered fun other hother => ?_
    obtain ⟨hmem, hkind⟩ := ChunkSet.mem_shared_iff.1 hother
    exact hfree other hmem hkind

/-- For every configuration that statements make and every build that succeeds, there is a document,
    and an entry that it starts. The document loads the loader, the packages and what entries share,
    if there are any, and the own chunk of that entry, in this order and each once, exactly if the
    entry does not have the name of another of these chunks. -/
theorem document_loads_iff (c : BuildContext) (s : BuildState) {root : Path}
    {environment : NameMap String} {overrides : Configuration.Overrides} {registry : Registry}
    {statements : List Settings.Statement}
    (hc : Configuration.ofStatements root environment overrides registry statements
      = .ok c.configuration)
    (hd : c.disk.current.IsPlain) (hs : s.cache.Own) (hb : (c.build.run.run s).1 = .ok b) :
    ∃ e template, c.configuration.startEntry = some e ∧ c.template = .ok template ∧
      b.output.document = some Document.fileName ∧
      (b.chunks.ofKind .runtime).length = 1 ∧ (b.chunks.ofKind .vendor).length ≤ 1 ∧
      (b.chunks.ofKind .common).length ≤ 1 ∧ (b.chunks.own e.name).length = 1 ∧
      ((∃ scripts, b.Loads e.name scripts ∧ b.output.file? Document.fileName =
          some (Document.render template c.configuration.context.publicPath scripts).toUTF8) ↔
        ∀ chunk ∈ b.chunks.chunks, chunk.kind ≠ .entry → chunk.name ≠ e.name) := by
  rw [(c.run_build s).1] at hb
  obtain ⟨hgraph, hchunks, -⟩ := buildWith_eq_ok hb
  have hclosure : c.IsClosure s.cache b.graph := by
    obtain ⟨entries, paths, loaded, hload, hg⟩ := exists_isLoad_of_graphWith hd hgraph
    rw [hg]
    exact hload.isClosure hs
  have hnames := hclosure.nodup_entries (Configuration.nodup_entries_ofStatements hc)
  obtain ⟨e, hmem, he⟩ := Configuration.exists_startEntry_ofStatements hc
  -- the graph has one entry of that name, and the entry one chunk
  obtain ⟨⟨name, i⟩, hentry, hname, -⟩ := Result.exists_of_mem_left hclosure.entries hmem
  obtain rfl : name = e.name := hname
  obtain ⟨k, hk⟩ := List.getElem?_of_mem hentry
  have hown := ModuleGraph.filter_entryChunks c.configuration.root c.configuration.optimization
    hnames hk
  have hordered : b.chunks.IsOrdered := hchunks ▸ ModuleGraph.isOrdered_assignChunks hnames
  rw [← hchunks, ← ChunkSet.own_eq_filter_entryChunks] at hown
  obtain ⟨hruntime, hvendor, hcommon, -⟩ := ModuleGraph.ofKind_assignChunks b.graph
    c.configuration.root c.configuration.optimization
  rw [← hchunks] at hruntime hvendor hcommon
  obtain ⟨template, htemplate, hdocument, hiff⟩ := loads_iff hb hordered he hown
  refine ⟨e, template, he, htemplate, hdocument, ?_, ?_, ?_, ?_, hiff⟩
  · rw [hruntime]
    rfl
  · rw [hvendor]
    exact ModuleGraph.length_chunkUnlessEmpty_le _ _ _
  · rw [hcommon]
    exact ModuleGraph.length_chunkUnlessEmpty_le _ _ _
  · rw [hown]
    rfl

/-- A project of one empty script has a build. -/
theorem IsEmptyScript.exists_build {name : String} (h : c.IsEmptyScript name) :
    ∃ b, (c.build.run.run {}).1 = .ok b ∧ b.chunks =
      (emptyScriptGraph name).assignChunks c.configuration.root c.configuration.optimization := by
  have hplain : c.disk.current.IsPlain := by
    rw [h.disk]
    decide
  obtain ⟨b, hb, -, hchunks⟩ := exists_build_of_graphWith {} hplain ModuleCache.own_empty
    h.graphWith (template_of_eq_none h.template)
  exact ⟨b, hb, hchunks⟩

/-- The entry of the project of one file has a name of its own. -/
theorem document_loads_iff_lone :
    let c := lone ""
    (c.disk.current.IsPlain ∧ ModuleCache.empty.Own) ∧
    ∃ b, (c.build.run.run {}).1 = .ok b ∧
      (∀ chunk ∈ b.chunks.chunks, chunk.kind ≠ .entry → chunk.name ≠ "main") ∧
      ∃ e template, c.configuration.startEntry = some e ∧ c.template = .ok template ∧
        b.output.document = some Document.fileName ∧
        (b.chunks.ofKind .runtime).length = 1 ∧ (b.chunks.ofKind .vendor).length ≤ 1 ∧
        (b.chunks.ofKind .common).length ≤ 1 ∧ (b.chunks.own e.name).length = 1 ∧
        ((∃ scripts, b.Loads e.name scripts ∧ b.output.file? Document.fileName =
            some (Document.render template c.configuration.context.publicPath scripts).toUTF8) ↔
          ∀ chunk ∈ b.chunks.chunks, chunk.kind ≠ .entry → chunk.name ≠ e.name) := by
  intro c
  have hplain : c.disk.current.IsPlain := by decide
  obtain ⟨b, hb, hchunks⟩ := isEmptyScript_lone.exists_build
  refine ⟨⟨hplain, ModuleCache.own_empty⟩, b, hb, fun chunk hchunk hkind => ?_,
    document_loads_iff c {} ofStatements_lone hplain ModuleCache.own_empty hb⟩
  have hname := ModuleGraph.name_of_mem_shared
    (hchunks ▸ ChunkSet.mem_shared_iff.2 ⟨hchunk, hkind⟩)
  rintro heq
  rw [heq] at hname
  revert hname
  decide

/-! ## An entry with the name of the loader -/

/-- The configuration of a project at the root whose entry `a.js` has the name of the loader. -/
def shadowedConfiguration : Configuration :=
  (Configuration.ofStatements ⟨"/"⟩ .empty { mode := some .development } Transform.standard
    [.entry "runtime" "a.js"]).toOption.get (by decide +kernel)

/-- The project of that configuration, with an empty file for its entry. -/
def shadowed : BuildContext := ⟨shadowedConfiguration, Transform.standard, (lone "").disk⟩

theorem ofStatements_shadowed :
    Configuration.ofStatements ⟨"/"⟩ .empty { mode := some .development } Transform.standard
      [.entry "runtime" "a.js"] = .ok shadowedConfiguration :=
  Result.eq_ok_get _

theorem isEmptyScript_shadowed : shadowed.IsEmptyScript "runtime" := by
  have hconfiguration : let c := shadowed.configuration
      c.entries = [⟨"runtime", ⟨"/a.js"⟩⟩] ∧ c.rules.length = 0 ∧ c.output.template = none ∧
        c.passthrough.classify? c.resolution.extensions ⟨"/a.js"⟩ = some .module := by
    decide +kernel
  obtain ⟨hentries, hrules, htemplate, hkind⟩ := hconfiguration
  exact ⟨rfl, hentries, List.length_eq_zero_iff.1 hrules, hkind, htemplate⟩

/-- The chunks of that project are the loader and the own chunk of the entry, of the same name. -/
theorem chunks_shadowed :
    ((emptyScriptGraph "runtime").assignChunks shadowed.configuration.root
      shadowed.configuration.optimization).chunks =
      [⟨"runtime", .runtime, [], none⟩, ⟨"runtime", .entry, [0], some 0⟩] := by
  have hdestination : (emptyScriptGraph "runtime").destination shadowed.configuration.optimization
      (emptyScriptGraph "runtime").reached 0 = .entry 0 := by
    decide
  have howned : (emptyScriptGraph "runtime").owned = [0] := by decide
  have hsorted : ((emptyScriptGraph "runtime").sortedByPath
      shadowed.configuration.root [0]).map (·.1) = [0] := by
    simp [ModuleGraph.sortedByPath]
  rw [ModuleGraph.chunks_assignChunks]
  unfold ModuleGraph.sentTo
  rw [howned, hsorted]
  simp only [List.filter_cons, hdestination]
  rfl

/-- If the entry has the name of the loader, the document loads the loader twice, and no list of the
    files of both chunks, each once, is the one that it loads. -/
theorem document_misses_shadowed :
    let c := shadowed
    Configuration.ofStatements ⟨"/"⟩ .empty { mode := some .development } Transform.standard
      [.entry "runtime" "a.js"] = .ok c.configuration ∧
    c.configuration.startEntry = some ⟨"runtime", ⟨"/a.js"⟩⟩ ∧
    ∃ b loader own, (c.build.run.run {}).1 = .ok b ∧
      b.chunks.chunks = [⟨"runtime", .runtime, [], none⟩, ⟨"runtime", .entry, [0], some 0⟩] ∧
      b.output.chunkFiles = [("runtime", loader), ("runtime", own)] ∧
      b.output.file? Document.fileName = some (Document.render none
        c.configuration.context.publicPath [loader, loader]).toUTF8 ∧
      ¬ ∃ scripts, b.Loads "runtime" scripts ∧ b.output.file? Document.fileName =
        some (Document.render none c.configuration.context.publicPath scripts).toUTF8 := by
  intro c
  have hstart : c.configuration.startEntry = some ⟨"runtime", ⟨"/a.js"⟩⟩ := by decide
  refine ⟨ofStatements_shadowed, hstart, ?_⟩
  obtain ⟨b, hb, hset⟩ := isEmptyScript_shadowed.exists_build
  have hordered : b.chunks.IsOrdered :=
    hset ▸ ModuleGraph.isOrdered_assignChunks (List.pairwise_singleton _ _)
  have hchunks : b.chunks.chunks = _ := hset ▸ chunks_shadowed
  have hbuild := (c.run_build {}).1.symm.trans hb
  obtain ⟨template, o, htemplate, ho, hfiles, -, hnames, -⟩ := exists_emit_of_buildWith hbuild
  have hfile := hnames Document.fileName (by decide)
  obtain rfl : none = template :=
    Except.ok.inj ((template_of_eq_none isEmptyScript_shadowed.template).symm.trans htemplate)
  have hnamed := Emit.chunkFiles_of_emit ho
  rw [hchunks] at hnamed
  generalize hall : o.chunkFiles = files at hnamed
  obtain _ | ⟨⟨loader, -, rfl⟩, _ | ⟨⟨own, -, rfl⟩, _ | _⟩⟩ := hnamed
  -- both chunks are looked up by the same name
  have hrendered := (Emit.document_of_emit ho hstart).2
  have hloaded : ((b.chunks.entryChunks "runtime").filterMap fun chunk => o.chunkFile? chunk.name)
      = [Emit.chunkFileName ⟨"runtime", .runtime, [], none⟩ loader.toUTF8,
        Emit.chunkFileName ⟨"runtime", .runtime, [], none⟩ loader.toUTF8] := by
    unfold ChunkSet.entryChunks BuildOutput.chunkFile?
    rw [hchunks, hall]
    rfl
  refine ⟨b, _, _, hb, hchunks, hfiles.trans hall, ?_, ?_⟩
  · rw [hfile, hrendered, ← hloaded]
  · rintro ⟨scripts, hscripts, hsame⟩
    have hown : b.chunks.own "runtime" = [⟨"runtime", .entry, [0], some 0⟩] := by
      unfold ChunkSet.own ChunkSet.ofKind
      rw [hchunks]
      rfl
    have htaken : ⟨"runtime", .runtime, [], none⟩ ∈ b.chunks.shared := by
      refine ChunkSet.mem_shared_iff.2 ⟨?_, by decide⟩
      rw [hchunks]
      exact List.mem_cons_self
    refine Emit.not_loads_of_taken ho hfiles hordered hown htaken rfl hscripts
      c.configuration.context.publicPath ?_
    rw [hfile, hrendered, hordered.entryChunks_eq] at hsame
    exact String.toByteArray_inj.1 (Option.some.inj hsame).symm

end BuildContext

end Bundler
