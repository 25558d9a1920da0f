import Bundler.Proofs.Chunk.ModuleId
import Bundler.Proofs.Output.Script

set_option autoImplicit false

/-! # Whole outputs

The output of a graph names a file for each of its chunks, in their order (`chunkFiles_of_emit`), and
holds the script of a chunk under that name, unless something else has the same name
(`file?_of_emit`). The document is there if there is an entry to start (`document_of_emit`). An output
can be written if edges and entries are at modules of the graph, in whatever order the modules that
entries reach are found (`exists_emitFrom`). -/

namespace Bundler.Emit

variable {mode : Mode} {g : ModuleGraph} {chunks : ChunkSet}

/-! ## Scripts that are written -/

theorem exists_script_of_foldlM {l : List Chunk} {o o' : BuildOutput}
    (h : l.foldlM (addChunk mode g chunks) o = .ok o') {c : Chunk} (hc : c ∈ l) :
    ∃ text, script mode g chunks c = .ok text := by
  induction l generalizing o with
  | nil => cases hc
  | cons first rest ih =>
    rw [List.foldlM_cons] at h
    obtain ⟨next, hnext, h⟩ := Result.bind_eq_ok_iff.1 h
    rcases List.mem_cons.1 hc with rfl | hc
    · obtain ⟨text, htext, -⟩ := Result.bind_eq_ok_iff.1 hnext
      exact ⟨text, htext⟩
    · exact ih h hc

theorem exists_script_of_emit {c : Configuration} {template : Option String} {o : BuildOutput}
    (h : emit c g chunks template = .ok o) {chunk : Chunk} (hchunk : chunk ∈ chunks.chunks) :
    ∃ text, script c.context.mode g chunks chunk = .ok text := by
  obtain ⟨o', ho', -⟩ := Result.bind_eq_ok_iff.1 h
  exact exists_script_of_foldlM ho' hchunk

theorem exists_foldlM_addChunk (o : BuildOutput) {l : List Chunk}
    (h : ∀ c ∈ l, ∃ text, script mode g chunks c = .ok text) :
    ∃ o', l.foldlM (addChunk mode g chunks) o = .ok o' := by
  induction l generalizing o with
  | nil => exact ⟨o, rfl⟩
  | cons first rest ih =>
    obtain ⟨text, htext⟩ := h first List.mem_cons_self
    rw [List.foldlM_cons]
    unfold addChunk
    rw [htext]
    exact ih _ fun c hc => h c (List.mem_cons_of_mem _ hc)

/-- Every script can be written if edges, entries and what was found are modules of the graph. -/
theorem exists_emitFrom (c : Configuration) (hg : g.EdgesInRange)
    (hentries : ∀ e ∈ g.entries, e.2 < g.size) {found : List Nat}
    (hfound : ∀ i ∈ found, i < g.size) (template : Option String) :
    ∃ o, emit c g (g.assignChunksFrom c.root c.optimization found) template = .ok o := by
  have hid : ∀ i < g.size, ∃ id,
      (g.assignChunksFrom c.root c.optimization found).moduleId? i = some id :=
    fun i hi => g.exists_moduleId? c.root c.optimization hi
  have hscripts : ∀ chunk ∈ (g.assignChunksFrom c.root c.optimization found).chunks, ∃ text,
      script c.context.mode g (g.assignChunksFrom c.root c.optimization found) chunk
        = .ok text := by
    intro chunk hchunk
    refine exists_script_eq_ok _ (fun i hi => ?_) fun i hi => ?_
    · have hlt := hfound i
        (ModuleGraph.mem_found_of_mem_chunks c.root c.optimization hchunk hi).1
      exact exists_registration_eq_ok (hid i hlt) fun d hd =>
        hid _ (hg i hlt _ (ModuleGraph.mem_targets_iff.2 ⟨d, hd, rfl⟩))
    · obtain ⟨e, he, rfl⟩ := ModuleGraph.exists_of_mem_entry c.root c.optimization hchunk hi
      exact hid _ (hentries e he)
  obtain ⟨o, ho⟩ := exists_foldlM_addChunk .empty hscripts
  unfold emit
  rw [ho]
  exact ⟨_, rfl⟩

theorem exists_emit (c : Configuration) (hg : g.EdgesInRange)
    (hentries : ∀ e ∈ g.entries, e.2 < g.size) (template : Option String) :
    ∃ o, emit c g (g.assignChunks c.root c.optimization) template = .ok o :=
  exists_emitFrom c hg hentries (fun _ hi => g.lt_size_of_mem_owned hi) template

/-! ## Files of chunks -/

/-- The file of a chunk with a script, by the name of the chunk. -/
def chunkFile (c : Chunk) (text : String) : String × String :=
  (c.name, chunkFileName c text.toUTF8)

theorem addChunk_eq_ok_iff {o o' : BuildOutput} {c : Chunk} :
    addChunk mode g chunks o c = .ok o' ↔ ∃ text, script mode g chunks c = .ok text ∧
      o.insertChunk c.name (chunkFileName c text.toUTF8) text.toUTF8 = o' := by
  unfold addChunk
  rw [Result.bind_eq_ok_iff]
  simp [pure, Except.pure]

theorem chunkFiles_of_foldlM {l : List Chunk} {o o' : BuildOutput}
    (h : l.foldlM (addChunk mode g chunks) o = .ok o') :
    ∃ files, o'.chunkFiles = o.chunkFiles ++ files ∧ List.Forall₂ (fun c file =>
      ∃ text, script mode g chunks c = .ok text ∧ file = chunkFile c text) l files := by
  induction l generalizing o with
  | nil =>
    cases h
    exact ⟨[], by simp, .nil⟩
  | cons c rest ih =>
    rw [List.foldlM_cons] at h
    obtain ⟨next, hnext, h⟩ := Result.bind_eq_ok_iff.1 h
    obtain ⟨text, htext, rfl⟩ := addChunk_eq_ok_iff.1 hnext
    obtain ⟨files, hfiles, hall⟩ := ih h
    refine ⟨chunkFile c text :: files, ?_, .cons ⟨text, htext, rfl⟩ hall⟩
    rw [hfiles]
    simp [BuildOutput.insertChunk, chunkFile]

/-- Whether a file name is that of one script only, and of no asset. -/
structure IsSole (mode : Mode) (g : ModuleGraph) (chunks : ChunkSet) (name text : String) :
    Prop where
  scripts : ∀ c ∈ chunks.chunks, ∀ other, script mode g chunks c = .ok other →
    chunkFileName c other.toUTF8 = name → other = text
  assets : ∀ a ∈ g.modules.flatMap (·.assets), a.fileName ≠ name

/-- A script that is inserted stays if every later one of its name is the same. -/
theorem file?_of_foldlM {l : List Chunk} {o o' : BuildOutput}
    (h : l.foldlM (addChunk mode g chunks) o = .ok o') {name text : String}
    (hsole : ∀ c ∈ l, ∀ other, script mode g chunks c = .ok other →
      chunkFileName c other.toUTF8 = name → other = text)
    (hthere : o.file? name = some text.toUTF8 ∨
      ∃ c ∈ l, script mode g chunks c = .ok text ∧ chunkFileName c text.toUTF8 = name) :
    o'.file? name = some text.toUTF8 := by
  induction l generalizing o with
  | nil =>
    cases h
    rcases hthere with hthere | ⟨c, hc, -⟩
    · exact hthere
    · cases hc
  | cons c rest ih =>
    rw [List.foldlM_cons] at h
    obtain ⟨next, hnext, h⟩ := Result.bind_eq_ok_iff.1 h
    obtain ⟨other, hother, rfl⟩ := addChunk_eq_ok_iff.1 hnext
    refine ih h (fun c hc => hsole c (List.mem_cons_of_mem _ hc)) ?_
    have hget : (o.insertChunk c.name (chunkFileName c other.toUTF8) other.toUTF8).file? name
        = if name = chunkFileName c other.toUTF8 then some other.toUTF8 else o.file? name :=
      NameMap.get?_insert _ _ _ _
    -- a later script of the same name has the same text, any other one leaves the file
    by_cases hname : name = chunkFileName c other.toUTF8
    · left
      rw [hget, if_pos hname, hsole c List.mem_cons_self other hother hname.symm]
    · rw [hget, if_neg hname]
      rcases hthere with hthere | ⟨c', hc', htext, hname'⟩
      · exact .inl hthere
      · rcases List.mem_cons.1 hc' with rfl | hc'
        · rw [hother] at htext
          rw [Except.ok.inj htext] at hname
          exact absurd hname'.symm hname
        · exact .inr ⟨c', hc', htext, hname'⟩

/-- The scripts leave alone what does not have the name of one. -/
theorem file?_of_foldlM_of_ne {l : List Chunk} {o o' : BuildOutput}
    (h : l.foldlM (addChunk mode g chunks) o = .ok o') {name : String}
    (hname : ∀ c ∈ l, ∀ content, chunkFileName c content ≠ name) :
    o'.file? name = o.file? name := by
  induction l generalizing o with
  | nil =>
    cases h
    rfl
  | cons c rest ih =>
    rw [List.foldlM_cons] at h
    obtain ⟨next, hnext, h⟩ := Result.bind_eq_ok_iff.1 h
    obtain ⟨text, -, rfl⟩ := addChunk_eq_ok_iff.1 hnext
    rw [ih h fun c hc => hname c (List.mem_cons_of_mem _ hc)]
    exact (NameMap.get?_insert _ _ _ _).trans (if_neg (hname c List.mem_cons_self _).symm)

/-! ## Assets and the document -/

theorem chunkFiles_addAssets (g : ModuleGraph) (o : BuildOutput) :
    (addAssets g o).chunkFiles = o.chunkFiles :=
  List.foldlRecOn (motive := fun o' : BuildOutput => o'.chunkFiles = o.chunkFiles) _ _ rfl
    fun _ h _ _ => h

theorem file?_addAssets {name : String} (h : ∀ a ∈ g.modules.flatMap (·.assets), a.fileName ≠ name)
    (o : BuildOutput) : (addAssets g o).file? name = o.file? name := by
  refine List.foldlRecOn (motive := fun o' : BuildOutput => o'.file? name = o.file? name) _ _ rfl ?_
  intro o' ho' a ha
  rw [← ho']
  exact (NameMap.get?_insert _ _ _ _).trans (if_neg (h a ha).symm)

theorem chunkFiles_addDocument (c : Configuration) (chunks : ChunkSet) (template : Option String)
    (o : BuildOutput) : (addDocument c chunks template o).chunkFiles = o.chunkFiles := by
  unfold addDocument
  split <;> rfl

/-- The document has a name that no chunk has. -/
theorem chunkFileName_ne_fileName (c : Chunk) (content : ByteArray) :
    chunkFileName c content ≠ Document.fileName := by
  intro heq
  have hlast := congrArg (fun s => s.toList.getLast?) heq
  simp [chunkFileName, Document.fileName, List.getLast?_cons] at hlast

theorem file?_addDocument (c : Configuration) (chunks : ChunkSet) (template : Option String)
    (o : BuildOutput) {name : String} (h : name ≠ Document.fileName) :
    (addDocument c chunks template o).file? name = o.file? name := by
  unfold addDocument
  split
  · rfl
  · exact (NameMap.get?_insert _ _ _ _).trans (if_neg h)

/-! ## Files of outputs -/

variable {c : Configuration} {template : Option String} {o : BuildOutput}

/-- The files of the chunks are named in the order of the chunks. -/
theorem chunkFiles_of_emit (h : emit c g chunks template = .ok o) :
    List.Forall₂ (fun chunk file => ∃ text,
      script c.context.mode g chunks chunk = .ok text ∧ file = chunkFile chunk text)
      chunks.chunks o.chunkFiles := by
  obtain ⟨o', ho', h⟩ := Result.bind_eq_ok_iff.1 h
  obtain rfl := Except.ok.inj h
  obtain ⟨files, hfiles, hall⟩ := chunkFiles_of_foldlM ho'
  rw [chunkFiles_addDocument, chunkFiles_addAssets, hfiles]
  exact hall

/-- The output holds the script of a chunk under the name of its file. -/
theorem file?_of_emit (h : emit c g chunks template = .ok o) {chunk : Chunk}
    (hchunk : chunk ∈ chunks.chunks) {text : String}
    (htext : script c.context.mode g chunks chunk = .ok text)
    (hsole : IsSole c.context.mode g chunks (chunkFileName chunk text.toUTF8) text) :
    o.file? (chunkFileName chunk text.toUTF8) = some text.toUTF8 := by
  obtain ⟨o', ho', h⟩ := Result.bind_eq_ok_iff.1 h
  obtain rfl := Except.ok.inj h
  rw [file?_addDocument _ _ _ _ (chunkFileName_ne_fileName chunk _), file?_addAssets hsole.assets]
  exact file?_of_foldlM ho' hsole.scripts (.inr ⟨chunk, hchunk, htext, rfl⟩)

/-- The output holds the document, which loads the files that chunks are found to have by name. -/
theorem document_of_emit (h : emit c g chunks template = .ok o) {entry : Entry}
    (hentry : c.startEntry = some entry) :
    o.document = some Document.fileName ∧
      o.file? Document.fileName = some (Document.render template c.context.publicPath
        ((chunks.entryChunks entry.name).filterMap fun chunk => o.chunkFile? chunk.name)).toUTF8 := by
  obtain ⟨o', -, h⟩ := Result.bind_eq_ok_iff.1 h
  obtain rfl := Except.ok.inj h
  unfold addDocument
  rw [hentry]
  exact ⟨rfl, (NameMap.get?_insert _ _ _ _).trans (if_pos rfl)⟩

/-! ## Files that are there -/

theorem isSome_file?_insert {name other : String} (h : (o.file? name).isSome = true ∨ name = other)
    (content : ByteArray) : ((o.insert other content).file? name).isSome = true := by
  have hget : (o.insert other content).file? name
      = if name = other then some content else o.file? name := NameMap.get?_insert _ _ _ _
  rw [hget]
  split
  · rfl
  · next hne => exact h.resolve_right hne

theorem isSome_file?_addAssets {name : String} (h : (o.file? name).isSome = true)
    (g : ModuleGraph) : ((addAssets g o).file? name).isSome = true :=
  List.foldlRecOn (motive := fun o' : BuildOutput => (o'.file? name).isSome = true) _ _ h
    fun _ ho' a _ => isSome_file?_insert (.inl ho') a.content

theorem isSome_file?_addDocument {name : String} (h : (o.file? name).isSome = true)
    (c : Configuration) (chunks : ChunkSet) (template : Option String) :
    ((addDocument c chunks template o).file? name).isSome = true := by
  unfold addDocument
  split
  · exact h
  · exact isSome_file?_insert (.inl h) _

theorem isSome_file?_of_foldlM {l : List Chunk} {o o' : BuildOutput}
    (h : l.foldlM (addChunk mode g chunks) o = .ok o')
    (ho : ∀ f ∈ o.chunkFiles, (o.file? f.2).isSome = true) :
    ∀ f ∈ o'.chunkFiles, (o'.file? f.2).isSome = true := by
  induction l generalizing o with
  | nil =>
    cases h
    exact ho
  | cons c rest ih =>
    rw [List.foldlM_cons] at h
    obtain ⟨next, hnext, h⟩ := Result.bind_eq_ok_iff.1 h
    obtain ⟨text, -, rfl⟩ := addChunk_eq_ok_iff.1 hnext
    refine ih h fun f hf => ?_
    rcases List.mem_append.1 hf with hf | hf
    · exact isSome_file?_insert (.inl (ho f hf)) _
    · obtain rfl := List.mem_singleton.1 hf
      exact isSome_file?_insert (.inr rfl) _

/-- The files of the chunks are there. -/
theorem isSome_file?_of_mem_chunkFiles (h : emit c g chunks template = .ok o)
    {f : String × String} (hf : f ∈ o.chunkFiles) : (o.file? f.2).isSome = true := by
  obtain ⟨o', ho', h⟩ := Result.bind_eq_ok_iff.1 h
  obtain rfl := Except.ok.inj h
  rw [chunkFiles_addDocument, chunkFiles_addAssets] at hf
  have hscripts := isSome_file?_of_foldlM ho' (fun f hf => by cases hf) f hf
  exact isSome_file?_addDocument (isSome_file?_addAssets hscripts g) c chunks template

/-- So are the files of the assets. -/
theorem isSome_file?_of_mem_assets (h : emit c g chunks template = .ok o) {a : Asset}
    (ha : a ∈ g.modules.flatMap (·.assets)) : (o.file? a.fileName).isSome = true := by
  obtain ⟨o', -, h⟩ := Result.bind_eq_ok_iff.1 h
  obtain rfl := Except.ok.inj h
  refine isSome_file?_addDocument ?_ c chunks template
  obtain ⟨before, after, hassets⟩ := List.append_of_mem ha
  unfold addAssets
  rw [hassets, List.foldl_append, List.foldl_cons]
  exact List.foldlRecOn
    (motive := fun o' : BuildOutput => (o'.file? a.fileName).isSome = true) _ _
    (isSome_file?_insert (.inr rfl) _) fun _ ho' b _ => isSome_file?_insert (.inl ho') b.content

/-- Nothing else is there. -/
theorem file?_eq_none_of_emit (h : emit c g chunks template = .ok o) {name : String}
    (hchunks : ∀ chunk ∈ chunks.chunks, ∀ content, chunkFileName chunk content ≠ name)
    (hassets : ∀ a ∈ g.modules.flatMap (·.assets), a.fileName ≠ name)
    (hdocument : name ≠ Document.fileName) : o.file? name = none := by
  obtain ⟨o', ho', h⟩ := Result.bind_eq_ok_iff.1 h
  obtain rfl := Except.ok.inj h
  rw [file?_addDocument _ _ _ _ hdocument, file?_addAssets hassets,
    file?_of_foldlM_of_ne ho' hchunks]
  rfl

end Bundler.Emit
