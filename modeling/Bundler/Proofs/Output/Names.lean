import Bundler.Proofs.Build.Closure
import Bundler.Proofs.Output.Emission
import Bundler.Proofs.Transform.Names

set_option autoImplicit false

/-! # The names of output files

The file of a chunk is named after the chunk and a digest, and a compressed companion after its file.
These names are plain unless that of a chunk holds a slash, and only an entry can have such a name. So
if no name of an entry holds a slash, a build with the standard transforms gives files with plain
names (`hasPlainNames_of_buildWith`). -/

namespace Bundler

/-! ## Outputs -/

/-- Whether all files of an output have plain names. -/
def BuildOutput.HasPlainNames (o : BuildOutput) : Prop := ∀ f ∈ o.files.toList, IsPlainName f.1

namespace BuildOutput

variable {o : BuildOutput}

theorem HasPlainNames.insert (h : o.HasPlainNames) {name : String} (hname : IsPlainName name)
    (content : ByteArray) : (o.insert name content).HasPlainNames := by
  intro f hf
  rcases NameMap.mem_insertSorted hf with rfl | hf
  · exact hname
  · exact h f hf

theorem HasPlainNames.foldl_insert {files : List (String × ByteArray)} (h : o.HasPlainNames)
    (hfiles : ∀ f ∈ files, IsPlainName f.1) :
    (files.foldl (fun o f => o.insert f.1 f.2) o).HasPlainNames := by
  induction files generalizing o with
  | nil => exact h
  | cons f rest ih =>
    exact ih (h.insert (hfiles f List.mem_cons_self) f.2) fun g hg =>
      hfiles g (List.mem_cons_of_mem _ hg)

/-- Companions are named after files. -/
theorem HasPlainNames.compress (h : o.HasPlainNames) (compression : Compression) :
    (o.compress compression).1.HasPlainNames := by
  refine h.foldl_insert fun f hf => ?_
  obtain ⟨file, hfile, rfl⟩ := List.mem_map.1 hf
  obtain ⟨hempty, -, -, hslash⟩ := h file (List.mem_filter.1 hfile).1
  have hpos : 0 < file.1.toList.length :=
    List.length_pos_iff.2 fun hnil => hempty (String.toList_inj.1 hnil)
  refine isPlainName_of_length ?_ ?_
  · have hending : companionEnding.toList.length = 3 := by decide
    simp only [String.toList_append, List.length_append, hending]
    omega
  · simp only [String.toList_append, List.mem_append, not_or]
    exact ⟨hslash, by decide⟩

end BuildOutput

namespace Emit

variable {mode : Mode} {g : ModuleGraph} {chunks : ChunkSet}

theorem isPlainName_chunkFileName {chunk : Chunk} (h : '/' ∉ chunk.name.toList)
    (content : ByteArray) : IsPlainName (chunkFileName chunk content) := by
  refine isPlainName_of_length ?_ ?_
  · have hlength := Digest.length_ofFile content
    simp only [chunkFileName, String.toList_append, List.length_append, hlength]
    exact Nat.lt_of_lt_of_le (by decide) (Nat.le_add_left _ _)
  · simp only [chunkFileName, String.toList_append, List.mem_append, not_or]
    exact ⟨⟨⟨h, by decide⟩, Digest.slash_not_mem_ofFile content⟩, by decide⟩

theorem hasPlainNames_of_foldlM {l : List Chunk} {o o' : BuildOutput}
    (h : l.foldlM (addChunk mode g chunks) o = .ok o') (ho : o.HasPlainNames)
    (hl : ∀ chunk ∈ l, '/' ∉ chunk.name.toList) : o'.HasPlainNames := by
  induction l generalizing o with
  | nil =>
    cases h
    exact ho
  | cons chunk rest ih =>
    rw [List.foldlM_cons] at h
    obtain ⟨next, hnext, h⟩ := Result.bind_eq_ok_iff.1 h
    obtain ⟨text, -, rfl⟩ := addChunk_eq_ok_iff.1 hnext
    exact ih h (ho.insert (isPlainName_chunkFileName (hl chunk List.mem_cons_self) _) _)
      fun chunk hchunk => hl chunk (List.mem_cons_of_mem _ hchunk)

/-- The files of an output are those of its chunks, the assets and the document. -/
theorem hasPlainNames_of_emit {c : Configuration} {template : Option String} {o : BuildOutput}
    (h : emit c g chunks template = .ok o) (hchunks : ∀ chunk ∈ chunks.chunks, '/' ∉ chunk.name.toList)
    (hassets : ∀ a ∈ g.modules.flatMap (·.assets), IsPlainName a.fileName) : o.HasPlainNames := by
  obtain ⟨o', ho', h⟩ := Result.bind_eq_ok_iff.1 h
  obtain rfl := Except.ok.inj h
  have hscripts := hasPlainNames_of_foldlM ho' (fun f hf => by cases hf) hchunks
  have hadded : (addAssets g o').HasPlainNames :=
    List.foldlRecOn (motive := BuildOutput.HasPlainNames) _ _ hscripts
      fun o ho a ha => ho.insert (hassets a ha) _
  unfold addDocument
  split
  · exact hadded
  · exact hadded.insert (by decide) _

end Emit

namespace BuildContext

variable {c : BuildContext}

/-- A build with the standard transforms gives files with plain names, if no entry has a slash in its
    name. -/
theorem hasPlainNames_of_buildWith (hd : c.disk.current.IsPlain)
    (hregistry : c.registry = Transform.standard)
    (hentries : ∀ e ∈ c.configuration.entries, '/' ∉ e.name.toList) {b : Build}
    (h : c.buildWith .empty = .ok b) : b.output.HasPlainNames := by
  obtain ⟨g, hg, h⟩ := Result.bind_eq_ok_iff.1 h
  obtain ⟨o, ho, h⟩ := Result.bind_eq_ok_iff.1 h
  obtain rfl := Except.ok.inj h
  obtain ⟨entries, paths, loaded, hload, rfl⟩ := exists_isLoad_of_graphWith hd hg
  have hclosure := hload.isClosure ModuleCache.own_empty
  obtain ⟨template, -, ho⟩ := Result.bind_eq_ok_iff.1 ho
  obtain ⟨emitted, hemitted, ho⟩ := Result.bind_eq_ok_iff.1 ho
  have hnames : emitted.HasPlainNames := by
    refine Emit.hasPlainNames_of_emit (Result.mapError_eq_ok_iff.1 hemitted) ?_ ?_
    · intro chunk hchunk
      rcases ModuleGraph.name_of_mem_chunks _ _ hchunk with ⟨hname, -⟩ | ⟨e, he, hname, -⟩
      · have hall : ∀ name ∈ [ModuleGraph.runtimeName, ModuleGraph.vendorName,
            ModuleGraph.commonName], '/' ∉ name.toList := by decide
        exact hall _ hname
      · obtain ⟨entry, hentry, hsame, -⟩ := Result.exists_of_mem_right hclosure.entries he
        rw [hname, hsame]
        exact hentries entry hentry
    · intro a ha
      obtain ⟨m, hm, ha⟩ := List.mem_flatMap.1 ha
      obtain ⟨i, hi⟩ := List.getElem?_of_mem hm
      obtain ⟨p, -, -, hmade, -⟩ := hclosure.modules i m hi
      exact isPlainName_of_made hregistry hmade ha
  split at ho
  · obtain rfl := Except.ok.inj ho
    exact hnames
  · obtain rfl := Except.ok.inj ho
    exact hnames.compress _

end BuildContext

end Bundler
