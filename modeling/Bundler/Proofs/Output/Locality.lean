import Bundler.Proofs.Build.Known
import Bundler.Proofs.Chunk.Locality
import Bundler.Proofs.Digest.Words
import Bundler.Proofs.Output.Shape

set_option autoImplicit false

/-! # The output after a change of content

If one module gets another content, the other chunks keep their scripts and their file names
(`emit_of_differsAt`): all that do not hold the module, do not refer to it and do not start it. The
last condition counts for an entry whose module went to the packages or to the shared modules, since
its chunk still names the id of that module (`script_of_entry_elsewhere`).

The modules of both graphs may be found in different orders. Then chunks hold the same modules, but
two modules of one chunk that have the same project-relative path can change their places. -/

namespace Bundler

open ModuleGraph (DiffersAt)

namespace Emit

variable {g g' : ModuleGraph} {k : Nat} {root : Path} {optimization : Optimization}

/-- Whether a chunk has nothing to do with a module: it does not hold it and, if ids are taken from
    digests, it does not name its id. -/
structure IsUntouched (g : ModuleGraph) (deterministic : Bool) (k : Nat) (c : Chunk) : Prop where
  not_mem : k ∉ c.modules
  targets : deterministic = true → ∀ i ∈ c.modules, k ∉ g.targets i
  entry : deterministic = true → c.entry ≠ some k

/-! ## Scripts -/

/-- An untouched chunk keeps its script. -/
theorem script_of_differsAt (mode : Mode) (h : DiffersAt k g g')
    (hdigits : optimization.deterministicIds = true →
      g.HasDistinctDigits root ∧ g'.HasDistinctDigits root)
    {c : Chunk} (hnames : ∀ i, Names g c i → i < g.size)
    (huntouched : IsUntouched g optimization.deterministicIds k c) :
    script mode g' (g'.assignChunks root optimization) c
      = script mode g (g.assignChunks root optimization) c := by
  refine script_of_sameShape mode (h.sameShape root optimization) hnames (fun i hi => ?_)
    fun i hi => ?_
  · refine h.moduleId?_eq hdigits (hnames i hi) fun hdeterministic => ?_
    -- the ids that it names are those of other modules
    rintro rfl
    obtain hmem | ⟨j, hj, htarget⟩ | hentry := hi
    · exact huntouched.not_mem hmem
    · exact huntouched.targets hdeterministic j hj htarget
    · exact huntouched.entry hdeterministic hentry
  · rw [h.others i fun heq => huntouched.not_mem (heq ▸ hi)]

end Emit

/-! ## Outputs -/

variable {g g' : ModuleGraph} {k : Nat}

/-- Whether an output has the script of a chunk, at the place of the chunk and under the name of its
    file, and holds it under that name unless something else has the same name. -/
structure BuildOutput.HasScript (o : BuildOutput) (mode : Mode) (g : ModuleGraph)
    (chunks : ChunkSet) (place : Nat) (chunk : Chunk) (text : String) : Prop where
  script : Emit.script mode g chunks chunk = .ok text
  chunkFile : o.chunkFiles[place]? = some (Emit.chunkFile chunk text)
  file : Emit.IsSole mode g chunks (Emit.chunkFileName chunk text.toUTF8) text →
    o.file? (Emit.chunkFileName chunk text.toUTF8) = some text.toUTF8

theorem Emit.exists_hasScript {c : Configuration} {chunks : ChunkSet} {template : Option String}
    {o : BuildOutput} (h : emit c g chunks template = .ok o) {place : Nat} {chunk : Chunk}
    (hchunk : chunks.chunks[place]? = some chunk) :
    ∃ text, o.HasScript c.context.mode g chunks place chunk text := by
  have hfiles := Emit.chunkFiles_of_emit h
  obtain ⟨hlt, rfl⟩ := List.getElem?_eq_some_iff.1 hchunk
  have hlt' : place < o.chunkFiles.length := hfiles.length_eq ▸ hlt
  obtain ⟨text, htext, hfile⟩ := hfiles.get hlt hlt'
  refine ⟨text, htext, ?_, Emit.file?_of_emit h (List.getElem_mem hlt) htext⟩
  rw [List.getElem?_eq_getElem hlt']
  exact congrArg some hfile

/-- Let a graph differ from another in one module only, let digests begin with different digits, and
    let the modules that entries reach be found in any orders. Then the chunks of both hold the same
    modules, and all other modules keep their ids. A chunk holds its modules in the same order if
    modules are found in one order in both or if those of the chunk have different project-relative
    paths; if such a chunk is untouched, it has the same script under the same file name in both
    outputs. -/
theorem emit_of_differsAt (c : Configuration) (template : Option String) (hg : g.Built)
    (h : DiffersAt k g g')
    (hdigits : c.optimization.deterministicIds = true →
      g.HasDistinctDigits c.root ∧ g'.HasDistinctDigits c.root)
    {found found' : List Nat} (hfound : g.ListsOwned found) (hfound' : g'.ListsOwned found') :
    let chunks := g.assignChunksFrom c.root c.optimization found
    let chunks' := g'.assignChunksFrom c.root c.optimization found'
    List.Forall₂ Chunk.SameModules chunks.chunks chunks'.chunks ∧
    (∀ i < g.size, i ≠ k → chunks'.moduleId? i = chunks.moduleId? i) ∧
    ∃ o o', emit c g chunks template = .ok o ∧ emit c g' chunks' template = .ok o' ∧
      ∀ place chunk, chunks.chunks[place]? = some chunk →
        found' = found ∨ (chunk.modules.map (g.relativePath c.root)).Nodup →
        chunks'.chunks[place]? = some chunk ∧
        (Emit.IsUntouched g c.optimization.deterministicIds k chunk →
          ∃ text, o.HasScript c.context.mode g chunks place chunk text ∧
            o'.HasScript c.context.mode g' chunks' place chunk text) := by
  intro chunks chunks'
  have hwell := hg.wellFormed
  have hwell' := h.wellFormed hwell
  have hlt : ∀ i ∈ found, i < g.size := fun i hi => hfound.lt_size hwell hi
  have hlt' : ∀ i ∈ found', i < g'.size := fun i hi => hfound'.lt_size hwell' hi
  obtain ⟨o, ho⟩ := Emit.exists_emitFrom c hwell.edgesInRange hwell.entry_lt hlt template
  obtain ⟨o', ho'⟩ := Emit.exists_emitFrom c hwell'.edgesInRange hwell'.entry_lt hlt' template
  -- the second graph has the chunks of the first, if modules are found in the second order
  have hchunks : chunks'.chunks = (g.assignChunksFrom c.root c.optimization found').chunks :=
    (h.sameShape c.root c.optimization).chunksFrom_eq found'
  have hperm := h.perm_found hfound hfound'
  refine ⟨hchunks ▸ ModuleGraph.forall₂_chunks g c.root c.optimization hperm,
    fun i hi hne => h.moduleId?_eq hdigits hi fun _ => hne, o, o', ho, ho',
    fun place chunk hchunk horder => ?_⟩
  have hchunk' : chunks'.chunks[place]? = some chunk := by
    rw [hchunks]
    rcases horder with rfl | hpaths
    · exact hchunk
    · exact ModuleGraph.chunks_getElem?_eq hperm hchunk hpaths
  refine ⟨hchunk', fun huntouched => ?_⟩
  obtain ⟨text, htext⟩ := Emit.exists_hasScript ho hchunk
  obtain ⟨text', htext'⟩ := Emit.exists_hasScript ho' hchunk'
  have hsame := Emit.script_of_differsAt c.context.mode h hdigits
    (fun i hi => hi.lt_size hwell hlt (List.mem_of_getElem? hchunk)) huntouched
  obtain rfl : text' = text := by
    have hscript := htext.script
    have hscript' := htext'.script
    rw [Emit.script_assignChunksFrom] at hscript hscript'
    exact Except.ok.inj (hscript'.symm.trans (hsame.trans hscript))
  exact ⟨text', htext, htext'⟩

/-! ## Two contents of a module -/

namespace ModuleGraph

/-- A module of some content. -/
def revised (content : String) : Module := ⟨⟨"/x.js"⟩, content, [], [], [], List.nodup_nil⟩

/-- A module beside it. -/
def besides : Module := ⟨⟨"/y.js"⟩, "", [], [], [], List.nodup_nil⟩

/-- The first digits, from lists of bytes. -/
theorem firstDigits_eq (root : Path) (m : Module) : firstDigits root m =
    (Bytes.hex (Digest.bytesOf (Digest.separated [(Path.relativeTo root m.path).toUTF8,
      (Bytes.hex (Digest.bytesOf m.content.toUTF8.data.toList)).toUTF8]).data.toList)).toList.take
        shortestId := by
  rw [firstDigits, idDigits, Digest.ofParts, Module.digest, Digest.ofContent_eq, Digest.ofContent_eq]

set_option maxRecDepth 100000 in
theorem firstDigits_revised_one : firstDigits ⟨"/"⟩ (revised "1") = "e661e633".toList := by
  rw [firstDigits_eq]
  decide +kernel

set_option maxRecDepth 100000 in
theorem firstDigits_revised_two : firstDigits ⟨"/"⟩ (revised "2") = "5e8f620d".toList := by
  rw [firstDigits_eq]
  decide +kernel

set_option maxRecDepth 100000 in
theorem firstDigits_besides : firstDigits ⟨"/"⟩ besides = "31b0e2e5".toList := by
  rw [firstDigits_eq]
  decide +kernel

/-- A graph whose first module is revised differs there only. -/
theorem differsAt_revised (content content' : String) (others : List Module) (edges : List Edge)
    (indexes : List (Path × Nat)) (entries : List (String × Nat)) :
    DiffersAt 0 ⟨revised content :: others, edges, indexes, entries⟩
      ⟨revised content' :: others, edges, indexes, entries⟩ where
  paths := rfl
  references := rfl
  others := by
    intro i hi
    cases i with
    | zero => exact absurd rfl hi
    | succ i => rfl
  edges := rfl
  entries := rfl

/-- The module of some content and the one beside it, each with an entry. -/
def apart (content : String) : ModuleGraph where
  modules := [revised content, besides]
  indexes := [(⟨"/y.js"⟩, 1), (⟨"/x.js"⟩, 0)]
  entries := [("main", 0), ("other", 1)]

theorem built_apart (content : String) : (apart content).Built := by
  have hrevised := Built.empty.addModule_of_distinct (m := revised content) (by simp)
  have hmodules := hrevised.addModule_of_distinct (m := besides) (by
    intro m hm
    rw [List.mem_singleton.1 hm]
    show Path.same ⟨"/x.js"⟩ ⟨"/y.js"⟩ = false
    decide)
  exact (hmodules.addEntry "main" 0 Nat.zero_lt_two).addEntry "other" 1 Nat.one_lt_two

/-- The chunk of the other entry has nothing to do with the first module. -/
theorem isUntouched_apart (content : String) {root : Path} {optimization : Optimization}
    {found : List Nat} : Emit.IsUntouched (apart content) optimization.deterministicIds 0
      ⟨"other", .entry, (apart content).sentTo root optimization found (.entry 1), some 1⟩ where
  not_mem := by
    intro hmem
    have hdestination := ((apart content).mem_sentTo_iff root optimization).1 hmem
    have howners := (destination_eq_entry_iff.1 hdestination.2).2
    -- the first entry is at the first module
    have hfirst : 0 ∈ owners (apart content).reached 0 :=
      (mem_owners_reached_iff (built_apart content).wellFormed).2 ⟨("main", 0), rfl, .refl⟩
    exact absurd ((howners 0).1 hfirst) (by decide)
  targets := fun _ _ _ => List.not_mem_nil
  entry := by
    rintro - heq
    cases heq

end ModuleGraph

open ModuleGraph in
/-- The chunk of the other entry keeps its script when the first module changes, though the modules
    are found in another order. -/
theorem emit_of_differsAt_apart :
    let c := BuildContext.loneConfiguration
    let g := apart "1"
    let g' := apart "2"
    let chunks := g.assignChunksFrom c.root c.optimization g.owned
    let chunks' := g'.assignChunksFrom c.root c.optimization g'.owned.reverse
    (g.Built ∧ DiffersAt 0 g g' ∧ g.HasDistinctDigits c.root ∧ g'.HasDistinctDigits c.root ∧
      g.ListsOwned g.owned ∧ g'.ListsOwned g'.owned.reverse) ∧
    ∃ o o' place chunk text, emit c g chunks none = .ok o ∧ emit c g' chunks' none = .ok o' ∧
      chunk.name = "other" ∧ Emit.IsUntouched g c.optimization.deterministicIds 0 chunk ∧
      o.HasScript c.context.mode g chunks place chunk text ∧
      o'.HasScript c.context.mode g' chunks' place chunk text := by
  intro c g g' chunks chunks'
  have hg : g.Built := built_apart "1"
  have hwell := hg.wellFormed
  have hdigits : g.HasDistinctDigits c.root := by
    show ([revised "1", besides].map (firstDigits c.root)).Nodup
    simp [c, BuildContext.root_lone, firstDigits_revised_one, firstDigits_besides]
  have hdigits' : g'.HasDistinctDigits c.root := by
    show ([revised "2", besides].map (firstDigits c.root)).Nodup
    simp [c, BuildContext.root_lone, firstDigits_revised_two, firstDigits_besides]
  have hdiffers : DiffersAt 0 g g' := differsAt_revised "1" "2" _ _ _ _
  have hfound := listsOwned_owned hwell
  have hfound' := (listsOwned_owned (built_apart "2").wellFormed).reverse
  refine ⟨⟨hg, hdiffers, hdigits, hdigits', hfound, hfound'⟩, ?_⟩
  obtain ⟨-, -, o, o', ho, ho', hall⟩ :=
    emit_of_differsAt c none hg hdiffers (fun _ => ⟨hdigits, hdigits'⟩) hfound hfound'
  have hchunk : ⟨"other", .entry, g.sentTo c.root c.optimization g.owned (.entry 1), some 1⟩
      ∈ chunks.chunks := by
    rw [chunks_assignChunksFrom]
    have hentry : (("other", 1), 1) ∈ g.entries.zipIdx := by simp [g, apart]
    exact List.mem_cons_of_mem _ (List.mem_append_right _ (List.mem_map.2 ⟨_, hentry, rfl⟩))
  have hpaths : g.HasDistinctPaths c.root := by
    unfold HasDistinctPaths
    decide +kernel
  obtain ⟨place, hplace⟩ := List.getElem?_of_mem hchunk
  obtain ⟨-, hscripts⟩ := hall place _ hplace (.inr (hpaths.nodup_of_mem_chunks hwell hfound hchunk))
  obtain ⟨text, htext, htext'⟩ := hscripts (isUntouched_apart "1")
  exact ⟨o, o', place, _, text, ho, ho', rfl, isUntouched_apart "1", htext, htext'⟩

/-! ## Two entries at one module -/

namespace ModuleGraph

/-- A module of some content with two entries. -/
def twice (content : String) : ModuleGraph where
  modules := [revised content]
  indexes := [(⟨"/x.js"⟩, 0)]
  entries := [("a", 0), ("b", 0)]

theorem built_twice (content : String) : (twice content).Built := by
  have hmodule := Built.empty.addModule_of_distinct (m := revised content) (by simp)
  exact (hmodule.addEntry "a" 0 Nat.zero_lt_one).addEntry "b" 0 Nat.zero_lt_one

theorem hasDistinctDigits_twice (content : String) (root : Path) :
    (twice content).HasDistinctDigits root :=
  List.pairwise_singleton _ _

/-- What both entries reach is in the chunk of neither. -/
theorem sentTo_twice (content : String) (root : Path) (optimization : Optimization)
    (found : List Nat) : (twice content).sentTo root optimization found (.entry 0) = [] := by
  refine List.eq_nil_iff_forall_not_mem.2 fun i hi => ?_
  have hdestination := ((twice content).mem_sentTo_iff root optimization).1 hi
  have howners := (destination_eq_entry_iff.1 hdestination.2).2
  simp only [mem_owners_reached_iff (built_twice content).wellFormed] at howners
  obtain ⟨e, he, hreaches⟩ := (howners 0).2 rfl
  obtain rfl := Option.some_inj.1 he
  -- the second entry is at the same module
  exact absurd ((howners 1).1 ⟨("b", 0), rfl, hreaches⟩) (by decide)

end ModuleGraph

/-- The script of a chunk that only starts a module. -/
def Emit.startingScript (id : String) : String :=
  "(self.weftChunks = self.weftChunks || []).push(\x7b\n  modules: [\n" ++
    String.join [] ++ "  ],\n  entries: " ++ Emit.listText [id] ++ "\n\x7d);\n"

open ModuleGraph in
/-- The chunk of an entry whose module is shared changes with the content of that module, though it
    neither holds it nor holds a module that refers to it. -/
theorem script_of_entry_elsewhere :
    let c := BuildContext.loneConfiguration
    let g := twice "1"
    let g' := twice "2"
    let chunks := g.assignChunks c.root c.optimization
    let chunks' := g'.assignChunks c.root c.optimization
    let chunk : Chunk := ⟨"a", .entry, [], some 0⟩
    (g.Built ∧ g'.Built ∧ DiffersAt 0 g g' ∧ g.HasDistinctDigits c.root ∧
      g'.HasDistinctDigits c.root) ∧
    chunk ∈ chunks.chunks ∧ chunk ∈ chunks'.chunks ∧
    ∃ text text', Emit.script c.context.mode g chunks chunk = .ok text ∧
      Emit.script c.context.mode g' chunks' chunk = .ok text' ∧ text ≠ text' := by
  intro c g g' chunks chunks' chunk
  have hchunk : ∀ content, chunk ∈ ((twice content).assignChunks c.root c.optimization).chunks := by
    intro content
    rw [chunks_assignChunks]
    refine List.mem_cons_of_mem _ (List.mem_append_right _ (List.mem_map.2 ⟨(("a", 0), 0), ?_, ?_⟩))
    · simp [twice]
    · rw [sentTo_twice]
  have hid : ∀ content, ((twice content).assignChunks c.root c.optimization).moduleId? 0
      = some (.ofList (firstDigits ⟨"/"⟩ (revised content))) := by
    intro content
    rw [moduleId?_eq_ownId (fun _ => hasDistinctDigits_twice content c.root)
      (i := 0) Nat.zero_lt_one]
    obtain ⟨-, -, -, -, hroot, hdeterministic⟩ := BuildContext.configuration_lone
    rw [hdeterministic, ← hroot]
    rfl
  have hscript : ∀ content, Emit.script c.context.mode (twice content)
      ((twice content).assignChunks c.root c.optimization) chunk
        = .ok (Emit.startingScript (.ofList (firstDigits ⟨"/"⟩ (revised content)))) := by
    intro content
    show Emit.moduleScript _ _ chunk = _
    unfold Emit.moduleScript
    simp only [chunk, Option.toList_some, List.mapM_cons, List.mapM_nil,
      Emit.moduleId_eq_ok_iff.2 (hid content)]
    rfl
  refine ⟨⟨built_twice "1", built_twice "2", differsAt_revised "1" "2" _ _ _ _,
    hasDistinctDigits_twice "1" c.root, hasDistinctDigits_twice "2" c.root⟩,
    hchunk "1", hchunk "2", _, _, hscript "1", hscript "2", ?_⟩
  rw [firstDigits_revised_one, firstDigits_revised_two]
  decide

end Bundler
