import Bundler.Proofs.Build.Closure
import Bundler.Proofs.Configuration.Entries
import Bundler.Proofs.Graph.Built
import Bundler.Proofs.Output.Order
import Bundler.Proofs.Transform.Names
import Mathlib.Data.List.TakeWhile

set_option autoImplicit false

/-! # Files that are named after their contents

The names of chunks and assets carry the digests of their contents, and a name tells which digits it
carries, since a digest holds no dot (`Carries.eq`). No asset has the name of a chunk or of the
document. So in a build with the standard transforms nothing is overwritten by something else, unless
different contents have the same digest (`exists_emit_holdsAll`). -/

namespace Bundler

/-! ## Extensions -/

namespace Path

/-- What a file name is cut into: either nothing is cut off, and no dot stands behind the first
    character, or what is cut off holds no dot. -/
theorem cutExtension_cases (name : String) :
    (cutExtension name = (name, none) ∧ '.' ∉ name.toList.tail) ∨
      ∃ stem ending, cutExtension name = (stem, some ending) ∧ '.' ∉ ending.toList := by
  unfold cutExtension
  dsimp only
  split
  · next hempty =>
    refine .inl ⟨rfl, fun hdot => ?_⟩
    cases hname : name.toList with
    | nil =>
      rw [hname] at hdot
      cases hdot
    | cons first rest =>
      rw [hname] at hdot hempty
      -- the part from the last dot on backwards is longer than the dot
      have hlast : rest.reverse.dropWhile (· ≠ '.') ≠ [] := by
        intro hnil
        have hall := List.dropWhile_eq_nil_iff.1 hnil '.' (List.mem_reverse.2 hdot)
        simp at hall
      rw [List.reverse_cons, List.dropWhile_append, if_neg (by simpa using hlast),
        List.isEmpty_iff, List.drop_eq_nil_iff, List.length_append] at hempty
      have hpos := List.length_pos_iff.2 hlast
      simp only [List.length_singleton] at hempty
      omega
  · refine .inr ⟨_, _, rfl, ?_⟩
    rw [String.toList_ofList, List.mem_reverse]
    intro hdot
    have hne := List.mem_takeWhile_imp hdot
    simp at hne

theorem extension?_cases (p : Path) :
    (p.extension? = none ∧ '.' ∉ (p.stem?.getD "").toList.tail) ∨
      ∃ ending, p.extension? = some ending ∧ '.' ∉ ending.toList := by
  unfold extension? stem?
  cases p.fileName? with
  | none => exact .inl ⟨rfl, List.not_mem_nil⟩
  | some name =>
    rcases cutExtension_cases name with ⟨hcut, hdot⟩ | ⟨stem, ending, hcut, hdot⟩
    · exact .inl ⟨by simp [hcut], by simpa [hcut] using hdot⟩
    · exact .inr ⟨ending, by simp [hcut], hdot⟩

end Path

/-! ## Digits in names -/

/-- Whether a name carries some digits in front of its extension, or at its end if it has none. -/
def Carries (digits name : List Char) : Prop :=
  (∃ start, name = start ++ digits ∧ '.' ∉ start.tail) ∨
    ∃ start ending, name = start ++ digits ++ '.' :: ending ∧ '.' ∉ ending

section Carries

variable {digits digits' name start ending ending' : List Char}

/-- Names with extensions are equal only if what precedes the extensions is. -/
theorem eq_of_append_dot {front front' : List Char} (h : '.' ∉ ending) (h' : '.' ∉ ending')
    (heq : front ++ '.' :: ending = front' ++ '.' :: ending') : front = front' := by
  rcases List.append_eq_append_iff.1 heq with ⟨more, hmore, hrest⟩ | ⟨more, hmore, hrest⟩
  · cases more with
    | nil => rw [hmore, List.append_nil]
    | cons c more =>
      refine absurd ?_ h
      rw [(List.cons.inj hrest).2]
      simp
  · cases more with
    | nil => rw [hmore, List.append_nil]
    | cons c more =>
      refine absurd ?_ h'
      rw [(List.cons.inj hrest).2]
      simp

/-- In a name with an extension, the digits precede it. -/
theorem Carries.suffix (h : Carries digits (start ++ '.' :: ending)) (hdigits : '.' ∉ digits)
    (hstart : start ≠ []) (hending : '.' ∉ ending) : digits <:+ start := by
  rcases h with ⟨front, hname, hfront⟩ | ⟨front, rest, hname, hrest⟩
  · -- the name has a dot behind its first character
    have hdot : '.' ∈ (front ++ digits).tail := by
      rw [← hname]
      cases start with
      | nil => exact absurd rfl hstart
      | cons c start => simp
    cases front with
    | nil => exact absurd (List.mem_of_mem_tail hdot) hdigits
    | cons c front => exact ((List.mem_append.1 hdot).elim hfront hdigits).elim
  · exact ⟨front, (eq_of_append_dot hending hrest hname).symm⟩

/-- A name does not carry different digits. -/
theorem Carries.eq (h : Carries digits name) (h' : Carries digits' name)
    (hlength : digits.length = digits'.length) (hne : digits ≠ []) (hdigits : '.' ∉ digits)
    (hdigits' : '.' ∉ digits') : digits = digits' := by
  have hne' : digits' ≠ [] := by
    rintro rfl
    exact hne (List.length_eq_zero_iff.1 hlength)
  rcases h with ⟨start, rfl, hstart⟩ | ⟨start, ending, rfl, hending⟩
  · rcases h' with ⟨start', hname, hstart'⟩ | ⟨start', ending', hname, hending'⟩
    · exact (List.append_inj' hname hlength).2
    · have h : Carries digits (start' ++ digits' ++ '.' :: ending') := .inl ⟨start, hname.symm, hstart⟩
      have hsuffix := h.suffix hdigits (by simp [hne']) hending'
      exact (List.suffix_of_suffix_length_le hsuffix (List.suffix_append _ _)
        (Nat.le_of_eq hlength)).eq_of_length
        hlength
  · have hsuffix := h'.suffix hdigits' (by simp [hne]) hending
    exact ((List.suffix_of_suffix_length_le hsuffix (List.suffix_append _ _)
      (Nat.le_of_eq hlength.symm)).eq_of_length hlength.symm).symm

end Carries

/-! ## Names of assets and chunks -/

theorem Digest.dot_not_mem_ofFile (content : ByteArray) : '.' ∉ (ofFile content).toList :=
  fun h => absurd (toList_ofFile_subset content h) (by decide)

theorem Digest.toList_ofFile_ne_nil (content : ByteArray) : (ofFile content).toList ≠ [] := by
  intro hnil
  have hlength := length_ofFile content
  rw [hnil] at hlength
  cases hlength

/-- The name of an asset carries the digest of its content. -/
theorem Asset.IsAddressed.carries {a : Asset} (h : a.IsAddressed) :
    Carries (Digest.ofFile a.content).toList a.fileName.toList := by
  obtain ⟨mode, p, hname⟩ := h
  rw [hname]
  unfold Transform.assetFileName
  rcases p.extension?_cases with ⟨hextension, hdot⟩ | ⟨ending, hextension, hdot⟩
  · left
    cases mode with
    | development =>
      refine ⟨(p.stem?.getD "" ++ "__").toList, by simp [hextension], ?_⟩
      rw [String.toList_append]
      cases hstem : (p.stem?.getD "").toList with
      | nil => decide
      | cons c rest =>
        rw [hstem] at hdot
        simpa using hdot
    | production => exact ⟨[], by simp [hextension], List.not_mem_nil⟩
  · right
    cases mode with
    | development =>
      exact ⟨(p.stem?.getD "" ++ "__").toList, ending.toList, by simp [hextension], hdot⟩
    | production => exact ⟨[], ending.toList, by simp [hextension], hdot⟩

/-- Assets of one name have the same digest. -/
theorem Asset.IsAddressed.digest_eq {a b : Asset} (ha : a.IsAddressed) (hb : b.IsAddressed)
    (h : a.fileName = b.fileName) : Digest.ofFile a.content = Digest.ofFile b.content := by
  refine String.toList_inj.1 (ha.carries.eq (h ▸ hb.carries) ?_ (Digest.toList_ofFile_ne_nil _)
    (Digest.dot_not_mem_ofFile _) (Digest.dot_not_mem_ofFile _))
  rw [Digest.length_ofFile, Digest.length_ofFile]

/-- The name of an asset is at least as long as a digest. -/
theorem Asset.IsAddressed.fileDigits_le_length {a : Asset} (h : a.IsAddressed) :
    Digest.fileDigits ≤ a.fileName.toList.length := by
  rw [← Digest.length_ofFile a.content]
  rcases h.carries with ⟨start, hname, -⟩ | ⟨start, ending, hname, -⟩
  · rw [hname, List.length_append]
    exact Nat.le_add_left _ _
  · rw [hname, List.length_append, List.length_append]
    omega

/-- The document has a name that no asset has. -/
theorem Asset.IsAddressed.fileName_ne_document {a : Asset} (h : a.IsAddressed) :
    a.fileName ≠ Document.fileName := by
  intro heq
  have hlength := h.fileDigits_le_length
  rw [heq] at hlength
  revert hlength
  decide

namespace Emit

theorem toList_chunkFileName (c : Chunk) (content : ByteArray) :
    (chunkFileName c content).toList =
      (c.name.toList ++ ['.']) ++ ((Digest.ofFile content).toList ++ ".bundle.js".toList) := by
  simp [chunkFileName]

/-- Chunks of one file name have the same name and the same digest. -/
theorem eq_of_chunkFileName_eq {c c' : Chunk} {content content' : ByteArray}
    (h : chunkFileName c content = chunkFileName c' content') :
    c.name = c'.name ∧ Digest.ofFile content = Digest.ofFile content' := by
  have hlists := congrArg String.toList h
  rw [toList_chunkFileName, toList_chunkFileName] at hlists
  have hlength : ((Digest.ofFile content).toList ++ ".bundle.js".toList).length
      = ((Digest.ofFile content').toList ++ ".bundle.js".toList).length := by
    rw [List.length_append, List.length_append, Digest.length_ofFile, Digest.length_ofFile]
  obtain ⟨hname, hdigest⟩ := List.append_inj' hlists hlength
  exact ⟨String.toList_inj.1 (List.append_cancel_right hname),
    String.toList_inj.1 (List.append_cancel_right hdigest)⟩

/-- Chunks have names that no asset has: what precedes their extension does not end with digits. -/
theorem fileName_ne_chunkFileName {a : Asset} (h : a.IsAddressed) (c : Chunk) (content : ByteArray) :
    a.fileName ≠ chunkFileName c content := by
  intro heq
  have hname : (chunkFileName c content).toList =
      (c.name.toList ++ ['.'] ++ (Digest.ofFile content).toList ++ ".bundle".toList) ++
        '.' :: "js".toList := by
    simp [chunkFileName]
  have hcarries := h.carries
  rw [heq, hname] at hcarries
  have hsuffix := hcarries.suffix (Digest.dot_not_mem_ofFile _) (by simp) (by decide)
  have hbundle : ".bundle".toList <:+ (Digest.ofFile a.content).toList := by
    refine List.suffix_of_suffix_length_le (List.suffix_append _ _) hsuffix ?_
    rw [Digest.length_ofFile]
    decide
  exact Digest.dot_not_mem_ofFile _ (hbundle.subset (by decide))

/-! ## Contents that collide -/

variable {mode : Mode} {g : ModuleGraph} {chunks : ChunkSet}

/-- Whether a content is emitted as the script of a chunk or as an asset. -/
def IsEmitted (mode : Mode) (g : ModuleGraph) (chunks : ChunkSet) (content : ByteArray) : Prop :=
  (∃ chunk ∈ chunks.chunks, ∃ text,
    script mode g chunks chunk = .ok text ∧ text.toUTF8 = content) ∨
  ∃ a ∈ g.modules.flatMap (·.assets), a.content = content

/-- Whether different contents that are emitted have the same digest in their names. -/
def HasCollision (mode : Mode) (g : ModuleGraph) (chunks : ChunkSet) : Prop :=
  ∃ content content', IsEmitted mode g chunks content ∧ IsEmitted mode g chunks content' ∧
    content ≠ content' ∧ Digest.ofFile content = Digest.ofFile content'

theorem IsEmitted.eq_of_digest_eq {content content' : ByteArray}
    (h : IsEmitted mode g chunks content) (h' : IsEmitted mode g chunks content')
    (hfree : ¬ HasCollision mode g chunks) (hdigest : Digest.ofFile content = Digest.ofFile content') :
    content = content' := by
  by_contra hne
  exact hfree ⟨content, content', h, h', hne, hdigest⟩

theorem isEmitted_script {chunk : Chunk} (hchunk : chunk ∈ chunks.chunks) {text : String}
    (htext : script mode g chunks chunk = .ok text) : IsEmitted mode g chunks text.toUTF8 :=
  .inl ⟨chunk, hchunk, text, htext, rfl⟩

theorem isEmitted_asset {a : Asset} (ha : a ∈ g.modules.flatMap (·.assets)) :
    IsEmitted mode g chunks a.content :=
  .inr ⟨a, ha, rfl⟩

/-- The file name of a chunk is that of its script only. -/
theorem isSole_of_isAddressed (hassets : ∀ a ∈ g.modules.flatMap (·.assets), a.IsAddressed)
    (hfree : ¬ HasCollision mode g chunks) {chunk : Chunk} (hchunk : chunk ∈ chunks.chunks)
    {text : String} (htext : script mode g chunks chunk = .ok text) :
    IsSole mode g chunks (chunkFileName chunk text.toUTF8) text where
  scripts := by
    intro other hother otherText hotherText hname
    refine String.toByteArray_inj.1 ?_
    exact (isEmitted_script hother hotherText).eq_of_digest_eq (isEmitted_script hchunk htext) hfree
      (eq_of_chunkFileName_eq hname).2
  assets := fun a ha => fileName_ne_chunkFileName (hassets a ha) chunk _

theorem assetsAgree_of_isAddressed (hassets : ∀ a ∈ g.modules.flatMap (·.assets), a.IsAddressed)
    (hfree : ¬ HasCollision mode g chunks) : g.AssetsAgree := fun a ha b hb hname =>
  (isEmitted_asset ha).eq_of_digest_eq (isEmitted_asset hb) hfree
    ((hassets a ha).digest_eq (hassets b hb) hname)

/-! ## Assets that are written -/

/-- An asset that is inserted stays if every later one of its name is the same. -/
theorem file?_of_foldl_insert {l : List Asset} {o : BuildOutput} {a : Asset}
    (hagree : ∀ b ∈ l, b.fileName = a.fileName → b.content = a.content)
    (hthere : a ∈ l ∨ o.file? a.fileName = some a.content) :
    (l.foldl (fun o b => o.insert b.fileName b.content) o).file? a.fileName = some a.content := by
  induction l generalizing o with
  | nil => exact hthere.resolve_left List.not_mem_nil
  | cons b rest ih =>
    refine ih (fun b hb => hagree b (List.mem_cons_of_mem _ hb)) ?_
    have hget : (o.insert b.fileName b.content).file? a.fileName
        = if a.fileName = b.fileName then some b.content else o.file? a.fileName :=
      NameMap.get?_insert _ _ _ _
    by_cases hname : a.fileName = b.fileName
    · right
      rw [hget, if_pos hname, hagree b List.mem_cons_self hname.symm]
    · rw [hget, if_neg hname]
      rcases hthere with hmem | hthere
      · rcases List.mem_cons.1 hmem with rfl | hmem
        · exact absurd rfl hname
        · exact .inl hmem
      · exact .inr hthere

/-- An asset is there under its name, unless that is the name of the document. -/
theorem file?_of_mem_assets {c : Configuration} {chunks : ChunkSet} {template : Option String}
    {o : BuildOutput} (h : emit c g chunks template = .ok o) (hassets : g.AssetsAgree) {a : Asset}
    (ha : a ∈ g.modules.flatMap (·.assets)) (hdocument : a.fileName ≠ Document.fileName) :
    o.file? a.fileName = some a.content := by
  obtain ⟨o', -, h⟩ := Result.bind_eq_ok_iff.1 h
  obtain rfl := Except.ok.inj h
  rw [file?_addDocument _ _ _ _ hdocument]
  exact file?_of_foldl_insert (fun b hb hname => hassets b hb a ha hname) (.inl ha)

end Emit

/-! ## Whole outputs -/

/-- Whether an output holds the script of every chunk under a name that is made of the name of the
    chunk and the digest of the script, every asset under its name, and the document. -/
structure BuildOutput.HoldsAll (o : BuildOutput) (c : Configuration) (g : ModuleGraph)
    (chunks : ChunkSet) (template : Option String) : Prop where
  scripts : List.Forall₂ (fun chunk file => ∃ text content,
    Emit.script c.context.mode g chunks chunk = .ok text ∧ content = text.toUTF8 ∧
    file = (chunk.name, chunk.name ++ "." ++ Digest.ofFile content ++ ".bundle.js") ∧
    o.file? file.2 = some content) chunks.chunks o.chunkFiles
  assets : ∀ m ∈ g.modules, ∀ a ∈ m.assets,
    a.IsAddressed ∧ o.file? a.fileName = some a.content
  document : ∃ entry, c.startEntry = some entry ∧ o.document = some Document.fileName ∧
    o.file? Document.fileName = some (Document.render template c.context.publicPath
      ((chunks.entryChunks entry.name).filterMap fun chunk => o.chunkFile? chunk.name)).toUTF8

/-- Nothing is overwritten if assets are named after their contents, unless contents collide. -/
theorem Emit.holdsAll_of_emit {c : Configuration} {g : ModuleGraph} {chunks : ChunkSet}
    {template : Option String} {o : BuildOutput} (h : emit c g chunks template = .ok o)
    (hassets : ∀ a ∈ g.modules.flatMap (·.assets), a.IsAddressed) {entry : Entry}
    (hentry : c.startEntry = some entry) (hfree : ¬ HasCollision c.context.mode g chunks) :
    o.HoldsAll c g chunks template where
  scripts := by
    refine Result.forall₂_imp_of_mem (chunkFiles_of_emit h) fun chunk hchunk file hfile => ?_
    obtain ⟨text, htext, rfl⟩ := hfile
    refine ⟨text, _, htext, rfl, rfl, file?_of_emit h hchunk htext ?_⟩
    exact isSole_of_isAddressed hassets hfree hchunk htext
  assets := by
    intro m hm a ha
    have hmem : a ∈ g.modules.flatMap (·.assets) := List.mem_flatMap.2 ⟨m, hm, ha⟩
    exact ⟨hassets a hmem, file?_of_mem_assets h (assetsAgree_of_isAddressed hassets hfree) hmem
      (hassets a hmem).fileName_ne_document⟩
  document := ⟨entry, hentry, document_of_emit h hentry⟩

/-! ## Builds with the standard transforms -/

/-- Whether every known module was made from the file at its path with the standard transforms, in
    whatever project. -/
def ModuleCache.IsStandard (cache : ModuleCache) : Prop :=
  ∀ e ∈ cache.entries, ∃ c : BuildContext,
    c.registry = Transform.standard ∧ c.made e.1 = .ok e.2

namespace BuildContext

variable {c : BuildContext} {cache : ModuleCache}

theorem isStandard_empty : ModuleCache.empty.IsStandard := fun e he => by cases he

/-- A build leaves such modules behind, so that the next one finds them. -/
theorem isStandard_run_build (hregistry : c.registry = Transform.standard) {s : BuildState}
    (h : s.cache.IsStandard) : (c.build.run.run s).2.cache.IsStandard := by
  obtain ⟨-, paths, -, hcache⟩ := c.run_graph s
  rw [(c.run_build s).2, hcache]
  refine List.foldlRecOn (motive := ModuleCache.IsStandard) paths _ h fun cache hcache p _ => ?_
  unfold cacheAfter
  split
  · next m _ hmade =>
    intro e he
    rcases List.mem_cons.1 he with rfl | he
    · exact ⟨c, hregistry, hmade⟩
    · exact hcache e (List.mem_filter.1 he).1
  · exact hcache

/-- All assets of the graph of a build are named after their contents. -/
theorem isAddressed_of_mem_graph (hregistry : c.registry = Transform.standard)
    (hcache : cache.IsStandard) {g : ModuleGraph} (hg : c.graphWith cache = .ok g) {a : Asset}
    (ha : a ∈ g.modules.flatMap (·.assets)) : a.IsAddressed := by
  obtain ⟨m, hm, ha⟩ := List.mem_flatMap.1 ha
  obtain ⟨p, hmodule⟩ := exists_moduleWith_of_mem_graph hg hm
  unfold moduleWith at hmodule
  split at hmodule
  · next known hget =>
    obtain rfl := Except.ok.inj hmodule
    obtain ⟨e, he, rfl⟩ := Option.map_eq_some_iff.1 hget
    obtain ⟨c', hregistry', hmade⟩ := hcache e (List.mem_of_find?_eq_some he)
    exact isAddressed_of_made hregistry' hmade ha
  · exact isAddressed_of_made hregistry hmodule ha

/-- The graph of a build can be emitted, and the output holds every chunk, every asset and the
    document under their names, unless different contents have the same digest. -/
theorem exists_emit_holdsAll (c : BuildContext) (s : BuildState) {root : Path}
    {environment : NameMap String} {overrides : Configuration.Overrides} {registry : Registry}
    {statements : List Settings.Statement}
    (hc : Configuration.ofStatements root environment overrides registry statements
      = .ok c.configuration)
    (hregistry : c.registry = Transform.standard) (hs : s.cache.IsStandard) {g : ModuleGraph}
    (hg : (c.graph.run.run s).1 = .ok g) (template : Option String) :
    let chunks := g.assignChunks c.configuration.root c.configuration.optimization
    ∃ o, emit c.configuration g chunks template = .ok o ∧
      (Emit.HasCollision c.configuration.context.mode g chunks ∨
        o.HoldsAll c.configuration g chunks template) := by
  intro chunks
  rw [(c.run_graph s).1] at hg
  have hwell := (built_of_graphWith hg).wellFormed
  obtain ⟨entry, -, hentry⟩ := Configuration.exists_startEntry_ofStatements hc
  obtain ⟨o, ho⟩ := Emit.exists_emit c.configuration hwell.edgesInRange hwell.entry_lt template
  refine ⟨o, ho, or_iff_not_imp_left.2 fun hfree => ?_⟩
  exact Emit.holdsAll_of_emit ho (fun a ha => isAddressed_of_mem_graph hregistry hs hg ha) hentry
    hfree

/-! ## Two scripts and an image -/

theorem dependencies_pictured : picturedGraph.dependencies 0 = [("/b.js", 1), ("/c.png", 2)] ∧
    picturedGraph.dependencies 1 = [] ∧ picturedGraph.dependencies 2 = [] := by
  have hdistinct : Path.AllDistinct (picturedLoaded.map (·.module.path)) := by
    unfold Path.AllDistinct
    decide
  have hdependencies := fun i l => ModuleGraph.dependencies_ofLoaded (i := i) (l := l) hdistinct
    (by decide) [("main", ⟨"/a.js"⟩)]
  exact ⟨hdependencies 0 _ rfl, hdependencies 1 _ rfl, hdependencies 2 _ rfl⟩

/-- The script of the chunk of the entry. -/
def picturedMain : String :=
  let head := "function (module, exports, require) \x7b\n"
  String.join ["(self.weftChunks = self.weftChunks || []).push(\x7b\n  modules: [\n",
    "    [\"a.js\", \x7b\"/b.js\":\"b.js\",\"/c.png\":\"c.png\"\x7d, ", head, picturedEntry.content,
    "\n\x7d],\n    [\"b.js\", \x7b\x7d, ", head, picturedScript.content,
    "\n\x7d],\n    [\"c.png\", \x7b\x7d, ", head, picturedImage.content,
    "\n\x7d],\n  ],\n", "  entries: [\"a.js\"]\n\x7d);\n"]

theorem script_pictured : Emit.script .development picturedGraph picturedChunks
    ⟨"main", .entry, [0, 1, 2], some 0⟩ = .ok picturedMain := by
  obtain ⟨hfirst, hsecond, hthird⟩ := dependencies_pictured
  unfold Emit.script Emit.moduleScript Emit.registration Emit.dependencyIds
  simp only [List.mapM_cons, List.mapM_nil, hfirst, hsecond, hthird]
  refine (congrArg Except.ok ?_ :)
  decide +kernel

set_option maxRecDepth 100000 in
theorem ofFile_picturedMain : Digest.ofFile picturedMain.toUTF8 = "92ce33c8864b389a2f26" := by
  rw [Digest.ofFile_toUTF8, picturedMain, Text.bytesOf_join]
  decide +kernel

set_option maxRecDepth 100000 in
theorem ofFile_loader :
    Digest.ofFile (Loader.source .development).toUTF8 = "6cdbf440bd1cc4fd69d7" := by
  rw [Digest.ofFile_toUTF8, Loader.source, Text.bytesOf_append, Loader.registry, Loader.liveUpdate,
    Loader.unlines, Loader.unlines, Text.bytesOf_join, Text.bytesOf_join]
  decide +kernel

/-- The loader, the script of the entry and the image have different digests. -/
theorem hasNoCollision_pictured :
    ¬ Emit.HasCollision .development picturedGraph picturedChunks := by
  have hemitted : ∀ content, Emit.IsEmitted .development picturedGraph picturedChunks content →
      content = (Loader.source .development).toUTF8 ∨ content = picturedMain.toUTF8 ∨
        content = picturedAsset.content := by
    rintro content (⟨chunk, hchunk, text, htext, rfl⟩ | ⟨a, ha, rfl⟩)
    · rcases List.mem_pair.1 hchunk with rfl | rfl
      · exact .inl (congrArg String.toUTF8 (Except.ok.inj htext).symm)
      · exact .inr (.inl (congrArg String.toUTF8 (Except.ok.inj (htext.symm.trans script_pictured))))
    · exact .inr (.inr (congrArg Asset.content (List.mem_singleton.1 ha)))
  have hloader := ofFile_loader
  have hmain := ofFile_picturedMain
  have himage := ofFile_picturedAsset
  rintro ⟨content, content', h, h', hne, hdigest⟩
  rcases hemitted content h with rfl | rfl | rfl <;> rcases hemitted content' h' with rfl | rfl | rfl
  · exact hne rfl
  · exact absurd (hloader.symm.trans (hdigest.trans hmain)) (by decide)
  · exact absurd (hloader.symm.trans (hdigest.trans himage)) (by decide)
  · exact absurd (hmain.symm.trans (hdigest.trans hloader)) (by decide)
  · exact hne rfl
  · exact absurd (hmain.symm.trans (hdigest.trans himage)) (by decide)
  · exact absurd (himage.symm.trans (hdigest.trans hloader)) (by decide)
  · exact absurd (himage.symm.trans (hdigest.trans hmain)) (by decide)
  · exact hne rfl

/-- The output of the project holds its scripts, the image and the document. -/
theorem exists_emit_holdsAll_pictured :
    let c := pictured
    let g := picturedGraph
    let chunks := g.assignChunks c.configuration.root c.configuration.optimization
    (c.registry = Transform.standard ∧ ModuleCache.empty.IsStandard ∧
      (c.graph.run.run {}).1 = .ok g ∧
      ¬ Emit.HasCollision c.configuration.context.mode g chunks) ∧
    ∃ o, emit c.configuration g chunks none = .ok o ∧ o.HoldsAll c.configuration g chunks none ∧
      o.file? "c__2d711642b726b0440162.png" = some "x".toUTF8 := by
  intro c g chunks
  have hfree : ¬ Emit.HasCollision c.configuration.context.mode g chunks := by
    rw [settings_pictured.2.1, show chunks = picturedChunks from assignChunks_pictured]
    exact hasNoCollision_pictured
  obtain ⟨o, ho, hholds⟩ := exists_emit_holdsAll c {} ofStatements_pictured rfl isStandard_empty
    run_graph_pictured none
  have hall := hholds.resolve_left hfree
  have hmodule : picturedImage ∈ picturedGraph.modules := by simp [picturedGraph]
  obtain ⟨-, hasset⟩ := hall.assets picturedImage hmodule picturedAsset List.mem_cons_self
  exact ⟨⟨rfl, isStandard_empty, run_graph_pictured, hfree⟩, o, ho, hall, hasset⟩

end BuildContext

end Bundler
