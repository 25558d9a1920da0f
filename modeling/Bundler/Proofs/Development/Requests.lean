import Bundler.Proofs.Development.Serving
import Bundler.Proofs.Development.Url
import Bundler.Proofs.Disk
import Bundler.Proofs.Settings.Names

set_option autoImplicit false

/-! # Requests for the files of a build

The document and the modules of assets name files by URLs: the public path and then the name of the
file. The server looks for the file by the path of a request as it was sent. So it finds the file
exactly if its name is sent as it is (`fileName_encodePath_eq_iff`), and then it answers with its
content, whether or not it falls back to the document (`serves_of_build`). A name that is not sent as
it is, such as one with a space, is not found (`spaced_not_served`). -/

namespace Bundler

/-- Whether the name of a file is sent as it is in the path of a URL, and starts with no slash. -/
structure IsSentAsIs (name : String) : Prop where
  plain : Url.IsPlain name
  head : name.toList.head? ≠ some '/'

/-! ## Names that are asked for -/

namespace RouterSettings

variable {settings : RouterSettings}

/-- What is sent for a query or a fragment is none. -/
theorem pathOf_encodePath (path : String) : pathOf (Url.encodePath path) = Url.encodePath path := by
  have hall : ∀ c ∈ (Url.encodePath path).toList, decide (c ≠ '?' ∧ c ≠ '#') = true := by
    intro c hc
    refine decide_eq_true ⟨?_, ?_⟩
    · rintro rfl
      exact absurd (Url.isPathChar_of_mem_encodePath hc) (by decide)
    · rintro rfl
      exact absurd (Url.isPathChar_of_mem_encodePath hc) (by decide)
  unfold pathOf
  rw [List.takeWhile_eq_self_iff.2 hall, String.ofList_toList]

theorem head?_dropWhile_slash (l : List Char) : (l.dropWhile (· = '/')).head? ≠ some '/' := by
  intro hslash
  have hkept := List.head?_dropWhile_not (fun c => decide (c = '/')) l
  rw [hslash] at hkept
  simp at hkept

theorem dropWhile_slash_of_head {l : List Char} (h : l.head? ≠ some '/') :
    l.dropWhile (· = '/') = l := by
  refine List.dropWhile_eq_self_iff.2 fun hlength hslash => h ?_
  rw [List.head?_eq_getElem?, List.getElem?_eq_getElem hlength, of_decide_eq_true hslash]

/-- The public path is cut off, and slashes that start what was sent for the name. -/
theorem fileName_encodePath (h : Url.IsPlain settings.publicPath) (name : String) :
    settings.fileName (Url.encodePath (settings.publicPath ++ name)) =
      .ofList ((Url.encodePath name).toList.dropWhile (· = '/')) := by
  have hprefix : settings.publicPath.toList.isPrefixOf
      (settings.publicPath.toList ++ (Url.encodePath name).toList) = true :=
    List.isPrefixOf_iff_prefix.2 (List.prefix_append _ _)
  unfold fileName
  dsimp only
  rw [Url.encodePath_append, Url.encodePath_eq_iff.2 h, String.toList_append, if_pos hprefix,
    List.drop_left]

/-- The name of a file is asked for exactly if it is sent as it is. -/
theorem fileName_encodePath_eq_iff (h : Url.IsPlain settings.publicPath) {name : String} :
    settings.fileName (Url.encodePath (settings.publicPath ++ name)) = name ↔ IsSentAsIs name := by
  rw [fileName_encodePath h]
  constructor
  · intro heq
    have hdropped := congrArg String.toList heq
    rw [String.toList_ofList] at hdropped
    have hhead := head?_dropWhile_slash (Url.encodePath name).toList
    rw [hdropped] at hhead
    rw [dropWhile_slash_of_head (mt Url.head?_encodePath_eq_slash_iff.1 hhead),
      String.ofList_toList] at heq
    exact ⟨Url.encodePath_eq_iff.1 heq, hhead⟩
  · rintro ⟨hplain, hhead⟩
    rw [Url.encodePath_eq_iff.2 hplain, dropWhile_slash_of_head hhead, String.ofList_toList]

theorem percent_mem_dropWhile_slash {l : List Char} (h : '%' ∈ l) :
    '%' ∈ l.dropWhile (· = '/') := by
  rw [← List.takeWhile_append_dropWhile (p := fun c => decide (c = '/')) (l := l),
    List.mem_append] at h
  refine h.resolve_left fun htaken => ?_
  have hslash := List.mem_takeWhile_imp htaken
  revert hslash
  decide

/-- What is asked for is not found if it holds a percent sign and no name of a file does. -/
theorem servedName?_eq_none {o : BuildOutput} {path : String}
    (hfallback : settings.historyFallback = false)
    (hfiles : ∀ name : String, '%' ∈ name.toList → o.file? name = none)
    (hpath : '%' ∈ (settings.fileName path).toList) : settings.servedName? o path = none := by
  have hne : settings.fileName path ≠ "" := by
    intro heq
    rw [heq] at hpath
    cases hpath
  unfold servedName?
  dsimp only
  rw [if_neg hne, Option.filter_some, hfiles _ hpath, hfallback]
  rfl

/-- No path with a percent sign is that of live updates. -/
theorem isEvents_eq_false {target : String} (h : '%' ∈ (pathOf target).toList) :
    isEvents target = false := by
  refine beq_false_of_ne fun heq => ?_
  rw [heq] at h
  revert h
  decide

end RouterSettings

/-! ## Outputs that are served -/

namespace BuildOutput

variable {o : BuildOutput} {publicPath name : String}

/-- Whether a request for the URL of a file of an output is answered with its content by every server
    that serves the output, whether or not it falls back to the document. -/
def Serves (o : BuildOutput) (publicPath name : String) : Prop :=
  ∃ content, o.file? name = some content ∧
    ∀ (server : Server) (error : Option String) (r : Request),
      server.settings.publicPath = publicPath → server.state = .serving ⟨o, error⟩ →
      RouterSettings.pathOf r.target = Url.encodePath (publicPath ++ name) →
      ∃ response, server.response? r = some response ∧ response.status = 200 ∧
        response.body = content

/-- A file is served if its name is sent as it is, and is too long for the path of live updates. -/
theorem serves_of_isSentAsIs (hpublic : Url.IsPlain publicPath) (hname : IsSentAsIs name)
    (hlength : Loader.eventsPath.toList.length < name.toList.length)
    (hfile : (o.file? name).isSome = true) : o.Serves publicPath name := by
  obtain ⟨content, hcontent⟩ := Option.isSome_iff_exists.1 hfile
  refine ⟨content, hcontent, fun server error r hsettings hstate htarget => ?_⟩
  -- a path that ends with the name would be longer than that of live updates
  have hevents : RouterSettings.isEvents r.target = false := by
    refine beq_false_of_ne fun heq => ?_
    have hsent : Loader.eventsPath = publicPath ++ name := by
      rw [← heq, htarget, Url.encodePath_append, Url.encodePath_eq_iff.2 hpublic,
        Url.encodePath_eq_iff.2 hname.plain]
    rw [hsent, String.toList_append, List.length_append] at hlength
    omega
  have hasked : server.settings.fileName (RouterSettings.pathOf r.target) = name := by
    rw [htarget, ← hsettings]
    exact (RouterSettings.fileName_encodePath_eq_iff (hsettings ▸ hpublic)).2 hname
  have hne : name ≠ "" := by
    rintro rfl
    exact absurd hlength (by decide)
  have hserved : server.settings.servedName? o (RouterSettings.pathOf r.target) = some name := by
    unfold RouterSettings.servedName?
    dsimp only
    rw [hasked, if_neg hne, Option.filter_some, if_pos hfile]
    rfl
  obtain ⟨hstatus, -, hbody⟩ := Response.encodeFor_spec r.acceptEncoding
    (server.settings.snapshotResponse ⟨o, error⟩ (RouterSettings.pathOf r.target))
  have hresponse : server.response? r = some (server.settings.respond ⟨o, error⟩ r) := by
    unfold Server.response?
    rw [hevents, hstate]
    rfl
  refine ⟨_, hresponse, ?_⟩
  unfold RouterSettings.respond
  rw [hstatus, hbody]
  unfold RouterSettings.snapshotResponse
  rw [hserved]
  unfold RouterSettings.fileResponse
  dsimp only
  rw [hcontent]
  exact ⟨rfl, rfl⟩

/-- A file whose name is not made of characters of paths is not found, if no name holds a percent
    sign. -/
theorem not_serves_of_not_isPlain (hpublic : Url.IsPlain publicPath) (hname : ¬ Url.IsPlain name)
    (hfiles : ∀ other : String, '%' ∈ other.toList → o.file? other = none) :
    Server.response? ⟨⟨publicPath, false⟩, .serving ⟨o, none⟩, true, []⟩
        ⟨"GET", Url.encodePath (publicPath ++ name), none⟩ = some (.ofStatus 404) ∧
      ¬ o.Serves publicPath name := by
  have hsent := Url.percent_mem_encodePath hname
  have htarget := RouterSettings.pathOf_encodePath (publicPath ++ name)
  have hevents : RouterSettings.isEvents (Url.encodePath (publicPath ++ name)) = false := by
    refine RouterSettings.isEvents_eq_false ?_
    rw [htarget, Url.encodePath_append, String.toList_append]
    exact List.mem_append_right _ hsent
  have hserved : RouterSettings.servedName? ⟨publicPath, false⟩ o
      (Url.encodePath (publicPath ++ name)) = none := by
    refine RouterSettings.servedName?_eq_none rfl hfiles ?_
    show '%' ∈ (RouterSettings.fileName ⟨publicPath, false⟩ _).toList
    rw [RouterSettings.fileName_encodePath hpublic, String.toList_ofList]
    exact RouterSettings.percent_mem_dropWhile_slash hsent
  have hresponse : Server.response? ⟨⟨publicPath, false⟩, .serving ⟨o, none⟩, true, []⟩
      ⟨"GET", Url.encodePath (publicPath ++ name), none⟩ = some (.ofStatus 404) := by
    unfold Server.response?
    rw [hevents]
    show some (RouterSettings.respond _ _ _) = _
    unfold RouterSettings.respond RouterSettings.snapshotResponse
    rw [htarget, hserved]
    rfl
  refine ⟨hresponse, ?_⟩
  rintro ⟨content, -, hserves⟩
  obtain ⟨response, hanswer, hstatus, -⟩ := hserves
    ⟨⟨publicPath, false⟩, .serving ⟨o, none⟩, true, []⟩ none
    ⟨"GET", Url.encodePath (publicPath ++ name), none⟩ rfl rfl htarget
  rw [hresponse] at hanswer
  obtain rfl := Option.some.inj hanswer
  cases hstatus

end BuildOutput

/-! ## Names in builds -/

/-- Identifiers are sent as they are. -/
theorem isSentAsIs_of_isIdentifier {name : String} (h : Settings.IsIdentifier name) :
    IsSentAsIs name := by
  obtain ⟨hhead, hword⟩ := h
  refine ⟨fun c hc => ?_, fun hslash => ?_⟩
  · rcases Bool.or_eq_true_iff.1 (hword c hc) with halphanumeric | hsign
    · unfold Url.isPathChar
      rw [halphanumeric, Bool.true_or]
    · rw [eq_of_beq hsign]
      decide
  · rw [hslash] at hhead
    revert hhead
    decide

theorem isPlain_ofFile (content : ByteArray) : Url.IsPlain (Digest.ofFile content) := by
  have hdigits : ∀ c ∈ Bytes.hexDigits, Url.isPathChar c = true :=
    List.all_eq_true.1 (by decide +kernel)
  exact fun c hc => hdigits c (Digest.toList_ofFile_subset content hc)

namespace Emit

/-- The file of a chunk is sent as it is if the name of the chunk is. -/
theorem isSentAsIs_chunkFileName {chunk : Chunk} (h : IsSentAsIs chunk.name) (content : ByteArray) :
    IsSentAsIs (chunkFileName chunk content) := by
  have hending : ∀ c ∈ ".bundle.js".toList, Url.isPathChar c = true :=
    List.all_eq_true.1 (by decide)
  have hdot : ∀ c ∈ ".".toList, Url.isPathChar c = true := List.all_eq_true.1 (by decide +kernel)
  constructor
  · intro c hc
    simp only [chunkFileName, String.toList_append, List.mem_append] at hc
    rcases hc with ((hc | hc) | hc) | hc
    · exact h.plain c hc
    · exact hdot c hc
    · exact isPlain_ofFile content c hc
    · exact hending c hc
  · have hhead := h.head
    simp only [chunkFileName, String.toList_append]
    cases hname : chunk.name.toList with
    | nil => simp
    | cons first rest =>
      rw [hname] at hhead
      simpa using hhead

/-- If no name has a percent sign, no file is found by a name with one. -/
theorem file?_eq_none_of_percent {c : Configuration} {g : ModuleGraph} {chunks : ChunkSet}
    {template : Option String} {o : BuildOutput} (h : emit c g chunks template = .ok o)
    (hchunks : ∀ chunk ∈ chunks.chunks, IsSentAsIs chunk.name)
    (hassets : ∀ a ∈ g.modules.flatMap (·.assets), '%' ∉ a.fileName.toList) {name : String}
    (hpercent : '%' ∈ name.toList) : o.file? name = none := by
  have hsign : ¬ Url.isPathChar '%' = true := by decide
  have hdocument : '%' ∉ Document.fileName.toList := by decide
  refine file?_eq_none_of_emit h (fun chunk hchunk content heq => hsign ?_)
    (fun a ha heq => hassets a ha (heq ▸ hpercent)) fun heq => hdocument (heq ▸ hpercent)
  exact (isSentAsIs_chunkFileName (hchunks chunk hchunk) content).plain '%' (heq ▸ hpercent)

theorem length_chunkFileName (chunk : Chunk) (content : ByteArray) :
    Digest.fileDigits ≤ (chunkFileName chunk content).toList.length := by
  simp only [chunkFileName, String.toList_append, List.length_append, Digest.length_ofFile]
  omega

end Emit

theorem isSentAsIs_of_mem_sharedNames {name : String}
    (h : name ∈ [ModuleGraph.runtimeName, ModuleGraph.vendorName, ModuleGraph.commonName]) :
    IsSentAsIs name := by
  have hnames : ∀ name ∈ [ModuleGraph.runtimeName, ModuleGraph.vendorName, ModuleGraph.commonName],
      Settings.IsIdentifier name := by
    decide +kernel
  exact isSentAsIs_of_isIdentifier (hnames name h)

section

variable {g : ModuleGraph} {root : Path} {optimization : Optimization} {chunk : Chunk}

/-- The names of the chunks that an entry needs are sent as they are if its own is. -/
theorem isSentAsIs_of_mem_entryChunks {entry : String} (h : IsSentAsIs entry)
    (hchunk : chunk ∈ (g.assignChunks root optimization).entryChunks entry) :
    IsSentAsIs chunk.name := by
  obtain ⟨hmem, hneeded⟩ := List.mem_filter.1 hchunk
  rcases of_decide_eq_true hneeded with hkind | hname
  · exact isSentAsIs_of_mem_sharedNames
      (ModuleGraph.name_of_mem_shared (ChunkSet.mem_shared_iff.2 ⟨hmem, hkind⟩))
  · exact hname ▸ h

/-- So are those of all chunks if the names of all entries are. -/
theorem isSentAsIs_of_mem_chunks (h : ∀ e ∈ g.entries, IsSentAsIs e.1)
    (hchunk : chunk ∈ (g.assignChunks root optimization).chunks) : IsSentAsIs chunk.name := by
  rcases ModuleGraph.name_of_mem_chunks root optimization hchunk with ⟨hname, -⟩ | ⟨e, he, hname, -⟩
  · exact isSentAsIs_of_mem_sharedNames hname
  · exact hname ▸ h e he

end

/-- The scripts that the document of a build loads. -/
def Build.documentScripts (b : Build) (entry : String) : List String :=
  (b.chunks.entryChunks entry).filterMap fun chunk => b.output.chunkFile? chunk.name

namespace BuildContext

variable {c : BuildContext} {b : Build}

/-- In development, the files that the document and the modules of a build name are served, if their
    names are sent as they are. Those of the scripts are if the name of the entry is, and so they are
    if the configuration was read from a settings file. -/
theorem serves_of_build {root : Path} {environment : NameMap String}
    {overrides : Configuration.Overrides} {registry : Registry}
    {statements : List Settings.Statement}
    (hc : Configuration.ofStatements root environment overrides registry statements
      = .ok c.configuration)
    (hregistry : c.registry = Transform.standard)
    (hmode : c.configuration.context.mode = .development)
    (hpublic : Url.IsPlain c.configuration.context.publicPath) {s : BuildState}
    (hs : s.cache.IsStandard) (hb : (c.build.run.run s).1 = .ok b) :
    ∃ entry template, c.configuration.startEntry = some entry ∧ c.template = .ok template ∧
      b.output.file? Document.fileName = some (Document.render template
        c.configuration.context.publicPath (b.documentScripts entry.name)).toUTF8 ∧
      (IsSentAsIs entry.name ∨ (∃ source, Settings.read source = .ok statements) →
        ∀ file ∈ b.documentScripts entry.name,
          b.output.Serves c.configuration.context.publicPath file) ∧
      (∀ m ∈ b.graph.modules, ∀ a ∈ m.assets, IsSentAsIs a.fileName →
        b.output.Serves c.configuration.context.publicPath a.fileName) ∧
      (Emit.HasCollision c.configuration.context.mode b.graph b.chunks ∨
        b.output.HoldsAll c.configuration b.graph b.chunks template) := by
  rw [(c.run_build s).1] at hb
  obtain ⟨entry, hmem, hentry⟩ := Configuration.exists_startEntry_ofStatements hc
  obtain ⟨template, o, htemplate, ho, -, -, -, hsame⟩ := exists_emit_of_buildWith hb
  obtain ⟨hg, hchunks, -⟩ := buildWith_eq_ok hb
  rw [← hsame hmode] at ho
  have hassets : ∀ a ∈ b.graph.modules.flatMap (·.assets), a.IsAddressed :=
    fun a ha => isAddressed_of_mem_graph hregistry hs hg ha
  have hevents : Loader.eventsPath.toList.length < Digest.fileDigits := by decide
  refine ⟨entry, template, hentry, htemplate, (Emit.document_of_emit ho hentry).2, ?_, ?_, ?_⟩
  · intro hnamed file hfile
    have hname : IsSentAsIs entry.name := by
      refine hnamed.elim id fun ⟨source, hread⟩ => ?_
      obtain ⟨path, hpath⟩ := Configuration.exists_of_mem_entries_ofStatements hc hmem
      exact isSentAsIs_of_isIdentifier (Settings.isIdentifier_of_read hread hpath)
    obtain ⟨chunk, hchunk, hfile⟩ := List.mem_filterMap.1 hfile
    have hmem := NameMap.mem_of_lookup hfile
    obtain ⟨named, -, text, -, heq⟩ :=
      Result.exists_of_mem_right (Emit.chunkFiles_of_emit ho) hmem
    obtain ⟨hsameName, rfl⟩ := Prod.mk.inj heq
    have hsent : IsSentAsIs named.name := by
      rw [← hsameName]
      exact isSentAsIs_of_mem_entryChunks hname (hchunks ▸ hchunk)
    exact BuildOutput.serves_of_isSentAsIs hpublic (Emit.isSentAsIs_chunkFileName hsent _)
      (Nat.lt_of_lt_of_le hevents (Emit.length_chunkFileName named _))
      (Emit.isSome_file?_of_mem_chunkFiles ho hmem)
  · intro m hm a ha hname
    have ha : a ∈ b.graph.modules.flatMap (·.assets) := List.mem_flatMap.2 ⟨m, hm, ha⟩
    exact BuildOutput.serves_of_isSentAsIs hpublic hname
      (Nat.lt_of_lt_of_le hevents (hassets a ha).fileDigits_le_length)
      (Emit.isSome_file?_of_mem_assets ho ha)
  · exact or_iff_not_imp_left.2 fun hfree => Emit.holdsAll_of_emit ho hassets hentry hfree

/-- The loader, the script of the entry and the image are served. -/
theorem serves_of_build_pictured :
    let c := pictured
    (c.registry = Transform.standard ∧ c.configuration.context.mode = .development ∧
      c.configuration.context.publicPath = "/" ∧ ModuleCache.empty.IsStandard) ∧
    ∃ b entry loader main, (c.build.run.run {}).1 = .ok b ∧
      c.configuration.startEntry = some entry ∧ b.graph = picturedGraph ∧
      b.documentScripts entry.name = [loader, main] ∧ b.output.Serves "/" loader ∧
      b.output.Serves "/" main ∧ b.output.Serves "/" picturedAsset.fileName := by
  intro c
  obtain ⟨-, hmode, hpath, -⟩ := settings_pictured
  obtain ⟨-, -, htemplate, -⟩ := configuration_pictured
  have hpublic : Url.IsPlain c.configuration.context.publicPath := by
    rw [hpath]
    exact fun ch hch => List.mem_singleton.1 hch ▸ rfl
  have hplain : c.disk.current.IsPlain := by decide
  obtain ⟨b, hb, hgraph, hchunks⟩ := exists_build_of_graphWith {} hplain ModuleCache.own_empty
    graphWith_pictured (template_of_eq_none htemplate)
  rw [assignChunks_pictured] at hchunks
  obtain ⟨entry, template, hentry, -, -, hscripts, hassets, hholds⟩ :=
    serves_of_build ofStatements_pictured rfl hmode hpublic isStandard_empty hb
  have hmain : c.configuration.startEntry = some ⟨"main", ⟨"/a.js"⟩⟩ := by decide +kernel
  obtain rfl := Option.some.inj (hmain.symm.trans hentry)
  have hserved := hscripts (.inl (isSentAsIs_of_isIdentifier (by decide)))
  have hasset : b.output.Serves c.configuration.context.publicPath picturedAsset.fileName := by
    refine hassets picturedImage (by simp [hgraph, picturedGraph]) _ List.mem_cons_self
      ⟨List.all_eq_true.1 (by decide +kernel), by decide⟩
  rw [hpath] at hserved hasset
  -- the document loads the files of both chunks
  have hall := hholds.resolve_left (by rw [hmode, hgraph, hchunks]; exact hasNoCollision_pictured)
  obtain ⟨loader, main, hfiles⟩ : ∃ loader main,
      b.output.chunkFiles = [("runtime", loader), ("main", main)] := by
    have hscripts := hall.scripts
    rw [hchunks] at hscripts
    generalize b.output.chunkFiles = files at hscripts
    cases hscripts with
    | cons hloader hrest =>
      cases hrest with
      | cons hmain hrest =>
        cases hrest
        obtain ⟨_, _, -, -, rfl, -⟩ := hloader
        obtain ⟨_, _, -, -, rfl, -⟩ := hmain
        exact ⟨_, _, rfl⟩
  have hdocument : b.documentScripts "main" = [loader, main] := by
    unfold Build.documentScripts BuildOutput.chunkFile?
    rw [hchunks, hfiles]
    rfl
  rw [hdocument] at hserved
  exact ⟨⟨rfl, hmode, hpath, isStandard_empty⟩, b, _, loader, main, hb, hentry, hgraph, hdocument,
    hserved loader List.mem_cons_self, hserved main (by simp), hasset⟩

/-! ## A name with a space -/

/-- The configuration of a project at the root whose entry is an image with a space in its name. -/
def spacedConfiguration : Configuration :=
  (Configuration.ofStatements ⟨"/"⟩ .empty { mode := some .development } Transform.standard
    [.setting ⟨"unhandled", "copy"⟩, .entry "main" "a b.png"]).toOption.get (by decide +kernel)

/-- The path of this image. -/
def spacedImage : Path := ⟨"/a b.png"⟩

/-- The project of that configuration, with nothing but the image on the disk. -/
def spaced : BuildContext :=
  ⟨spacedConfiguration, Transform.standard, { tree := ⟨[(["a b.png"], .file "x".toUTF8)]⟩ }⟩

theorem ofStatements_spaced :
    Configuration.ofStatements ⟨"/"⟩ .empty { mode := some .development } Transform.standard
      [.setting ⟨"unhandled", "copy"⟩, .entry "main" "a b.png"] = .ok spacedConfiguration :=
  Result.eq_ok_get _

/-- What the configuration says of the image. -/
theorem configuration_spaced :
    let c := spaced.configuration
    c.entries = [⟨"main", spacedImage⟩] ∧ c.rules.length = 0 ∧ c.output.template = none ∧
      c.passthrough.classify? c.resolution.extensions spacedImage = some .asset ∧
      c.context.mode = .development ∧ c.context.publicPath = "/" := by
  decide +kernel

theorem holds_spaced : spaced.disk.Holds spacedImage "x".toUTF8 :=
  Disk.holds_of_node? (l := ["a b.png"]) (by decide +kernel)
    (FileTree.isGrounded_of_nodes (by decide +kernel)) (by decide) (by decide) (by decide +kernel)
    rfl rfl rfl

/-- The file of the image. -/
def spacedName : String := "a b__" ++ Digest.ofFile "x".toUTF8 ++ ".png"

theorem assetFileName_spaced :
    Transform.assetFileName .development spacedImage "x".toUTF8 = spacedName := by
  have hstem : spacedImage.stem? = some "a b" := by decide +kernel
  have hextension : spacedImage.extension? = some "png" := by decide +kernel
  have hstart : "a b" ++ "__" = "a b__" := by decide
  have hending : "." ++ "png" = ".png" := by decide
  unfold Transform.assetFileName spacedName
  rw [hstem, hextension, ← hstart, ← hending]
  rfl

theorem space_mem_spacedName : ' ' ∈ spacedName.toList := by
  have hspace : ' ' ∈ "a b__".toList := by decide
  unfold spacedName
  rw [String.toList_append, String.toList_append]
  exact List.mem_append_left _ (List.mem_append_left _ hspace)

theorem percent_not_mem_spacedName : '%' ∉ spacedName.toList := by
  have hstem : '%' ∉ "a b__".toList := by decide
  have hending : '%' ∉ ".png".toList := by decide
  intro hpercent
  unfold spacedName at hpercent
  rw [String.toList_append, String.toList_append, List.mem_append, List.mem_append] at hpercent
  rcases hpercent with (h | h) | h
  · exact hstem h
  · exact absurd (isPlain_ofFile _ '%' h) (by decide)
  · exact hending h

/-- The module of the image, which exports its URL. -/
def spacedModule : Module :=
  .ofContent spacedImage ("module.exports = " ++ Text.quote ("/" ++ spacedName) ++ ";") []
    [⟨spacedName, "x".toUTF8⟩] []

theorem made_spaced : spaced.made spacedImage = .ok spacedModule := by
  obtain ⟨-, hrules, -, hkind, hmode, hpublic⟩ := configuration_spaced
  have hpass : Transform.passAsset spaced.configuration.context spacedImage "x".toUTF8 =
      .ok ⟨Transform.exportText ("/" ++ spacedName), [.asset ⟨spacedName, "x".toUTF8⟩]⟩ := by
    rw [Transform.passAsset, Transform.asset]
    dsimp only
    rw [hmode, assetFileName_spaced, hpublic]
  exact made_of_transformFile (transformFile_eq_of_passAsset holds_spaced.read
    (rule?_of_rules_eq_nil (List.length_eq_zero_iff.1 hrules) spacedImage) hkind hpass) rfl

/-- The server does not find the image by the URL that its module exports. -/
theorem spaced_not_served :
    let c := spaced
    Configuration.ofStatements ⟨"/"⟩ .empty { mode := some .development } Transform.standard
      [.setting ⟨"unhandled", "copy"⟩, .entry "main" "a b.png"] = .ok c.configuration ∧
    c.configuration.context.mode = .development ∧ c.configuration.context.publicPath = "/" ∧
    ∃ b m a, (c.build.run.run {}).1 = .ok b ∧ b.graph.modules = [m] ∧ m.assets = [a] ∧
      m.content = "module.exports = " ++ Text.quote ("/" ++ a.fileName) ++ ";" ∧
      b.output.file? a.fileName = some a.content ∧
      Server.response? ⟨⟨"/", false⟩, .serving ⟨b.output, none⟩, true, []⟩
        ⟨"GET", Url.encodePath ("/" ++ a.fileName), none⟩ = some (.ofStatus 404) ∧
      ¬ b.output.Serves "/" a.fileName := by
  intro c
  obtain ⟨hentry, -, htemplate, -, hmode, hpath⟩ := configuration_spaced
  refine ⟨ofStatements_spaced, hmode, hpath, ?_⟩
  have hplain : c.disk.current.IsPlain := by decide
  obtain ⟨b, hb, hg, hchunks⟩ := exists_build_of_graphWith {} hplain ModuleCache.own_empty
    (graphWith_of_single hentry holds_spaced.canonicalize made_spaced rfl)
    (template_of_eq_none htemplate)
  obtain ⟨template, o, -, ho, -, -, -, hsame⟩ :=
    exists_emit_of_buildWith ((c.run_build {}).1.symm.trans hb)
  rw [← hsame hmode] at ho
  have hassets : b.graph.modules.flatMap (·.assets) = [⟨spacedName, "x".toUTF8⟩] := by
    rw [hg]
    rfl
  have hentries : ∀ e ∈ (loneGraph "main" spacedModule).entries, IsSentAsIs e.1 := by
    intro e he
    rw [List.mem_singleton.1 he]
    exact isSentAsIs_of_isIdentifier (by decide)
  have hmem : ∀ a, a ∈ b.graph.modules.flatMap (·.assets) ↔ a = ⟨spacedName, "x".toUTF8⟩ := by
    rw [hassets]
    exact fun a => List.mem_singleton
  -- no file has a percent sign in its name
  have hfiles : ∀ other : String, '%' ∈ other.toList → b.output.file? other = none :=
    fun other => Emit.file?_eq_none_of_percent ho
      (fun chunk hchunk => isSentAsIs_of_mem_chunks hentries (hchunks ▸ hchunk))
      fun a ha => (hmem a).1 ha ▸ percent_not_mem_spacedName
  have hname : ¬ Url.IsPlain spacedName := fun h =>
    absurd (h ' ' space_mem_spacedName) (by decide)
  have hpublic : Url.IsPlain "/" := fun ch hch => List.mem_singleton.1 hch ▸ rfl
  obtain ⟨hresponse, hserves⟩ := BuildOutput.not_serves_of_not_isPlain hpublic hname hfiles
  refine ⟨b, spacedModule, ⟨spacedName, "x".toUTF8⟩, hb, congrArg (·.modules) hg, rfl, rfl, ?_,
    hresponse, hserves⟩
  have hagree : b.graph.AssetsAgree := by
    intro a ha a' ha' _
    rw [(hmem a).1 ha, (hmem a').1 ha']
  have hdocument : spacedName ≠ Document.fileName := fun heq =>
    absurd (heq ▸ space_mem_spacedName : ' ' ∈ Document.fileName.toList) (by decide)
  exact Emit.file?_of_mem_assets ho hagree ((hmem _).2 rfl) hdocument

end BuildContext

end Bundler
