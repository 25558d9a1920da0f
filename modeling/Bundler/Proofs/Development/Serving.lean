import Bundler.Development.Router
import Bundler.Proofs.Development.Coalescing
import Bundler.Proofs.Output.Document

set_option autoImplicit false

/-! # What is served after builds that fail

The output of a build has a document among its files, whatever the project is
(`hasDocument_of_buildWith`), and a session serves the output of its last build that succeeded
(`snapshot_of_getLast?`). So once a build has succeeded, a server that falls back to the document
answers every request with a file, however many builds fail afterwards (`exists_response`). -/

namespace Bundler

/-! ## Outputs with a document -/

/-- Whether the document of an output is one of its files. -/
structure BuildOutput.HasDocument (o : BuildOutput) : Prop where
  document : o.document = some Document.fileName
  file : (o.file? Document.fileName).isSome = true

namespace BuildContext

variable {c : BuildContext} {cache : ModuleCache} {b : Build}

/-- A configuration that is accepted names an entry for the document to start. -/
theorem hasDocument_of_buildWith (h : c.buildWith cache = .ok b) {root : Path}
    {environment : NameMap String} {overrides : Configuration.Overrides} {registry : Registry}
    {statements : List Settings.Statement}
    (hc : Configuration.ofStatements root environment overrides registry statements
      = .ok c.configuration) : b.output.HasDocument := by
  obtain ⟨entry, -, hentry⟩ := Configuration.exists_startEntry_ofStatements hc
  obtain ⟨template, o, -, ho, -, hdocument, hfiles, -⟩ := exists_emit_of_buildWith h
  obtain ⟨hnamed, hrendered⟩ := Emit.document_of_emit ho hentry
  refine ⟨hdocument.trans hnamed, ?_⟩
  rw [hfiles _ (by decide), hrendered]
  rfl

/-- With the standard transforms, every file has a name. -/
theorem file?_empty_of_buildWith (h : c.buildWith cache = .ok b)
    (hregistry : c.registry = Transform.standard) (hcache : cache.IsStandard) :
    b.output.file? "" = none := by
  obtain ⟨g, hg, hb⟩ := Result.bind_eq_ok_iff.1 h
  obtain ⟨o, -, hb⟩ := Result.bind_eq_ok_iff.1 hb
  obtain rfl : b.graph = g := congrArg Build.graph (Except.ok.inj hb).symm
  obtain ⟨template, emitted, -, hemitted, -, -, hfiles, -⟩ := exists_emit_of_buildWith h
  rw [hfiles _ (by decide)]
  refine Emit.file?_eq_none_of_emit hemitted (fun chunk _ content heq => ?_) (fun a ha heq => ?_)
    (by decide)
  · have hempty := congrArg String.toList heq
    simp [Emit.chunkFileName] at hempty
  · obtain ⟨mode, p, hname⟩ := isAddressed_of_mem_graph hregistry hcache hg ha
    exact (Transform.isPlainName_assetFileName mode p a.content).1 (hname ▸ heq)

end BuildContext

/-! ## The build that a session serves -/

namespace Session

/-- The modules that are known to a first rebuild, or to one after some files have changed. -/
def known (s : Session) : Option (List Path) → ModuleCache
  | none => s.cache
  | some changed => (s.graph.affectedPaths changed).foldl .erase s.cache

/-- The build that such a rebuild makes. -/
def attempt (c : BuildContext) (s : Session) (changed : Option (List Path)) :
    Except BuildError Build :=
  (c.build.run.run { cache := s.known changed }).1

/-- A rebuild serves its build if that succeeded, and otherwise goes on to serve what it did before,
    with the message of the failure. -/
theorem advance_spec (c : BuildContext) (s : Session) (changed : Option (List Path)) :
    (advance c s changed).2.snapshot = (match attempt c s changed with
      | .ok b => ⟨b.output, none⟩
      | .error e => ⟨s.output, some e.message⟩) ∧
    (advance c s changed).1.output = (advance c s changed).2.snapshot.output ∧
    (advance c s changed).1.cache = (c.build.run.run { cache := s.known changed }).2.cache := by
  -- an update is a rebuild with fewer known modules, and notes one more event
  have hrebuild : (advance c s changed).1 = (rebuild c { s with cache := s.known changed }).1 ∧
      (advance c s changed).2.snapshot =
        (rebuild c { s with cache := s.known changed }).2.snapshot := by
    cases changed <;> exact ⟨rfl, rfl⟩
  rw [hrebuild.1, hrebuild.2]
  unfold attempt rebuild rebuildFrom BuildContext.build
  rcases (c.buildFrom ModuleGraph.owned).run.run { cache := s.known changed } with ⟨_ | _, _⟩ <;>
    exact ⟨rfl, rfl, rfl⟩

section

variable (configuration : Configuration) (registry : Registry)

/-- What the builds of some rebuilds give, each in the session that the rebuilds before have left. -/
def attempts (rebuilds : List (Option (List Path) × Disk)) : List (Except BuildError Build) :=
  rebuilds.mapIdx fun n (changed, d) =>
    attempt ⟨configuration, registry, d⟩
      (advanceAll configuration registry (rebuilds.take n)).1 changed

/-- The last build that succeeded. -/
def lastBuild? (rebuilds : List (Option (List Path) × Disk)) : Option Build :=
  ((attempts configuration registry rebuilds).filterMap Except.toOption).getLast?

theorem attempts_concat (rebuilds : List (Option (List Path) × Disk))
    (changed : Option (List Path)) (d : Disk) :
    attempts configuration registry (rebuilds ++ [(changed, d)]) =
      attempts configuration registry rebuilds ++
        [attempt ⟨configuration, registry, d⟩ (advanceAll configuration registry rebuilds).1
          changed] := by
  unfold attempts
  rw [List.mapIdx_concat, List.take_left]
  congr 1
  refine List.mapIdx_eq_mapIdx_iff.2 fun n hn => ?_
  rw [List.take_append_of_le_length hn.le]

theorem lastBuild?_concat (rebuilds : List (Option (List Path) × Disk))
    (changed : Option (List Path)) (d : Disk) :
    lastBuild? configuration registry (rebuilds ++ [(changed, d)]) =
      (attempt ⟨configuration, registry, d⟩ (advanceAll configuration registry rebuilds).1
        changed).toOption.or (lastBuild? configuration registry rebuilds) := by
  unfold lastBuild?
  rw [attempts_concat, List.filterMap_append, List.getLast?_append]
  cases attempt _ _ _ <;> rfl

/-- A session keeps the output of the last build that succeeded. -/
theorem output_advanceAll (rebuilds : List (Option (List Path) × Disk)) :
    (advanceAll configuration registry rebuilds).1.output =
      ((lastBuild? configuration registry rebuilds).map (·.output)).getD .empty := by
  induction rebuilds using List.reverseRecOn with
  | nil => rfl
  | append_singleton rest e ih =>
    obtain ⟨changed, d⟩ := e
    obtain ⟨hsnapshot, houtput, -⟩ := advance_spec ⟨configuration, registry, d⟩
      (advanceAll configuration registry rest).1 changed
    rw [advanceAll_concat, lastBuild?_concat, houtput, hsnapshot]
    cases attempt _ _ changed with
    | ok b => rfl
    | error e => exact ih

/-- After some rebuilds, the output of the last build that succeeded is served. If there is none,
    then nothing but the message of the last build. -/
theorem snapshot_of_getLast? {rebuilds : List (Option (List Path) × Disk)} {p : Publication}
    (h : (advanceAll configuration registry rebuilds).2.getLast? = some p) :
    (∀ b, lastBuild? configuration registry rebuilds = some b → p.snapshot.output = b.output) ∧
      (lastBuild? configuration registry rebuilds = none →
        ∃ e, (attempts configuration registry rebuilds).getLast? = some (.error e) ∧
          p.snapshot = ⟨.empty, some e.message⟩) := by
  rcases List.eq_nil_or_concat' rebuilds with rfl | ⟨rest, ⟨changed, d⟩, rfl⟩
  · cases h
  have houtput := output_advanceAll configuration registry rest
  obtain ⟨hsnapshot, -, -⟩ := advance_spec ⟨configuration, registry, d⟩
    (advanceAll configuration registry rest).1 changed
  rw [advanceAll_concat, List.getLast?_concat] at h
  obtain rfl := Option.some.inj h
  rw [lastBuild?_concat, attempts_concat, List.getLast?_concat, hsnapshot]
  cases attempt _ _ changed with
  | ok b =>
    refine ⟨fun b' hb => ?_, fun hnone => by cases hnone⟩
    obtain rfl := Option.some.inj hb
    rfl
  | error e =>
    refine ⟨fun b hb => ?_, fun hnone => ⟨e, rfl, ?_⟩⟩
    · rw [houtput, show lastBuild? configuration registry rest = some b from hb]
      rfl
    · rw [houtput, show lastBuild? configuration registry rest = none from hnone]
      rfl

/-- Every rebuild publishes a snapshot. -/
theorem exists_getLast?_advanceAll {rebuilds : List (Option (List Path) × Disk)}
    (h : rebuilds ≠ []) :
    ∃ p, (advanceAll configuration registry rebuilds).2.getLast? = some p := by
  refine Option.isSome_iff_exists.1 (List.getLast?_isSome.2 fun hnil => h ?_)
  exact List.length_eq_zero_iff.1
    ((length_advanceAll configuration registry rebuilds).symm.trans (congrArg List.length hnil))

theorem isStandard_known {s : Session} (h : s.cache.IsStandard) (changed : Option (List Path)) :
    (s.known changed).IsStandard := by
  cases changed with
  | none => exact h
  | some changed =>
    exact List.foldlRecOn (motive := ModuleCache.IsStandard) _ _ h
      fun cache hcache p _ e he => hcache e (List.mem_filter.1 he).1

variable {registry} in
/-- With the standard transforms, a session only knows modules that were made with them. -/
theorem isStandard_advanceAll (hregistry : registry = Transform.standard)
    (rebuilds : List (Option (List Path) × Disk)) :
    (advanceAll configuration registry rebuilds).1.cache.IsStandard := by
  induction rebuilds using List.reverseRecOn with
  | nil => exact BuildContext.isStandard_empty
  | append_singleton rest e ih =>
    obtain ⟨changed, d⟩ := e
    obtain ⟨-, -, hcache⟩ := advance_spec ⟨configuration, registry, d⟩
      (advanceAll configuration registry rest).1 changed
    rw [advanceAll_concat, hcache]
    exact BuildContext.isStandard_run_build hregistry (isStandard_known ih changed)

/-- What is served is a build of the project on some disk. -/
theorem exists_buildWith_of_lastBuild? {rebuilds : List (Option (List Path) × Disk)} {b : Build}
    (h : lastBuild? configuration registry rebuilds = some b) :
    ∃ d cache, BuildContext.buildWith ⟨configuration, registry, d⟩ cache = .ok b ∧
      (registry = Transform.standard → cache.IsStandard) := by
  induction rebuilds using List.reverseRecOn with
  | nil => cases h
  | append_singleton rest e ih =>
    obtain ⟨changed, d⟩ := e
    rw [lastBuild?_concat] at h
    cases hattempt : attempt ⟨configuration, registry, d⟩
      (advanceAll configuration registry rest).1 changed with
    | error e =>
      rw [hattempt] at h
      exact ih h
    | ok b' =>
      rw [hattempt] at h
      obtain rfl := Option.some.inj h
      exact ⟨d, _, (BuildContext.run_build _ _).1.symm.trans hattempt, fun hregistry =>
        isStandard_known (isStandard_advanceAll configuration hregistry rest) changed⟩

end

end Session

/-! ## Answers -/

namespace RouterSettings

variable {settings : RouterSettings} {o : BuildOutput}

/-- The name of the file that a path is answered with: the one that it asks for, if it is there, and
    otherwise the document. -/
def answerName (settings : RouterSettings) (o : BuildOutput) (path : String) : String :=
  let name := settings.fileName path
  if name ≠ "" ∧ (o.file? name).isSome then name else Document.fileName

/-- If an output has a document and the server falls back to it, each path is answered with a
    file. -/
theorem servedName?_of_hasDocument (ho : o.HasDocument) (h : settings.historyFallback = true)
    (path : String) : settings.servedName? o path = some (settings.answerName o path) := by
  have hasked : ∀ name, (o.file? name).isSome = true →
      (some name).filter (fun name => (o.file? name).isSome) = some name := by
    intro name hname
    rw [Option.filter_some, if_pos hname]
  unfold servedName? answerName
  dsimp only
  rw [ho.document, if_pos h]
  by_cases hname : settings.fileName path = ""
  · rw [if_pos hname, if_neg fun hasked => hasked.1 hname, hasked _ ho.file]
    rfl
  rw [if_neg hname]
  by_cases hfile : (o.file? (settings.fileName path)).isSome = true
  · rw [if_pos ⟨hname, hfile⟩, hasked _ hfile]
    rfl
  · rw [if_neg fun hasked => hfile hasked.2, Option.filter_some, if_neg hfile]
    rfl

theorem isSome_file?_answerName (settings : RouterSettings) (ho : o.HasDocument) (path : String) :
    (o.file? (settings.answerName o path)).isSome = true := by
  unfold answerName
  dsimp only
  split
  · next h => exact h.2
  · exact ho.file

/-- Without files, no path is answered with one. -/
theorem servedName?_empty (settings : RouterSettings) (path : String) :
    settings.servedName? .empty path = none := by
  unfold servedName?
  dsimp only
  split
  · split <;> rfl
  · split <;> rfl

end RouterSettings

theorem Response.encodeFor_spec (accept : Option String) (r : Response) :
    (r.encodeFor accept).status = r.status ∧ (r.encodeFor accept).mediaType = r.mediaType ∧
      (r.encodeFor accept).body = r.body := by
  unfold encodeFor
  split <;> exact ⟨rfl, rfl, rfl⟩

namespace Session

/-- A project whose only file is gone cannot be built. -/
theorem exists_attempt_missing (s : Session) (changed : Option (List Path)) :
    ∃ e, attempt ⟨BuildContext.loneConfiguration, Transform.standard, { tree := .empty }⟩ s changed
      = .error e := by
  have hlocate : Disk.locate { tree := .empty } ⟨"/a.js"⟩ = .error .notFound := by
    have hstart : FileTree.start [] ⟨"/a.js"⟩ = [] := by decide
    have hsteps : (⟨"/a.js"⟩ : Path).steps = [.down "a.js"] := by decide
    have htext : Disk.textFailure? ⟨"/a.js"⟩ = none := by decide
    have hname : ¬ FileTree.nameLimit < "a.js".utf8ByteSize := by decide
    have hroot : FileTree.empty.isDirectory [] = true := rfl
    have hnode : FileTree.empty.node? ["a.js"] = none := rfl
    unfold Disk.locate
    rw [htext]
    show FileTree.empty.walk FileTree.linkLimit (FileTree.start [] _) _ = _
    rw [hstart, hsteps, FileTree.walk, hroot, List.nil_append]
    simp only [Bool.not_true, Bool.false_eq_true, if_false]
    rw [if_neg hname, hnode]
  have hcanonical : ∃ e, Disk.canonicalize { tree := .empty } ⟨"/a.js"⟩ = .error e := by
    unfold Disk.canonicalize
    rw [hlocate]
    exact ⟨_, rfl⟩
  have hpaths : ∃ e, BuildContext.entryPaths
      ⟨BuildContext.loneConfiguration, Transform.standard, { tree := .empty }⟩ = .error e := by
    refine Result.exists_mapM_eq_error_iff.2 ⟨⟨"main", ⟨"/a.js"⟩⟩, ?_, ?_⟩
    · rw [show BuildContext.loneConfiguration.entries = _ from BuildContext.entries_lone]
      exact List.mem_singleton.2 rfl
    · exact Result.exists_bind_eq_error_iff.2 (.inl hcanonical)
  obtain ⟨e, he⟩ := hpaths
  refine ⟨.file e, (BuildContext.run_build _ _).1.trans ?_⟩
  unfold BuildContext.buildWith BuildContext.buildWithFrom BuildContext.graphWith
  rw [he]
  rfl

/-- Once a build has succeeded, each request is answered with a file of the last one that did: the
    one that its path asks for, if it is there, and otherwise the document. Before that, each request
    is answered with the message of the last build. -/
theorem exists_response {root : Path} {environment : NameMap String}
    {overrides : Configuration.Overrides} {registry : Registry}
    {statements : List Settings.Statement} {configuration : Configuration}
    (hc : Configuration.ofStatements root environment overrides registry statements
      = .ok configuration)
    {rebuilds : List (Option (List Path) × Disk)} {p : Publication}
    (hp : (advanceAll configuration registry rebuilds).2.getLast? = some p)
    (server : Server) (hserver : server.state = .serving p.snapshot)
    (hfallback : server.settings.historyFallback = true) (r : Request)
    (hr : RouterSettings.isEvents r.target = false) :
    ∃ response, server.response? r = some response ∧
      (∀ b, lastBuild? configuration registry rebuilds = some b →
        (registry = Transform.standard → b.output.file? "" = none) ∧
        ∃ content, b.output.file? (server.settings.answerName b.output
            (RouterSettings.pathOf r.target)) = some content ∧
          response.status = 200 ∧ response.body = content ∧
          response.mediaType = some (MediaType.ofPath ⟨server.settings.answerName b.output
            (RouterSettings.pathOf r.target)⟩)) ∧
      (lastBuild? configuration registry rebuilds = none →
        ∃ e, (attempts configuration registry rebuilds).getLast? = some (.error e) ∧
          response.status = 500 ∧ response.body = e.message.toUTF8) := by
  obtain ⟨houtput, herror⟩ := snapshot_of_getLast? configuration registry hp
  obtain ⟨hstatus, hmediaType, hbody⟩ := Response.encodeFor_spec r.acceptEncoding
    (server.settings.snapshotResponse p.snapshot (RouterSettings.pathOf r.target))
  have hresponse : server.response? r = some (server.settings.respond p.snapshot r) := by
    unfold Server.response?
    rw [hr, hserver]
    rfl
  refine ⟨_, hresponse, fun b hb => ?_, fun hnone => ?_⟩
  · obtain ⟨d, cache, hbuild, hcache⟩ := exists_buildWith_of_lastBuild? configuration registry hb
    have ho := BuildContext.hasDocument_of_buildWith hbuild hc
    obtain ⟨content, hcontent⟩ := Option.isSome_iff_exists.1
      (server.settings.isSome_file?_answerName ho (RouterSettings.pathOf r.target))
    refine ⟨fun hregistry => BuildContext.file?_empty_of_buildWith hbuild hregistry
      (hcache hregistry), content, hcontent, ?_⟩
    unfold RouterSettings.respond
    rw [hstatus, hbody, hmediaType]
    unfold RouterSettings.snapshotResponse
    rw [houtput b hb, RouterSettings.servedName?_of_hasDocument ho hfallback]
    unfold RouterSettings.fileResponse
    dsimp only
    rw [hcontent]
    exact ⟨rfl, rfl, rfl⟩
  · obtain ⟨e, hlast, hsnapshot⟩ := herror hnone
    refine ⟨e, hlast, ?_⟩
    unfold RouterSettings.respond
    rw [hstatus, hbody]
    unfold RouterSettings.snapshotResponse
    rw [hsnapshot, RouterSettings.servedName?_empty]
    exact ⟨rfl, rfl⟩

/-- The only file of a project goes away after the first rebuild; the document is still served. -/
theorem exists_response_missing :
    let first := (BuildContext.lone "").disk
    let rebuilds : List (Option (List Path) × Disk) :=
      [(none, first), (some [⟨"/a.js"⟩], { tree := .empty })]
    let r : Request := ⟨"GET", "/users/42", none⟩
    RouterSettings.isEvents r.target = false ∧
    ∃ p b e, (advanceAll BuildContext.loneConfiguration Transform.standard rebuilds).2.getLast? =
        some p ∧
      attempts BuildContext.loneConfiguration Transform.standard rebuilds = [.ok b, .error e] ∧
      ∃ response content,
        Server.response? ⟨⟨"/", true⟩, .serving p.snapshot, true, []⟩ r = some response ∧
        b.output.file? (RouterSettings.answerName ⟨"/", true⟩ b.output
          (RouterSettings.pathOf r.target)) = some content ∧
        response.status = 200 ∧ response.body = content := by
  intro first rebuilds r
  have hevents : RouterSettings.isEvents r.target = false := by decide
  obtain ⟨b, hb, -⟩ := BuildContext.isEmptyScript_lone.exists_build
  obtain ⟨e, he⟩ := exists_attempt_missing
    (advanceAll BuildContext.loneConfiguration Transform.standard [(none, first)]).1
    (some [⟨"/a.js"⟩])
  have hattempts : attempts BuildContext.loneConfiguration Transform.standard rebuilds =
      [.ok b, .error e] := by
    show [attempt _ _ _, attempt _ _ _] = _
    exact congrArg₂ (fun x y => [x, y]) hb he
  have hlast : lastBuild? BuildContext.loneConfiguration Transform.standard rebuilds = some b := by
    unfold lastBuild?
    rw [hattempts]
    rfl
  obtain ⟨p, hp⟩ := exists_getLast?_advanceAll BuildContext.loneConfiguration Transform.standard
    (show rebuilds ≠ [] from List.cons_ne_nil _ _)
  obtain ⟨response, hresponse, hserved, -⟩ := exists_response BuildContext.ofStatements_lone hp
    ⟨⟨"/", true⟩, .serving p.snapshot, true, []⟩ rfl rfl r hevents
  obtain ⟨-, content, hcontent, hstatus, hbody, -⟩ := hserved b hlast
  exact ⟨hevents, p, b, e, hp, hattempts, response, content, hresponse, hcontent, hstatus, hbody⟩

end Session

end Bundler
