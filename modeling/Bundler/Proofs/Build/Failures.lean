import Bundler.Proofs.Build.Closure
import Bundler.Proofs.Configuration.Rules

set_option autoImplicit false

/-! # Why builds fail

A build fails because of a file that is not there or cannot be read, a reference that stands for
nothing, a file that cannot be made into a module, a template that is no text, or a graph that
cannot be emitted (`fails_of_run_build`). Whether a file can be made into a module is decided by its
content, its rule and the transforms of the rule (`cannotMake_of_made`). In particular, no build
looks for a transform in vain if those of the rules are registered (`cause_of_run_build`). -/

namespace Bundler

/-- A chain of transforms fails as one of them that refuses what it is given. -/
theorem Transform.exists_refusal_of_applyChain {context : TransformContext} {p : Path}
    {chain : List Transform} {content : ByteArray} {e : TransformError}
    (h : applyChain context p content chain = .error e) :
    ∃ t ∈ chain, ∃ before refusal, t.run context p before = .error refusal ∧
      e = ⟨p, t.name, .refused refusal⟩ := by
  unfold applyChain at h
  generalize (⟨content, []⟩ : Transformed) = done at h
  induction chain generalizing done with
  | nil => cases h
  | cons t rest ih =>
    rw [List.foldlM_cons] at h
    rcases Result.bind_eq_error_iff.1 h with h | ⟨next, -, h⟩
    · unfold continueWith at h
      split at h
      · cases h
      · next refusal hrefusal =>
        cases h
        exact ⟨t, List.mem_cons_self, _, refusal, hrefusal, rfl⟩
    · obtain ⟨t', ht', hrefusal⟩ := ih next h
      exact ⟨t', List.mem_cons_of_mem _ ht', hrefusal⟩

theorem Transform.applyChain_singleton {context : TransformContext} {p : Path} {content : ByteArray}
    {t : Transform} {transformed : Transformed} (h : t.run context p content = .ok transformed) :
    applyChain context p content [t] = .ok transformed := by
  have hnext : continueWith context p ⟨content, []⟩ t = .ok transformed := by
    unfold continueWith
    dsimp only
    rw [h]
    rfl
  unfold applyChain
  rw [List.foldlM_cons, hnext]
  rfl

namespace BuildContext

variable {c : BuildContext} {cache : ModuleCache} {p : Path} {e : BuildError}

/-! ## Files that cannot be made into modules -/

/-- Why a file cannot be made into a module. -/
inductive CannotMake (c : BuildContext) (p : Path) : BuildError → Prop
  | unread (error : FileError) (h : c.disk.read p = .error error) : CannotMake c p (.file error)
  | notRegistered (rule : Rule) (name : String) (hrule : c.configuration.rule? p = some rule)
      (hname : name ∈ rule.transforms) (h : c.registry.get? name = none) :
      CannotMake c p (.transform ⟨p, name, .notRegistered⟩)
  | refused (rule : Rule) (name : String) (t : Transform) (content : ByteArray) (refusal : Refusal)
      (hrule : c.configuration.rule? p = some rule) (hname : name ∈ rule.transforms)
      (ht : c.registry.get? name = some t)
      (h : t.run c.configuration.context p content = .error refusal) :
      CannotMake c p (.transform ⟨p, t.name, .refused refusal⟩)
  | notPassed (hrule : c.configuration.rule? p = none) :
      CannotMake c p (.transform ⟨p, Transform.passthroughName, .refused .notUtf8⟩)
  | unhandled (hrule : c.configuration.rule? p = none)
      (h : c.configuration.passthrough.classify? c.configuration.resolution.extensions p = none) :
      CannotMake c p (.unhandled p)
  | notUtf8 (name : String) : CannotMake c p (.transform ⟨p, name, .moduleNotUtf8⟩)

theorem transform?_eq_ok_iff {name : String} {t : Transform} :
    c.transform? p name = .ok t ↔ c.registry.get? name = some t := by
  unfold transform?
  split <;> simp_all

/-- A file is made into what the transforms of its rule give. -/
theorem transformFile_of_applyChain {content : ByteArray} {rule : Rule} {chain : List Transform}
    {transformed : Transformed} (hread : c.disk.read p = .ok content)
    (hrule : c.configuration.rule? p = some rule)
    (hchain : List.Forall₂ (fun name t => c.registry.get? name = some t) rule.transforms chain)
    (h : Transform.applyChain c.configuration.context p content chain = .ok transformed) :
    c.transformFile p = .ok (transformed, rule.transforms) := by
  have hfound : rule.transforms.mapM (c.transform? p) = .ok chain :=
    Result.mapM_eq_ok_iff.2 (hchain.imp fun _ _ => transform?_eq_ok_iff.2)
  refine Result.bind_eq_ok_iff.2 ⟨content, Result.mapError_eq_ok_iff.2 hread, ?_⟩
  dsimp only
  rw [hrule]
  exact Result.bind_eq_ok_iff.2 ⟨chain, Result.mapError_eq_ok_iff.2 hfound,
    Result.bind_eq_ok_iff.2 ⟨transformed, Result.mapError_eq_ok_iff.2 h, rfl⟩⟩

theorem notRegistered_of_transform? {name : String} {error : TransformError}
    (h : c.transform? p name = .error error) :
    c.registry.get? name = none ∧ error = ⟨p, name, .notRegistered⟩ := by
  unfold transform? at h
  split at h
  · cases h
  · next hnone => exact ⟨hnone, (Except.error.inj h).symm⟩

theorem notPassed_of_passModule {content : ByteArray} {error : TransformError}
    (h : Transform.passModule p content = .error error) :
    error = ⟨p, Transform.passthroughName, .refused .notUtf8⟩ := by
  unfold Transform.passModule Transform.decode at h
  cases htext : String.fromUTF8? content with
  | some text =>
    rw [htext] at h
    cases h
  | none =>
    rw [htext] at h
    cases h
    rfl

theorem cannotMake_of_transformFile (h : c.transformFile p = .error e) : c.CannotMake p e := by
  unfold transformFile at h
  rcases Result.bind_eq_error_iff.1 h with h | ⟨content, -, h⟩
  · obtain ⟨error, herror, rfl⟩ := Result.mapError_eq_error_iff.1 h
    exact .unread error herror
  dsimp only at h
  split at h
  · next rule hrule =>
    rcases Result.bind_eq_error_iff.1 h with h | ⟨chain, hchain, h⟩
    · obtain ⟨error, herror, rfl⟩ := Result.mapError_eq_error_iff.1 h
      obtain ⟨name, hname, herror⟩ := Result.exists_of_mapM_eq_error herror
      obtain ⟨hnone, rfl⟩ := notRegistered_of_transform? herror
      exact .notRegistered rule name hrule hname hnone
    · rcases Result.bind_eq_error_iff.1 h with h | ⟨transformed, -, h⟩
      · obtain ⟨error, herror, rfl⟩ := Result.mapError_eq_error_iff.1 h
        obtain ⟨t, ht, before, refusal, hrefusal, rfl⟩ :=
          Transform.exists_refusal_of_applyChain herror
        obtain ⟨name, hname, hfound⟩ := Result.exists_of_mem_right
          (Result.mapM_eq_ok_iff.1 (Result.mapError_eq_ok_iff.1 hchain)) ht
        exact .refused rule name t before refusal hrule hname (transform?_eq_ok_iff.1 hfound)
          hrefusal
      · cases h
  · next hrule =>
    split at h
    · rcases Result.bind_eq_error_iff.1 h with h | ⟨transformed, -, h⟩
      · obtain ⟨error, herror, rfl⟩ := Result.mapError_eq_error_iff.1 h
        rw [notPassed_of_passModule herror]
        exact .notPassed hrule
      · cases h
    · -- the address of an asset can always be given
      rcases Result.bind_eq_error_iff.1 h with h | ⟨transformed, -, h⟩ <;> cases h
    · next hkind =>
      cases h
      exact .unhandled hrule hkind

theorem cannotMake_of_made (h : c.made p = .error e) : c.CannotMake p e := by
  rcases Result.bind_eq_error_iff.1 h with h | ⟨transformed, -, h⟩
  · exact cannotMake_of_transformFile h
  · obtain ⟨error, herror, rfl⟩ := Result.mapError_eq_error_iff.1 h
    unfold moduleOf at herror
    split at herror
    · cases herror
    · cases herror
      exact .notUtf8 _

/-! ## Builds that fail -/

/-- Why a build fails, with some known modules. -/
inductive Fails (c : BuildContext) (cache : ModuleCache) : BuildError → Prop
  | file (error : FileError) : Fails c cache (.file error)
  | unresolved (importer : Path) (reference : String) :
      Fails c cache (.unresolved importer reference)
  | module (p : Path) (e : BuildError) (h : c.CannotMake p e) : Fails c cache e
  | template (template : Path) : Fails c cache (.emit (.invalidTemplate template))
  | emit (g : ModuleGraph) (template : Option String) (error : EmitError)
      (hg : c.graphWith cache = .ok g)
      (h : Bundler.emit c.configuration g
        (g.assignChunks c.configuration.root c.configuration.optimization) template
          = .error error) :
      Fails c cache (.emit error)

theorem fails_of_loadWith (h : c.loadWith cache p = .error e) : c.Fails cache e := by
  rcases Result.bind_eq_error_iff.1 h with h | ⟨m, -, h⟩
  · unfold moduleWith at h
    split at h
    · cases h
    · exact .module p e (cannotMake_of_made h)
  · rcases Result.bind_eq_error_iff.1 h with h | ⟨dependencies, -, h⟩
    · obtain ⟨reference, -, h⟩ := Result.exists_of_mapM_eq_error h
      rcases Result.bind_eq_error_iff.1 h with h | ⟨resolved, -, h⟩
      · obtain ⟨error, -, rfl⟩ := Result.mapError_eq_error_iff.1 h
        cases error with
        | file error => exact .file error
        | notFound importer reference => exact .unresolved importer reference
      · cases h
    · cases h

theorem fails_of_template (h : c.template = .error e) : c.Fails cache e := by
  unfold BuildContext.template at h
  split at h
  · cases h
  · next template _ =>
    rcases Result.bind_eq_error_iff.1 h with h | ⟨content, -, h⟩
    · obtain ⟨error, -, rfl⟩ := Result.mapError_eq_error_iff.1 h
      exact .file error
    · split at h
      · cases h
      · cases h
        exact .template template

theorem fails_of_run_build {s : BuildState} (h : (c.build.run.run s).1 = .error e) :
    c.Fails s.cache e := by
  rw [(c.run_build s).1] at h
  rcases Result.bind_eq_error_iff.1 h with h | ⟨g, hg, h⟩
  · rcases graphWith_error_cases h with ⟨-, -, error, -, rfl⟩ | ⟨p, -, h⟩
    · exact .file error
    · exact fails_of_loadWith h
  · rcases Result.bind_eq_error_iff.1 h with h | ⟨output, -, h⟩
    · rcases Result.bind_eq_error_iff.1 h with h | ⟨template, -, h⟩
      · exact fails_of_template h
      · rcases Result.bind_eq_error_iff.1 h with h | ⟨emitted, -, h⟩
        · obtain ⟨error, herror, rfl⟩ := Result.mapError_eq_error_iff.1 h
          exact .emit g template error hg herror
        · split at h <;> cases h
    · cases h

/-! ## What failures say -/

/-- A build reports a file that nothing handles only if it has no rule and is not passed on. -/
theorem unhandled_of_run_build {s : BuildState}
    (h : (c.build.run.run s).1 = .error (.unhandled p)) : c.configuration.rule? p = none ∧
      c.configuration.passthrough.classify? c.configuration.resolution.extensions p = none := by
  cases fails_of_run_build h with
  | module _ _ h =>
    cases h with
    | unhandled hrule hkind => exact ⟨hrule, hkind⟩

/-- If the transforms of the rules are registered, a file is not transformed only because it is no
    text, or because a transform of the registry refuses it. -/
theorem cause_of_run_build (hrules : ∀ r ∈ c.configuration.rules, r.IsRegistered c.registry)
    {s : BuildState} {error : TransformError}
    (h : (c.build.run.run s).1 = .error (.transform error)) :
    error.cause = .moduleNotUtf8 ∨ error.cause = .refused .notUtf8 ∨
      ∃ name t content refusal, c.registry.get? name = some t ∧
        t.run c.configuration.context error.path content = .error refusal ∧
        error.cause = .refused refusal := by
  cases fails_of_run_build h with
  | module _ _ h =>
    cases h with
    | notRegistered rule name hrule hname hnone =>
      obtain ⟨t, ht⟩ := hrules rule (List.mem_of_find?_eq_some hrule) name hname
      rw [hnone] at ht
      cases ht
    | refused _ name t content refusal _ _ ht hrun =>
      exact .inr (.inr ⟨name, t, content, refusal, ht, hrun, rfl⟩)
    | notPassed => exact .inr (.inl rfl)
    | notUtf8 => exact .inl rfl

/-- A build misses the id of a module only if it cannot emit its graph. -/
theorem emit_of_moduleIdNotFound {s : BuildState}
    (h : (c.build.run.run s).1 = .error (.emit (.moduleIdNotFound p))) :
    ∃ g template, c.graphWith s.cache = .ok g ∧ emit c.configuration g
      (g.assignChunks c.configuration.root c.configuration.optimization) template
        = .error (.moduleIdNotFound p) := by
  cases fails_of_run_build h with
  | module _ _ h => cases h
  | emit g template _ hg h => exact ⟨g, template, hg, h⟩

end BuildContext

end Bundler
