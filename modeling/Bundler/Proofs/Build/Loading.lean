import Bundler.Build.Graph
import Bundler.Proofs.FileTree.Walk

set_option autoImplicit false

/-! # Loading files with known modules

What a build loads depends on the modules that it knows from before only through the module of each
file. This module gives loading a pure form: `loadWith` is what loading a file gives with some known
modules, and `cacheAfter` is what is known afterwards. Steps of a build are equal to these forms
(`run_load`, `run_loadWave`), since the files of a wave are all different and the module of one file
does not touch that of another. -/

namespace Bundler

/-! ## Known modules -/

namespace ModuleCache

theorem get?_erase (cache : ModuleCache) (p q : Path) :
    (cache.erase p).get? q = if p.same q then none else cache.get? q := by
  unfold erase get?
  rw [List.find?_filter]
  split
  · next h =>
    rw [Option.map_eq_none_iff, List.find?_eq_none]
    intro e _ he
    obtain ⟨hp, hq⟩ := of_decide_eq_true he
    rw [Path.same_congr_left hq, Path.same_comm, h] at hp
    cases hp
  · next h =>
    congr 2
    funext e
    cases hq : e.1.same q with
    | false => simp
    | true =>
      -- an entry for `q` is not one of those that `p` displaces
      rw [Path.same_congr_left hq, Path.same_comm]
      simp [h]

theorem get?_insert (cache : ModuleCache) (p q : Path) (m : Module) :
    (cache.insert p m).get? q = if p.same q then some m else cache.get? q := by
  have herase := cache.get?_erase p q
  unfold insert get? at *
  by_cases h : p.same q = true
  · simp [h]
  · rw [if_neg h] at herase ⊢
    rw [List.find?_cons_of_neg (by simpa using h), herase]

@[simp] theorem get?_empty (p : Path) : empty.get? p = none := rfl

end ModuleCache

/-! ## Steps of a build -/

namespace BuildM

variable {α β : Type}

theorem run_bind (x : BuildM α) (f : α → BuildM β) (s : BuildState) :
    (x >>= f).run.run s = match x.run.run s with
      | (.ok a, s') => (f a).run.run s'
      | (.error e, s') => (.error e, s') := by
  rw [ExceptT.run_bind, StateT.run_bind]
  rcases x.run.run s with ⟨_ | a, s'⟩ <;> rfl

theorem run_bind_ok {x : BuildM α} {a : α} {s s' : BuildState} (h : x.run.run s = (.ok a, s'))
    (f : α → BuildM β) : (x >>= f).run.run s = (f a).run.run s' := by
  rw [run_bind, h]

theorem run_bind_error {x : BuildM α} {e : BuildError} {s s' : BuildState}
    (h : x.run.run s = (.error e, s')) (f : α → BuildM β) :
    (x >>= f).run.run s = (.error e, s') := by
  rw [run_bind, h]

theorem run_bind_pure (x : BuildM α) (f : α → β) (s : BuildState) :
    (x >>= fun a => pure (f a)).run.run s
      = ((x.run.run s).1 >>= fun a => pure (f a), (x.run.run s).2) := by
  rw [run_bind]
  rcases x.run.run s with ⟨_ | a, s'⟩ <;> rfl

@[simp] theorem run_ofResult {ε : Type} (inject : ε → BuildError) (result : Except ε α)
    (s : BuildState) : (ofResult inject result).run.run s = (result.mapError inject, s) := rfl

theorem run_ofResult_ok {ε : Type} {inject : ε → BuildError} {result : Except ε α} {a : α}
    (h : result = .ok a) (s : BuildState) :
    (ofResult inject result).run.run s = (.ok a, s) := by
  rw [run_ofResult, h]
  rfl

theorem run_ofResult_error {ε : Type} {inject : ε → BuildError} {result : Except ε α} {e : ε}
    (h : result = .error e) (s : BuildState) :
    (ofResult inject result).run.run s = (.error (inject e), s) := by
  rw [run_ofResult, h]
  rfl

@[simp] theorem run_note (e : LogEvent) (s : BuildState) :
    (note e).run.run s = (.ok (), { s with events := s.events ++ [e] }) := rfl

end BuildM

namespace BuildContext

/-! ## Loading one file -/

/-- The module of a file that is not known yet. -/
def made (c : BuildContext) (p : Path) : Except BuildError Module := do
  let (transformed, transforms) ← c.transformFile p
  (moduleOf p transformed transforms).mapError .transform

/-- The module of a file, with some known modules. -/
def moduleWith (c : BuildContext) (cache : ModuleCache) (p : Path) : Except BuildError Module :=
  match cache.get? p with
  | some m => .ok m
  | none => c.made p

/-- The module of a file with its dependencies, with some known modules. -/
def loadWith (c : BuildContext) (cache : ModuleCache) (p : Path) : Except BuildError Loaded := do
  let m ← c.moduleWith cache p
  return ⟨m, ← c.dependencies p m⟩

/-- The modules that are known after a file has been loaded. -/
def cacheAfter (c : BuildContext) (cache : ModuleCache) (p : Path) : ModuleCache :=
  match cache.get? p, c.made p with
  | none, .ok m => cache.insert p m
  | _, _ => cache

theorem path_of_made {c : BuildContext} {p : Path} {m : Module} (h : c.made p = .ok m) :
    m.path = p := by
  obtain ⟨⟨transformed, transforms⟩, -, h⟩ := Result.bind_eq_ok_iff.1 h
  have h := Result.mapError_eq_ok_iff.1 h
  unfold moduleOf at h
  split at h <;> cases h
  rfl

theorem fromUTF8?_toUTF8 (text : String) : String.fromUTF8? text.toUTF8 = some text := by
  unfold String.fromUTF8?
  exact dif_pos text.isValidUTF8

/-- A file that is made into a text has a module with this text. -/
theorem made_of_transformFile {c : BuildContext} {p : Path} {transformed : Transformed}
    {transforms : List String} {text : String}
    (h : c.transformFile p = .ok (transformed, transforms))
    (htext : transformed.content = text.toUTF8) :
    c.made p = .ok (.ofContent p text transformed.references transformed.assets transforms) := by
  refine Result.bind_eq_ok_iff.2 ⟨_, h, Result.mapError_eq_ok_iff.2 ?_⟩
  unfold moduleOf
  rw [htext, fromUTF8?_toUTF8]

theorem run_makeModule (c : BuildContext) (p : Path) (s : BuildState) :
    ((c.makeModule p).run.run s).1 = c.made p ∧
      ((c.makeModule p).run.run s).2.cache = match c.made p with
        | .ok m => s.cache.insert p m
        | .error _ => s.cache := by
  unfold makeModule made
  rw [BuildM.run_bind, BuildM.run_ofResult]
  cases c.transformFile p with
  | error e => exact ⟨rfl, rfl⟩
  | ok result =>
    obtain ⟨transformed, transforms⟩ := result
    simp only [Except.mapError, BuildM.run_bind, BuildM.run_note, BuildM.run_ofResult]
    show _ = (moduleOf p transformed transforms).mapError _ ∧ _ =
      match (moduleOf p transformed transforms).mapError BuildError.transform with
        | .ok m => s.cache.insert p m
        | .error _ => s.cache
    cases moduleOf p transformed transforms with
    | error e => exact ⟨rfl, rfl⟩
    | ok m => exact ⟨rfl, rfl⟩

theorem run_module (c : BuildContext) (p : Path) (s : BuildState) :
    ((c.module p).run.run s).1 = c.moduleWith s.cache p ∧
      ((c.module p).run.run s).2.cache = c.cacheAfter s.cache p := by
  unfold module moduleWith cacheAfter
  rw [BuildM.run_bind]
  show (StateT.run (ExceptT.run (match s.cache.get? p with
    | some m => pure m
    | none => c.makeModule p)) s).1 = _ ∧ (StateT.run (ExceptT.run (match s.cache.get? p with
    | some m => pure m
    | none => c.makeModule p)) s).2.cache = _
  cases s.cache.get? p with
  | some m => exact ⟨rfl, rfl⟩
  | none =>
    obtain ⟨hresult, hcache⟩ := c.run_makeModule p s
    refine ⟨hresult, hcache.trans ?_⟩
    cases c.made p <;> rfl

/-- Loading a file gives what `loadWith` says and leaves what `cacheAfter` says. -/
theorem run_load (c : BuildContext) (p : Path) (s : BuildState) :
    ((c.load p).run.run s).1 = c.loadWith s.cache p ∧
      ((c.load p).run.run s).2.cache = c.cacheAfter s.cache p := by
  obtain ⟨hresult, hcache⟩ := c.run_module p s
  unfold load loadWith
  rw [BuildM.run_bind]
  cases hrun : (c.module p).run.run s with
  | mk result s' =>
    rw [hrun] at hresult hcache
    rw [← hresult]
    cases result with
    | error e => exact ⟨rfl, hcache⟩
    | ok m =>
      show (StateT.run (ExceptT.run (BuildM.ofResult _ _ >>= _)) s').1 = _ ∧
        (StateT.run (ExceptT.run (BuildM.ofResult _ _ >>= _)) s').2.cache = _
      rw [BuildM.run_bind, BuildM.run_ofResult]
      show _ = (c.dependencies p m >>= _) ∧ _
      cases c.dependencies p m with
      | error e => exact ⟨rfl, hcache⟩
      | ok dependencies => exact ⟨rfl, hcache⟩

end BuildContext

end Bundler
