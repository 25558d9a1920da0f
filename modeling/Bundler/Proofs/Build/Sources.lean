import Bundler.Build.Release
import Bundler.Proofs.Output.Frame
import Bundler.Proofs.Output.Linking
import Bundler.Proofs.Output.Names

set_option autoImplicit false

/-! # What a release does to its sources

A release reads the entries, the modules, the settings of packages and the template from the tree
that it writes its output to. It takes nothing away from this tree but what stands in the places of
the write, so that a source is safe if it stands outside of them (`release_spares_outside`).

A configuration is refused if its output directory would hold an entry, but not if one of the places
beside it would: then the release removes its own entry (`release_loses_staged`). -/

namespace Bundler.BuildContext

open BuildOutput (Approaches IsOutside)
open Disk (Ends)

/-- Whatever stands outside of the places of the output directory before a release still stands there
    after it, with the same content, whether the release succeeds or fails.

    This needs entries without slashes in their names, since the files of their chunks are named after
    them, and a way to the output directory that does not lead through the places of the write. -/
theorem release_spares_outside (c : BuildContext) (hd : c.disk.current.IsPlain)
    (hgrounded : c.disk.tree.IsGrounded) (hregistry : c.registry = Transform.standard)
    (hentries : ∀ e ∈ c.configuration.entries, '/' ∉ e.name.toList)
    (happroaches : Approaches c.disk c.configuration.output.directory) {l : Location} {n : Node}
    (hnode : c.disk.tree.node? l = some n)
    (hl : IsOutside c.disk c.configuration.output.directory l) :
    c.release.disk.tree.node? l = some n := by
  unfold release
  have hbuild := (c.run_build {}).1
  split
  · exact hnode
  · next b s hrun =>
    rw [hrun] at hbuild
    have hplain := hasPlainNames_of_buildWith hd hregistry hentries hbuild.symm
    have hends := BuildOutput.ends_writeTo_of_outside b.output c.disk
      c.configuration.output.directory c.configuration.root hplain hgrounded happroaches hnode hl
    simp only
    split
    · next e d hwrite => exact hends.2 e d hwrite
    · next d hwrite => exact hends.1 d hwrite

/-! ## A project at the root -/

theorem home?_root {t : FileTree} {here : Location} {p : Path} (h : p.parent? = some ⟨"/"⟩) :
    t.home? here p = some [] := by
  have hsteps : (⟨"/"⟩ : Path).steps = [.stay] := by decide
  have hroot : t.isDirectory [] = true := FileTree.isDirectory_iff.2 rfl
  refine FileTree.home?_eq_some_iff.2 ⟨_, h, ?_, hroot⟩
  rw [hsteps]
  exact .stay hroot (.done _ _)

theorem release_spares_outside_lone :
    let c := lone "1"
    c.disk.current.IsPlain ∧ c.disk.tree.IsGrounded ∧ c.registry = Transform.standard ∧
      (∀ e ∈ c.configuration.entries, '/' ∉ e.name.toList) ∧
      Approaches c.disk c.configuration.output.directory ∧
      IsOutside c.disk c.configuration.output.directory ["a.js"] ∧
      c.release.disk.tree.node? ["a.js"] = some (.file "1".toUTF8) := by
  intro c
  have hd : c.disk.current.IsPlain := by decide
  have hgrounded : c.disk.tree.IsGrounded :=
    FileTree.isGrounded_of_nodes (by simp [c, lone, FileTree.node?])
  have hentries : ∀ e ∈ c.configuration.entries, '/' ∉ e.name.toList := by
    rw [show c.configuration.entries = _ from entries_lone]
    decide
  have hdirectory : c.configuration.output.directory = ⟨"/dist"⟩ := by decide +kernel
  have hfile : c.configuration.output.directory.fileName? = some "dist" := by
    rw [hdirectory]
    decide
  have hhome : ∀ t : FileTree, t.home? c.disk.current c.configuration.output.directory = some [] :=
    fun t => home?_root (by rw [hdirectory]; decide)
  have happroaches : Approaches c.disk c.configuration.output.directory := by
    intro name hname
    refine ⟨fun m hm => ?_, fun hnone => ?_⟩
    · rw [hhome] at hm ⊢
      exact hm
    · rw [hhome] at hnone
      cases hnone
  have houtside : IsOutside c.disk c.configuration.output.directory ["a.js"] := by
    intro m name hm hname
    rw [hhome] at hm
    rw [hfile] at hname
    cases hm
    cases hname
    decide
  exact ⟨hd, hgrounded, rfl, hentries, happroaches, houtside,
    release_spares_outside c hd hgrounded rfl hentries happroaches rfl houtside⟩

/-! ## An entry in the place of the new directory -/

/-- The entry of a project that stands where the new output directory is made. -/
def stagedEntry : Path := ⟨"/.dist.weft-staging/a.js"⟩

/-- The configuration of a project at the root with this entry. -/
def stagedConfiguration : Configuration :=
  (Configuration.ofStatements ⟨"/"⟩ .empty { mode := some .development } Transform.standard
    [.entry "main" ".dist.weft-staging/a.js"]).toOption.get (by decide +kernel)

/-- The project of that configuration, with a file in the place of the old output directory. -/
def staged : BuildContext :=
  ⟨stagedConfiguration, Transform.standard, { tree := ⟨[([".dist.weft-staging"], .directory),
    ([".dist.weft-staging", "a.js"], .file "1".toUTF8), ([".dist.weft-previous"], .file .empty)]⟩ }⟩

theorem ofStatements_staged :
    Configuration.ofStatements ⟨"/"⟩ .empty { mode := some .development } Transform.standard
      [.entry "main" ".dist.weft-staging/a.js"] = .ok stagedConfiguration :=
  Result.eq_ok_get _

/-- What the configuration says of the entry and of the directories. -/
theorem configuration_staged :
    let c := staged.configuration
    c.entries = [⟨"main", stagedEntry⟩] ∧ c.rules.length = 0 ∧ c.output.template = none ∧
      c.passthrough.classify? c.resolution.extensions stagedEntry = some .module ∧
      c.output.directory = ⟨"/dist"⟩ ∧ c.root = ⟨"/"⟩ := by
  decide +kernel

theorem isGrounded_staged : staged.disk.tree.IsGrounded :=
  FileTree.isGrounded_of_nodes (by decide)

theorem holds_staged : staged.disk.Holds stagedEntry "1".toUTF8 :=
  Disk.holds_of_node? (l := [".dist.weft-staging", "a.js"]) (by decide) isGrounded_staged
    (by decide) (by decide) (by decide) rfl rfl rfl

/-- The entry is a module without references. -/
theorem made_staged : staged.made stagedEntry = .ok (.ofContent stagedEntry "1" [] [] []) := by
  obtain ⟨-, hrules, -, hkind, -⟩ := configuration_staged
  have hreferences : Script.references "1" = [] := by decide +kernel
  have hmade := made_of_passModule holds_staged.read (List.length_eq_zero_iff.1 hrules) hkind
  rwa [hreferences] at hmade

theorem exists_build_staged : ∃ b, (staged.build.run.run {}).1 = .ok b := by
  obtain ⟨hentries, -, htemplate, -⟩ := configuration_staged
  have hplain : staged.disk.current.IsPlain := by decide
  obtain ⟨b, hb, -⟩ := exists_build_of_graphWith {} hplain ModuleCache.own_empty
    (graphWith_of_single hentries holds_staged.canonicalize made_staged rfl)
    (template_of_eq_none htemplate)
  exact ⟨b, hb⟩

/-- The disk of the project without the directory of its entry. -/
def cleared : Disk :=
  { staged.disk with tree := staged.disk.tree.remove [".dist.weft-staging"] }

theorem ends_clear_staged :
    Ends (BuildOutput.clear ⟨"/.dist.weft-staging"⟩) staged.disk (fun d' => d' = cleared)
      fun _ _ => False := by
  have hnamed : (⟨"/.dist.weft-staging"⟩ : Path).namedSteps? = some ([], ".dist.weft-staging") := by
    decide +kernel
  have htext : Disk.textFailure? ⟨"/.dist.weft-staging"⟩ = none := by decide +kernel
  have hhome : staged.disk.tree.home? [] ⟨"/.dist.weft-staging"⟩ = some [] :=
    home?_root (by decide +kernel)
  have hpresent := Disk.isPresent_of_isDirectory
    (Disk.isDirectory_of_node? (d := staged.disk) hnamed htext (by decide) hhome rfl)
  exact BuildOutput.ends_clear_of_isPresent hpresent
    (Disk.ends_remove_of_node? rfl hnamed htext (by decide) hhome rfl fun _ => Node.noConfusion)

theorem ends_clear_cleared :
    Ends (BuildOutput.clear ⟨"/.dist.weft-previous"⟩) cleared (fun _ => False)
      fun _ d' => d' = cleared := by
  have hnamed : (⟨"/.dist.weft-previous"⟩ : Path).namedSteps?
      = some ([], ".dist.weft-previous") := by decide +kernel
  have hsteps : (⟨"/.dist.weft-previous"⟩ : Path).steps = [] ++ [.down ".dist.weft-previous"] := by
    decide +kernel
  have hfile : (⟨"/.dist.weft-previous"⟩ : Path).fileName? = some ".dist.weft-previous" := by
    decide
  have htext : Disk.textFailure? ⟨"/.dist.weft-previous"⟩ = none := by decide +kernel
  have hhome : cleared.tree.home? [] ⟨"/.dist.weft-previous"⟩ = some [] :=
    home?_root (by decide)
  have hpresent := Disk.isPresent_of_node? (d := cleared) hnamed hsteps htext (by decide) hhome rfl
    fun _ => Node.noConfusion
  exact BuildOutput.ends_clear_of_isPresent hpresent (Disk.ends_remove_of_file hhome hfile rfl)

/-- Whatever is written, the entry is removed first, and then the file in the place of the old output
    directory cannot be. -/
theorem ends_writeTo_staged (o : BuildOutput) :
    Ends (o.writeTo ⟨"/dist"⟩ ⟨"/"⟩) staged.disk (fun _ => False) fun _ d' => d' = cleared := by
  have hstaging : BuildOutput.sibling? ⟨"/dist"⟩ BuildOutput.stagingMark
      = some ⟨"/.dist.weft-staging"⟩ := by decide
  have hprevious : BuildOutput.sibling? ⟨"/dist"⟩ BuildOutput.previousMark
      = some ⟨"/.dist.weft-previous"⟩ := by decide +kernel
  unfold BuildOutput.writeTo
  rw [if_neg (by decide +kernel), hstaging, hprevious]
  exact Disk.Ends.adaptExcept (ends_clear_staged.next (ends_clear_cleared.bind fun _ h => h.elim))

/-- A release removes its own entry, which stands in the place of the new output directory, and
    fails. -/
theorem release_loses_staged :
    Configuration.ofStatements ⟨"/"⟩ .empty { mode := some .development } Transform.standard
        [.entry "main" ".dist.weft-staging/a.js"] = .ok staged.configuration ∧
      staged.disk.tree.IsGrounded ∧ staged.disk.faults = [] ∧
      staged.Needed .empty stagedEntry ∧ staged.disk.read stagedEntry = .ok "1".toUTF8 ∧
      (∃ e, staged.release.result = .error e) ∧
      ¬ ∃ content, staged.release.disk.tree.node? [".dist.weft-staging", "a.js"]
        = some (.file content) := by
  obtain ⟨hentries, -, -, -, hdirectory, hroot⟩ := configuration_staged
  have hneeded : staged.Needed .empty stagedEntry := by
    refine .entry (e := ⟨"main", stagedEntry⟩) ?_ holds_staged.canonicalize
    rw [hentries]
    exact List.mem_singleton_self _
  refine ⟨ofStatements_staged, isGrounded_staged, rfl, hneeded, holds_staged.read, ?_⟩
  obtain ⟨b, hb⟩ := exists_build_staged
  unfold release
  split
  · next e s hrun =>
    rw [hrun] at hb
    cases hb
  · next b' s hrun =>
    simp only [hdirectory, hroot]
    obtain ⟨hok, herror⟩ := ends_writeTo_staged b'.output
    split
    · next e d hwrite =>
      rw [herror e d hwrite]
      refine ⟨⟨_, rfl⟩, ?_⟩
      rintro ⟨content, hnode⟩
      cases hnode
    · next d hwrite => exact (hok d hwrite).elim

end Bundler.BuildContext
