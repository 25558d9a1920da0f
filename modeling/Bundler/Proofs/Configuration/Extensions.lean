import Bundler.Proofs.Build.Failures
import Bundler.Proofs.Disk

set_option autoImplicit false

/-! # Files that are found by their extensions

The extensions of a configuration are used twice. Resolution writes each of them, as it stands in
the settings, behind a reference. A file without a rule is a module if what its name has behind the
last dot, in lower case, is one of them. So a file that is found by an extension need not be a
module: it is one exactly if resolution `Understands` the extension (`classify?_module_iff`),
whatever else its path is. In particular it is one if the extension is in lower case and has one dot
(`understands_of_lower`). -/

namespace Bundler

/-! ## The extension of a file -/

namespace Path

theorem cutExtension_dot {stem ending : String} (hstem : stem ≠ "")
    (hending : '.' ∉ ending.toList) :
    cutExtension (stem ++ "." ++ ending) = (stem, some ending) := by
  have hreversed : (stem ++ "." ++ ending).toList.reverse
      = ending.toList.reverse ++ '.' :: stem.toList.reverse := by
    simp
  have hnot : ∀ c ∈ ending.toList.reverse, decide (c ≠ '.') = true := by
    intro c hc
    refine decide_eq_true ?_
    rintro rfl
    exact hending (List.mem_reverse.1 hc)
  have hstem : stem.toList ≠ [] := fun h => hstem (String.toList_inj.1 h)
  unfold cutExtension
  rw [hreversed, List.takeWhile_append_of_pos hnot, List.dropWhile_append_of_pos hnot]
  simp [hstem]

theorem extension?_of_fileName? {p : Path} {stem ending : String}
    (h : p.fileName? = some (stem ++ "." ++ ending)) (hstem : stem ≠ "")
    (hending : '.' ∉ ending.toList) : p.extension? = some ending := by
  unfold extension?
  rw [h, Option.bind_some, cutExtension_dot hstem hending]

end Path

theorem Passthrough.classify?_eq_module_iff {pass : Passthrough} {moduleExtensions : List String}
    {p : Path} : pass.classify? moduleExtensions p = some .module ↔
      ∃ ending, p.extension? = some ending ∧
        ("." ++ Unicode.lower ending ∈ moduleExtensions ∨
          "." ++ Unicode.lower ending ∈ nativeExtensions) := by
  unfold classify? extensionOf?
  cases p.extension? with
  | none => simp
  | some ending =>
    simp only [Option.map_some, Option.any_some, Bool.or_eq_true, List.contains_iff_mem,
      Option.some.injEq, exists_eq_left']
    split
    · next h => exact iff_of_true rfl h
    · next h =>
      refine iff_of_false ?_ h
      split <;> simp

/-! ## The extensions of a configuration -/

/-- Whether a file is a module if its name ends in an extension: what the extension has behind its
    last dot is, in lower case, an extension of the configuration or one that always marks a
    module. -/
def Resolution.Understands (r : Resolution) (extension : String) : Prop :=
  ∃ before ending, extension = before ++ "." ++ ending ∧ '.' ∉ ending.toList ∧
    ("." ++ Unicode.lower ending ∈ r.extensions ∨
      "." ++ Unicode.lower ending ∈ Passthrough.nativeExtensions)

theorem Resolution.understands_of_lower {r : Resolution} {ending : String}
    (h : "." ++ ending ∈ r.extensions) (hdot : '.' ∉ ending.toList)
    (hlower : Unicode.lower ending = ending) : r.Understands ("." ++ ending) :=
  ⟨"", ending, rfl, hdot, .inl (hlower.symm ▸ h)⟩

namespace Configuration

variable {root : Path} {environment : NameMap String} {overrides : Overrides} {registry : Registry}
  {statements : List Settings.Statement} {c : Configuration}

/-- Every extension has a dot, and something without dots behind the last one. -/
theorem exists_ending_of_mem_extensions {value extension : String}
    (h : extension ∈ extensions value) :
    ∃ before ending, extension = before ++ "." ++ ending ∧ '.' ∉ ending.toList := by
  unfold extensions at h
  obtain ⟨word, -, hword⟩ := List.mem_map.1 (List.mem_eraseDups.1 h)
  have hdot : '.' ∈ extension.toList := by
    rw [← hword]
    split
    · next hhead => exact List.mem_of_mem_head? hhead
    · simp
  obtain ⟨ending, before, hreversed, hending⟩ :=
    List.eq_append_cons_of_mem (List.mem_reverse.2 hdot)
  refine ⟨.ofList before.reverse, .ofList ending.reverse, ?_, by simpa using hending⟩
  have hlist := congrArg List.reverse hreversed
  rw [List.reverse_reverse] at hlist
  rw [← String.toList_inj, hlist]
  simp

theorem extensions_ofStatements
    (h : ofStatements root environment overrides registry statements = .ok c) :
    ∃ value, c.resolution.extensions = extensions value := by
  obtain ⟨draft, -, h⟩ := Result.bind_eq_ok_iff.1 h
  exact ⟨_, congrArg Resolution.extensions (Draft.fields_of_finish h).2.2⟩

/-- A file whose name ends in an extension is a module just if the extension is understood. -/
theorem classify?_eq_module_iff_understands (pass : Passthrough)
    (h : ofStatements root environment overrides registry statements = .ok c) {p : Path}
    {stem extension : String} (hname : p.fileName? = some (stem ++ extension)) (hstem : stem ≠ "")
    (hextension : extension ∈ c.resolution.extensions) :
    pass.classify? c.resolution.extensions p = some .module ↔
      c.resolution.Understands extension := by
  have hending : ∀ before ending, extension = before ++ "." ++ ending → '.' ∉ ending.toList →
      p.extension? = some ending := by
    rintro before ending rfl hdot
    have hne : stem ++ before ≠ "" := fun hempty => hstem (String.append_eq_empty_iff.1 hempty).1
    refine Path.extension?_of_fileName? ?_ hne hdot
    rw [hname, String.append_assoc, String.append_assoc, String.append_assoc]
  rw [Passthrough.classify?_eq_module_iff]
  constructor
  · rintro ⟨ending, hp, hlisted⟩
    obtain ⟨value, hvalue⟩ := extensions_ofStatements h
    obtain ⟨before, ending', heq, hdot⟩ := exists_ending_of_mem_extensions (hvalue ▸ hextension)
    obtain rfl : ending = ending' :=
      Option.some.inj (hp.symm.trans (hending before ending' heq hdot))
    exact ⟨before, ending, heq, hdot, hlisted⟩
  · rintro ⟨before, ending, heq, hdot, hlisted⟩
    exact ⟨ending, hending before ending heq hdot, hlisted⟩

end Configuration

/-! ## Files that nothing handles -/

namespace BuildContext

variable {c : BuildContext} {p : Path}

/-- Whether a build passes a file on as a module: it does not report that nothing handles the file,
    and if it ends, the module of the file has its text and no assets. -/
structure KeepsModule (c : BuildContext) (s : BuildState) (p : Path) : Prop where
  handled : (c.build.run.run s).1 ≠ .error (.unhandled p)
  kept : ∀ build, (c.build.run.run s).1 = .ok build → ∀ m ∈ build.graph.modules, m.path = p →
    ∃ text, c.disk.read p = .ok text.toUTF8 ∧
      m = .ofContent p text (Script.references text) [] []

theorem keepsModule_of_classify? {s : BuildState} (hd : c.disk.current.IsPlain)
    (hs : c.UpToDate s.cache) (hrule : c.configuration.rule? p = none)
    (hkind : c.configuration.passthrough.classify? c.configuration.resolution.extensions p
      = some .module) : c.KeepsModule s p where
  handled := by
    intro h
    obtain ⟨-, hnone⟩ := unhandled_of_run_build h
    rw [hkind] at hnone
    cases hnone
  kept := by
    intro build h m hm hpath
    rw [(c.run_build s).1, buildWith, buildWithFrom_eq_of_upToDate hd hs] at h
    obtain ⟨g, hgraph, h⟩ := Result.bind_eq_ok_iff.1 h
    obtain ⟨output, -, h⟩ := Result.bind_eq_ok_iff.1 h
    cases h
    obtain ⟨q, hq⟩ := exists_moduleWith_of_mem_graph hgraph hm
    have hmade : c.made q = .ok m := hq
    obtain rfl : q = p := (path_of_made hmade).symm.trans hpath
    exact (made_eq_ok_iff_of_module hrule hkind).1 hmade

/-- A file that is no module and has no rule is not handled, or copied as an asset. -/
theorem unhandled_or_copied {content : ByteArray} (hread : c.disk.read p = .ok content)
    (hrule : c.configuration.rule? p = none)
    (hkind : c.configuration.passthrough.classify? c.configuration.resolution.extensions p
      ≠ some .module) :
    c.transformFile p = .error (.unhandled p) ∨
      ∃ transformed, c.transformFile p = .ok (transformed, []) ∧
        ∃ a ∈ transformed.assets, a.content = content := by
  rw [transformFile_of_rule?_eq_none hread hrule]
  split
  · next h => exact absurd h hkind
  · exact .inr ⟨_, rfl, _, List.mem_singleton_self _, rfl⟩
  · exact .inl rfl

end BuildContext

namespace Configuration

open BuildContext

/-- A file whose name is something before an extension, and that has no rule, is a module exactly if
    the extension is understood. Then no build reports that nothing handles the file, and none
    copies it. If the extension is not understood, the file is reported or copied. -/
theorem classify?_module_iff {root : Path} {environment : NameMap String} {overrides : Overrides}
    {registry : Registry} {statements : List Settings.Statement} {c : Configuration}
    (h : ofStatements root environment overrides registry statements = .ok c) {p : Path}
    {stem extension : String} (hname : p.fileName? = some (stem ++ extension)) (hstem : stem ≠ "")
    (hextension : extension ∈ c.resolution.extensions) (hrule : c.rule? p = none) :
    (c.passthrough.classify? c.resolution.extensions p = some .module ↔
      c.resolution.Understands extension) ∧
    ∀ b : BuildContext, b.configuration = c →
      (c.resolution.Understands extension → b.disk.current.IsPlain →
        ∀ s, b.UpToDate s.cache → b.KeepsModule s p) ∧
      (¬ c.resolution.Understands extension → ∀ content, b.disk.read p = .ok content →
        b.transformFile p = .error (.unhandled p) ∨
          ∃ transformed, b.transformFile p = .ok (transformed, []) ∧
            ∃ a ∈ transformed.assets, a.content = content) := by
  have hkind := classify?_eq_module_iff_understands c.passthrough h hname hstem hextension
  refine ⟨hkind, ?_⟩
  rintro b rfl
  constructor
  · intro hunderstood hd s hs
    exact keepsModule_of_classify? hd hs hrule (hkind.2 hunderstood)
  · intro hnot content hread
    exact unhandled_or_copied hread hrule fun hmodule => hnot (hkind.1 hmodule)

/-- A script whose extension is one of the default ones is a module. -/
theorem classify?_module_lone :
    (⟨"/a.js"⟩ : Path).fileName? = some ("a" ++ ".js") ∧
      ".js" ∈ loneConfiguration.resolution.extensions ∧
      loneConfiguration.rule? ⟨"/a.js"⟩ = none ∧
      loneConfiguration.resolution.Understands ".js" ∧
      loneConfiguration.passthrough.classify? loneConfiguration.resolution.extensions ⟨"/a.js"⟩
        = some .module ∧
      ∀ content, (lone content).KeepsModule {} ⟨"/a.js"⟩ := by
  have hname : (⟨"/a.js"⟩ : Path).fileName? = some ("a" ++ ".js") := by decide
  have hextension : ".js" ∈ loneConfiguration.resolution.extensions := by decide +kernel
  have hrule : loneConfiguration.rule? ⟨"/a.js"⟩ = none :=
    rule?_of_rules_eq_nil (c := lone "") rules_lone _
  have hdot : '.' ∉ "js".toList := by decide
  have hunderstands : loneConfiguration.resolution.Understands ("." ++ "js") :=
    Resolution.understands_of_lower hextension hdot (by decide)
  obtain ⟨hkind, hbuilds⟩ :=
    classify?_module_iff ofStatements_lone hname (by decide) hextension hrule
  refine ⟨hname, hextension, hrule, hunderstands, hkind.2 hunderstands, fun content => ?_⟩
  have hplain : (lone content).disk.current.IsPlain := nofun
  exact (hbuilds (lone content) rfl).1 hunderstands hplain {} upToDate_empty

/-! ## An extension in upper case -/

/-- The configuration of a project at the root whose modules end in `.JS`. -/
def upperConfiguration : Configuration :=
  (ofStatements ⟨"/"⟩ .empty {} Transform.standard
    [.entry "main" "a.JS", .setting ⟨"extensions", ".JS"⟩]).toOption.get (by decide +kernel)

/-- The project of that configuration, with nothing but its entry on the disk. -/
def upper : BuildContext :=
  ⟨upperConfiguration, Transform.standard, { tree := ⟨[(["a.JS"], .file "1".toUTF8)]⟩ }⟩

/-- What the configuration says of the file. -/
theorem configuration_upper :
    let c := upper.configuration
    c.entries = [⟨"main", ⟨"/a.JS"⟩⟩] ∧ c.rules.length = 0 ∧
      c.passthrough.classify? c.resolution.extensions ⟨"/a.JS"⟩ = none ∧
      ".JS" ∈ c.resolution.extensions := by
  decide +kernel

theorem holds_upper : upper.disk.Holds ⟨"/a.JS"⟩ "1".toUTF8 :=
  Disk.holds_of_node? (l := ["a.JS"]) (by decide +kernel)
    (FileTree.isGrounded_of_nodes (by decide)) (by decide) (by decide) (by decide)
    rfl rfl rfl

/-- The file has the extension of the configuration, but it is no module, and the build fails. -/
theorem classify?_upper :
    ofStatements ⟨"/"⟩ .empty {} Transform.standard
      [.entry "main" "a.JS", .setting ⟨"extensions", ".JS"⟩] = .ok upperConfiguration ∧
    (⟨"/a.JS"⟩ : Path).fileName? = some ("a" ++ ".JS") ∧
    ".JS" ∈ upperConfiguration.resolution.extensions ∧
    upperConfiguration.rule? ⟨"/a.JS"⟩ = none ∧
    upperConfiguration.passthrough.classify? upperConfiguration.resolution.extensions ⟨"/a.JS"⟩
      = none ∧
    (upper.build.run.run {}).1 = .error (.unhandled ⟨"/a.JS"⟩) := by
  obtain ⟨hentries, hrules, hkind, hextension⟩ := configuration_upper
  have hrule : upperConfiguration.rule? ⟨"/a.JS"⟩ = none :=
    rule?_of_rules_eq_nil (c := upper) (List.length_eq_zero_iff.1 hrules) _
  refine ⟨Result.eq_ok_get _, by decide, hextension, hrule, hkind, ?_⟩
  have hfile : upper.transformFile ⟨"/a.JS"⟩ = .error (.unhandled ⟨"/a.JS"⟩) := by
    rw [transformFile_of_rule?_eq_none holds_upper.read hrule, hkind]
  refine run_build_of_made_error hentries holds_upper.canonicalize ?_
  unfold made
  rw [hfile]
  rfl

end Configuration

end Bundler
