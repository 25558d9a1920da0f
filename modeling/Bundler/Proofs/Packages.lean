import Bundler.Proofs.FileTree.Downward
import Bundler.Proofs.Resolve
import Mathlib.Data.List.Find

set_option autoImplicit false

/-! # Packages

A reference that no alias covers and that does not begin with a dot or a slash names a package. Its
files are looked for in the package directories of the importer's directory and of those above it,
as far as they start with the root (`upTo_eq_filter`), the deepest first. So the package of the
nearest directory that has one is used, and nothing outside the root matters
(`resolve_nearest_package`).

This holds on disks without links and manifests. There every file that is found lies below the
package directory that it is looked for in: a reference without `..` goes down, and so does an
extension, unless it is `..` itself, which does not lead to a file. -/

namespace Bundler

/-! ## Disks -/

namespace Disk

/-- Whether there are neither links nor manifests on a disk, and nothing is denied. -/
structure IsSimple (d : Disk) : Prop where
  grounded : d.tree.IsGrounded
  hasNoLinks : d.tree.HasNoLinks
  hasNoManifests : ∀ l content,
    d.tree.node? (l ++ [Package.manifestName]) ≠ some (.file content)
  faults_eq : d.faults = []

/-- Whether two disks have the same at a path and below it. -/
def AgreeBelow (root : Path) (d d' : Disk) : Prop :=
  ∀ l : Location, l.IsPlain → l.path.startsWith root = true → d'.tree.node? l = d.tree.node? l

variable {d d' : Disk} {root base q : Path}

theorem AgreeBelow.symm (h : AgreeBelow root d d') : AgreeBelow root d' d :=
  fun l hl hbelow => (h l hl hbelow).symm

theorem IsSimple.isDenied_eq (hd : d.IsSimple) (operation : FileOperation) (p : Path) :
    d.isDenied operation p = false := by
  unfold isDenied
  rw [hd.faults_eq]
  rfl

theorem IsSimple.isFile_manifest (hd : d.IsSimple) (hbase : base.isAbsolute = true) :
    d.isFile (base.join ⟨Package.manifestName⟩) = false := by
  rw [Bool.eq_false_iff]
  intro hfile
  obtain ⟨l, content, hlocate, hnode⟩ := exists_file_of_isFile hfile
  have hname : (⟨Package.manifestName⟩ : Path).isAbsolute = false := by decide
  have habsolute : (base.join ⟨Package.manifestName⟩).isAbsolute = true := by
    rw [Path.isAbsolute_join hname, hbase]
  have hleads := leads_of_locate habsolute hlocate
  obtain ⟨before, last, hsplit, hsteps⟩ := Path.exists_steps_join hbase hname
  have hsplit' : Path.splitSlash Package.manifestName.toList
      = [] ++ [Package.manifestName.toList] := by decide
  have hlast : last = Package.manifestName.toList :=
    List.singleton_inj.1 (List.append_inj' (hsplit.symm.trans hsplit') rfl).2
  have hstep : (Path.stepOf? last).getD .stay = .down Package.manifestName := by
    rw [hlast]
    decide
  rw [hsteps, hstep] at hleads
  obtain ⟨m, links, -, hdown⟩ := hleads.exists_of_append
  cases hdown with
  | down hdir hlimit hnode' hlink hdone =>
    cases hdone
    exact hd.hasNoManifests m content hnode
  | follow hdir hlimit hlink h => exact hd.hasNoLinks _ _ hlink

/-- A file below a root is found on every disk that has the same there. -/
theorem AgreeBelow.exists_locate (hagree : AgreeBelow root d d') (hd : d.IsSimple)
    (hd' : d'.IsSimple) (hbase : base.isAbsolute = true) (hnames : .parent ∉ base.components)
    (hroot : base.startsWith root = true) (hq : q.Descends)
    (hfile : d.isFile (base.join q) = true) :
    ∃ l, d.locate (base.join q) = .ok l ∧ d'.locate (base.join q) = .ok l ∧
      d'.isFile (base.join q) = true := by
  obtain ⟨l, content, hlocate, hnode, hplain, hdeeper, hup⟩ :=
    exists_below_of_isFile hd.grounded hd.hasNoLinks hbase hnames hq hfile
  have hsame := hagree l hplain (Path.startsWith_trans hdeeper.1 hroot)
  have habsolute : (base.join q).isAbsolute = true := by
    rw [Path.isAbsolute_join hq.relative, hbase]
  have hlocate' : d'.locate (base.join q) = .ok l :=
    locate_congr hd.grounded hd'.grounded hd.hasNoLinks habsolute hup hlocate (by simp [hnode])
      hsame
  exact ⟨l, hlocate, hlocate', isFile_of_locate hlocate' (hsame.trans hnode)⟩

theorem AgreeBelow.isFile_eq (hagree : AgreeBelow root d d') (hd : d.IsSimple) (hd' : d'.IsSimple)
    (hbase : base.isAbsolute = true) (hnames : .parent ∉ base.components)
    (hroot : base.startsWith root = true) (hq : q.Descends) :
    d'.isFile (base.join q) = d.isFile (base.join q) := by
  rw [Bool.eq_iff_iff]
  constructor
  · intro hfile
    obtain ⟨-, -, -, hfile'⟩ := hagree.symm.exists_locate hd' hd hbase hnames hroot hq hfile
    exact hfile'
  · intro hfile
    obtain ⟨-, -, -, hfile'⟩ := hagree.exists_locate hd hd' hbase hnames hroot hq hfile
    exact hfile'

theorem AgreeBelow.canonicalize_eq (hagree : AgreeBelow root d d') (hd : d.IsSimple)
    (hd' : d'.IsSimple) (hbase : base.isAbsolute = true) (hnames : .parent ∉ base.components)
    (hroot : base.startsWith root = true) (hq : q.Descends)
    (hfile : d.isFile (base.join q) = true) :
    d'.canonicalize (base.join q) = d.canonicalize (base.join q) := by
  obtain ⟨l, hlocate, hlocate', -⟩ := hagree.exists_locate hd hd' hbase hnames hroot hq hfile
  rw [canonicalize_of_locate hlocate (hd.isDenied_eq _ _),
    canonicalize_of_locate hlocate' (hd'.isDenied_eq _ _)]

end Disk

namespace Resolution

variable {d d' : Disk} {r : Resolution} {root directory : Path} {reference : String}

/-! ## Directories -/

/-- The directories that a package is looked for in are those from the importer's directory on that
    start with the root. -/
theorem upTo_eq_filter (hroot : root.isAbsolute = true) (h : directory.startsWith root = true) :
    upTo root directory = directory.ancestors.filter (·.startsWith root) := by
  have hdirectory := Path.isAbsolute_of_startsWith hroot h
  -- the root is one of the directories: those before it are below it, those after it above
  obtain ⟨there, hthere, hsame⟩ := Path.exists_same_ancestor hdirectory hroot h
  obtain ⟨before, after, hsplit⟩ := List.append_of_mem hthere
  have hpairwise := Path.pairwise_ancestors hdirectory
  rw [hsplit, List.pairwise_append, List.pairwise_cons] at hpairwise
  obtain ⟨-, ⟨hafter, -⟩, hbefore⟩ := hpairwise
  have hdeeper : ∀ p ∈ before, p.same root = false ∧ p.startsWith root = true := by
    intro p hp
    obtain ⟨hstarts, hnot⟩ := hbefore p hp there List.mem_cons_self
    rw [Path.same_congr_right hsame] at hnot
    exact ⟨hnot, Path.startsWith_trans hstarts (Path.startsWith_of_same hsame)⟩
  have hhigher : ∀ p ∈ after, p.startsWith root = false := by
    intro p hp
    obtain ⟨hstarts, hnot⟩ := hafter p hp
    rw [Bool.eq_false_iff]
    intro hroot
    have hback := Path.startsWith_trans hroot (Path.startsWith_of_same (Path.same_comm _ _ ▸ hsame))
    rw [Path.same_of_startsWith hstarts hback] at hnot
    cases hnot
  have htake : (before ++ there :: after).takeWhile (!·.same root) = before := by
    rw [List.takeWhile_append_of_pos fun p hp => by simp [(hdeeper p hp).1],
      List.takeWhile_cons_of_neg (by simp [hsame]), List.append_nil]
  have hfind : (before ++ there :: after).find? (·.same root) = some there := by
    rw [List.find?_append, List.find?_eq_none.2 fun p hp => by simp [(hdeeper p hp).1],
      Option.none_or]
    exact List.find?_cons_of_pos hsame
  have hfilter : (before ++ there :: after).filter (·.startsWith root) = before ++ [there] := by
    rw [List.filter_append, List.filter_eq_self.2 fun p hp => (hdeeper p hp).2,
      List.filter_cons, if_pos (Path.startsWith_of_same hsame),
      List.filter_eq_nil_iff.2 fun p hp => by simp [hhigher p hp]]
  unfold upTo
  dsimp only
  rw [hsplit, htake, hfind, hfilter]
  rfl

/-! ## The package of a directory -/

/-- Whether a reference names a package: no alias covers it, and it does not begin with a dot or a
    slash. -/
structure NamesPackage (r : Resolution) (reference : String) : Prop where
  noAlias : r.aliasedPath? reference = none
  noDot : reference.startsWith "." = false
  noSlash : reference.startsWith "/" = false
  noParent : .parent ∉ (Path.mk reference).components

/-- The directory of the packages of a directory. -/
def packageDirectory (directory : Path) : Path := directory.join ⟨Package.directoryName⟩

/-- Where a package is, seen from a directory. -/
def packageBase (reference : String) (directory : Path) : Path :=
  (packageDirectory directory).join ⟨reference⟩

/-- The first file of a package, seen from a directory. -/
def package? (d : Disk) (r : Resolution) (reference : String) (directory : Path) :
    Except FileError (Option Path) :=
  r.find? d (packageBase reference directory)

theorem NamesPackage.isAbsolute_eq (h : r.NamesPackage reference) :
    (Path.mk reference).isAbsolute = false := by
  unfold Path.isAbsolute
  rw [beq_eq_false_iff_ne]
  intro hhead
  obtain ⟨rest, hrest⟩ := List.head?_eq_some_iff.1 hhead
  have hstarts : reference.startsWith "/" = true := by
    rw [String.startsWith_string_iff, hrest]
    exact ⟨rest, rfl⟩
  rw [h.noSlash] at hstarts
  cases hstarts

theorem NamesPackage.bases_eq (h : r.NamesPackage reference) (root directory : Path) :
    r.bases root directory reference = (upTo root directory).map (packageBase reference) := by
  unfold bases
  rw [h.noAlias, h.noDot, h.noSlash]
  rfl

/-- The places of a package are below the package directory of the directory. -/
theorem NamesPackage.exists_of_mem_places (h : r.NamesPackage reference)
    (hextensions : ∀ e ∈ r.extensions, '/' ∉ e.toList) {p : Path}
    (hp : p ∈ r.places (packageBase reference directory)) :
    ∃ q : Path, q.Descends ∧ p = (packageDirectory directory).join q := by
  have hreference := h.isAbsolute_eq
  have hindex : (⟨indexName⟩ : Path).isAbsolute = false := by decide
  have hparent : .parent ∉ (Path.mk reference).segments.filterMap Path.innerComponent :=
    fun hmem => h.noParent (Path.mem_components_of_mem_segments hmem)
  have hnamed : (Path.mk reference).Descends := Path.descends_of_noParent hreference hparent
  have hindexed : ((Path.mk reference).join ⟨indexName⟩).Descends := by
    refine Path.descends_of_noParent (by rw [Path.isAbsolute_join hindex, hreference]) ?_
    rw [Path.filterMap_segments_join rfl hindex, List.mem_append, not_or]
    exact ⟨hparent, by decide⟩
  -- both the package and its index go down, and so does each with an extension
  have hcandidates : ∀ q : Path, q.Descends →
      ∀ p ∈ r.candidates ((packageDirectory directory).join q),
        ∃ q : Path, q.Descends ∧ p = (packageDirectory directory).join q := by
    intro q hq p hp
    rcases List.mem_cons.1 hp with rfl | hp
    · exact ⟨q, hq, rfl⟩
    · obtain ⟨e, he, rfl⟩ := List.mem_map.1 hp
      exact ⟨q.append e, hq.append (hextensions e he),
        Path.append_join (hextensions e he) hq.relative⟩
  rcases List.mem_append.1 hp with hp | hp
  · exact hcandidates _ hnamed p hp
  · unfold packageBase at hp
    rw [Path.join_assoc hreference hindex] at hp
    exact hcandidates _ hindexed p hp

/-! ## Directories of a project -/

/-- Whether a directory is the absolute root of a project or below it, and is named without `..`. -/
structure IsInProject (root directory : Path) : Prop where
  isAbsolute_root : root.isAbsolute = true
  startsWith_root : directory.startsWith root = true
  noParent : .parent ∉ directory.components

namespace IsInProject

variable {above : Path}

theorem isAbsolute (h : IsInProject root directory) : directory.isAbsolute = true :=
  Path.isAbsolute_of_startsWith h.isAbsolute_root h.startsWith_root

theorem of_mem_ancestors (h : IsInProject root directory) (habove : above ∈ directory.ancestors)
    (hroot : above.startsWith root = true) : IsInProject root above := by
  refine ⟨h.isAbsolute_root, hroot, fun hparent => h.noParent ?_⟩
  have hstarts := (Path.startsWith_of_mem_ancestors h.isAbsolute habove).2
  exact (List.isPrefixOf_iff_prefix.1 hstarts).subset hparent

/-- The directory of packages is in the project as well. -/
theorem packageDirectory (h : IsInProject root directory) :
    IsInProject root (packageDirectory directory) := by
  have hname : (⟨Package.directoryName⟩ : Path).isAbsolute = false := by decide
  have hcomponents := Path.components_join h.isAbsolute hname
  refine ⟨h.isAbsolute_root, ?_, ?_⟩
  · exact Path.startsWith_trans (Path.startsWith_of_components_eq hcomponents) h.startsWith_root
  · show .parent ∉ (directory.join ⟨Package.directoryName⟩).components
    rw [hcomponents, List.mem_append, not_or]
    exact ⟨h.noParent, by decide⟩

end IsInProject

theorem NamesPackage.isFile_manifest_eq (hreference : r.NamesPackage reference) (hd : d.IsSimple)
    (hdirectory : IsInProject root directory) :
    d.isFile ((packageBase reference directory).join ⟨Package.manifestName⟩) = false := by
  refine hd.isFile_manifest ?_
  unfold packageBase
  rw [Path.isAbsolute_join hreference.isAbsolute_eq, hdirectory.packageDirectory.isAbsolute]

theorem package?_eq_ok (hd : d.IsSimple) (hreference : r.NamesPackage reference)
    (hdirectory : IsInProject root directory) :
    package? d r reference directory
      = .ok ((r.places (packageBase reference directory)).find? d.isFile) :=
  find?_eq_ok (hreference.isFile_manifest_eq hd hdirectory)

/-! ## The nearest package -/

/-- Whether the package of a directory is found, and no directory deeper than it has one. -/
structure IsNearest (d : Disk) (r : Resolution) (root directory : Path) (reference : String)
    (nearest p : Path) : Prop where
  mem : nearest ∈ directory.ancestors
  startsWith_root : nearest.startsWith root = true
  found : package? d r reference nearest = .ok (some p)
  deepest : ∀ deeper ∈ directory.ancestors, deeper.IsDeeper nearest →
    package? d r reference deeper = .ok none

theorem findFirst?_of_none {bases : List Path} (h : ∀ base ∈ bases, r.find? d base = .ok none) :
    r.findFirst? d bases = .ok none := by
  induction bases with
  | nil => rfl
  | cons base rest ih =>
    unfold findFirst?
    rw [h base List.mem_cons_self]
    exact ih fun base' hbase' => h base' (List.mem_cons_of_mem _ hbase')

theorem findFirst?_of_some {before after : List Path} {base p : Path}
    (hbefore : ∀ base ∈ before, r.find? d base = .ok none)
    (hbase : r.find? d base = .ok (some p)) :
    r.findFirst? d (before ++ base :: after) = .ok (some p) := by
  induction before with
  | nil =>
    rw [List.nil_append]
    unfold findFirst?
    rw [hbase]
    rfl
  | cons base' rest ih =>
    rw [List.cons_append]
    unfold findFirst?
    rw [hbefore base' List.mem_cons_self]
    exact ih fun base'' hbase'' => hbefore base'' (List.mem_cons_of_mem _ hbase'')

theorem pairwise_upTo (h : IsInProject root directory) :
    (upTo root directory).Pairwise Path.IsDeeper := by
  rw [upTo_eq_filter h.isAbsolute_root h.startsWith_root]
  exact (Path.pairwise_ancestors h.isAbsolute).filter _

theorem mem_upTo_iff (h : IsInProject root directory) {above : Path} :
    above ∈ upTo root directory ↔ above ∈ directory.ancestors ∧ above.startsWith root = true := by
  rw [upTo_eq_filter h.isAbsolute_root h.startsWith_root, List.mem_filter]

theorem IsInProject.of_mem_upTo (h : IsInProject root directory) {above : Path}
    (habove : above ∈ upTo root directory) : IsInProject root above := by
  obtain ⟨hmem, hroot⟩ := (mem_upTo_iff h).1 habove
  exact h.of_mem_ancestors hmem hroot

theorem NamesPackage.exists_of_mem_bases (hreference : r.NamesPackage reference)
    (h : IsInProject root directory) {base : Path}
    (hbase : base ∈ r.bases root directory reference) :
    ∃ above, IsInProject root above ∧ base = packageBase reference above := by
  rw [hreference.bases_eq] at hbase
  obtain ⟨above, habove, rfl⟩ := List.mem_map.1 hbase
  exact ⟨above, h.of_mem_upTo habove, rfl⟩

/-- The first directory with a package is the nearest one. -/
theorem isNearest_of_first (h : IsInProject root directory) {before after : List Path}
    {nearest p : Path} (hsplit : upTo root directory = before ++ nearest :: after)
    (hbefore : ∀ deeper ∈ before, package? d r reference deeper = .ok none)
    (hfound : package? d r reference nearest = .ok (some p)) :
    IsNearest d r root directory reference nearest p := by
  obtain ⟨hmem, hroot⟩ := (mem_upTo_iff h).1 (hsplit ▸ List.mem_append_right _ List.mem_cons_self)
  refine ⟨hmem, hroot, hfound, fun deeper hdeeper hbelow => hbefore deeper ?_⟩
  have hmem' : deeper ∈ before ++ nearest :: after := by
    rw [← hsplit, mem_upTo_iff h]
    exact ⟨hdeeper, Path.startsWith_trans hbelow.1 hroot⟩
  have hpairwise := pairwise_upTo h
  rw [hsplit, List.pairwise_append, List.pairwise_cons] at hpairwise
  rcases List.mem_append.1 hmem' with hmem' | hmem'
  · exact hmem'
  rcases List.mem_cons.1 hmem' with rfl | hmem'
  · rw [Path.IsDeeper, Path.same_self] at hbelow
    cases hbelow.2
  · obtain ⟨hstarts, hnot⟩ := hpairwise.2.1.1 deeper hmem'
    rw [Path.same_of_startsWith hstarts hbelow.1] at hnot
    cases hnot

/-- No directory deeper than the nearest one comes after it. -/
theorem IsNearest.exists_before {nearest p : Path}
    (hn : IsNearest d r root directory reference nearest p) (h : IsInProject root directory) :
    ∃ before after, upTo root directory = before ++ nearest :: after ∧
      ∀ deeper ∈ before, package? d r reference deeper = .ok none := by
  obtain ⟨before, after, hsplit⟩ :=
    List.append_of_mem ((mem_upTo_iff h).2 ⟨hn.mem, hn.startsWith_root⟩)
  have hpairwise := pairwise_upTo h
  rw [hsplit, List.pairwise_append] at hpairwise
  refine ⟨before, after, hsplit, fun deeper hdeeper => hn.deepest deeper ?_ ?_⟩
  · exact ((mem_upTo_iff h).1 (hsplit ▸ List.mem_append_left _ hdeeper)).1
  · exact hpairwise.2.2 deeper hdeeper nearest List.mem_cons_self

/-- There is a nearest package unless no directory has one. -/
theorem exists_isNearest_or (hd : d.IsSimple) (hreference : r.NamesPackage reference)
    (h : IsInProject root directory) :
    (∃ nearest p, IsNearest d r root directory reference nearest p) ∨
      ∀ above ∈ upTo root directory, package? d r reference above = .ok none := by
  have hfind : ∀ above ∈ upTo root directory, package? d r reference above
      = .ok ((r.places (packageBase reference above)).find? d.isFile) :=
    fun above habove => package?_eq_ok hd hreference (h.of_mem_upTo habove)
  cases hfirst : (upTo root directory).find? fun above =>
      ((r.places (packageBase reference above)).find? d.isFile).isSome with
  | none =>
    right
    intro above habove
    rw [hfind above habove]
    simpa using List.find?_eq_none.1 hfirst above habove
  | some nearest =>
    left
    obtain ⟨hsome, before, after, hsplit, hbefore⟩ := List.find?_eq_some_iff_append.1 hfirst
    obtain ⟨p, hp⟩ := Option.isSome_iff_exists.1 hsome
    have hmem : ∀ above ∈ before ++ nearest :: after, above ∈ upTo root directory :=
      fun above habove => hsplit ▸ habove
    refine ⟨nearest, p, isNearest_of_first h hsplit (fun deeper hdeeper => ?_) ?_⟩
    · rw [hfind deeper (hmem deeper (List.mem_append_left _ hdeeper))]
      simpa using hbefore deeper hdeeper
    · rw [hfind nearest (hmem nearest (List.mem_append_right _ List.mem_cons_self)), hp]

/-- The file of a package lies below the package directory that it is found in. -/
theorem exists_below_of_package? (hd : d.IsSimple) (hreference : r.NamesPackage reference)
    (hextensions : ∀ e ∈ r.extensions, '/' ∉ e.toList) (h : IsInProject root directory) {p : Path}
    (hp : package? d r reference directory = .ok (some p)) :
    ∃ l content, d.canonicalize p = .ok l.path ∧ d.tree.node? l = some (.file content) ∧
      l.path.IsDeeper (packageDirectory directory) := by
  rw [package?_eq_ok hd hreference h] at hp
  have hp := Except.ok.inj hp
  obtain ⟨q, hq, rfl⟩ := hreference.exists_of_mem_places hextensions (List.mem_of_find?_eq_some hp)
  obtain ⟨l, content, hlocate, hnode, -, hdeeper, -⟩ :=
    Disk.exists_below_of_isFile hd.grounded hd.hasNoLinks h.packageDirectory.isAbsolute
      h.packageDirectory.noParent hq (List.find?_some hp)
  exact ⟨l, content, Disk.canonicalize_of_locate hlocate (hd.isDenied_eq _ _), hnode, hdeeper⟩

/-- Disks that have the same at the root and below it resolve packages in the same way. -/
theorem resolve_congr_below {importer : Path} (hd : d.IsSimple) (hd' : d'.IsSimple)
    (hagree : Disk.AgreeBelow root d d') (hextensions : ∀ e ∈ r.extensions, '/' ∉ e.toList)
    (hproject : IsInProject root (importer.parent?.getD root))
    (hreference : r.NamesPackage reference) :
    r.resolve d' root importer reference = r.resolve d root importer reference := by
  have hmanifests : ∀ {d : Disk}, d.IsSimple →
      ∀ base ∈ r.bases root (importer.parent?.getD root) reference,
        d.isFile (base.join ⟨Package.manifestName⟩) = false := by
    intro d hd base hbase
    obtain ⟨above, habove, rfl⟩ := hreference.exists_of_mem_bases hproject hbase
    exact hreference.isFile_manifest_eq hd habove
  -- every place is below the package directory of a directory in the project
  have hplaces : ∀ p ∈ (r.bases root (importer.parent?.getD root) reference).flatMap r.places,
      ∃ base q : Path, IsInProject root base ∧ q.Descends ∧ p = base.join q := by
    intro p hp
    obtain ⟨base, hbase, hp⟩ := List.mem_flatMap.1 hp
    obtain ⟨above, habove, rfl⟩ := hreference.exists_of_mem_bases hproject hbase
    obtain ⟨q, hq, rfl⟩ := hreference.exists_of_mem_places hextensions hp
    exact ⟨_, q, habove.packageDirectory, hq, rfl⟩
  have hfind : ((r.bases root (importer.parent?.getD root) reference).flatMap r.places).find?
      d'.isFile = ((r.bases root (importer.parent?.getD root) reference).flatMap r.places).find?
      d.isFile := by
    refine List.find?_congr fun p hp => ?_
    obtain ⟨base, q, hbase, hq, rfl⟩ := hplaces p hp
    exact hagree.isFile_eq hd hd' hbase.isAbsolute hbase.noParent hbase.startsWith_root hq
  unfold resolve
  dsimp only
  rw [findFirst?_eq_ok (hmanifests hd), findFirst?_eq_ok (hmanifests hd'), hfind]
  cases hfound : ((r.bases root (importer.parent?.getD root) reference).flatMap r.places).find?
      d.isFile with
  | none => rfl
  | some p =>
    obtain ⟨base, q, hbase, hq, rfl⟩ := hplaces p (List.mem_of_find?_eq_some hfound)
    have hcanonical := hagree.canonicalize_eq hd hd' hbase.isAbsolute hbase.noParent
      hbase.startsWith_root hq (List.find?_some hfound)
    show (d'.canonicalize _).mapError _ = (d.canonicalize _).mapError _
    rw [hcanonical]

/-- A reference to a package stands for the file that is found for it in the package directory of
    the nearest directory that has one, from the importer's directory up to the root, and for
    nothing if none of them has one. What is outside the root does not matter. -/
theorem resolve_nearest_package {importer : Path} (hd : d.IsSimple)
    (hextensions : ∀ e ∈ r.extensions, '/' ∉ e.toList)
    (hproject : IsInProject root (importer.parent?.getD root))
    (hreference : r.NamesPackage reference) :
    (∀ nearest p, IsNearest d r root (importer.parent?.getD root) reference nearest p →
      ∃ l content, d.canonicalize p = .ok l.path ∧
        r.resolve d root importer reference = .ok l.path ∧
        d.tree.node? l = some (.file content) ∧ l.path.IsDeeper (packageDirectory nearest)) ∧
    ((¬ ∃ nearest p, IsNearest d r root (importer.parent?.getD root) reference nearest p) →
      r.resolve d root importer reference = .error (.notFound importer reference)) ∧
    ∀ d' : Disk, d'.IsSimple → Disk.AgreeBelow root d d' →
      r.resolve d' root importer reference = r.resolve d root importer reference := by
  have hbases := hreference.bases_eq root (importer.parent?.getD root)
  refine ⟨?_, ?_, ?_⟩
  · intro nearest p hnearest
    have hin := hproject.of_mem_ancestors hnearest.mem hnearest.startsWith_root
    obtain ⟨l, content, hcanonical, hnode, hdeeper⟩ :=
      exists_below_of_package? hd hreference hextensions hin hnearest.found
    obtain ⟨before, after, hsplit, hbefore⟩ := hnearest.exists_before hproject
    have hfound : r.findFirst? d (r.bases root (importer.parent?.getD root) reference)
        = .ok (some p) := by
      rw [hbases, hsplit, List.map_append, List.map_cons]
      refine findFirst?_of_some ?_ hnearest.found
      simpa [package?] using hbefore
    refine ⟨l, content, hcanonical, ?_, hnode, hdeeper⟩
    exact Result.bind_eq_ok_iff.2 ⟨some p, Result.mapError_eq_ok_iff.2 hfound,
      Result.mapError_eq_ok_iff.2 hcanonical⟩
  · intro hnone
    have hall := (exists_isNearest_or hd hreference hproject).resolve_left hnone
    have hfound : r.findFirst? d (r.bases root (importer.parent?.getD root) reference)
        = .ok none := by
      rw [hbases]
      refine findFirst?_of_none ?_
      simpa [package?] using hall
    unfold resolve
    dsimp only
    rw [hfound]
    rfl
  · intro d' hd' hagree
    exact resolve_congr_below hd hd' hagree hextensions hproject hreference

/-! ## A package in the project and another one outside -/

/-- A project with a package, and what is outside of it. -/
def packaged (outside : List (Location × Node)) : Disk where
  tree := ⟨outside ++ [(["project"], .directory), (["project", "node_modules"], .directory),
    (["project", "node_modules", "lib.js"], .file .empty), (["project", "src"], .directory),
    (["project", "src", "a.js"], .file .empty)]⟩

/-- A package of the same name outside. -/
def outsidePackage : List (Location × Node) :=
  [(["node_modules"], .directory), (["node_modules", "lib.js"], .file .empty)]

theorem isSimple_packaged {outside : List (Location × Node)} (h : outside ∈ [[], outsidePackage]) :
    (packaged outside).IsSimple where
  grounded := by
    refine FileTree.isGrounded_of_nodes ?_
    revert outside
    decide
  hasNoLinks := by
    refine FileTree.hasNoLinks_of_nodes ?_
    have houtside : outside = [] ∨ outside = outsidePackage := by simpa using h
    rcases houtside with rfl | rfl <;>
      simp only [packaged, outsidePackage, List.forall_mem_append, List.forall_mem_cons] <;> simp
  hasNoManifests := by
    intro l content hnode
    have hmem := FileTree.mem_nodes_of_node? (by simp) hnode
    have hlast : ∀ e ∈ (packaged outside).tree.nodes, e.1.getLast? ≠ some Package.manifestName := by
      clear hmem hnode
      revert outside
      decide
    exact hlast _ hmem (by simp)
  faults_eq := rfl

theorem agreeBelow_packaged :
    Disk.AgreeBelow ⟨"/project"⟩ (packaged []) (packaged outsidePackage) := by
  intro l hl hbelow
  have hcomponents := List.isPrefixOf_iff_prefix.1 hbelow
  have hroot : (⟨"/project"⟩ : Path).components = [.root, .name "project"] := by decide
  rw [hroot, Path.components_path hl, List.cons_prefix_cons] at hcomponents
  cases l with
  | nil => simp at hcomponents
  | cons first rest =>
    obtain rfl : "project" = first := by simpa using hcomponents
    simp [packaged, outsidePackage, FileTree.node?, List.lookup_cons]

/-- The files among some locations in the project. -/
theorem find?_packaged {locations : List Location} (h : ∀ l ∈ locations, l.IsPlain ∧
    (∀ name ∈ l, ¬ FileTree.nameLimit < name.utf8ByteSize) ∧ Disk.textFailure? l.path = none) :
    (locations.map Location.path).find? (packaged []).isFile
      = (locations.find? fun l => ((packaged []).contentAt l).toOption.isSome).map
        Location.path := by
  have hsimple : (packaged []).IsSimple := isSimple_packaged (by simp)
  rw [List.find?_map]
  congr 1
  refine List.find?_congr fun l hl => ?_
  obtain ⟨hplain, hlimit, htext⟩ := h l hl
  exact Disk.isFile_path hsimple.grounded hsimple.hasNoLinks hplain hlimit htext

/-- The package in the project is used, and the one outside does not change that. -/
theorem resolve_nearest_package_packaged :
    let r : Resolution := ⟨[], [".js"]⟩
    (packaged []).IsSimple ∧ (packaged outsidePackage).IsSimple ∧
      (∀ e ∈ r.extensions, '/' ∉ e.toList) ∧ IsInProject ⟨"/project"⟩ ⟨"/project/src"⟩ ∧
      r.NamesPackage "lib" ∧
      IsNearest (packaged []) r ⟨"/project"⟩ ⟨"/project/src"⟩ "lib" ⟨"/project"⟩
        ⟨"/project/node_modules/lib.js"⟩ ∧
      ∃ l : Location, l.path.IsDeeper (packageDirectory ⟨"/project"⟩) ∧
        r.resolve (packaged []) ⟨"/project"⟩ ⟨"/project/src/a.js"⟩ "lib" = .ok l.path ∧
        r.resolve (packaged outsidePackage) ⟨"/project"⟩ ⟨"/project/src/a.js"⟩ "lib"
          = .ok l.path := by
  intro r
  have hd : (packaged []).IsSimple := isSimple_packaged (by simp)
  have hd' : (packaged outsidePackage).IsSimple := isSimple_packaged (by simp)
  have hextensions : ∀ e ∈ r.extensions, '/' ∉ e.toList := by decide
  have hproject : IsInProject ⟨"/project"⟩ ⟨"/project/src"⟩ :=
    ⟨by decide, by decide, by decide +kernel⟩
  have hreference : r.NamesPackage "lib" :=
    ⟨rfl, by decide +kernel, by decide +kernel, by decide⟩
  have hfound : package? (packaged []) r "lib" ⟨"/project"⟩
      = .ok (some ⟨"/project/node_modules/lib.js"⟩) := by
    have hplaces : r.places (packageBase "lib" ⟨"/project"⟩)
        = [["project", "node_modules", "lib"], ["project", "node_modules", "lib.js"],
          ["project", "node_modules", "lib", "index"],
          ["project", "node_modules", "lib", "index.js"]].map Location.path := by decide +kernel
    have hin : IsInProject ⟨"/project"⟩ ⟨"/project"⟩ :=
      ⟨by decide +kernel, by decide +kernel, by decide +kernel⟩
    rw [package?_eq_ok hd hreference hin, hplaces, find?_packaged (by decide +kernel)]
    decide +kernel
  have hnone : package? (packaged []) r "lib" ⟨"/project/src"⟩ = .ok none := by
    have hplaces : r.places (packageBase "lib" ⟨"/project/src"⟩)
        = [["project", "src", "node_modules", "lib"], ["project", "src", "node_modules", "lib.js"],
          ["project", "src", "node_modules", "lib", "index"],
          ["project", "src", "node_modules", "lib", "index.js"]].map Location.path := by
      decide +kernel
    rw [package?_eq_ok hd hreference hproject, hplaces, find?_packaged (by decide +kernel)]
    decide +kernel
  have hdirectory :
      (⟨"/project/src/a.js"⟩ : Path).parent?.getD ⟨"/project"⟩ = ⟨"/project/src"⟩ := by
    decide +kernel
  have hancestors : (⟨"/project/src"⟩ : Path).ancestors
      = [⟨"/project/src"⟩, ⟨"/project"⟩, ⟨"/"⟩] := by decide +kernel
  have hnearest : IsNearest (packaged []) r ⟨"/project"⟩ ⟨"/project/src"⟩ "lib" ⟨"/project"⟩
      ⟨"/project/node_modules/lib.js"⟩ := by
    refine ⟨by rw [hancestors]; simp, by decide +kernel, hfound, fun deeper hdeeper hbelow => ?_⟩
    rw [hancestors] at hdeeper
    simp only [List.mem_cons, List.not_mem_nil, or_false] at hdeeper
    rcases hdeeper with rfl | rfl | rfl
    · exact hnone
    · exact absurd hbelow.2 (by decide +kernel)
    · exact absurd hbelow.1 (by decide +kernel)
  have hresolve := resolve_nearest_package hd hextensions (hdirectory ▸ hproject) hreference
  rw [hdirectory] at hresolve
  obtain ⟨hsome, -, hagree⟩ := hresolve
  obtain ⟨l, -, -, hl, -, hdeeper⟩ := hsome _ _ hnearest
  exact ⟨hd, hd', hextensions, hproject, hreference, hnearest, l, hdeeper, hl,
    (hagree _ hd' agreeBelow_packaged).trans hl⟩

end Resolution

end Bundler
