import Bundler.Proofs.Disk

set_option autoImplicit false

/-! # The order in which references are looked for

Where no base has a manifest, a reference stands for the first file at the places of its bases, one
base after another (`isFirstFile_places`): the base, the base with each extension, and then the
same for the index of the base, so that also an index without an extension is a place. The search
order that is meant has no such place. The two lead to the same file unless an index without an
extension is found before anything else (`resolve_follows_searchOrder_iff`). -/

namespace Bundler.Resolution

variable {d : Disk} {r : Resolution}

/-! ## Orders of places -/

/-- The places of a base without a manifest. -/
def places (r : Resolution) (base : Path) : List Path :=
  r.candidates base ++ r.candidates (base.join ⟨indexName⟩)

/-- The search order at a base: the base, the base with each extension, and the index of the base
    with each extension. -/
def searchOrder (r : Resolution) (base : Path) : List Path :=
  (base :: r.extensions.map base.append) ++ r.extensions.map (base.join ⟨indexName⟩).append

/-- Whether a reference resolves to the canonical path of the first file among some paths, and fails
    as not found exactly if there is no file among them. -/
def IsFirstFile (d : Disk) (importer : Path) (reference : String) (paths : List Path)
    (result : Except ResolveError Path) : Prop :=
  (∀ p, paths.find? d.isFile = some p → ∃ q, d.canonicalize p = .ok q ∧ result = .ok q) ∧
  (result = .error (.notFound importer reference) ↔ ∀ p ∈ paths, d.isFile p = false)

/-- Whether the index without an extension at a base is the first file at the places of some
    bases. -/
def FindsBareIndex (d : Disk) (r : Resolution) (bases : List Path) (base : Path) : Prop :=
  d.isFile (base.join ⟨indexName⟩) = true ∧ ∃ before after, bases = before ++ base :: after ∧
    ∀ p ∈ before.flatMap r.places ++ r.candidates base, d.isFile p = false

theorem places_eq (r : Resolution) (base : Path) :
    r.places base
      = r.candidates base ++
        base.join ⟨indexName⟩ :: r.extensions.map (base.join ⟨indexName⟩).append := rfl

theorem searchOrder_eq (r : Resolution) (base : Path) :
    r.searchOrder base
      = r.candidates base ++ r.extensions.map (base.join ⟨indexName⟩).append := rfl

theorem find?_isFile_eq_none_iff {paths : List Path} :
    paths.find? d.isFile = none ↔ ∀ p ∈ paths, d.isFile p = false := by
  simp

theorem isFirstFile_iff_of_some {importer p : Path} {reference : String} {paths : List Path}
    {result : Except ResolveError Path} (h : paths.find? d.isFile = some p) :
    IsFirstFile d importer reference paths result ↔
      ∃ q, d.canonicalize p = .ok q ∧ result = .ok q := by
  have hnone : ¬ ∀ p ∈ paths, d.isFile p = false := by
    rw [← find?_isFile_eq_none_iff, h]
    exact Option.some_ne_none p
  constructor
  · intro hfirst
    exact hfirst.1 p h
  · rintro ⟨q, hq, rfl⟩
    refine ⟨fun p' hp' => ?_, iff_of_false (fun herror => by cases herror) hnone⟩
    obtain rfl := Option.some_inj.1 (h.symm.trans hp')
    exact ⟨q, hq, rfl⟩

theorem isFirstFile_iff_of_none {importer : Path} {reference : String} {paths : List Path}
    {result : Except ResolveError Path} (h : paths.find? d.isFile = none) :
    IsFirstFile d importer reference paths result ↔
      result = .error (.notFound importer reference) := by
  constructor
  · intro hfirst
    exact hfirst.2.2 (find?_isFile_eq_none_iff.1 h)
  · intro herror
    refine ⟨fun p hp => ?_, iff_of_true herror (find?_isFile_eq_none_iff.1 h)⟩
    rw [h] at hp
    cases hp

/-- What is first depends on the file that is found only. -/
theorem IsFirstFile.of_find?_eq {importer : Path} {reference : String} {paths paths' : List Path}
    {result : Except ResolveError Path} (h : IsFirstFile d importer reference paths result)
    (heq : paths.find? d.isFile = paths'.find? d.isFile) :
    IsFirstFile d importer reference paths' result := by
  unfold IsFirstFile at h ⊢
  rwa [← find?_isFile_eq_none_iff, ← heq, find?_isFile_eq_none_iff]

/-! ## Looking without manifests -/

theorem find?_eq_ok {base : Path}
    (h : d.isFile (base.join ⟨Package.manifestName⟩) = false) :
    r.find? d base = .ok ((r.places base).find? d.isFile) := by
  have hstart : packageStart? d base = .ok none := by
    unfold packageStart?
    simp only [h]
    rfl
  unfold find? places
  rw [List.find?_append]
  cases (r.candidates base).find? d.isFile with
  | some p => rfl
  | none =>
    rw [hstart]
    rfl

theorem findFirst?_eq_ok {bases : List Path}
    (h : ∀ base ∈ bases, d.isFile (base.join ⟨Package.manifestName⟩) = false) :
    r.findFirst? d bases = .ok ((bases.flatMap r.places).find? d.isFile) := by
  induction bases with
  | nil => rfl
  | cons base rest ih =>
    unfold findFirst?
    rw [find?_eq_ok (h base List.mem_cons_self), List.flatMap_cons, List.find?_append]
    cases (r.places base).find? d.isFile with
    | some p => rfl
    | none => exact ih fun base' hbase' => h base' (List.mem_cons_of_mem _ hbase')

/-- Without manifests and failing operations a reference stands for the first file at the places of
    its bases. -/
theorem isFirstFile_places (hfaults : d.faults = []) {root importer : Path} {reference : String}
    (hmanifest : ∀ base ∈ r.bases root (importer.parent?.getD root) reference,
      d.isFile (base.join ⟨Package.manifestName⟩) = false) :
    IsFirstFile d importer reference
      ((r.bases root (importer.parent?.getD root) reference).flatMap r.places)
      (r.resolve d root importer reference) := by
  have hfound := findFirst?_eq_ok (r := r) hmanifest
  unfold resolve
  simp only [hfound]
  cases hfind : ((r.bases root (importer.parent?.getD root) reference).flatMap
    r.places).find? d.isFile with
  | none => exact (isFirstFile_iff_of_none hfind).2 rfl
  | some p =>
    obtain ⟨q, hq⟩ := Disk.exists_canonicalize_of_isFile hfaults (List.find?_some hfind)
    refine (isFirstFile_iff_of_some hfind).2 ⟨q, hq, ?_⟩
    exact Result.mapError_eq_ok_iff.2 hq

/-! ## The index without an extension -/

theorem FindsBareIndex.find?_places {bases : List Path} {base : Path}
    (h : FindsBareIndex d r bases base) :
    (bases.flatMap r.places).find? d.isFile = some (base.join ⟨indexName⟩) := by
  obtain ⟨hfile, before, after, rfl, hnone⟩ := h
  rw [List.flatMap_append, List.flatMap_cons, places_eq, List.append_assoc, ← List.append_assoc,
    List.find?_append, find?_isFile_eq_none_iff.2 hnone, Option.none_or, List.cons_append,
    List.find?_cons_of_pos hfile]

/-- The search order leads to the same file as all places do, unless the index without an extension
    is found first. -/
theorem find?_places_eq_or (d : Disk) (r : Resolution) (bases : List Path) :
    (bases.flatMap r.places).find? d.isFile = (bases.flatMap r.searchOrder).find? d.isFile ∨
      ∃ base, FindsBareIndex d r bases base := by
  induction bases with
  | nil => exact .inl rfl
  | cons base rest ih =>
    rw [List.flatMap_cons, List.flatMap_cons, places_eq, searchOrder_eq]
    simp only [List.append_assoc, List.find?_append]
    cases hbase : (r.candidates base).find? d.isFile with
    | some p => exact .inl rfl
    | none =>
      cases hfile : d.isFile (base.join ⟨indexName⟩) with
      | true =>
        refine .inr ⟨base, hfile, [], rest, rfl, ?_⟩
        simpa using find?_isFile_eq_none_iff.1 hbase
      | false =>
        rw [List.find?_cons_of_neg (by simp [hfile])]
        cases hindex : (r.extensions.map (base.join ⟨indexName⟩).append).find? d.isFile with
        | some p => exact .inl rfl
        | none =>
          -- nothing is at this base
          rcases ih with ih | ⟨base', hfile', before, after, rfl, hnone⟩
          · exact .inl ih
          · refine .inr ⟨base', hfile', base :: before, after, rfl, ?_⟩
            have hplaces : (r.places base).find? d.isFile = none := by
              rw [places_eq, List.find?_append, hbase, Option.none_or,
                List.find?_cons_of_neg (by simp [hfile]), hindex]
            rw [List.flatMap_cons, List.append_assoc]
            intro p hp
            rcases List.mem_append.1 hp with hp | hp
            · exact find?_isFile_eq_none_iff.1 hplaces p hp
            · exact hnone p hp

/-- Without manifests and failing operations a reference stands for the first file at the places of
    its bases. That is the first file in the search order of the bases exactly if an index without
    an extension that is found before all else is also the file that the search order leads to. -/
theorem resolve_follows_searchOrder_iff (hfaults : d.faults = []) {root importer : Path}
    {reference : String}
    (hmanifest : ∀ base ∈ r.bases root (importer.parent?.getD root) reference,
      d.isFile (base.join ⟨Package.manifestName⟩) = false) :
    IsFirstFile d importer reference
      ((r.bases root (importer.parent?.getD root) reference).flatMap r.places)
      (r.resolve d root importer reference) ∧
    (IsFirstFile d importer reference
        ((r.bases root (importer.parent?.getD root) reference).flatMap r.searchOrder)
        (r.resolve d root importer reference) ↔
      ∀ base, FindsBareIndex d r (r.bases root (importer.parent?.getD root) reference) base →
        ∃ p, ((r.bases root (importer.parent?.getD root) reference).flatMap
            r.searchOrder).find? d.isFile = some p ∧
          d.canonicalize p = d.canonicalize (base.join ⟨indexName⟩)) := by
  have hresolve := isFirstFile_places hfaults hmanifest
  refine ⟨hresolve, ?_⟩
  generalize r.bases root (importer.parent?.getD root) reference = bases at hresolve ⊢
  generalize r.resolve d root importer reference = result at hresolve ⊢
  constructor
  · intro hfollows base hbare
    obtain ⟨q, hq, rfl⟩ := (isFirstFile_iff_of_some hbare.find?_places).1 hresolve
    cases hfind : (bases.flatMap r.searchOrder).find? d.isFile with
    | none => cases (isFirstFile_iff_of_none hfind).1 hfollows
    | some p =>
      obtain ⟨q', hq', heq⟩ := (isFirstFile_iff_of_some hfind).1 hfollows
      cases heq
      exact ⟨p, rfl, hq'.trans hq.symm⟩
  · intro hbare
    obtain hsame | ⟨base, hbase⟩ := find?_places_eq_or d r bases
    · exact hresolve.of_find?_eq hsame
    · obtain ⟨q, hq, hresult⟩ := (isFirstFile_iff_of_some hbase.find?_places).1 hresolve
      obtain ⟨p, hp, heq⟩ := hbare base hbase
      exact (isFirstFile_iff_of_some hp).2 ⟨q, heq.trans hq, hresult⟩

/-! ## A directory with an index that has no extension -/

/-- A disk with such a directory and a script beside it. -/
def bareIndex : Disk where
  tree := ⟨[(["a"], .directory), (["a", "index"], .file .empty), (["a.js"], .file .empty)]⟩

theorem isGrounded_bareIndex : bareIndex.tree.IsGrounded :=
  FileTree.isGrounded_of_nodes (by simp [bareIndex, FileTree.node?])

theorem isFile_bareIndex_iff {p : Path} {l : Location} (hp : p = l.path ∧ l.IsPlain ∧
    (∀ name ∈ l, ¬ FileTree.nameLimit < name.utf8ByteSize) ∧ Disk.textFailure? l.path = none) :
    bareIndex.isFile p = true ↔ l = ["a", "index"] ∨ l = ["a.js"] := by
  obtain ⟨rfl, hplain, hlimit, htext⟩ := hp
  have hlinks : bareIndex.tree.HasNoLinks := FileTree.hasNoLinks_of_nodes (by simp [bareIndex])
  unfold Disk.isFile
  rw [Disk.node?_path isGrounded_bareIndex hlinks hplain hlimit htext]
  constructor
  · intro hfile
    split at hfile
    · next content hnode =>
      have hmem := FileTree.mem_nodes_of_node? (FileTree.ne_nil_of_file hnode) hnode
      have hmem : l = ["a", "index"] ∧ content = .empty ∨ l = ["a.js"] ∧ content = .empty := by
        simpa [bareIndex] using hmem
      exact hmem.imp And.left And.left
    · cases hfile
  · rintro (rfl | rfl) <;> rfl

/-- The directory has no manifest. -/
theorem manifest_bareIndex {bases : List Path} (h : bases = [⟨"/a"⟩]) :
    ∀ base ∈ bases, bareIndex.isFile (base.join ⟨Package.manifestName⟩) = false := by
  intro base hbase
  rw [h, List.mem_singleton] at hbase
  rw [hbase, Bool.eq_false_iff]
  exact (isFile_bareIndex_iff (l := ["a", "package.json"]) (by decide +kernel)).not.2 (by decide)

/-- The search order is followed where the script is found before the index. -/
theorem resolve_follows_searchOrder_scripts :
    let r : Resolution := ⟨[], [".js"]⟩
    let bases := r.bases ⟨"/"⟩ ((Path.mk "/main.js").parent?.getD ⟨"/"⟩) "/a"
    bareIndex.faults = [] ∧
      (∀ base ∈ bases, bareIndex.isFile (base.join ⟨Package.manifestName⟩) = false) ∧
      IsFirstFile bareIndex ⟨"/main.js"⟩ "/a" (bases.flatMap r.searchOrder)
        (r.resolve bareIndex ⟨"/"⟩ ⟨"/main.js"⟩ "/a") := by
  intro r bases
  have hbases : bases = [⟨"/a"⟩] := by decide +kernel
  have hmanifest := manifest_bareIndex hbases
  refine ⟨rfl, hmanifest, (resolve_follows_searchOrder_iff rfl hmanifest).2.2 ?_⟩
  rintro base ⟨-, before, after, hsplit, hnone⟩
  have hbase : base ∈ bases := by
    rw [show bases = _ from hsplit]
    exact List.mem_append_right _ List.mem_cons_self
  rw [hbases, List.mem_singleton] at hbase
  have hscript : (⟨"/a.js"⟩ : Path) ∈ r.candidates base := by
    rw [hbase]
    decide
  have hfile : bareIndex.isFile ⟨"/a.js"⟩ = true :=
    (isFile_bareIndex_iff (l := ["a.js"]) (by decide)).2 (by decide)
  rw [hnone _ (List.mem_append_right _ hscript)] at hfile
  cases hfile

/-- The index is found although there is no file in the search order. -/
theorem resolve_finds_bareIndex :
    let r : Resolution := ⟨[], [".ts"]⟩
    let bases := r.bases ⟨"/"⟩ ((Path.mk "/main.js").parent?.getD ⟨"/"⟩) "/a"
    bareIndex.faults = [] ∧
      (∀ base ∈ bases, bareIndex.isFile (base.join ⟨Package.manifestName⟩) = false) ∧
      r.resolve bareIndex ⟨"/"⟩ ⟨"/main.js"⟩ "/a" = .ok ⟨"/a/index"⟩ ∧
      ¬ IsFirstFile bareIndex ⟨"/main.js"⟩ "/a" (bases.flatMap r.searchOrder)
        (r.resolve bareIndex ⟨"/"⟩ ⟨"/main.js"⟩ "/a") := by
  intro r bases
  have hbases : bases = [⟨"/a"⟩] := by decide +kernel
  have hmanifest := manifest_bareIndex hbases
  have hnot : ∀ names ∈ [["a"], ["a.ts"], ["a", "index.ts"]],
      bareIndex.isFile (Location.path names) = false := by
    intro names hnames
    rw [Bool.eq_false_iff]
    refine (isFile_bareIndex_iff (l := names) ⟨rfl, ?_⟩).not.2 ?_
    · revert names
      decide +kernel
    · revert names
      decide
  have hnone : ∀ p ∈ bases.flatMap r.searchOrder, bareIndex.isFile p = false := by
    have horder : bases.flatMap r.searchOrder
        = [["a"], ["a.ts"], ["a", "index.ts"]].map Location.path := by
      rw [hbases]
      decide
    rw [horder]
    simpa using hnot
  have hindex : (⟨"/a"⟩ : Path).join ⟨indexName⟩ = Location.path ["a", "index"] := by
    decide
  have hbare : FindsBareIndex bareIndex r bases ⟨"/a"⟩ := by
    refine ⟨(isFile_bareIndex_iff ⟨hindex, by decide⟩).2 (.inl rfl), [], [], hbases, ?_⟩
    intro p hp
    refine hnone p ?_
    rw [hbases, List.flatMap_singleton]
    exact List.mem_append_left _ hp
  have hresolve : r.resolve bareIndex ⟨"/"⟩ ⟨"/main.js"⟩ "/a" = .ok ⟨"/a/index"⟩ := by
    obtain ⟨q, hq, hresult⟩ :=
      (isFirstFile_iff_of_some hbare.find?_places).1 (isFirstFile_places rfl hmanifest)
    have hholds : bareIndex.Holds (Location.path ["a", "index"]) .empty :=
      Disk.holds_of_node? rfl isGrounded_bareIndex (by decide) (by decide) (by decide) rfl
        rfl rfl
    rw [hindex, hholds.canonicalize] at hq
    rw [hresult, ← Except.ok.inj hq]
    decide
  refine ⟨rfl, hmanifest, hresolve, fun hfollows => ?_⟩
  rw [hresolve] at hfollows
  cases (isFirstFile_iff_of_none (find?_isFile_eq_none_iff.2 hnone)).1 hfollows

end Bundler.Resolution
