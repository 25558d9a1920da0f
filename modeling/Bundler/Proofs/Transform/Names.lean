import Bundler.Proofs.Build.Loading
import Bundler.Proofs.Digest
import Bundler.Proofs.NameMap
import Bundler.Proofs.Path.Parent

set_option autoImplicit false

/-! # The names of assets

The file of an asset is named after a digest of its content and the extension of its file, in
development after its own name as well. All assets that the standard transforms give are named in
this way, and so are those of every module that is made with them (`isAddressed_of_made`). Digests
are hexadecimal and longer than two characters, so that the name is plain whatever the path of the
file is (`isPlainName_of_made`). -/

namespace Bundler

/-! ## Plain names -/

/-- A name is plain if it is long enough and holds no slash. -/
theorem isPlainName_of_length {name : String} (hlength : 2 < name.toList.length)
    (hslash : '/' ∉ name.toList) : IsPlainName name := by
  refine ⟨?_, ?_, ?_, hslash⟩ <;> rintro rfl <;> exact absurd hlength (by decide)

namespace Path

theorem slash_not_mem_cutExtension {name : String} (h : '/' ∉ name.toList) :
    '/' ∉ (cutExtension name).1.toList ∧
      ∀ ending, (cutExtension name).2 = some ending → '/' ∉ ending.toList := by
  unfold cutExtension
  simp only
  split
  · exact ⟨h, fun _ hnone => by cases hnone⟩
  · refine ⟨fun hmem => h ?_, fun ending hending hmem => h ?_⟩
    · rw [String.toList_ofList, List.mem_reverse] at hmem
      exact List.mem_reverse.1 ((List.dropWhile_suffix _).subset (List.mem_of_mem_drop hmem))
    · obtain rfl := Option.some.inj hending
      rw [String.toList_ofList, List.mem_reverse] at hmem
      exact List.mem_reverse.1 ((List.takeWhile_prefix _).subset hmem)

theorem slash_not_mem_fileName {p : Path} {name : String} (h : p.fileName? = some name) :
    '/' ∉ name.toList := by
  obtain ⟨-, -, -, -, hname, -⟩ := exists_of_fileName? h
  exact hname.2.2.2

theorem slash_not_mem_stem (p : Path) : '/' ∉ (p.stem?.getD "").toList := by
  unfold stem?
  cases h : p.fileName? with
  | none => exact List.not_mem_nil
  | some name => exact (slash_not_mem_cutExtension (slash_not_mem_fileName h)).1

theorem slash_not_mem_extension {p : Path} {ending : String} (h : p.extension? = some ending) :
    '/' ∉ ending.toList := by
  obtain ⟨name, hname, hending⟩ := Option.bind_eq_some_iff.1 h
  exact (slash_not_mem_cutExtension (slash_not_mem_fileName hname)).2 ending hending

end Path

/-! ## Assets -/

namespace Transform

theorem isPlainName_assetFileName (mode : Mode) (p : Path) (content : ByteArray) :
    IsPlainName (assetFileName mode p content) := by
  have hdigest := Digest.slash_not_mem_ofFile content
  have hlength := Digest.length_ofFile content
  have hdigits : Digest.fileDigits = 20 := rfl
  have hending : '/' ∉ ((p.extension?.map ("." ++ ·)).getD "").toList := by
    cases h : p.extension? with
    | none => exact List.not_mem_nil
    | some ending => simpa using Path.slash_not_mem_extension h
  unfold assetFileName
  cases mode with
  | development =>
    refine isPlainName_of_length ?_ ?_
    · simp only [String.toList_append, List.length_append, hlength]
      omega
    · simp only [String.toList_append, List.mem_append, not_or]
      exact ⟨⟨⟨Path.slash_not_mem_stem p, by decide⟩, hdigest⟩, hending⟩
  | production =>
    refine isPlainName_of_length ?_ ?_
    · simp only [String.toList_append, List.length_append, hlength]
      omega
    · simp only [String.toList_append, List.mem_append, not_or]
      exact ⟨hdigest, hending⟩

end Transform

/-- Whether an asset is named after its own content, and after the path of some file. -/
def Asset.IsAddressed (a : Asset) : Prop :=
  ∃ mode p, a.fileName = Transform.assetFileName mode p a.content

/-- Whether all assets that a file depends on are named after their contents. -/
def Transformed.HasAddressedAssets (t : Transformed) : Prop :=
  ∀ a, .asset a ∈ t.dependencies → a.IsAddressed

/-- Whether a transform gives assets that are named after their contents only. -/
def Transform.GivesAddressedAssets (t : Transform) : Prop :=
  ∀ context p content transformed, t.run context p content = .ok transformed →
    transformed.HasAddressedAssets

namespace Transform

theorem hasAddressedAssets_of_references {content : ByteArray} {references : List String} :
    (⟨content, references.map .reference⟩ : Transformed).HasAddressedAssets := by
  intro a ha
  obtain ⟨reference, -, h⟩ := List.mem_map.1 ha
  cases h

theorem givesAddressedAssets_asset : asset.GivesAddressedAssets := by
  intro context p content transformed h a ha
  obtain rfl := Except.ok.inj h
  obtain rfl : a = ⟨assetFileName context.mode p content, content⟩ := by simpa using ha
  exact ⟨_, _, rfl⟩

theorem givesAddressedAssets_of_mem_standard {t : Transform}
    (h : t ∈ [script, style, asset, inlined, text]) : t.GivesAddressedAssets := by
  simp only [List.mem_cons, List.not_mem_nil, or_false] at h
  rcases h with rfl | rfl | rfl | rfl | rfl
  -- scripts and style sheets depend on references only, an inlined file and a text on nothing
  · intro context p content transformed h
    obtain ⟨source, -, h⟩ := Result.bind_eq_ok_iff.1 h
    obtain rfl := Except.ok.inj h
    exact hasAddressedAssets_of_references
  · intro context p content transformed h
    obtain ⟨sheet, -, h⟩ := Result.bind_eq_ok_iff.1 h
    obtain rfl := Except.ok.inj h
    exact hasAddressedAssets_of_references
  · exact givesAddressedAssets_asset
  · intro context p content transformed h a ha
    obtain rfl := Except.ok.inj h
    cases ha
  · intro context p content transformed h a ha
    obtain ⟨source, -, h⟩ := Result.bind_eq_ok_iff.1 h
    obtain rfl := Except.ok.inj h
    cases ha

theorem givesAddressedAssets_of_get? {name : String} {t : Transform}
    (h : standard.get? name = some t) : t.GivesAddressedAssets := by
  refine givesAddressedAssets_of_mem_standard ?_
  have hlookup := (NameMap.get?_ofList _ name).symm.trans h
  obtain ⟨t', ht', heq⟩ := List.mem_map.1 (List.mem_reverse.1 (NameMap.mem_of_lookup hlookup))
  cases heq
  exact ht'

/-- The assets of a chain are those of its transforms. -/
theorem hasAddressedAssets_of_foldlM {context : TransformContext} {p : Path} {chain : List Transform}
    (hchain : ∀ t ∈ chain, t.GivesAddressedAssets) {before transformed : Transformed}
    (hbefore : before.HasAddressedAssets)
    (h : chain.foldlM (continueWith context p) before = .ok transformed) :
    transformed.HasAddressedAssets := by
  induction chain generalizing before with
  | nil =>
    obtain rfl := Except.ok.inj h
    exact hbefore
  | cons t rest ih =>
    rw [List.foldlM_cons] at h
    obtain ⟨next, hnext, h⟩ := Result.bind_eq_ok_iff.1 h
    refine ih (fun t ht => hchain t (List.mem_cons_of_mem _ ht)) ?_ h
    unfold continueWith at hnext
    split at hnext
    · next given hgiven =>
      obtain rfl := Except.ok.inj hnext
      intro a ha
      rcases List.mem_append.1 ha with ha | ha
      · exact hbefore a ha
      · exact hchain t List.mem_cons_self _ _ _ _ hgiven a ha
    · cases hnext

theorem hasAddressedAssets_of_passModule {p : Path} {content : ByteArray} {transformed : Transformed}
    (h : passModule p content = .ok transformed) : transformed.HasAddressedAssets := by
  unfold passModule at h
  split at h
  · obtain rfl := Except.ok.inj h
    exact hasAddressedAssets_of_references
  · cases h

theorem hasAddressedAssets_of_passAsset {context : TransformContext} {p : Path} {content : ByteArray}
    {transformed : Transformed} (h : passAsset context p content = .ok transformed) :
    transformed.HasAddressedAssets := by
  unfold passAsset at h
  split at h
  · next given hgiven =>
    obtain rfl := Except.ok.inj h
    exact givesAddressedAssets_asset _ _ _ _ hgiven
  · cases h

end Transform

namespace BuildContext

variable {c : BuildContext}

theorem hasAddressedAssets_of_transformFile (hregistry : c.registry = Transform.standard) {p : Path}
    {transformed : Transformed} {transforms : List String}
    (h : c.transformFile p = .ok (transformed, transforms)) : transformed.HasAddressedAssets := by
  obtain ⟨content, -, h⟩ := Result.bind_eq_ok_iff.1 h
  simp only at h
  split at h
  · obtain ⟨chain, hchain, h⟩ := Result.bind_eq_ok_iff.1 h
    obtain ⟨given, hgiven, h⟩ := Result.bind_eq_ok_iff.1 h
    cases h
    refine Transform.hasAddressedAssets_of_foldlM (fun t ht => ?_) (fun a ha => by cases ha)
      (Result.mapError_eq_ok_iff.1 hgiven)
    have hnames := Result.mapM_eq_ok_iff.1 (Result.mapError_eq_ok_iff.1 hchain)
    obtain ⟨name, -, hname⟩ := Result.exists_of_mem_right hnames ht
    unfold transform? at hname
    split at hname
    · next t' ht' =>
      cases hname
      exact Transform.givesAddressedAssets_of_get? (hregistry ▸ ht')
    · cases hname
  · split at h
    · obtain ⟨given, hgiven, h⟩ := Result.bind_eq_ok_iff.1 h
      cases h
      exact Transform.hasAddressedAssets_of_passModule (Result.mapError_eq_ok_iff.1 hgiven)
    · obtain ⟨given, hgiven, h⟩ := Result.bind_eq_ok_iff.1 h
      cases h
      exact Transform.hasAddressedAssets_of_passAsset (Result.mapError_eq_ok_iff.1 hgiven)
    · cases h

/-- The assets of a module that is made from its file are named after their contents. -/
theorem isAddressed_of_made (hregistry : c.registry = Transform.standard) {p : Path} {m : Module}
    (h : c.made p = .ok m) {a : Asset} (ha : a ∈ m.assets) : a.IsAddressed := by
  obtain ⟨⟨transformed, transforms⟩, htransformed, h⟩ := Result.bind_eq_ok_iff.1 h
  have h := Result.mapError_eq_ok_iff.1 h
  unfold moduleOf at h
  split at h
  · cases h
    obtain ⟨dependency, hdependency, heq⟩ := List.mem_filterMap.1 ha
    refine hasAddressedAssets_of_transformFile hregistry htransformed a ?_
    cases dependency with
    | reference text => cases heq
    | asset file =>
      cases heq
      exact hdependency
  · cases h

/-- The assets of a module that is made from its file have plain names. -/
theorem isPlainName_of_made (hregistry : c.registry = Transform.standard) {p : Path} {m : Module}
    (h : c.made p = .ok m) {a : Asset} (ha : a ∈ m.assets) : IsPlainName a.fileName := by
  obtain ⟨mode, q, hname⟩ := isAddressed_of_made hregistry h ha
  rw [hname]
  exact Transform.isPlainName_assetFileName mode q a.content

end BuildContext

end Bundler
