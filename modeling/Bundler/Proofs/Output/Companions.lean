import Bundler.Output.Compress
import Bundler.Proofs.Digest
import Bundler.Proofs.Gzip.RoundTrip
import Bundler.Proofs.NameMap
import Bundler.Transform.Standard
import Mathlib.Data.Set.Card

set_option autoImplicit false

/-! # Files with companions

Companions are set in the same map as the files that they are made of. A name that is due a
companion has it afterwards (`file?_compress_of_due`), and every other name has what it had before
(`file?_compress_of_free`). So a file is lost exactly if it is named as the companion of another one
(`compress_adds`). Companions get none themselves, so the same ones are due again (`due_compress`),
and compressing twice is compressing once (`compress_compress`). -/

namespace Bundler.BuildOutput

variable {compression : Compression} {o : BuildOutput}

/-! ## Companions that are due -/

/-- The names of the files that get a companion. -/
def due (compression : Compression) (o : BuildOutput) : Set String :=
  {name | ∃ content, o.file? name = some content ∧ ¬ companionEnding.toList <:+ name.toList ∧
    compression.test.isMatch name = true ∧ compression.threshold < content.size}

theorem isDue_iff {name : String} {content : ByteArray} :
    isDue compression name content = true ↔ ¬ companionEnding.toList <:+ name.toList ∧
      compression.test.isMatch name = true ∧ compression.threshold < content.size := by
  unfold isDue
  rw [Bool.and_eq_true, Bool.and_eq_true, decide_eq_true_iff, Bool.not_eq_true', ← Bool.not_eq_true,
    List.isSuffixOf_iff_suffix, and_assoc]

theorem mem_due_iff {name : String} : name ∈ due compression o ↔
    ∃ content, o.file? name = some content ∧ isDue compression name content = true :=
  exists_congr fun _ => and_congr_right fun _ => isDue_iff.symm

theorem isDue_of_mem_due {name : String} {content : ByteArray} (h : name ∈ due compression o)
    (hcontent : o.file? name = some content) : isDue compression name content = true := by
  obtain ⟨content', hcontent', hdue⟩ := mem_due_iff.1 h
  rwa [Option.some.inj (hcontent.symm.trans hcontent')]

theorem mem_companions_iff {name : String} {packed : ByteArray} :
    (name, packed) ∈ o.companions compression ↔ ∃ old ∈ due compression o, ∃ content,
      o.file? old = some content ∧ name = old ++ companionEnding ∧
        packed = Gzip.compress content := by
  unfold companions
  rw [List.mem_map]
  constructor
  · rintro ⟨⟨old, content⟩, hmem, heq⟩
    obtain ⟨hfile, hdue⟩ := List.mem_filter.1 hmem
    obtain ⟨rfl, rfl⟩ := Prod.mk.inj heq
    have hcontent := NameMap.mem_toList_iff.1 hfile
    exact ⟨old, mem_due_iff.2 ⟨content, hcontent, hdue⟩, content, hcontent, rfl, rfl⟩
  · rintro ⟨old, hold, content, hcontent, rfl, rfl⟩
    exact ⟨(old, content), List.mem_filter.2
      ⟨NameMap.mem_toList_iff.2 hcontent, isDue_of_mem_due hold hcontent⟩, rfl⟩

theorem nodup_due (compression : Compression) (o : BuildOutput) :
    ((o.files.toList.filter fun f => isDue compression f.1 f.2).map (·.1)).Nodup :=
  o.files.nodup_names.sublist (List.filter_sublist.map _)

/-- Different files have companions of different names. -/
theorem nodup_companions (compression : Compression) (o : BuildOutput) :
    ((o.companions compression).map (·.1)).Nodup := by
  have hcompanions : (o.companions compression).map (·.1)
      = ((o.files.toList.filter fun f => isDue compression f.1 f.2).map (·.1)).map
        (· ++ companionEnding) := by
    rw [companions, List.map_map, List.map_map]
    rfl
  rw [hcompanions]
  exact (nodup_due compression o).map fun _ _ heq => (String.append_left_inj _).1 heq

/-- The number that is told is the number of files that get a companion. -/
theorem snd_compress (compression : Compression) (o : BuildOutput) :
    (o.compress compression).2 = (due compression o).ncard := by
  have hdue : due compression o
      = ↑((o.files.toList.filter fun f => isDue compression f.1 f.2).map (·.1)).toFinset := by
    ext name
    simp only [mem_due_iff, List.coe_toFinset, Set.mem_ofPred_eq, List.mem_map, List.mem_filter,
      Prod.exists, exists_and_right, exists_eq_right, NameMap.mem_toList_iff, file?]
  rw [hdue, Set.ncard_coe_finset, List.toFinset_card_of_nodup (nodup_due compression o),
    List.length_map, compress, companions, List.length_map]

/-! ## The files of an output and its companions -/

theorem chunkFiles_compress (compression : Compression) (o : BuildOutput) :
    (o.compress compression).1.chunkFiles = o.chunkFiles :=
  List.foldlRecOn (motive := fun o' : BuildOutput => o'.chunkFiles = o.chunkFiles) _ _ rfl
    fun _ h _ _ => h

theorem document_compress (compression : Compression) (o : BuildOutput) :
    (o.compress compression).1.document = o.document :=
  List.foldlRecOn (motive := fun o' : BuildOutput => o'.document = o.document) _ _ rfl
    fun _ h _ _ => h

theorem file?_compress_eq (compression : Compression) (o : BuildOutput) (name : String) :
    (o.compress compression).1.file? name
      = ((o.companions compression).reverse.lookup name).or (o.file? name) := by
  have hfiles : (o.compress compression).1.files
      = (o.companions compression).foldl (fun m f => m.insert f.1 f.2) o.files :=
    (List.foldl_hom BuildOutput.files fun _ _ => rfl).symm
  rw [file?, hfiles, NameMap.get?_foldl_insert]
  rfl

theorem file?_compress_of_due {old : String} {content : ByteArray} (h : old ∈ due compression o)
    (hcontent : o.file? old = some content) :
    (o.compress compression).1.file? (old ++ companionEnding) = some (Gzip.compress content) := by
  have hmem := mem_companions_iff.2 ⟨old, h, content, hcontent, rfl, rfl⟩
  have hnodup : ((o.companions compression).reverse.map (·.1)).Nodup := by
    rw [List.map_reverse]
    exact List.nodup_reverse.2 (nodup_companions compression o)
  rw [file?_compress_eq, NameMap.lookup_of_mem hnodup (List.mem_reverse.2 hmem)]
  rfl

theorem file?_compress_of_free {name : String}
    (h : ∀ old ∈ due compression o, old ++ companionEnding ≠ name) :
    (o.compress compression).1.file? name = o.file? name := by
  have hnone : (o.companions compression).reverse.lookup name = none := by
    rw [Option.eq_none_iff_forall_ne_some]
    intro packed hlookup
    obtain ⟨old, hold, _, -, rfl, -⟩ :=
      mem_companions_iff.1 (List.mem_reverse.1 (NameMap.mem_of_lookup hlookup))
    exact h old hold rfl
  rw [file?_compress_eq, hnone]
  rfl

/-- A companion leaves alone all files whose names do not end as its own does. -/
theorem file?_compress (compression : Compression) (o : BuildOutput) {name : String}
    (h : ¬ companionEnding.toList <:+ name.toList) :
    (o.compress compression).1.file? name = o.file? name := by
  refine file?_compress_of_free fun old _ heq => h ?_
  rw [← heq, String.toList_append]
  exact List.suffix_append _ _

/-- Compression adds companions and changes neither the files of the chunks nor the document. It
    leaves a file as it was if and only if no companion that is due has its name and other bytes. -/
theorem compress_adds (compression : Compression) (o : BuildOutput) :
    let o' := (o.compress compression).1
    o'.chunkFiles = o.chunkFiles ∧ o'.document = o.document ∧
      (∀ name packed, o'.file? name = some packed → o.file? name = none →
        ∃ old content, o.file? old = some content ∧ name = old ++ companionEnding) ∧
      ∀ name content, o.file? name = some content →
        (o'.file? name = some content ↔ ∀ old ∈ due compression o, old ++ companionEnding = name →
          (o.file? old).map Gzip.compress = some content) := by
  refine ⟨o.chunkFiles_compress _, o.document_compress _, fun name packed hpacked hnew => ?_,
    fun name content hcontent => ⟨?_, fun hall => ?_⟩⟩
  · by_contra hnone
    have hfree : ∀ old ∈ due compression o, old ++ companionEnding ≠ name := by
      rintro old ⟨content, hold, -⟩ rfl
      exact hnone ⟨old, content, hold, rfl⟩
    rw [file?_compress_of_free hfree, hnew] at hpacked
    cases hpacked
  · rintro hkept old hdue rfl
    have ⟨packable, hold, _⟩ := hdue
    rw [hold, Option.map_some, ← hkept, file?_compress_of_due hdue hold]
  · by_cases hfree : ∀ old ∈ due compression o, old ++ companionEnding ≠ name
    · rw [file?_compress_of_free hfree, hcontent]
    · push Not at hfree
      obtain ⟨old, hdue, rfl⟩ := hfree
      have ⟨packable, hold, _⟩ := hdue
      rw [file?_compress_of_due hdue hold, ← hall old hdue rfl, hold, Option.map_some]

/-! ## Compressing again -/

/-- Companions do not get companions, so the same ones are due again. -/
theorem due_compress (compression : Compression) (o : BuildOutput) :
    due compression (o.compress compression).1 = due compression o := by
  ext name
  refine exists_congr fun content => and_congr_left fun hdue => ?_
  rw [file?_compress compression o hdue.1]

/-- Compressing twice is compressing once. -/
theorem compress_compress (compression : Compression) (o : BuildOutput) :
    (o.compress compression).1.compress compression = o.compress compression := by
  set o' := (o.compress compression).1 with ho'
  have hdue' : due compression o' = due compression o := due_compress compression o
  have hfile (name : String) : (o'.compress compression).1.file? name = o'.file? name := by
    by_cases hfree : ∀ old ∈ due compression o', old ++ companionEnding ≠ name
    · exact file?_compress_of_free hfree
    · push Not at hfree
      obtain ⟨old, hagain, rfl⟩ := hfree
      have hdue : old ∈ due compression o := hdue' ▸ hagain
      have ⟨content, hcontent, hending, _⟩ := hdue
      have hcontent' : o'.file? old = some content :=
        (file?_compress compression o hending).trans hcontent
      rw [file?_compress_of_due hagain hcontent', ho', file?_compress_of_due hdue hcontent]
  have houtput : (o'.compress compression).1 = o' := by
    have hfiles : (o'.compress compression).1.files = o'.files := NameMap.ext_get? hfile
    have hchunks := chunkFiles_compress compression o'
    have hdocument := document_compress compression o'
    cases hcompressed : (o'.compress compression).1
    rw [hcompressed] at hfiles hchunks hdocument
    subst hfiles hchunks hdocument
    rfl
  refine Prod.ext houtput ?_
  rw [snd_compress, snd_compress, hdue']

/-- In an output in which no file is named as the companion of another one, the files that are due
    get companions, which are read back as the files, and nothing else changes. Compressing again
    changes nothing and tells the same number. -/
theorem compress_exact {o : BuildOutput}
    (h : ∀ name ∈ o.files.names, name ++ companionEnding ∉ o.files.names)
    (compression : Compression) :
    let o' := (o.compress compression).1
    (o.compress compression).2 = (due compression o).ncard ∧
      {name | name ∈ o'.files.names ∧ name ∉ o.files.names}
        = (· ++ companionEnding) '' due compression o ∧
      (∀ name ∈ due compression o, ∃ packed, o'.file? (name ++ companionEnding) = some packed ∧
        Gzip.decompress? packed = o.file? name) ∧
      (∀ name ∈ o.files.names, o'.file? name = o.file? name) ∧
      o'.compress compression = (o', (o.compress compression).2) := by
  have hnamed : ∀ name ∈ due compression o, name ∈ o.files.names := by
    rintro name ⟨content, hcontent, -⟩
    exact NameMap.mem_names_iff.2 ⟨content, hcontent⟩
  have hpacked : ∀ name ∈ due compression o, ∃ packed,
      (o.compress compression).1.file? (name ++ companionEnding) = some packed ∧
        Gzip.decompress? packed = o.file? name := by
    intro name hdue
    have ⟨content, hcontent, _⟩ := hdue
    exact ⟨_, file?_compress_of_due hdue hcontent, by rw [Gzip.decompress?_compress, hcontent]⟩
  refine ⟨snd_compress compression o, ?_, hpacked, fun name hname => ?_,
    compress_compress compression o⟩
  · ext name
    constructor
    · rintro ⟨hnew, hold⟩
      by_contra hnone
      refine hold (NameMap.mem_names_iff.2 ?_)
      obtain ⟨packed, hfile⟩ := NameMap.mem_names_iff.1 hnew
      exact ⟨packed, (file?_compress_of_free fun old hdue heq => hnone ⟨old, hdue, heq⟩).symm.trans
        hfile⟩
    · rintro ⟨old, hdue, rfl⟩
      obtain ⟨packed, hfile, -⟩ := hpacked old hdue
      exact ⟨NameMap.mem_names_iff.2 ⟨packed, hfile⟩, h old (hnamed old hdue)⟩
  · refine file?_compress_of_free fun old hdue heq => h old (hnamed old hdue) ?_
    rwa [heq]

/-- The compression of all files that are not empty. -/
def compressAll : Compression := ⟨⟨"", .empty⟩, 0⟩

/-- A script, an empty file and a file that is compressed already. -/
def mixed : BuildOutput :=
  ((empty.insert "a.js" ⟨#[97]⟩).insert "b.css" .empty).insert "c.gz" ⟨#[0x1F, 0x8B]⟩

theorem compress_exact_mixed :
    let o' := (mixed.compress compressAll).1
    (∀ name ∈ mixed.files.names, name ++ companionEnding ∉ mixed.files.names) ∧
      1 = (due compressAll mixed).ncard ∧
      {name | name ∈ o'.files.names ∧ name ∉ mixed.files.names}
        = (· ++ companionEnding) '' due compressAll mixed ∧
      (∀ name ∈ due compressAll mixed, ∃ packed,
        o'.file? (name ++ companionEnding) = some packed ∧
          Gzip.decompress? packed = mixed.file? name) ∧
      (∀ name ∈ mixed.files.names, o'.file? name = mixed.file? name) ∧
      o'.compress compressAll = (o', 1) := by
  have hfree : ∀ name ∈ mixed.files.names, name ++ companionEnding ∉ mixed.files.names := by
    decide
  have hcount : (mixed.compress compressAll).2 = 1 := by decide
  have hexact := compress_exact hfree compressAll
  rw [hcount] at hexact
  exact ⟨hfree, hexact⟩

/-! ## Assets that are lost -/

/-- The text of a licence. -/
def licence : ByteArray := "MIT".toUTF8

/-- Two assets of one content, of which one is called like the companion of the other. -/
def licences : BuildOutput :=
  (empty.insert (Transform.assetFileName .production ⟨"/LICENSE"⟩ licence) licence).insert
    (Transform.assetFileName .production ⟨"/LICENSE.gz"⟩ licence) licence

theorem assetFileName_licence :
    Transform.assetFileName .production ⟨"/LICENSE"⟩ licence = Digest.ofFile licence := by
  have hextension : (Path.mk "/LICENSE").extension? = none := by decide +kernel
  unfold Transform.assetFileName
  rw [hextension]
  exact String.append_empty

theorem assetFileName_licence_packed :
    Transform.assetFileName .production ⟨"/LICENSE.gz"⟩ licence
      = Digest.ofFile licence ++ companionEnding := by
  have hextension : (Path.mk "/LICENSE.gz").extension? = some "gz" := by decide
  have hending : companionEnding = "." ++ "gz" := by decide
  unfold Transform.assetFileName
  rw [hextension, hending]
  rfl

/-- A digest does not end like a companion, so the file that it names is due. -/
theorem digest_mem_due {o : BuildOutput} (h : o.file? (Digest.ofFile licence) = some licence) :
    Digest.ofFile licence ∈ due compressAll o := by
  refine ⟨licence, h, fun hending => ?_, ?_, by decide⟩
  · have hdot : '.' ∈ (Digest.ofFile licence).toList := hending.subset (by decide)
    exact absurd (Digest.toList_ofFile_subset licence hdot) (by decide)
  · simp [compressAll, Pattern.isMatch, Pattern.Regex.isMatch, Pattern.Regex.advance]

theorem licence_ne_compress : Gzip.compress licence ≠ licence := by
  intro heq
  have hfirst : (Gzip.compress licence).data.toList.head? = some 0x1F := rfl
  have hlicence : licence.data.toList.head? = some 0x4D := by decide +kernel
  rw [heq, hlicence] at hfirst
  exact absurd hfirst (by decide)

/-- The asset with the ending is replaced by the companion of the other one. -/
theorem compress_loses_asset :
    let name := Transform.assetFileName .production ⟨"/LICENSE.gz"⟩ licence
    licences.file? name = some licence ∧
      (licences.compress compressAll).1.file? name ≠ some licence := by
  intro name
  have hname : licences.file? name = some licence :=
    (NameMap.get?_insert _ _ _ _).trans (if_pos rfl)
  have hfile : licences.file? (Digest.ofFile licence) = some licence := by
    refine (NameMap.get?_insert _ _ _ _).trans ?_
    split
    · rfl
    · exact (NameMap.get?_insert _ _ _ _).trans (if_pos assetFileName_licence.symm)
  refine ⟨hname, ?_⟩
  rw [show name = _ from assetFileName_licence_packed,
    file?_compress_of_due (digest_mem_due hfile) hfile]
  exact fun heq => licence_ne_compress (Option.some.inj heq)

end Bundler.BuildOutput
