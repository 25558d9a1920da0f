import Bundler.Proofs.FileTree.Changes
import Bundler.Proofs.Path.Location
import Bundler.Proofs.Result
import Bundler.Resolve

set_option autoImplicit false

/-! # What walks lead to

A walk goes down only to names that are segments of a path or of the target of a link, so it stays
among locations with plain names (`walk_isPlain`). What `canonicalize` answers is therefore the
canonical path of the location that the walk leads to (`isCanonical_of_canonicalize`), and what a
reference resolves to is the canonical path of a file of the tree (`exists_file_of_resolve`). -/

namespace Bundler

/-! ## Steps -/

namespace Path

/-- The segments of a text hold no slash. -/
theorem slash_not_mem_of_mem_splitSlash {text segment : List Char}
    (h : segment ∈ splitSlash text) : '/' ∉ segment := by
  induction text generalizing segment with
  | nil =>
    rw [List.mem_singleton.1 (h : segment ∈ [[]])]
    exact List.not_mem_nil
  | cons c rest ih =>
    by_cases hc : c = '/'
    · rw [hc, splitSlash_cons_slash] at h
      rcases List.mem_cons.1 h with rfl | h
      · exact List.not_mem_nil
      · exact ih h
    · rw [splitSlash_cons hc] at h
      cases hs : splitSlash rest with
      | nil => exact absurd hs (splitSlash_ne_nil rest)
      | cons first others =>
        rw [hs, List.modifyHead_cons] at h
        rcases List.mem_cons.1 h with rfl | h
        · intro hmem
          rcases List.mem_cons.1 hmem with heq | hmem
          · exact hc heq.symm
          · exact ih (hs ▸ List.mem_cons_self) hmem
        · exact ih (hs ▸ List.mem_cons_of_mem _ h)

theorem slash_not_mem_of_mem_segments {p : Path} {segment : List Char}
    (h : segment ∈ p.segments) : '/' ∉ segment := by
  unfold segments at h
  split at h <;> exact slash_not_mem_of_mem_splitSlash h

/-- A segment that asks for a step down is a plain name. -/
theorem isPlainName_of_stepOf? {segment : List Char} {name : String} (hs : '/' ∉ segment)
    (h : stepOf? segment = some (.down name)) : IsPlainName name := by
  unfold stepOf? at h
  split at h
  · cases h
  · split at h
    · cases h
    · split at h
      · cases h
      · next hempty hdot hdots =>
        obtain rfl : String.ofList segment = name := by simpa using h
        refine ⟨?_, ?_, ?_, by simpa using hs⟩ <;> intro heq <;>
          have htext := congrArg String.toList heq <;>
          simp only [String.toList_ofList] at htext
        · exact hempty htext
        · exact hdot htext
        · exact hdots htext

/-- The names that a path goes down to are plain. -/
theorem isPlainName_of_mem_steps {p : Path} {name : String} (h : .down name ∈ p.steps) :
    IsPlainName name := by
  unfold steps at h
  rcases List.mem_append.1 h with h | h
  · obtain ⟨segment, hmem, hstep⟩ := List.mem_filterMap.1 h
    exact isPlainName_of_stepOf? (slash_not_mem_of_mem_segments hmem) hstep
  · split at h <;> simp at h

/-- A plain name asks for a step down to it. -/
theorem stepOf?_toList {name : String} (h : IsPlainName name) :
    stepOf? name.toList = some (.down name) := by
  obtain ⟨hempty, hdot, hdots⟩ := h.toList_ne
  simp [stepOf?, hempty, hdot, hdots]

theorem getLast?_intercalate_ne_slash {segments : List (List Char)} (hne : segments ≠ [])
    (h : ∀ segment ∈ segments, segment ≠ [] ∧ '/' ∉ segment) :
    ['/'].intercalate segments ≠ [] ∧ (['/'].intercalate segments).getLast? ≠ some '/' := by
  induction segments with
  | nil => exact absurd rfl hne
  | cons first rest ih =>
    obtain ⟨hfirst, hslash⟩ := h first List.mem_cons_self
    cases rest with
    | nil =>
      rw [List.intercalate_singleton]
      exact ⟨hfirst, fun hlast => hslash (List.mem_of_getLast? hlast)⟩
    | cons second others =>
      obtain ⟨hnonempty, hlast⟩ :=
        ih (List.cons_ne_nil _ _) fun segment hs => h segment (List.mem_cons_of_mem _ hs)
      rw [List.intercalate_cons_cons]
      refine ⟨by simp, ?_⟩
      rw [List.getLast?_append_of_ne_nil _ hnonempty]
      exact hlast

/-- The path of a location with plain names goes down to each of them. -/
theorem steps_path {l : Location} (hne : l ≠ []) (hl : l.IsPlain) :
    l.path.steps = l.map .down := by
  have hsegments : ∀ segment ∈ l.map String.toList, segment ≠ [] ∧ '/' ∉ segment := by
    intro segment hsegment
    obtain ⟨name, hname, rfl⟩ := List.mem_map.1 hsegment
    exact ⟨(hl name hname).toList_ne.1, (hl name hname).2.2.2⟩
  obtain ⟨hnonempty, hlast⟩ :=
    getLast?_intercalate_ne_slash (by simpa using hne) hsegments
  have hslash : l.path.endsWithSlash = false := by
    unfold endsWithSlash
    rw [toList_text_path, List.getLast?_cons_of_ne_nil hnonempty]
    simpa using hlast
  unfold steps
  rw [hslash, segments_path hne hl, List.filterMap_map, ← List.filterMap_eq_map]
  simp only [Bool.false_eq_true, if_false, List.append_nil]
  apply List.filterMap_congr
  intro name hname
  exact stepOf?_toList (hl name hname)

end Path

/-! ## Walks -/

namespace Location

theorem isPlain_append {l l' : Location} : IsPlain (l ++ l') ↔ l.IsPlain ∧ l'.IsPlain := by
  unfold IsPlain
  simp only [List.mem_append, or_imp, forall_and]

theorem isPlain_singleton {name : String} : IsPlain [name] ↔ IsPlainName name := by
  simp [IsPlain]

theorem IsPlain.dropLast {l : Location} (h : l.IsPlain) : IsPlain l.dropLast :=
  fun name hname => h name (List.dropLast_subset l hname)

end Location

namespace FileTree

theorem isPlain_start {here : Location} (h : here.IsPlain) (p : Path) : (start here p).IsPlain := by
  unfold start
  split
  · intro name hname
    cases hname
  · exact h

/-- A walk down plain names from a plain location leads to a plain location. -/
theorem walk_isPlain {t : FileTree} {links : Nat} {here l : Location} {steps : List Step}
    (hhere : here.IsPlain) (hsteps : ∀ name, .down name ∈ steps → IsPlainName name)
    (h : t.walk links here steps = .ok l) : l.IsPlain := by
  fun_induction walk t links here steps with
  | case1 links here =>
    cases h
    exact hhere
  | case3 links here rest hdir ih =>
    exact ih hhere (fun name hname => hsteps name (List.mem_cons_of_mem _ hname)) h
  | case4 links here rest hdir ih =>
    exact ih hhere.dropLast (fun name hname => hsteps name (List.mem_cons_of_mem _ hname)) h
  | case8 here rest hdir name hlimit target hnode k ih =>
    apply ih (isPlain_start hhere target) _ h
    intro name hname
    rcases List.mem_append.1 hname with hname | hname
    · exact Path.isPlainName_of_mem_steps hname
    · exact hsteps name (List.mem_cons_of_mem _ hname)
  | case9 links here rest hdir name hlimit node hlink hnode ih =>
    refine ih ?_ (fun name hname => hsteps name (List.mem_cons_of_mem _ hname)) h
    exact Location.isPlain_append.2
      ⟨hhere, Location.isPlain_singleton.2 (hsteps name List.mem_cons_self)⟩
  | _ => cases h

/-- A file does not stand at the root. -/
theorem ne_nil_of_file {t : FileTree} {l : Location} {content : ByteArray}
    (h : t.node? l = some (.file content)) : l ≠ [] := by
  intro hl
  rw [hl] at h
  simp [node?] at h

end FileTree

namespace Disk

theorem attempt_eq_ok_iff {α : Type} {d : Disk} {operation : FileOperation} {p : Path}
    {result : Except FileFailure α} {a : α} :
    d.attempt operation p result = .ok a ↔ d.isDenied operation p = false ∧ result = .ok a := by
  unfold attempt
  cases d.isDenied operation p with
  | true => exact ⟨nofun, nofun⟩
  | false => exact Result.mapError_eq_ok_iff.trans (and_iff_right rfl).symm

/-- The file at the location that a path leads to is read, if nothing denies it. -/
theorem read_of_locate {d : Disk} {p : Path} {l : Location} {content : ByteArray}
    (h : d.locate p = .ok l) (hnode : d.tree.node? l = some (.file content))
    (hfaults : d.isDenied .read p = false) : d.read p = .ok content := by
  refine attempt_eq_ok_iff.2 ⟨hfaults, Result.bind_eq_ok_iff.2 ⟨l, h, ?_⟩⟩
  unfold contentAt
  rw [hnode]

theorem canonicalize_of_locate {d : Disk} {p : Path} {l : Location} (h : d.locate p = .ok l)
    (hfaults : d.isDenied .canonicalize p = false) : d.canonicalize p = .ok l.path := by
  refine attempt_eq_ok_iff.2 ⟨hfaults, ?_⟩
  rw [h]
  rfl

/-- Where a path leads on a disk whose current directory is plain. -/
theorem isPlain_of_locate {d : Disk} {p : Path} {l : Location} (hd : d.current.IsPlain)
    (h : d.locate p = .ok l) : l.IsPlain := by
  unfold locate at h
  split at h
  · cases h
  · exact FileTree.walk_isPlain (FileTree.isPlain_start hd p)
      (fun name hname => Path.isPlainName_of_mem_steps hname) h

theorem exists_locate_of_canonicalize {d : Disk} {p q : Path} (h : d.canonicalize p = .ok q) :
    ∃ l, d.locate p = .ok l ∧ q = l.path := by
  have h := (attempt_eq_ok_iff.1 h).2
  cases hl : d.locate p with
  | error failure =>
    rw [hl] at h
    cases h
  | ok l =>
    rw [hl] at h
    cases h
    exact ⟨l, rfl, rfl⟩

theorem isCanonical_of_canonicalize {d : Disk} {p q : Path} (hd : d.current.IsPlain)
    (h : d.canonicalize p = .ok q) : q.IsCanonical := by
  obtain ⟨l, hl, rfl⟩ := exists_locate_of_canonicalize h
  exact ⟨l, isPlain_of_locate hd hl, rfl⟩

theorem isFile_of_locate {d : Disk} {p : Path} {l : Location} {content : ByteArray}
    (h : d.locate p = .ok l) (hnode : d.tree.node? l = some (.file content)) :
    d.isFile p = true := by
  have hfile : d.node? p = some (.file content) := by
    unfold node?
    rw [h]
    exact hnode
  unfold isFile
  rw [hfile]

theorem exists_file_of_isFile {d : Disk} {p : Path} (h : d.isFile p = true) :
    ∃ l content, d.locate p = .ok l ∧ d.tree.node? l = some (.file content) := by
  unfold isFile at h
  split at h
  · next content hnode =>
    unfold node? at hnode
    cases hl : d.locate p with
    | error failure =>
      rw [hl] at hnode
      cases hnode
    | ok l =>
      rw [hl] at hnode
      exact ⟨l, content, rfl, hnode⟩
  · cases h

/-- A file has a canonical path if nothing is denied. -/
theorem exists_canonicalize_of_isFile {d : Disk} (hfaults : d.faults = []) {p : Path}
    (h : d.isFile p = true) : ∃ q, d.canonicalize p = .ok q := by
  obtain ⟨l, content, hl, -⟩ := exists_file_of_isFile h
  refine ⟨l.path, canonicalize_of_locate hl ?_⟩
  unfold isDenied
  rw [hfaults]
  rfl

end Disk

/-! ## Resolved references -/

namespace Resolution

/-- What is found at a base is a file. -/
theorem isFile_of_find? {d : Disk} {r : Resolution} {base p : Path}
    (h : r.find? d base = .ok (some p)) : d.isFile p = true := by
  unfold find? at h
  split at h
  · next q hq =>
    cases h
    exact List.find?_some hq
  · cases hstart : packageStart? d base with
    | error e =>
      rw [hstart] at h
      cases h
    | ok start =>
      rw [hstart] at h
      have h : (start.bind fun s => (r.packageCandidates (base.join ⟨s⟩)).find? d.isFile).or
          ((r.candidates (base.join ⟨indexName⟩)).find? d.isFile) = some p := by
        injection h
      rcases Option.or_eq_some_iff.1 h with h | ⟨-, h⟩
      · obtain ⟨s, -, h⟩ := Option.bind_eq_some_iff.1 h
        exact List.find?_some h
      · exact List.find?_some h

theorem isFile_of_findFirst? {d : Disk} {r : Resolution} {bases : List Path} {p : Path}
    (h : r.findFirst? d bases = .ok (some p)) : d.isFile p = true := by
  induction bases with
  | nil => cases h
  | cons base rest ih =>
    unfold findFirst? at h
    cases hfind : r.find? d base with
    | error e =>
      rw [hfind] at h
      cases h
    | ok found =>
      rw [hfind] at h
      cases found with
      | none => exact ih h
      | some q =>
        obtain rfl : q = p := by injection h with h; injection h
        exact isFile_of_find? hfind

/-- A resolved reference is the canonical path of a file. -/
theorem exists_file_of_resolve {d : Disk} {root importer q : Path} {r : Resolution}
    {reference : String} (h : r.resolve d root importer reference = .ok q) :
    ∃ p l content, d.canonicalize p = .ok q ∧ d.locate p = .ok l ∧ q = l.path ∧
      d.tree.node? l = some (.file content) := by
  unfold resolve at h
  obtain ⟨found, hfound, h⟩ := Result.bind_eq_ok_iff.1 h
  cases found with
  | none => cases h
  | some p =>
    have hfile := isFile_of_findFirst? (Result.mapError_eq_ok_iff.1 hfound)
    have hcanonical : d.canonicalize p = .ok q := Result.mapError_eq_ok_iff.1 h
    obtain ⟨l, content, hl, hnode⟩ := Disk.exists_file_of_isFile hfile
    obtain ⟨l', hl', rfl⟩ := Disk.exists_locate_of_canonicalize hcanonical
    obtain rfl : l = l' := by
      rw [hl] at hl'
      injection hl'
    exact ⟨p, l, content, hcanonical, hl, rfl, hnode⟩

/-- A reference with one base stands for the file at this base, if it is there. -/
theorem resolve_of_isFile {d : Disk} {r : Resolution} {root importer base q : Path}
    {reference : String} (hbases : r.bases root (importer.parent?.getD root) reference = [base])
    (hfile : d.isFile base = true) (hcanonical : d.canonicalize base = .ok q) :
    r.resolve d root importer reference = .ok q := by
  have hfind : r.find? d base = .ok (some base) := by
    unfold find? candidates
    rw [List.find?_cons_of_pos hfile]
    rfl
  have hfound : r.findFirst? d (r.bases root (importer.parent?.getD root) reference)
      = .ok (some base) := by
    rw [hbases]
    unfold findFirst?
    rw [hfind]
    rfl
  exact Result.bind_eq_ok_iff.2 ⟨some base, Result.mapError_eq_ok_iff.2 hfound,
    Result.mapError_eq_ok_iff.2 hcanonical⟩

end Resolution

end Bundler
