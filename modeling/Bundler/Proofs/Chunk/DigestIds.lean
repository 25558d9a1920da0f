import Bundler.Proofs.Chunk.Order
import Bundler.Proofs.Digest
import Bundler.Proofs.Digest.Words
import Mathlib.Data.List.Induction

set_option autoImplicit false

/-! # Ids that are digests

An id is the shortest start of a module's own digits that no module before it has taken
(`IsShortestFree`). The search for it stops at all 64 digits whether they are taken or not, so that
ids are different only because all digits of a module are never taken: an id of 64 digits is a whole
digest, and the digests of different paths are different as long as the hash does not collide. With
that, every module gets an id of its own, however many digests begin alike (`moduleIds_shortest`). -/

namespace Bundler.ModuleGraph

/-! ## What ids are taken from -/

/-- The bytes that the digits of a module are a digest of. -/
def idBytes (root : Path) (m : Module) : ByteArray :=
  Digest.separated [(Path.relativeTo root m.path).toUTF8, m.digest.toUTF8]

/-- Whether the hash tells the bytes apart that the digits of the modules are digests of. -/
def HasNoCollision (g : ModuleGraph) (root : Path) : Prop :=
  ∀ m ∈ g.modules, ∀ m' ∈ g.modules,
    Digest.bytes (idBytes root m) = Digest.bytes (idBytes root m') →
      idBytes root m = idBytes root m'

/-- The digits that the id of a module is taken from. -/
def digits (g : ModuleGraph) (root : Path) (i : Nat) : List Char :=
  ((g.module? i).map fun m => idDigits (Path.relativeTo root m.path) m).getD []

/-- The numbers of digits that an id can have. -/
def IsIdLength (n : Nat) : Prop := 8 ≤ n ∧ n ≤ 64 ∧ 2 ∣ n

/-- Whether an id is the shortest start of some digits that is not taken. -/
def IsShortestFree (taken : List String) (digits : List Char) (id : String) : Prop :=
  ∃ n, IsIdLength n ∧ id = .ofList (digits.take n) ∧ id ∉ taken ∧
    ∀ k, IsIdLength k → k < n → .ofList (digits.take k) ∈ taken

variable {g : ModuleGraph} {root : Path} {i j : Nat}

theorem length_digits (hi : i < g.size) : (g.digits root i).length = 64 := by
  obtain ⟨m, hm⟩ := exists_module_of_lt hi
  unfold digits
  rw [hm]
  exact Digest.length_ofContent _

theorem size_toUTF8_digest (m : Module) : m.digest.toUTF8.size = 64 :=
  Digest.size_toUTF8_ofContent _

/-- The bytes of a module tell its project-relative path. -/
theorem relativeTo_eq_of_idBytes_eq {m m' : Module} (h : idBytes root m = idBytes root m') :
    Path.relativeTo root m.path = Path.relativeTo root m'.path := by
  have hsize : m.digest.toUTF8.size = m'.digest.toUTF8.size := by
    rw [size_toUTF8_digest, size_toUTF8_digest]
  exact String.toByteArray_inj.1 (Digest.separated_pair_inj hsize h).1

theorem eq_of_digits_eq (hpaths : g.HasDistinctPaths root) (hhash : g.HasNoCollision root)
    (hi : i < g.size) (hj : j < g.size) (h : g.digits root i = g.digits root j) : i = j := by
  obtain ⟨m, hm⟩ := exists_module_of_lt hi
  obtain ⟨m', hm'⟩ := exists_module_of_lt hj
  have hdigest : Digest.ofContent (idBytes root m) = Digest.ofContent (idBytes root m') := by
    unfold digits at h
    rw [hm, hm'] at h
    exact String.toList_inj.1 h
  have hbytes := hhash m (List.mem_of_getElem? hm) m' (List.mem_of_getElem? hm')
    (Digest.ofContent_eq_iff.1 hdigest)
  refine hpaths.eq_of_relativePath_eq hi hj ?_
  unfold relativePath
  rw [hm, hm']
  exact relativeTo_eq_of_idBytes_eq hbytes

/-! ## The search for a free start -/

/-- The search ends at a start that is free, as all digits together are. -/
theorem freeStart_spec {taken : List String} {digits : List Char} {length : Nat}
    (hdigits : digits.length = 64) (hfull : String.ofList digits ∉ taken)
    (hlength : IsIdLength length)
    (hshorter : ∀ k, IsIdLength k → k < length → .ofList (digits.take k) ∈ taken) :
    IsShortestFree taken digits (freeStart taken digits length) := by
  fun_induction freeStart taken digits length with
  | case1 length hlonger ih =>
    simp only [Bool.and_eq_true, List.contains_iff_mem, decide_eq_true_eq, hdigits] at hlonger
    obtain ⟨htaken, hlt⟩ := hlonger
    obtain ⟨hleast, -, heven⟩ := hlength
    refine ih ?_ fun k hk hnext => ?_
    · unfold IsIdLength idStep
      omega
    · rcases Nat.lt_or_ge k length with hbefore | hafter
      · exact hshorter k hk hbefore
      · -- there is no even number between the two
        obtain rfl : k = length := by
          unfold idStep at hnext
          have heven' := hk.2.2
          omega
        exact htaken
  | case2 length hstop =>
    refine ⟨length, hlength, rfl, fun htaken => ?_, hshorter⟩
    have hall : 64 ≤ length := by
      by_contra hlt
      refine hstop ?_
      simp only [Bool.and_eq_true, List.contains_iff_mem, decide_eq_true_eq, hdigits]
      exact ⟨htaken, Nat.lt_of_not_ge hlt⟩
    rw [List.take_of_length_le (hdigits ▸ hall)] at htaken
    exact hfull htaken

/-- An id is not all digits of another module. -/
theorem IsShortestFree.ne_of_ne {taken : List String} {digits digits' : List Char} {id : String}
    (h : IsShortestFree taken digits id) (hdigits : digits.length = 64)
    (hdigits' : digits'.length = 64) (hne : digits' ≠ digits) : .ofList digits' ≠ id := by
  obtain ⟨n, -, rfl, -, -⟩ := h
  intro heq
  have hstart : digits' = digits.take n := by simpa using congrArg String.toList heq
  have hlength := congrArg List.length hstart
  rw [List.length_take, hdigits, hdigits'] at hlength
  rw [List.take_of_length_le (by omega)] at hstart
  exact hne hstart

/-! ## The ids of all modules -/

/-- Each id is the shortest free one after those that were given before it. -/
theorem digestIds_spec {modules : List Nat} (hlt : ∀ i ∈ modules, i < g.size)
    (hdistinct : (modules.map (g.digits root)).Nodup) {taken : List String}
    (hfull : ∀ i ∈ modules, .ofList (g.digits root i) ∉ taken) {before after : List (Nat × String)}
    {i : Nat} {id : String}
    (hids : g.digestIds taken (modules.map fun i => (i, g.relativePath root i))
      = before ++ (i, id) :: after) :
    IsShortestFree ((before.map (·.2)).reverse ++ taken) (g.digits root i) id := by
  induction modules generalizing taken before with
  | nil => simp [digestIds] at hids
  | cons j rest ih =>
    obtain ⟨m, hm⟩ := exists_module_of_lt (hlt j List.mem_cons_self)
    obtain ⟨hnew, hrest⟩ := List.nodup_cons.1 hdistinct
    have hdigits : idDigits (g.relativePath root j) m = g.digits root j := by
      simp [relativePath, digits, hm]
    have hfirst : IsShortestFree taken (g.digits root j)
        (freeStart taken (g.digits root j) shortestId) :=
      freeStart_spec (length_digits (hlt j List.mem_cons_self)) (hfull j List.mem_cons_self)
        (by unfold IsIdLength shortestId; omega) fun k hk hshort => by
          have hleast := hk.1
          unfold shortestId at hshort
          omega
    simp only [List.map_cons, digestIds, hm, hdigits] at hids
    cases before with
    | nil =>
      obtain ⟨hpair, -⟩ := List.cons.inj hids
      obtain ⟨rfl, rfl⟩ := Prod.mk.inj hpair
      exact hfirst
    | cons x before =>
      obtain ⟨rfl, htail⟩ := List.cons.inj hids
      have hlater := ih (fun k hk => hlt k (List.mem_cons_of_mem _ hk)) hrest (fun k hk => ?_) htail
      · simpa using hlater
      · rw [List.mem_cons, not_or]
        -- the id that was just given is not the whole digest of a later module
        refine ⟨?_, hfull k (List.mem_cons_of_mem _ hk)⟩
        refine hfirst.ne_of_ne (length_digits (hlt j List.mem_cons_self))
          (length_digits (hlt k (List.mem_cons_of_mem _ hk))) fun heq => hnew ?_
        exact heq ▸ List.mem_map_of_mem hk

/-- What is free after all that came before it is different from all that came before it. -/
theorem nodup_of_free {ids : List (Nat × String)}
    (h : ∀ before i id after, ids = before ++ (i, id) :: after → id ∉ before.map (·.2)) :
    (ids.map (·.2)).Nodup := by
  induction ids using List.reverseRecOn with
  | nil => exact List.nodup_nil
  | append_singleton ids x ih =>
    rw [List.map_append, List.map_singleton, ← List.concat_eq_append, List.nodup_concat]
    refine ⟨h ids x.1 x.2 [] rfl, ih fun before i id after hids => ?_⟩
    exact h before i id (after ++ [x]) (by rw [hids, List.append_assoc, List.cons_append])

/-- Every module gets an id, no two modules get the same one, and each id is the shortest start of
    the module's own digits that is free, in the order of the project-relative paths. -/
theorem moduleIds_shortest (hpaths : g.HasDistinctPaths root) (hhash : g.HasNoCollision root) :
    let ids := g.moduleIds root true
    g.Lists root (· < g.size) (ids.map (·.1)) ∧ (ids.map (·.2)).Nodup ∧
      ∀ before i id after, ids = before ++ (i, id) :: after →
        IsShortestFree (before.map (·.2)) (g.digits root i) id := by
  intro ids
  have hlists := g.lists_byRelativePath root
  have hlt : ∀ i ∈ (g.byRelativePath root).map (·.1), i < g.size := fun i => (hlists.mem_iff i).1
  have hdistinct : (((g.byRelativePath root).map (·.1)).map (g.digits root)).Nodup :=
    hlists.nodup.map_on fun i hi j hj => eq_of_digits_eq hpaths hhash (hlt i hi) (hlt j hj)
  have hshortest : ∀ before i id after, ids = before ++ (i, id) :: after →
      IsShortestFree (before.map (·.2)) (g.digits root i) id := by
    intro before i id after hids
    have hids' : g.digestIds [] (g.byRelativePath root) = before ++ (i, id) :: after := hids
    rw [byRelativePath_eq_map] at hids'
    have hfree := digestIds_spec hlt hdistinct (fun _ _ => List.not_mem_nil) hids'
    simpa [IsShortestFree] using hfree
  refine ⟨?_, nodup_of_free fun before i id after hids => ?_, hshortest⟩
  · show g.Lists root (· < g.size) ((g.digestIds [] (g.byRelativePath root)).map (·.1))
    rw [map_fst_digestIds g [] fun x hx => hlt x.1 (List.mem_map_of_mem hx)]
    exact hlists
  · obtain ⟨-, -, -, hfree, -⟩ := hshortest before i id after hids
    exact hfree

/-! ## Digests that begin alike -/

/-- An empty module at a path. -/
def emptyAt (path : String) : Module := ⟨⟨path⟩, "", [], [], [], List.nodup_nil⟩

/-- Two modules whose digests begin with the same eight digits. -/
def twins : ModuleGraph where
  modules := [emptyAt "/20164.js", emptyAt "/37922.js"]
  indexes := [(⟨"/37922.js"⟩, 1), (⟨"/20164.js"⟩, 0)]

set_option maxRecDepth 100000 in
theorem ofContent_idBytes_twin_one : Digest.ofContent (idBytes ⟨"/"⟩ (emptyAt "/20164.js"))
    = "6cf3d5d06148632ba666d47036b65ebf3162a5203aa768c2463678d7005b480a" := by
  rw [idBytes, Module.digest, Digest.ofContent_eq, Digest.ofContent_eq]
  decide +kernel

set_option maxRecDepth 100000 in
theorem ofContent_idBytes_twin_two : Digest.ofContent (idBytes ⟨"/"⟩ (emptyAt "/37922.js"))
    = "6cf3d5d0c9bcc426768515978a8ef18644fbc97440029af221df16252d892e63" := by
  rw [idBytes, Module.digest, Digest.ofContent_eq, Digest.ofContent_eq]
  decide

theorem hasDistinctPaths_twins : twins.HasDistinctPaths ⟨"/"⟩ := by
  show (["/20164.js", "/37922.js"].map fun path => Path.relativeTo ⟨"/"⟩ ⟨path⟩).Nodup
  decide

theorem hasNoCollision_twins : twins.HasNoCollision ⟨"/"⟩ := by
  intro m hm m' hm' h
  have htexts := Digest.ofContent_eq_iff.2 h
  simp only [twins, List.mem_cons, List.not_mem_nil, or_false] at hm hm'
  rcases hm with rfl | rfl <;> rcases hm' with rfl | rfl
  · rfl
  · rw [ofContent_idBytes_twin_one, ofContent_idBytes_twin_two] at htexts
    exact absurd htexts (by decide)
  · rw [ofContent_idBytes_twin_one, ofContent_idBytes_twin_two] at htexts
    exact absurd htexts (by decide)
  · rfl

theorem moduleIds_twins :
    (twins.moduleIds ⟨"/"⟩ true).map (·.2) = ["6cf3d5d0", "6cf3d5d0c9"] := by
  have hsorted : twins.byRelativePath ⟨"/"⟩ = [(0, "20164.js"), (1, "37922.js")] :=
    List.mergeSort_of_pairwise (by decide)
  have hone : idDigits "20164.js" (emptyAt "/20164.js")
      = "6cf3d5d06148632ba666d47036b65ebf3162a5203aa768c2463678d7005b480a".toList :=
    congrArg String.toList ofContent_idBytes_twin_one
  have htwo : idDigits "37922.js" (emptyAt "/37922.js")
      = "6cf3d5d0c9bcc426768515978a8ef18644fbc97440029af221df16252d892e63".toList :=
    congrArg String.toList ofContent_idBytes_twin_two
  have hfirst : twins.module? 0 = some (emptyAt "/20164.js") := rfl
  have hsecond : twins.module? 1 = some (emptyAt "/37922.js") := rfl
  simp only [moduleIds, hsorted, if_true, digestIds, hfirst, hsecond, hone, htwo]
  simp [freeStart, shortestId, idStep]

/-- Two modules whose digests begin alike get ids of eight and of ten digits. -/
theorem moduleIds_shortest_twins :
    let ids := twins.moduleIds ⟨"/"⟩ true
    (twins.HasDistinctPaths ⟨"/"⟩ ∧ twins.HasNoCollision ⟨"/"⟩) ∧
      ids.map (·.2) = ["6cf3d5d0", "6cf3d5d0c9"] ∧
      twins.Lists ⟨"/"⟩ (· < twins.size) (ids.map (·.1)) ∧ (ids.map (·.2)).Nodup ∧
      ∀ before i id after, ids = before ++ (i, id) :: after →
        IsShortestFree (before.map (·.2)) (twins.digits ⟨"/"⟩ i) id :=
  ⟨⟨hasDistinctPaths_twins, hasNoCollision_twins⟩, moduleIds_twins,
    moduleIds_shortest hasDistinctPaths_twins hasNoCollision_twins⟩

end Bundler.ModuleGraph
