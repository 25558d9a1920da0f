import Bundler.Output.Emit
import Bundler.Proofs.NameMap
import Bundler.Proofs.Result

set_option autoImplicit false

/-! # What the script of a chunk says

The script of a chunk is the text of some registrations and of a list of ids (`ChunkScript`). Each
module of the chunk has one registration, in their order: its id, the ids of its dependencies by
reference, and its content (`exists_chunkScript`). A script can be written if all modules that it is
about have ids (`exists_script_eq_ok`). -/

namespace Bundler.Emit

variable {g : ModuleGraph} {chunks : ChunkSet}

/-! ## Scripts as data -/

/-- What a script says of a module: its id, the ids that its references stand for, its content. -/
structure Registration where
  id : String
  dependencies : NameMap String
  content : String

/-- What a script says: the modules that it registers and the ids of those that it starts. -/
structure ChunkScript where
  registrations : List Registration
  entries : List String

/-- The text of a registration. -/
def Registration.text (r : Registration) : String :=
  "    [" ++ Text.quote r.id ++ ", " ++ objectText r.dependencies ++
    ", function (module, exports, require) \x7b\n" ++ r.content ++ "\n\x7d],\n"

/-- The text of a script. -/
def ChunkScript.text (s : ChunkScript) : String :=
  "(self.weftChunks = self.weftChunks || []).push(\x7b\n  modules: [\n" ++
    String.join (s.registrations.map Registration.text) ++ "  ],\n  entries: " ++
    listText s.entries ++ "\n\x7d);\n"

/-! ## Registrations -/

theorem moduleId_eq_ok_iff {i : Nat} {id : String} :
    moduleId g chunks i = .ok id ↔ chunks.moduleId? i = some id := by
  unfold moduleId
  cases chunks.moduleId? i <;> simp

/-- Whether a registration is that of a module: it has its id and its content, and for each of its
    dependencies the id of the module that it stands for. -/
structure Registers (g : ModuleGraph) (chunks : ChunkSet) (i : Nat) (r : Registration) : Prop where
  id_eq : chunks.moduleId? i = some r.id
  content_eq : r.content = ((g.module? i).map (·.content)).getD ""
  mem_names_iff : ∀ reference,
    reference ∈ r.dependencies.names ↔ ∃ d ∈ g.dependencies i, d.1 = reference
  get?_eq : ∀ d ∈ g.dependencies i, ∃ id,
    chunks.moduleId? d.2 = some id ∧ r.dependencies.get? d.1 = some id

/-- The object of the dependencies of a module, if each is for another reference. -/
theorem dependencyIds_eq_ok {i : Nat} {members : NameMap String}
    (hnodup : ((g.dependencies i).map (·.1)).Nodup)
    (h : dependencyIds g chunks i = .ok members) :
    (∀ reference, reference ∈ members.names ↔ ∃ d ∈ g.dependencies i, d.1 = reference) ∧
      ∀ d ∈ g.dependencies i, ∃ id,
        chunks.moduleId? d.2 = some id ∧ members.get? d.1 = some id := by
  obtain ⟨ids, hids, h⟩ := Result.bind_eq_ok_iff.1 h
  cases h
  have hpairs : List.Forall₂ (fun (d : String × Nat) (e : String × String) =>
      e.1 = d.1 ∧ chunks.moduleId? d.2 = some e.2) (g.dependencies i) ids := by
    refine (Result.mapM_eq_ok_iff.1 hids).imp fun d e he => ?_
    obtain ⟨id, hid, he⟩ := Result.bind_eq_ok_iff.1 he
    cases he
    exact ⟨rfl, moduleId_eq_ok_iff.1 hid⟩
  have hnodup' : (ids.map (·.1)).Nodup := by
    have hnames : (g.dependencies i).map (·.1) = ids.map (·.1) :=
      Result.map_eq_map hpairs fun d e h => h.1.symm
    rwa [← hnames]
  refine ⟨fun reference => ?_, fun d hd => ?_⟩
  · rw [NameMap.mem_names_iff]
    constructor
    · rintro ⟨id, hid⟩
      obtain ⟨d, hd, hname, -⟩ :=
        Result.exists_of_mem_right hpairs ((NameMap.get?_ofList_eq_some_iff hnodup').1 hid)
      exact ⟨d, hd, hname.symm⟩
    · rintro ⟨d, hd, rfl⟩
      obtain ⟨e, he, hname, -⟩ := Result.exists_of_mem_left hpairs hd
      exact ⟨e.2, (NameMap.get?_ofList_eq_some_iff hnodup').2 (hname ▸ he)⟩
  · obtain ⟨e, he, hname, hid⟩ := Result.exists_of_mem_left hpairs hd
    exact ⟨e.2, hid, (NameMap.get?_ofList_eq_some_iff hnodup').2 (hname ▸ he)⟩

theorem exists_registration {i : Nat} {text : String}
    (hnodup : ((g.dependencies i).map (·.1)).Nodup) (h : registration g chunks i = .ok text) :
    ∃ r : Registration, text = r.text ∧ Registers g chunks i r := by
  obtain ⟨members, hmembers, h⟩ := Result.bind_eq_ok_iff.1 h
  obtain ⟨id, hid, h⟩ := Result.bind_eq_ok_iff.1 h
  have htext := Except.ok.inj h
  obtain ⟨hnames, hvalues⟩ := dependencyIds_eq_ok hnodup hmembers
  refine ⟨⟨id, members, ((g.module? i).map (·.content)).getD ""⟩, ?_,
    moduleId_eq_ok_iff.1 hid, rfl, hnames, hvalues⟩
  rw [← htext, Registration.text]

/-! ## Scripts -/

theorem exists_registrations {modules : List Nat} {texts : List String}
    (hnodup : ∀ i ∈ modules, ((g.dependencies i).map (·.1)).Nodup)
    (h : List.Forall₂ (fun i text => registration g chunks i = .ok text) modules texts) :
    ∃ l : List Registration, List.Forall₂ (Registers g chunks) modules l ∧
      l.map Registration.text = texts := by
  induction h with
  | nil => exact ⟨[], .nil, rfl⟩
  | cons hi _ ih =>
    obtain ⟨l, hl, htexts⟩ := ih fun i hi => hnodup i (List.mem_cons_of_mem _ hi)
    obtain ⟨r, htext, hr⟩ := exists_registration (hnodup _ List.mem_cons_self) hi
    exact ⟨r :: l, .cons hr hl, by rw [List.map_cons, htexts, htext]⟩

/-- The script of a chunk registers its modules and starts the module of its entry. -/
theorem exists_chunkScript {c : Chunk} {text : String}
    (hnodup : ∀ i ∈ c.modules, ((g.dependencies i).map (·.1)).Nodup)
    (h : moduleScript g chunks c = .ok text) :
    ∃ s : ChunkScript, text = s.text ∧
      List.Forall₂ (Registers g chunks) c.modules s.registrations ∧
      List.Forall₂ (fun i id => chunks.moduleId? i = some id) c.entry.toList s.entries := by
  obtain ⟨texts, htexts, h⟩ := Result.bind_eq_ok_iff.1 h
  obtain ⟨ids, hids, h⟩ := Result.bind_eq_ok_iff.1 h
  have htext := Except.ok.inj h
  have hentries : List.Forall₂ (fun i id => chunks.moduleId? i = some id) c.entry.toList ids :=
    (Result.mapM_eq_ok_iff.1 hids).imp fun i id => moduleId_eq_ok_iff.1
  obtain ⟨registrations, hregistrations, htexts⟩ :
      ∃ l : List Registration, List.Forall₂ (Registers g chunks) c.modules l ∧
        l.map Registration.text = texts :=
    exists_registrations hnodup (Result.mapM_eq_ok_iff.1 htexts)
  refine ⟨⟨registrations, ids⟩, ?_, hregistrations, hentries⟩
  unfold ChunkScript.text
  dsimp only
  rw [htexts]
  exact htext.symm

/-! ## Scripts that can be written -/

/-- The object of the dependencies of a module, if all of them have ids. -/
theorem dependencyIds_of_ids {i : Nat} (ids : Nat → String)
    (h : ∀ d ∈ g.dependencies i, chunks.moduleId? d.2 = some (ids d.2)) :
    dependencyIds g chunks i = .ok (.ofList ((g.dependencies i).map fun d => (d.1, ids d.2))) := by
  have hpairs : (g.dependencies i).mapM (fun d => do
      return (d.1, ← moduleId g chunks d.2)) = .ok ((g.dependencies i).map fun d =>
        (d.1, ids d.2)) := by
    refine Result.mapM_eq_ok_iff.2 (List.forall₂_map_right_iff.2 (List.forall₂_same.2 ?_))
    intro d hd
    rw [moduleId_eq_ok_iff.2 (h d hd)]
    rfl
  exact Result.bind_eq_ok_iff.2 ⟨_, hpairs, rfl⟩

/-- A module is registered if it and what it depends on have ids. -/
theorem exists_registration_eq_ok {i : Nat} (hi : ∃ id, chunks.moduleId? i = some id)
    (hdependencies : ∀ d ∈ g.dependencies i, ∃ id, chunks.moduleId? d.2 = some id) :
    ∃ text, registration g chunks i = .ok text := by
  obtain ⟨id, hid⟩ := hi
  have hids : ∀ d ∈ g.dependencies i,
      chunks.moduleId? d.2 = some ((chunks.moduleId? d.2).getD "") := by
    intro d hd
    obtain ⟨id, hid⟩ := hdependencies d hd
    rw [hid]
    rfl
  unfold registration
  rw [dependencyIds_of_ids (fun j => (chunks.moduleId? j).getD "") hids, moduleId_eq_ok_iff.2 hid]
  exact ⟨_, rfl⟩

theorem exists_script_eq_ok (mode : Mode) {c : Chunk}
    (hmodules : ∀ i ∈ c.modules, ∃ text, registration g chunks i = .ok text)
    (hentry : ∀ i ∈ c.entry, ∃ id, chunks.moduleId? i = some id) :
    ∃ text, script mode g chunks c = .ok text := by
  have hregistrations : ∃ texts, c.modules.mapM (registration g chunks) = .ok texts := by
    by_contra hfail
    obtain ⟨i, hi, e, herror⟩ :=
      Result.exists_mapM_eq_error_iff.1 (Result.exists_eq_error_iff.2 hfail)
    obtain ⟨text, htext⟩ := hmodules i hi
    rw [htext] at herror
    cases herror
  have hentries : ∃ ids, c.entry.toList.mapM (moduleId g chunks) = .ok ids := by
    by_contra hfail
    obtain ⟨i, hi, e, herror⟩ :=
      Result.exists_mapM_eq_error_iff.1 (Result.exists_eq_error_iff.2 hfail)
    obtain ⟨id, hid⟩ := hentry i (Option.mem_toList.1 hi)
    rw [moduleId_eq_ok_iff.2 hid] at herror
    cases herror
  obtain ⟨texts, htexts⟩ := hregistrations
  obtain ⟨ids, hids⟩ := hentries
  have hmodule : ∃ text, moduleScript g chunks c = .ok text := by
    unfold moduleScript
    rw [htexts, hids]
    exact ⟨_, rfl⟩
  unfold script
  cases c.kind with
  | runtime => exact ⟨_, rfl⟩
  | vendor => exact hmodule
  | common => exact hmodule
  | entry => exact hmodule

end Bundler.Emit
