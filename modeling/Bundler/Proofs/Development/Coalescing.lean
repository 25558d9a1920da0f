import Bundler.Development.Loop
import Bundler.Proofs.Development.Incremental

set_option autoImplicit false

/-! # No change is lost or handled twice

Whatever the order in which paths are sent, received and built with, all paths that were sent are, in
their order, those of the batches that updates have begun with, those that are being collected and
those that are still in the channel (`Consistent.sent`). A batch is never empty, and the set of its
paths is what one update is given. Rebuilds begin and finish in turn, and each publishes once.

This is an invariant of the steps (`Consistent.step`), and so it holds along every run
(`consistent_of_run`). A loop whose channel is closed ends after finitely many steps
(`Step.work_lt`). -/

namespace Bundler

namespace Session

variable {c : BuildContext} {s : Session} {changed changed' : List Path}

theorem affectedBy_sameSet (g : ModuleGraph) {p q : Path} (h : p.same q = true) :
    Path.SameSet (g.affectedBy p) (g.affectedBy q) := by
  have hindex := g.index?_congr h
  have hhead : ∀ rest, Path.SameSet (p :: rest) (q :: rest) := by
    intro rest r
    simp only [List.mem_cons, exists_eq_or_imp, Path.same_congr_left h]
  unfold ModuleGraph.affectedBy
  rw [hindex]
  split
  · exact hhead _
  · exact hhead []

theorem foldl_erase_eq (paths : List Path) (cache : ModuleCache) :
    paths.foldl .erase cache = ⟨cache.entries.filter fun e => paths.all fun p => !e.1.same p⟩ := by
  induction paths generalizing cache with
  | nil =>
    rw [List.foldl_nil]
    simp
  | cons p rest ih =>
    rw [List.foldl_cons, ih, ModuleCache.erase, List.filter_filter]
    congr 1
    exact List.filter_congr fun e _ => by rw [List.all_cons, Bool.and_comm]

theorem foldl_erase_of_sameSet (h : Path.SameSet changed changed') (cache : ModuleCache) :
    changed.foldl .erase cache = changed'.foldl .erase cache := by
  rw [foldl_erase_eq, foldl_erase_eq]
  congr 1
  refine List.filter_congr fun e _ => ?_
  have hiff := h e.1
  simp only [Path.same_comm _ e.1] at hiff
  rw [Bool.eq_iff_iff]
  simp only [List.all_eq_true, Bool.not_eq_true', ← Bool.not_eq_true]
  constructor
  · exact fun hall q hq hsame => (hiff.2 ⟨q, hq, hsame⟩).elim fun r hr => hall r hr.1 hr.2
  · exact fun hall q hq hsame => (hiff.1 ⟨q, hq, hsame⟩).elim fun r hr => hall r hr.1 hr.2

/-- An update depends on the set of the changed paths only. -/
theorem update_of_sameSet (h : Path.SameSet changed changed') :
    update c s changed = update c s changed' := by
  have haffected : Path.SameSet (s.graph.affectedPaths changed) (s.graph.affectedPaths changed') :=
    ((Path.sameSet_distinctPaths _).trans
      (h.flatMap fun p q hpq => affectedBy_sameSet s.graph hpq)).trans
      (Path.sameSet_distinctPaths _).symm
  have hlength : (s.graph.affectedPaths changed).length = (s.graph.affectedPaths changed').length :=
    (h.flatMap fun p q hpq => affectedBy_sameSet s.graph hpq).length_eq
  simp only [update, updateFrom, foldl_erase_of_sameSet haffected, hlength, h.length_eq]

variable (configuration : Configuration) (registry : Registry)

/-- A session after some rebuilds on some disks, and what they have published. -/
def advanceAll (rebuilds : List (Option (List Path) × Disk)) : Session × List Publication :=
  rebuilds.foldl
    (fun (s, published) (changed, d) =>
      let (s, publication) := s.advance ⟨configuration, registry, d⟩ changed
      (s, published ++ [publication]))
    ({}, [])

theorem advanceAll_concat (rebuilds : List (Option (List Path) × Disk))
    (changed : Option (List Path)) (d : Disk) :
    advanceAll configuration registry (rebuilds ++ [(changed, d)]) =
      ((advance ⟨configuration, registry, d⟩ (advanceAll configuration registry rebuilds).1
          changed).1,
        (advanceAll configuration registry rebuilds).2 ++
          [(advance ⟨configuration, registry, d⟩ (advanceAll configuration registry rebuilds).1
            changed).2]) := by
  unfold advanceAll
  rw [List.foldl_append]
  rfl

theorem length_advanceAll (rebuilds : List (Option (List Path) × Disk)) :
    (advanceAll configuration registry rebuilds).2.length = rebuilds.length := by
  induction rebuilds using List.reverseRecOn with
  | nil => rfl
  | append_singleton rest e ih =>
    obtain ⟨changed, d⟩ := e
    rw [advanceAll_concat, List.length_append, List.length_append, ih]
    rfl

/-- The rebuilds of a new session, the first on a disk and one for each change, publish what the
    session does. -/
theorem snd_advanceAll (d : Disk) (changes : List Change) :
    (advanceAll configuration registry
      ((none, d) :: changes.map fun change => (some change.changed, change.disk))).2 =
        publications configuration registry d changes := by
  have hfold : ∀ (changes : List Change) (s : Session) (published : List Publication),
      ((changes.map fun change => (some change.changed, change.disk)).foldl
        (fun (s, published) (changed, d) =>
          let (s, publication) := advance ⟨configuration, registry, d⟩ s changed
          (s, published ++ [publication]))
        (s, published)).2 = published ++
          followsFrom configuration registry (fun _ => ModuleGraph.owned) s changes := by
    intro changes
    induction changes with
    | nil => exact fun s published => (List.append_nil published).symm
    | cons change rest ih =>
      intro s published
      rw [List.map_cons, List.foldl_cons, ih, List.append_assoc]
      rfl
  exact hfold changes _ _

end Session

namespace DevLoop

/-! ## What has happened in a run -/

namespace Event

/-- The path that is sent. -/
def sent? : Event → Option Path
  | .send p => some p
  | _ => none

/-- What a rebuild begins with. -/
def begun? : Event → Option (Option (List Path))
  | .begin changed => some changed
  | _ => none

/-- The disk that a rebuild has found. -/
def disk? : Event → Option Disk
  | .finish d => some d
  | _ => none

end Event

/-- The paths that were sent, in their order. -/
def sent (events : List Event) : List Path := events.filterMap Event.sent?

/-- What the rebuilds began with, in their order: nothing, or a set of paths. -/
def begun (events : List Event) : List (Option (List Path)) := events.filterMap Event.begun?

/-- The disks that the finished rebuilds found, in their order. -/
def disks (events : List Event) : List Disk := events.filterMap Event.disk?

/-- The batches so far and the paths that were received since the last one, after one more event: an
    update begins with all that was received since the one before. -/
def collect : List (List Path) × List Path → Event → List (List Path) × List Path
  | (batches, received), .receive p => (batches, received ++ [p])
  | (batches, received), .take p => (batches, received ++ [p])
  | (batches, received), .begin (some _) => (batches ++ [received], [])
  | (batches, received), _ => (batches, received)

/-- The batches of received paths that updates began with, in their order. -/
def batches (events : List Event) : List (List Path) := (events.foldl collect ([], [])).1

/-- The paths that were received since the last update began. -/
def received (events : List Event) : List Path := (events.foldl collect ([], [])).2

section

variable (events : List Event) (e : Event)

@[simp] theorem sent_concat : sent (events ++ [e]) = sent events ++ e.sent?.toList := by
  unfold sent
  rw [List.filterMap_append]
  cases e <;> rfl

@[simp] theorem begun_concat : begun (events ++ [e]) = begun events ++ e.begun?.toList := by
  unfold begun
  rw [List.filterMap_append]
  cases e <;> rfl

@[simp] theorem disks_concat : disks (events ++ [e]) = disks events ++ e.disk?.toList := by
  unfold disks
  rw [List.filterMap_append]
  cases e <;> rfl

@[simp] theorem batches_concat :
    batches (events ++ [e]) = (collect (batches events, received events) e).1 := by
  unfold batches received
  rw [List.foldl_append]
  rfl

@[simp] theorem received_concat :
    received (events ++ [e]) = (collect (batches events, received events) e).2 := by
  unfold batches received
  rw [List.foldl_append]
  rfl

end

/-! ## The invariant -/

/-- The set of paths that the loop is collecting for the next update. -/
def Phase.collected? : Phase → Option (List Path)
  | .ready changed => changed
  | .resting changed => some changed
  | .draining changed => some changed
  | .building _ => none
  | .waiting => none
  | .ended => none

/-- What the rebuild that runs was begun with. -/
def Phase.inFlight? : Phase → Option (Option (List Path))
  | .building changed => some changed
  | _ => none

/-- The rebuilds that a loop begins with: the first one, and one with the set of each batch. -/
def rebuildsOf (batches : List (List Path)) : List (Option (List Path)) :=
  none :: batches.map fun batch => some (ModuleGraph.distinctPaths batch)

/-- Whether all that was sent to a loop is accounted for. -/
structure Collects (events : List Event) (l : DevLoop) : Prop where
  sent : sent events = (batches events).flatten ++ received events ++ l.queue
  nonempty : ∀ batch ∈ batches events, batch ≠ []
  collected : ∀ changed, l.phase.collected? = some changed →
    received events ≠ [] ∧ changed = ModuleGraph.distinctPaths (received events)
  received : l.phase.collected? = none → received events = []

/-- Whether all rebuilds of a loop are accounted for. -/
structure Rebuilds (configuration : Configuration) (registry : Registry) (events : List Event)
    (l : DevLoop) : Prop where
  begun : begun events = if l.phase = .ready none then [] else rebuildsOf (batches events)
  fresh : l.phase = .ready none → batches events = []
  finished : (DevLoop.begun events).length = (disks events).length + l.phase.inFlight?.toList.length
  inFlight : ∀ changed, l.phase.inFlight? = some changed →
    ∃ before, DevLoop.begun events = before ++ [changed]
  published : (l.session, l.published) =
    Session.advanceAll configuration registry ((DevLoop.begun events).zip (disks events))

/-- What holds of a loop and the events that have led to it. -/
structure Consistent (configuration : Configuration) (registry : Registry) (events : List Event)
    (l : DevLoop) : Prop extends Collects events l, Rebuilds configuration registry events l where
  ended : l.phase = .ended → l.queue = [] ∧ l.isOpen = false

variable {configuration : Configuration} {registry : Registry} {events : List Event}
  {l l' : DevLoop} {e : Event}

theorem consistent_start : Consistent configuration registry [] {} where
  sent := rfl
  nonempty := fun _ h => absurd h List.not_mem_nil
  collected := fun _ h => by cases h
  received := fun _ => rfl
  begun := rfl
  fresh := fun _ => rfl
  finished := rfl
  inFlight := fun _ h => by cases h
  published := rfl
  ended := fun h => by cases h

/-! ## Collecting paths -/

namespace Collects

/-- An event that neither sends nor receives a path leaves the account as it is. -/
theorem of_quiet (h : Collects events l) (hsent : e.sent? = none)
    (hcollect : collect (batches events, DevLoop.received events) e =
      (batches events, DevLoop.received events))
    (hqueue : l'.queue = l.queue) (hcollected : l'.phase.collected? = l.phase.collected?) :
    Collects (events ++ [e]) l' where
  sent := by simp [h.sent, hsent, hcollect, hqueue]
  nonempty := by simpa [hcollect] using h.nonempty
  collected := by simpa [hcollect, hcollected] using h.collected
  received := by simpa [hcollect, hcollected] using h.received

/-- A path that is sent waits in the channel, whatever the loop does. -/
theorem send (h : Collects events l) (p : Path) :
    Collects (events ++ [.send p]) { l with queue := l.queue ++ [p] } where
  sent := by simp [h.sent, Event.sent?, collect]
  nonempty := by simpa [collect] using h.nonempty
  collected := by simpa [collect] using h.collected
  received := by simpa [collect] using h.received

theorem receive (h : Collects events l) {p : Path} {rest : List Path} (hphase : l.phase = .waiting)
    (hqueue : l.queue = p :: rest) :
    Collects (events ++ [.receive p]) { l with queue := rest, phase := .resting [p] } := by
  have hnone : DevLoop.received events = [] := h.received (by rw [hphase]; rfl)
  exact {
    sent := by simp [h.sent, hqueue, hnone, Event.sent?, collect]
    nonempty := by simpa [collect] using h.nonempty
    collected := fun changed hchanged => by
      cases hchanged
      rw [received_concat, collect, hnone]
      exact ⟨List.cons_ne_nil _ _, (ModuleGraph.distinctPaths_cons p []).symm⟩
    received := fun hcollected => by cases hcollected }

theorem take (h : Collects events l) {changed : List Path} {p : Path} {rest : List Path}
    (hphase : l.phase = .draining changed) (hqueue : l.queue = p :: rest) :
    Collects (events ++ [.take p])
      { l with
        queue := rest
        phase := .draining (ModuleGraph.distinctPaths (changed ++ [p])) } := by
  obtain ⟨-, hchanged⟩ := h.collected changed (by rw [hphase]; rfl)
  exact {
    sent := by simp [h.sent, hqueue, Event.sent?, collect]
    nonempty := by simpa [collect] using h.nonempty
    collected := fun changed' hchanged' => by
      cases hchanged'
      rw [hchanged, ModuleGraph.distinctPaths_append_distinctPaths]
      simp [collect]
    received := fun hcollected => by cases hcollected }

/-- An update begins with all that was received, and nothing of it is left. -/
theorem begin (h : Collects events l) {changed : List Path}
    (hphase : l.phase = .ready (some changed)) :
    Collects (events ++ [.begin (some changed)]) { l with phase := .building (some changed) } := by
  obtain ⟨hreceived, -⟩ := h.collected changed (by rw [hphase]; rfl)
  exact {
    sent := by simp [h.sent, Event.sent?, collect]
    nonempty := fun batch hbatch => by
      rw [batches_concat, collect, List.mem_append, List.mem_singleton] at hbatch
      rcases hbatch with hbatch | rfl
      · exact h.nonempty batch hbatch
      · exact hreceived
    collected := fun _ hcollected => by cases hcollected
    received := fun _ => by simp [collect] }

theorem step (h : Collects events l) (hstep : Step configuration registry l e l') :
    Collects (events ++ [e]) l' := by
  cases hstep with
  | send p _ => exact h.send p
  | close _ => exact h.of_quiet rfl rfl rfl rfl
  | @begin changed hphase =>
    cases changed with
    | none => exact h.of_quiet rfl rfl rfl (by rw [hphase]; rfl)
    | some changed => exact h.begin hphase
  | finish d hphase => exact h.of_quiet rfl rfl rfl (by rw [hphase]; rfl)
  | receive hphase hqueue => exact h.receive hphase hqueue
  | wake hphase => exact h.of_quiet rfl rfl rfl (by rw [hphase]; rfl)
  | take hphase hqueue => exact h.take hphase hqueue
  | drained hphase _ => exact h.of_quiet rfl rfl rfl (by rw [hphase]; rfl)
  | stop hphase _ _ => exact h.of_quiet rfl rfl rfl (by rw [hphase]; rfl)

end Collects

/-! ## Rebuilding -/

namespace Rebuilds

theorem of_quiet (h : Rebuilds configuration registry events l) (hbegun : e.begun? = none)
    (hdisk : e.disk? = none) (hready : l'.phase = .ready none ↔ l.phase = .ready none)
    (hinFlight : l'.phase.inFlight? = l.phase.inFlight?) (hsession : l'.session = l.session)
    (hpublished : l'.published = l.published) :
    Rebuilds configuration registry (events ++ [e]) l' := by
  have hbatches : batches (events ++ [e]) = batches events := by
    rw [batches_concat]
    cases e <;> first | rfl | cases hbegun
  exact {
    begun := by simpa [hbegun, hbatches, hready] using h.begun
    fresh := by simpa [hbatches, hready] using h.fresh
    finished := by simpa [hbegun, hdisk, hinFlight] using h.finished
    inFlight := by simpa [hbegun, hinFlight] using h.inFlight
    published := by simpa [hbegun, hdisk, hsession, hpublished] using h.published }

theorem begin (h : Rebuilds configuration registry events l) (hcollects : Collects events l)
    {changed : Option (List Path)} (hphase : l.phase = .ready changed) :
    Rebuilds configuration registry (events ++ [.begin changed])
      { l with phase := .building changed } := by
  have hfinished : (DevLoop.begun events).length = (disks events).length := by
    rw [h.finished, hphase]
    rfl
  have hbegun := h.begun
  rw [hphase] at hbegun
  exact {
    begun := by
      cases changed with
      | none => simp [hbegun, h.fresh hphase, Event.begun?, collect, rebuildsOf]
      | some changed =>
        obtain ⟨-, rfl⟩ := hcollects.collected changed (by rw [hphase]; rfl)
        simp [hbegun, Event.begun?, collect, rebuildsOf]
    fresh := fun hready => by cases hready
    finished := by simp [Event.begun?, Event.disk?, hfinished, Phase.inFlight?]
    inFlight := fun changed hchanged => by
      cases hchanged
      exact ⟨DevLoop.begun events, by simp [Event.begun?]⟩
    published := by
      have hzip : (DevLoop.begun events ++ [changed]).zip (disks events ++ []) = _ :=
        List.zip_append hfinished
      rw [List.append_nil] at hzip
      simp [Event.begun?, Event.disk?, hzip, h.published] }

theorem finish (h : Rebuilds configuration registry events l) {changed : Option (List Path)}
    (d : Disk) (hphase : l.phase = .building changed) :
    Rebuilds configuration registry (events ++ [.finish d])
      { l with
        session := (l.session.advance ⟨configuration, registry, d⟩ changed).1
        published := l.published ++ [(l.session.advance ⟨configuration, registry, d⟩ changed).2]
        phase := .waiting } := by
  obtain ⟨before, hbefore⟩ := h.inFlight changed (by rw [hphase]; rfl)
  have hfinished := h.finished
  rw [hphase, hbefore, List.length_append] at hfinished
  have hlength : before.length = (disks events).length := Nat.add_right_cancel hfinished
  have hbegun := h.begun
  rw [hphase, if_neg (by simp)] at hbegun
  have hpublished := h.published
  have hzip : (before ++ [changed]).zip (disks events ++ []) = _ := List.zip_append hlength
  rw [List.append_nil] at hzip
  rw [hbefore, hzip, List.zip_nil_right, List.append_nil] at hpublished
  exact {
    begun := by simpa [Event.begun?, collect] using hbegun
    fresh := fun hready => by cases hready
    finished := by simp [Event.begun?, Event.disk?, hbefore, hlength, Phase.inFlight?]
    inFlight := fun changed hchanged => by cases hchanged
    published := by
      have hlast : (before ++ [changed]).zip (disks events ++ [d]) = _ :=
        List.zip_append hlength
      simp only [begun_concat, disks_concat, Event.begun?, Event.disk?, Option.toList,
        List.append_nil, hbefore, hlast, List.zip_cons_cons, List.zip_nil_right]
      rw [Session.advanceAll_concat, ← hpublished] }

theorem step (h : Rebuilds configuration registry events l) (hcollects : Collects events l)
    (hstep : Step configuration registry l e l') :
    Rebuilds configuration registry (events ++ [e]) l' := by
  cases hstep with
  | send p _ => exact h.of_quiet rfl rfl .rfl rfl rfl rfl
  | close _ => exact h.of_quiet rfl rfl .rfl rfl rfl rfl
  | begin hphase => exact h.begin hcollects hphase
  | finish d hphase => exact h.finish d hphase
  | receive hphase _ => exact h.of_quiet rfl rfl (by simp [hphase]) (by rw [hphase]; rfl) rfl rfl
  | wake hphase => exact h.of_quiet rfl rfl (by simp [hphase]) (by rw [hphase]; rfl) rfl rfl
  | take hphase _ => exact h.of_quiet rfl rfl (by simp [hphase]) (by rw [hphase]; rfl) rfl rfl
  | drained hphase _ => exact h.of_quiet rfl rfl (by simp [hphase]) (by rw [hphase]; rfl) rfl rfl
  | stop hphase _ _ => exact h.of_quiet rfl rfl (by simp [hphase]) (by rw [hphase]; rfl) rfl rfl

end Rebuilds

/-! ## Runs -/

theorem Consistent.step (h : Consistent configuration registry events l)
    (hstep : Step configuration registry l e l') :
    Consistent configuration registry (events ++ [e]) l' := by
  refine ⟨h.toCollects.step hstep, h.toRebuilds.step h.toCollects hstep, fun hended => ?_⟩
  cases hstep with
  | send p hopen =>
    rw [(h.ended hended).2] at hopen
    cases hopen
  | close _ => exact ⟨(h.ended hended).1, rfl⟩
  | stop _ hqueue hclosed => exact ⟨hqueue, hclosed⟩
  | _ => cases hended

theorem consistent_of_run (h : Run configuration registry {} events l) :
    Consistent configuration registry events l := by
  induction h with
  | nil => exact consistent_start
  | snoc _ hstep ih => exact ih.step hstep

theorem run_concat_iff {events : List Event} {e : Event} {l l'' : DevLoop} :
    Run configuration registry l (events ++ [e]) l'' ↔
      ∃ l', Run configuration registry l events l' ∧ Step configuration registry l' e l'' := by
  constructor
  · intro h
    generalize hall : events ++ [e] = all at h
    cases h with
    | nil => exact absurd hall (by simp)
    | snoc h hstep =>
      obtain ⟨rfl, heq⟩ := List.append_inj' hall rfl
      cases heq
      exact ⟨_, h, hstep⟩
  · rintro ⟨l', h, hstep⟩
    exact .snoc h hstep

theorem Run.append {before after : List Event} {l'' : DevLoop}
    (h : Run configuration registry l before l') (h' : Run configuration registry l' after l'') :
    Run configuration registry l (before ++ after) l'' := by
  induction h' with
  | nil => rwa [List.append_nil]
  | snoc _ hstep ih =>
    rw [← List.append_assoc]
    exact .snoc ih hstep

/-- A run to some events after others is a run to the others first. -/
theorem Run.exists_of_append {before after : List Event} {l'' : DevLoop}
    (h : Run configuration registry l (before ++ after) l'') :
    ∃ l', Run configuration registry l before l' ∧ Run configuration registry l' after l'' := by
  induction after using List.reverseRecOn generalizing l'' with
  | nil => exact ⟨l'', by rwa [List.append_nil] at h, .nil⟩
  | append_singleton rest e ih =>
    rw [← List.append_assoc, run_concat_iff] at h
    obtain ⟨l₁, h, hstep⟩ := h
    obtain ⟨l', hbefore, hrest⟩ := ih h
    exact ⟨l', hbefore, .snoc hrest hstep⟩

/-- Batches stay as they are once an update has begun with them. -/
theorem batches_prefix (before after : List Event) : batches before <+: batches (before ++ after) := by
  induction after using List.reverseRecOn with
  | nil => exact (List.append_nil before).symm ▸ List.prefix_refl _
  | append_singleton rest e ih =>
    rw [← List.append_assoc, batches_concat]
    refine ih.trans ?_
    cases e with
    | begin changed =>
      cases changed with
      | none => exact List.prefix_refl _
      | some changed => exact List.prefix_append _ _
    | _ => exact List.prefix_refl _

/-! ## Closed loops -/

/-- How many steps of its own the loop is away from the end of a rebuild cycle, at most. -/
def Phase.rank : Phase → Nat
  | .ended => 0
  | .waiting => 1
  | .building _ => 2
  | .ready _ => 3
  | .draining _ => 4
  | .resting _ => 5

/-- How many steps a closed loop still makes, at most. -/
def work (l : DevLoop) : Nat := 5 * l.queue.length + l.phase.rank

theorem Step.work_lt (h : Step configuration registry l e l') (hclosed : l.isOpen = false) :
    l'.isOpen = false ∧ l'.work < l.work := by
  cases h with
  | send p hopen =>
    rw [hclosed] at hopen
    cases hopen
  | close hopen =>
    rw [hclosed] at hopen
    cases hopen
  | receive hphase hqueue =>
    refine ⟨hclosed, ?_⟩
    simp only [work, hphase, hqueue, Phase.rank, List.length_cons]
    omega
  | take hphase hqueue =>
    refine ⟨hclosed, ?_⟩
    simp only [work, hphase, hqueue, Phase.rank, List.length_cons]
    omega
  | begin hphase => exact ⟨hclosed, by simp [work, hphase, Phase.rank]⟩
  | finish d hphase => exact ⟨hclosed, by simp [work, hphase, Phase.rank]⟩
  | wake hphase => exact ⟨hclosed, by simp [work, hphase, Phase.rank]⟩
  | drained hphase _ => exact ⟨hclosed, by simp [work, hphase, Phase.rank]⟩
  | stop hphase _ _ => exact ⟨hclosed, by simp [work, hphase, Phase.rank]⟩

/-- A closed loop makes finitely many steps. -/
theorem Run.length_le (h : Run configuration registry l events l') (hclosed : l.isOpen = false) :
    l'.isOpen = false ∧ events.length + l'.work ≤ l.work := by
  induction h with
  | nil => exact ⟨hclosed, by simp⟩
  | snoc _ hstep ih =>
    obtain ⟨hclosed', hlength⟩ := ih
    obtain ⟨hclosed'', hlt⟩ := hstep.work_lt hclosed'
    refine ⟨hclosed'', ?_⟩
    rw [List.length_append, List.length_singleton]
    omega

/-- A closed loop makes a step unless it has ended. -/
theorem exists_step (configuration : Configuration) (registry : Registry) (hclosed : l.isOpen = false) :
    l.phase = .ended ∨ ∃ e l', Step configuration registry l e l' := by
  cases hphase : l.phase with
  | ended => exact .inl rfl
  | ready changed => exact .inr ⟨_, _, .begin hphase⟩
  | building changed => exact .inr ⟨_, _, .finish { tree := .empty } hphase⟩
  | resting changed => exact .inr ⟨_, _, .wake hphase⟩
  | waiting =>
    cases hqueue : l.queue with
    | nil => exact .inr ⟨_, _, .stop hphase hqueue hclosed⟩
    | cons p rest => exact .inr ⟨_, _, .receive hphase hqueue⟩
  | draining changed =>
    cases hqueue : l.queue with
    | nil => exact .inr ⟨_, _, .drained hphase hqueue⟩
    | cons p rest => exact .inr ⟨_, _, .take hphase hqueue⟩

/-! ## No change is lost or handled twice -/

/-- Whether a loop has handled, or will handle, each path once that was sent to it in some events. -/
structure HandlesOnce (configuration : Configuration) (registry : Registry) (events : List Event)
    (l : DevLoop) : Prop where
  /-- What was sent is, in its order, in one batch each, received but not built with, or waits. -/
  sent : sent events = (batches events).flatten ++ received events ++ l.queue
  nonempty : ∀ batch ∈ batches events, batch ≠ []
  /-- After the first rebuild, there is one update for each batch, and it is given its set. -/
  begun : begun events = rebuildsOf (batches events) ∨ begun events = [] ∧ batches events = []
  /-- At most one rebuild is in flight, and each has published once when it is finished. -/
  inFlight : (disks events).length ≤ (DevLoop.begun events).length ∧
    (DevLoop.begun events).length ≤ (disks events).length + 1
  published : l.published.length = (disks events).length
  /-- When an update begins, the rebuilds before it are finished. Its batch is what was received
      since the last one, all of which was sent before, and is not changed any more. -/
  update : ∀ before changed after, events = before ++ .begin (some changed) :: after →
    DevLoop.begun before ≠ [] ∧ (disks before).length = (DevLoop.begun before).length ∧
      received before ≠ [] ∧ changed = ModuleGraph.distinctPaths (received before) ∧
      (batches before).flatten ++ received before <+: DevLoop.sent before ∧
      batches before ++ [received before] <+: batches events
  /-- A loop that has ended was closed and has handled all that was sent. It has published what a
      session does in a first rebuild and one update for the set of each batch. -/
  ended : l.phase = .ended → l.isOpen = false ∧ DevLoop.sent events = (batches events).flatten ∧
    l.published.length = (batches events).length + 1 ∧
      ∃ d changes, l.published = Session.publications configuration registry d changes ∧
        changes.map (·.changed) = (batches events).map ModuleGraph.distinctPaths
  /-- A loop that is closed makes finitely many steps and stops only at its end. -/
  closed : l.isOpen = false → (l.phase = .ended ∨ ∃ e l', Step configuration registry l e l') ∧
    ∀ events' l', Run configuration registry l events' l' → events'.length ≤ l.work

theorem exists_changes (batches : List (List Path)) {disks : List Disk}
    (h : disks.length = batches.length) :
    ∃ changes : List Change,
      (batches.map fun batch => some (ModuleGraph.distinctPaths batch)).zip disks =
          changes.map (fun change => (some change.changed, change.disk)) ∧
        changes.map (·.changed) = batches.map ModuleGraph.distinctPaths := by
  induction batches generalizing disks with
  | nil => exact ⟨[], by simp, rfl⟩
  | cons batch rest ih =>
    cases disks with
    | nil => cases h
    | cons d disks =>
      obtain ⟨changes, hzip, hchanged⟩ := ih (Nat.succ.inj h)
      exact ⟨⟨d, ModuleGraph.distinctPaths batch⟩ :: changes, by simp [hzip], by simp [hchanged]⟩

theorem Consistent.ended_publications (h : Consistent configuration registry events l)
    (hended : l.phase = .ended) : l.published.length = (batches events).length + 1 ∧
      ∃ d changes, l.published = Session.publications configuration registry d changes ∧
        changes.map (·.changed) = (batches events).map ModuleGraph.distinctPaths := by
  have hbegun : DevLoop.begun events = rebuildsOf (batches events) := by
    rw [h.begun, if_neg (by simp [hended])]
  have hfinished := h.finished
  rw [hended, hbegun] at hfinished
  have hpublished : l.published = _ := congrArg Prod.snd h.published
  rw [hbegun] at hpublished
  have hlength : (disks events).length = (batches events).length + 1 := by
    simpa [rebuildsOf, Phase.inFlight?] using hfinished.symm
  cases hdisks : disks events with
  | nil =>
    rw [hdisks] at hlength
    cases hlength
  | cons d rest =>
    rw [hdisks] at hlength hpublished
    obtain ⟨changes, hzip, hchanged⟩ := exists_changes (batches events) (Nat.succ.inj hlength)
    rw [rebuildsOf, List.zip_cons_cons, hzip] at hpublished
    refine ⟨?_, d, changes, hpublished.trans (Session.snd_advanceAll _ _ d changes), hchanged⟩
    have hsize := congrArg List.length hchanged
    rw [List.length_map, List.length_map] at hsize
    rw [hpublished, Session.length_advanceAll, List.length_cons, List.length_map, hsize]

theorem Consistent.update_begins (h : Consistent configuration registry events l)
    {changed : List Path} (hphase : l.phase = .ready (some changed)) (after : List Event) :
    DevLoop.begun events ≠ [] ∧ (disks events).length = (DevLoop.begun events).length ∧
      DevLoop.received events ≠ [] ∧
      changed = ModuleGraph.distinctPaths (DevLoop.received events) ∧
      (batches events).flatten ++ DevLoop.received events <+: DevLoop.sent events ∧
      batches events ++ [DevLoop.received events] <+:
        batches (events ++ [.begin (some changed)] ++ after) := by
  obtain ⟨hreceived, hchanged⟩ := h.collected changed (by rw [hphase]; rfl)
  refine ⟨?_, ?_, hreceived, hchanged, ?_, ?_⟩
  · rw [h.begun, if_neg (by simp [hphase])]
    exact List.cons_ne_nil _ _
  · rw [h.finished, hphase]
    rfl
  · rw [h.sent]
    exact List.prefix_append _ _
  · have hprefix := batches_prefix (events ++ [.begin (some changed)]) after
    rwa [batches_concat, collect] at hprefix

/-- Whatever the order of the events, each path that is sent is in one batch, and each batch is
    handled in one update. -/
theorem handlesOnce_of_run (h : Run configuration registry {} events l) :
    HandlesOnce configuration registry events l := by
  have hl := consistent_of_run h
  have hinFlight : l.phase.inFlight?.toList.length ≤ 1 := by
    cases l.phase.inFlight? <;> simp
  refine ⟨hl.sent, hl.nonempty, ?_, ?_, ?_, ?_, fun hended => ?_, fun hclosed => ?_⟩
  · have hbegun := hl.begun
    split at hbegun
    · next hready => exact .inr ⟨hbegun, hl.fresh hready⟩
    · exact .inl hbegun
  · have hfinished := hl.finished
    omega
  · have hpublished := congrArg (List.length ∘ Prod.snd) hl.published
    have hfinished := hl.finished
    simp only [Function.comp_apply, Session.length_advanceAll, List.length_zip] at hpublished
    omega
  · rintro before changed after rfl
    rw [List.append_cons before] at h ⊢
    obtain ⟨l₁, hbegin, -⟩ := h.exists_of_append
    obtain ⟨l₀, hbefore, hstep⟩ := run_concat_iff.1 hbegin
    cases hstep with
    | begin hphase => exact (consistent_of_run hbefore).update_begins hphase after
  · obtain ⟨hqueue, hclosed⟩ := hl.ended hended
    have hreceived := hl.received (by rw [hended]; rfl)
    refine ⟨hclosed, ?_, hl.ended_publications hended⟩
    rw [hl.sent, hqueue, hreceived, List.append_nil, List.append_nil]
  · refine ⟨exists_step configuration registry hclosed, fun events' l' h' => ?_⟩
    have hlength := (h'.length_le hclosed).2
    omega

/-- One path is sent before the first rebuild and one while it runs; an update handles both. -/
theorem handlesOnce_of_run_lone :
    let a : Path := ⟨"/a.js"⟩
    let b : Path := ⟨"/b.js"⟩
    let d := (BuildContext.lone "1").disk
    let events : List Event :=
      [.send a, .begin none, .send b, .finish d, .receive a, .wake, .take b, .close, .drained,
        .begin (some (ModuleGraph.distinctPaths [a, b])), .finish d, .stop]
    ∃ l, Run BuildContext.loneConfiguration Transform.standard {} events l ∧ l.phase = .ended ∧
      batches events = [[a, b]] ∧
      HandlesOnce BuildContext.loneConfiguration Transform.standard events l := by
  intro a b d events
  have hbuilt : Run BuildContext.loneConfiguration Transform.standard {} _ _ :=
    (((Run.nil.snoc (.send a rfl)).snoc (.begin rfl)).snoc (.send b rfl)).snoc (.finish d rfl)
  have hcollected := ((((hbuilt.snoc (.receive rfl rfl)).snoc (.wake rfl)).snoc
    (.take rfl rfl)).snoc (.close rfl)).snoc (.drained rfl rfl)
  have hrun := ((hcollected.snoc (.begin rfl)).snoc (.finish d rfl)).snoc (.stop rfl rfl rfl)
  exact ⟨_, hrun, rfl, rfl, handlesOnce_of_run hrun⟩

/-! ## All changes sent at once -/

theorem run_send (h : l.isOpen = true) (paths : List Path) :
    Run configuration registry l (paths.map .send) { l with queue := l.queue ++ paths } := by
  induction paths generalizing l with
  | nil =>
    rw [List.append_nil]
    exact .nil
  | cons p rest ih =>
    have hrest := ih (l := { l with queue := l.queue ++ [p] }) h
    rw [List.append_assoc] at hrest
    exact (Run.snoc .nil (.send p h)).append hrest

theorem run_take {changed : List Path} (h : l.phase = .draining changed)
    (hdistinct : ModuleGraph.distinctPaths changed = changed) :
    Run configuration registry l (l.queue.map .take)
      { l with queue := [], phase := .draining (ModuleGraph.distinctPaths (changed ++ l.queue)) } := by
  cases l with
  | mk session queue isOpen phase published =>
    obtain rfl : phase = .draining changed := h
    induction queue generalizing changed with
    | nil =>
      rw [List.append_nil, hdistinct]
      exact .nil
    | cons p rest ih =>
      have hagain := ModuleGraph.distinctPaths_append_distinctPaths (changed ++ [p]) []
      rw [List.append_nil, List.append_nil] at hagain
      have hrest := ih hagain
      rw [ModuleGraph.distinctPaths_append_distinctPaths, List.append_assoc] at hrest
      exact (Run.snoc .nil (.take rfl rfl)).append hrest

/-- If all paths are sent before the loop starts, it can publish what a session does that follows
    them as one group of changes, on one disk. -/
theorem exists_run_follow (configuration : Configuration) (registry : Registry) (d : Disk)
    (paths : List Path) :
    ∃ events l, Run configuration registry {} events l ∧ l.phase = .ended ∧
      sent events = paths ∧ l.published = Session.follow ⟨configuration, registry, d⟩ {}
        (if paths = [] then [] else [paths]) := by
  have hsend : Run configuration registry {} (paths.map .send) { queue := paths } :=
    run_send rfl paths
  have hfirst := ((hsend.snoc (.close rfl)).snoc (.begin rfl)).snoc (.finish d rfl)
  have hsent : (paths.map Event.send).filterMap Event.sent? = paths := by
    rw [List.filterMap_map]
    exact List.filterMap_some
  cases paths with
  | nil => exact ⟨_, _, hfirst.snoc (.stop rfl rfl rfl), rfl, by simp [sent, Event.sent?], rfl⟩
  | cons p rest =>
    have htaken : (rest.map Event.take).filterMap Event.sent? = [] := by
      rw [List.filterMap_map]
      exact List.filterMap_eq_nil_iff.2 fun _ _ => rfl
    have htake := ((hfirst.snoc (.receive rfl rfl)).snoc (.wake rfl)).append
      (run_take rfl (ModuleGraph.distinctPaths_cons p []))
    refine ⟨_, _, (((htake.snoc (.drained rfl rfl)).snoc (.begin rfl)).snoc (.finish d rfl)).snoc
      (.stop rfl rfl rfl), rfl, ?_, ?_⟩
    · simp only [sent, List.filterMap_append, hsent, htaken]
      simp [Event.sent?]
    · exact congrArg (fun publication => [_, publication])
        (congrArg Prod.snd (Session.update_of_sameSet (Path.sameSet_distinctPaths (p :: rest))))

end DevLoop

end Bundler
