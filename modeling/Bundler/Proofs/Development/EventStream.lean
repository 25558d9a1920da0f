import Bundler.Development.LiveUpdate
import Mathlib.Data.List.Basic

set_option autoImplicit false

/-! # Reading event streams

A page reads an event stream line by line. A line feed, a carriage return or both end a line, so that
a message could end its event or start another one if its line breaks were sent as they are. An event
has a `data` field for each line of its message instead, and the page puts the lines together again.

So a stream of live updates is read as what was sent (`decode_stream`): one event for each update,
with its name and its data, and what follows them is read as if nothing had come before it. -/

namespace Bundler.EventStream

/-! ## The rules of the format -/

/-- An event as a page receives it, with the last id that the stream has given. -/
structure Event where
  name : String
  data : String
  lastId : String
deriving DecidableEq, Repr

/-- What was read of an event that no empty line has ended yet. -/
structure Pending where
  name : List Char := []
  data : List Char := []
  lastId : List Char := []

/-- The lines that end in a text, the first of which goes on from what was read of it before. -/
def linesFrom (read : List Char) : List Char → List (List Char)
  | [] => []
  | '\r' :: '\n' :: rest => read :: linesFrom [] rest
  | c :: rest =>
    if c = '\r' ∨ c = '\n' then read :: linesFrom [] rest else linesFrom (read ++ [c]) rest

/-- The name of the field on a line, which stands before the first colon, and its value, which
    stands behind that colon and at most one space. -/
def fieldOf (line : List Char) : List Char × List Char :=
  let value := (line.dropWhile (· ≠ ':')).drop 1
  (line.takeWhile (· ≠ ':'), if value.head? = some ' ' then value.drop 1 else value)

/-- What was read after one more line. Lines with other fields change nothing, nor do comments, which
    begin with a colon. -/
def Pending.read (p : Pending) (line : List Char) : Pending :=
  let (name, value) := fieldOf line
  if name = "event".toList then { p with name := value }
  else if name = "data".toList then { p with data := p.data ++ value ++ ['\n'] }
  else if name = "id".toList ∧ '\x00' ∉ value then { p with lastId := value }
  else p

/-- The event that an empty line delivers; there is none without a `data` field. -/
def Pending.event? (p : Pending) : Option Event :=
  if p.data = [] then none
  else some {
    name := if p.name = [] then "message" else .ofList p.name
    data := .ofList p.data.dropLast
    lastId := .ofList p.lastId }

/-- The events that some lines deliver. -/
def deliver (p : Pending) : List (List Char) → List Event
  | [] => []
  | line :: rest =>
    if line = [] then p.event?.toList ++ deliver { lastId := p.lastId } rest
    else deliver (p.read line) rest

/-- The events of a text that starts with a new event. -/
def eventsOf (text : List Char) : List Event := deliver {} (linesFrom [] text)

/-- The events of a whole stream. A byte order mark at its start does not count. -/
def decode (stream : String) : List Event :=
  match stream.toList with
  | '\uFEFF' :: rest => eventsOf rest
  | text => eventsOf text

/-! ## Lines -/

/-- Whether a text has no character that ends a line. -/
def IsUnbroken (text : List Char) : Prop := ∀ c ∈ text, c ≠ '\r' ∧ c ≠ '\n'

instance (text : List Char) : Decidable (IsUnbroken text) := List.decidableBAll _ text

theorem linesFrom_append {line : List Char} (h : IsUnbroken line) (read rest : List Char) :
    linesFrom read (line ++ '\n' :: rest) = (read ++ line) :: linesFrom [] rest := by
  induction line generalizing read with
  | nil => simp [linesFrom]
  | cons c more ih =>
    obtain ⟨hreturn, hfeed⟩ := h c List.mem_cons_self
    have hmore : IsUnbroken more := fun d hd => h d (List.mem_cons_of_mem _ hd)
    have hstep : linesFrom read (c :: (more ++ '\n' :: rest))
        = linesFrom (read ++ [c]) (more ++ '\n' :: rest) := by
      rw [linesFrom]
      · exact if_neg (not_or.2 ⟨hreturn, hfeed⟩)
      · intro _ heq
        exact absurd heq hreturn
    rw [List.cons_append, hstep, ih hmore, List.append_assoc, List.singleton_append]

/-! ## Lines of a message -/

open LiveUpdate (linesOf)

theorem linesOf_newline (text : List Char) : linesOf ('\n' :: text) = [] :: linesOf text := by
  simp [linesOf]

theorem exists_linesOf_cons {c : Char} (hc : c ≠ '\n') (text : List Char) :
    ∃ first rest, linesOf text = first :: rest ∧ linesOf (c :: text) = (c :: first) :: rest := by
  have hne : linesOf text ≠ [] := by
    cases text with
    | nil => simp [linesOf]
    | cons d more =>
      show (if d = '\n' then _ else _) ≠ []
      split
      · simp
      · split <;> simp
  obtain ⟨first, rest, hlines⟩ := List.exists_cons_of_ne_nil hne
  refine ⟨first, rest, hlines, ?_⟩
  show (if c = '\n' then _ else _) = _
  rw [if_neg hc]
  split
  · next first' rest' hlines' =>
    obtain ⟨rfl, rfl⟩ := List.cons.inj (hlines.symm.trans hlines')
    rfl
  · next hnil => exact absurd hnil hne

/-- The lines of a text, each with a line feed behind it, are the text and one more line feed. -/
theorem flatMap_linesOf (text : List Char) :
    (linesOf text).flatMap (· ++ ['\n']) = text ++ ['\n'] := by
  induction text with
  | nil => rfl
  | cons c more ih =>
    by_cases hc : c = '\n'
    · rw [hc, linesOf_newline, List.flatMap_cons, ih]
      rfl
    · obtain ⟨first, rest, hlines, hcons⟩ := exists_linesOf_cons hc more
      rw [hlines] at ih
      rw [hcons]
      show c :: (first :: rest).flatMap (· ++ ['\n']) = _
      rw [ih]
      rfl

/-- A text without carriage returns has unbroken lines. -/
theorem isUnbroken_of_mem_linesOf {text : List Char} (h : '\r' ∉ text) {line : List Char}
    (hline : line ∈ linesOf text) : IsUnbroken line := by
  induction text generalizing line with
  | nil =>
    rw [List.mem_singleton.1 (hline : line ∈ [[]])]
    exact fun c hc => by cases hc
  | cons c more ih =>
    rw [List.mem_cons, not_or] at h
    by_cases hc : c = '\n'
    · rw [hc, linesOf_newline] at hline
      rcases List.mem_cons.1 hline with rfl | hline
      · exact fun c hc => by cases hc
      · exact ih h.2 hline
    · obtain ⟨first, rest, hlines, hcons⟩ := exists_linesOf_cons hc more
      rw [hlines] at ih
      rw [hcons] at hline
      rcases List.mem_cons.1 hline with rfl | hline
      · intro d hd
        rcases List.mem_cons.1 hd with rfl | hd
        · exact ⟨Ne.symm h.1, hc⟩
        · exact ih h.2 List.mem_cons_self d hd
      · exact ih h.2 (List.mem_cons_of_mem _ hline)

/-! ## Fields -/

theorem fieldOf_assignment {name : List Char} (hname : ':' ∉ name) (value : List Char) :
    fieldOf (name ++ ':' :: ' ' :: value) = (name, value) := by
  have hcolon : ∀ c ∈ name, (decide (c ≠ ':')) = true := by
    intro c hc
    exact decide_eq_true fun heq => hname (heq ▸ hc)
  unfold fieldOf
  rw [List.takeWhile_append_of_pos hcolon, List.dropWhile_append_of_pos hcolon]
  simp

theorem read_data (p : Pending) (value : List Char) :
    p.read ("data".toList ++ ':' :: ' ' :: value) = { p with data := p.data ++ value ++ ['\n'] } := by
  unfold Pending.read
  rw [fieldOf_assignment (by decide)]
  rfl

theorem read_event (p : Pending) (value : List Char) :
    p.read ("event".toList ++ ':' :: ' ' :: value) = { p with name := value } := by
  unfold Pending.read
  rw [fieldOf_assignment (by decide)]
  rfl

/-- A field with an unbroken value is one line of the stream. -/
theorem deliver_field (p : Pending) (name : String) {value : List Char}
    (hname : IsUnbroken name.toList) (hvalue : IsUnbroken value) (rest : List Char) :
    deliver p (linesFrom [] ((LiveUpdate.field name value).toList ++ rest))
      = deliver (p.read (name.toList ++ ':' :: ' ' :: value)) (linesFrom [] rest) := by
  have htext : (LiveUpdate.field name value).toList ++ rest
      = (name.toList ++ ':' :: ' ' :: value) ++ '\n' :: rest := by
    simp [LiveUpdate.field]
  have hline : IsUnbroken (name.toList ++ ':' :: ' ' :: value) := by
    intro c hc
    rcases List.mem_append.1 hc with hc | hc
    · exact hname c hc
    · rcases List.mem_cons.1 hc with rfl | hc
      · decide
      · rcases List.mem_cons.1 hc with rfl | hc
        · decide
        · exact hvalue c hc
  rw [htext, linesFrom_append hline, List.nil_append, deliver, if_neg (by simp)]

/-- Lines of data are put together again. -/
theorem deliver_data (p : Pending) {values : List (List Char)} (h : ∀ v ∈ values, IsUnbroken v)
    (rest : List Char) :
    deliver p (linesFrom []
        ((values.map (LiveUpdate.field "data")).flatMap String.toList ++ rest))
      = deliver { p with data := p.data ++ values.flatMap (· ++ ['\n']) } (linesFrom [] rest) := by
  induction values generalizing p with
  | nil => simp
  | cons value more ih =>
    have hname : IsUnbroken "data".toList := by decide
    rw [List.map_cons, List.flatMap_cons, List.append_assoc,
      deliver_field p "data" hname (h value List.mem_cons_self), read_data,
      ih _ fun v hv => h v (List.mem_cons_of_mem _ hv)]
    simp

/-! ## Live updates -/

/-- Carriage returns are left out of the data of an update. -/
theorem return_not_mem_data (u : LiveUpdate) : '\r' ∉ u.data.toList := by
  cases u with
  | reload => decide
  | buildError message => simp [LiveUpdate.data]

theorem name_spec (u : LiveUpdate) : u.name.toList ≠ [] ∧ IsUnbroken u.name.toList := by
  cases u with
  | reload => decide
  | buildError message =>
    show "build-error".toList ≠ [] ∧ IsUnbroken "build-error".toList
    decide

/-- The event of an update is read as one event, whatever follows it. -/
theorem eventsOf_event (u : LiveUpdate) (rest : List Char) :
    eventsOf (u.event.toList ++ rest) = ⟨u.name, u.data, ""⟩ :: eventsOf rest := by
  have hlines : ∀ line ∈ linesOf u.data.toList, IsUnbroken line :=
    fun _ hline => isUnbroken_of_mem_linesOf (return_not_mem_data u) hline
  have htext : u.event.toList ++ rest = (LiveUpdate.field "event" u.name.toList).toList ++
      (((linesOf u.data.toList).map (LiveUpdate.field "data")).flatMap String.toList ++
        '\n' :: rest) := by
    simp [LiveUpdate.event, String.toList_join]
  obtain ⟨hnamed, hname⟩ := name_spec u
  unfold eventsOf
  rw [htext, deliver_field {} "event" (by decide) hname, read_event,
    deliver_data _ hlines, flatMap_linesOf]
  -- the empty line that ends the event
  have hunbroken : IsUnbroken [] := fun c hc => by cases hc
  have hempty : linesFrom [] ('\n' :: rest) = [] :: linesFrom [] rest :=
    linesFrom_append hunbroken [] rest
  rw [hempty, deliver, if_pos rfl]
  simp [Pending.event?, hnamed]

theorem eventsOf_stream (updates : List LiveUpdate) (rest : List Char) :
    eventsOf ((String.join (updates.map LiveUpdate.event)).toList ++ rest)
      = updates.map (fun u => ⟨u.name, u.data, ""⟩) ++ eventsOf rest := by
  induction updates with
  | nil => rfl
  | cons u more ih =>
    rw [List.map_cons, String.toList_join, List.flatMap_cons, List.append_assoc, eventsOf_event,
      ← String.toList_join, ih]
    rfl

/-- A stream of live updates is read as one event for each update in order, with its name and its
    data, and what comes behind is read on its own. -/
theorem decode_stream (updates : List LiveUpdate) :
    let stream := String.join (updates.map LiveUpdate.event)
    let sent : List Event := updates.map fun u => ⟨u.name, u.data, ""⟩
    decode stream = sent ∧ ∀ rest, eventsOf (stream.toList ++ rest) = sent ++ eventsOf rest := by
  intro stream sent
  refine ⟨?_, eventsOf_stream updates⟩
  have hstart : decode stream = eventsOf stream.toList := by
    unfold decode
    split
    · next rest hmark =>
      -- a stream that is not empty starts with the name of a field
      cases updates with
      | nil => cases hmark
      | cons u more =>
        simp [stream, String.toList_join, LiveUpdate.event, LiveUpdate.field] at hmark
    · rfl
  rw [hstart, ← List.append_nil stream.toList, eventsOf_stream]
  exact List.append_nil _

example : decode (LiveUpdate.event (.buildError "a\r\n\nevent: reload\n:b")) =
    [⟨"build-error", "a\n\nevent: reload\n:b", ""⟩] := by
  decide +kernel

end Bundler.EventStream
