set_option autoImplicit false

/-! # Live updates

After every rebuild the pages that are open are told to reload, or why the build failed. An update
is sent as an event of an event stream: a line with its name, one line for each line of its data,
and a blank line. Carriage returns are left out, since they would end a line.

Each page has a queue of the updates that it has not received. It keeps only the latest ones, as
many as its capacity. -/

namespace Bundler

/-- What an open page is told. -/
inductive LiveUpdate
  | reload
  | buildError (message : String)
deriving DecidableEq, Repr

namespace LiveUpdate

/-- The name of the event of an update. -/
def name : LiveUpdate → String
  | .reload => "reload"
  | .buildError _ => "build-error"

/-- The data of the event of an update. It is not empty for a reload, since events without data
    are not delivered. -/
def data : LiveUpdate → String
  | .reload => "reload"
  | .buildError message => .ofList (message.toList.filter (· ≠ '\r'))

/-- The lines of a text. -/
def linesOf (text : List Char) : List (List Char) :=
  text.foldr
    (fun c lines =>
      if c = '\n' then [] :: lines
      else match lines with
        | first :: rest => (c :: first) :: rest
        | [] => [[c]])
    [[]]

/-- A field of an event. -/
def field (name : String) (value : List Char) : String := name ++ ": " ++ .ofList value ++ "\n"

/-- The event of an update. -/
def event (u : LiveUpdate) : String :=
  field "event" u.name.toList ++ String.join ((linesOf u.data.toList).map (field "data")) ++ "\n"

/-- The media type of a stream of events. -/
def mediaType : String := "text/event-stream"

end LiveUpdate

/-- The updates that a page has not received, oldest first. -/
structure UpdateQueue where
  capacity : Nat
  waiting : List LiveUpdate := []
deriving DecidableEq, Repr

namespace UpdateQueue

/-- An empty queue for at least the given number of updates; the capacity is a power of two. -/
def ofCapacity (n : Nat) : UpdateQueue := { capacity := n.nextPowerOfTwo }

/-- The number of updates that the server keeps for a page. -/
def serverCapacity : Nat := 16

/-- The queue after one more update. If it is full, the oldest update is lost. -/
def push (q : UpdateQueue) (u : LiveUpdate) : UpdateQueue :=
  let waiting := q.waiting ++ [u]
  { q with waiting := waiting.drop (waiting.length - q.capacity) }

/-- The updates that a page receives, and the queue after that. -/
def receive (q : UpdateQueue) : List LiveUpdate × UpdateQueue :=
  (q.waiting, { q with waiting := [] })

end UpdateQueue

end Bundler
