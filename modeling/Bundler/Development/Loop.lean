import Bundler.Development.Session

set_option autoImplicit false

/-! # The development loop

The paths of changed files are sent to the loop through a channel, at any time until the channel is
closed. The loop rebuilds the project once and then waits for a path. After a short delay it takes
all that has been sent by then, and the set of these paths is what the session is updated with.
Paths that are sent later, also while the rebuild runs, are left in the channel until the loop waits
again. Once the channel is closed and nothing is left in it, the loop ends.

What the loop does and what is sent to it come in any order; a run is a list of such events. The
disk that a rebuild finds is not part of the loop, so an event names it. -/

namespace Bundler

namespace Session

/-- The first rebuild of the project, or one after some files have changed. -/
def advance (c : BuildContext) (s : Session) : Option (List Path) → Session × Publication
  | none => s.rebuild c
  | some changed => s.update c changed

end Session

namespace DevLoop

/-- Where the loop stands. Between two rebuilds it collects a set of paths. -/
inductive Phase
  | ready (changed : Option (List Path))
  | building (changed : Option (List Path))
  | waiting
  | resting (changed : List Path)
  | draining (changed : List Path)
  | ended
deriving DecidableEq, Repr

/-- What happens to the loop: a path is sent or the channel is closed, a rebuild begins or finishes,
    the loop receives the path that it waits for, the delay is over, the loop takes one more path or
    finds none, or it finds the channel closed. -/
inductive Event
  | send (p : Path)
  | close
  | begin (changed : Option (List Path))
  | finish (d : Disk)
  | receive (p : Path)
  | wake
  | take (p : Path)
  | drained
  | stop

end DevLoop

/-- The development loop with its channel: the paths that it has not received, oldest first, and
    whether more can be sent. -/
structure DevLoop where
  session : Session := {}
  queue : List Path := []
  isOpen : Bool := true
  phase : DevLoop.Phase := .ready none
  published : List Publication := []

namespace DevLoop

/-- The steps of a loop. A path that is sent never waits for the loop, and only the loop takes paths
    out of the channel. -/
inductive Step (configuration : Configuration) (registry : Registry) :
    DevLoop → Event → DevLoop → Prop
  | send {l : DevLoop} (p : Path) (h : l.isOpen = true) :
      Step configuration registry l (.send p) { l with queue := l.queue ++ [p] }
  | close {l : DevLoop} (h : l.isOpen = true) :
      Step configuration registry l .close { l with isOpen := false }
  | begin {l : DevLoop} {changed : Option (List Path)} (h : l.phase = .ready changed) :
      Step configuration registry l (.begin changed) { l with phase := .building changed }
  | finish {l : DevLoop} {changed : Option (List Path)} (d : Disk)
      (h : l.phase = .building changed) :
      Step configuration registry l (.finish d)
        { l with
          session := (l.session.advance ⟨configuration, registry, d⟩ changed).1
          published := l.published ++ [(l.session.advance ⟨configuration, registry, d⟩ changed).2]
          phase := .waiting }
  | receive {l : DevLoop} {p : Path} {rest : List Path} (h : l.phase = .waiting)
      (hqueue : l.queue = p :: rest) :
      Step configuration registry l (.receive p) { l with queue := rest, phase := .resting [p] }
  | wake {l : DevLoop} {changed : List Path} (h : l.phase = .resting changed) :
      Step configuration registry l .wake { l with phase := .draining changed }
  | take {l : DevLoop} {changed : List Path} {p : Path} {rest : List Path}
      (h : l.phase = .draining changed) (hqueue : l.queue = p :: rest) :
      Step configuration registry l (.take p)
        { l with
          queue := rest
          phase := .draining (ModuleGraph.distinctPaths (changed ++ [p])) }
  | drained {l : DevLoop} {changed : List Path} (h : l.phase = .draining changed)
      (hqueue : l.queue = []) :
      Step configuration registry l .drained { l with phase := .ready (some changed) }
  | stop {l : DevLoop} (h : l.phase = .waiting) (hqueue : l.queue = []) (hclosed : l.isOpen = false) :
      Step configuration registry l .stop { l with phase := .ended }

/-- The runs of a loop. -/
inductive Run (configuration : Configuration) (registry : Registry) (l : DevLoop) :
    List Event → DevLoop → Prop
  | nil : Run configuration registry l [] l
  | snoc {events : List Event} {e : Event} {l' l'' : DevLoop}
      (h : Run configuration registry l events l') (hstep : Step configuration registry l' e l'') :
      Run configuration registry l (events ++ [e]) l''

end DevLoop

end Bundler
