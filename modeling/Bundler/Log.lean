import Bundler.Path

set_option autoImplicit false

/-! # The log

What happens in a build is told by events. Each has a level, which says when it is shown, and a
line of text. Some lines end with the time that the step took. -/

namespace Bundler

/-- When an event is shown. -/
inductive LogLevel
  | always
  | debug
  | profile
deriving DecidableEq, Repr

/-- Something that happened. -/
inductive LogEvent
  | compiled (entries rules : Nat) (source : Path)
  | transformed (path : Path) (transforms : List String)
  | cycle (paths : List Path)
  | graphBuilt (modules : Nat)
  | chunksAssigned (chunks : Nat)
  | filesEmitted (files : Nat)
  | filesCompressed (files : Nat)
  | filesWritten (files : Nat) (directory : Path)
  | outputWritten
  | filesChanged (files modules : Nat)
  | rebuilt
  | filesBuilt (files : Nat)
  | failed (message : String)
  | fileSummary (name : String) (bytes : Nat)
deriving DecidableEq, Repr

namespace LogEvent

/-- When an event is shown. -/
def level : LogEvent → LogLevel
  | .compiled .. | .transformed .. | .cycle _ | .filesWritten .. | .filesChanged .. => .debug
  | .graphBuilt _ | .chunksAssigned _ | .filesEmitted _ | .filesCompressed _ | .outputWritten
  | .rebuilt => .profile
  | .filesBuilt _ | .failed _ | .fileSummary .. => .always

/-- Whether the line of an event ends with the time that the step took. -/
def isTimed (e : LogEvent) : Bool := e.level = .profile

/-- What an event says, apart from the time. -/
def message : LogEvent → String
  | .compiled entries rules source =>
    "compiled " ++ toString entries ++ " entries and " ++ toString rules ++ " rules from " ++
      source.text
  | .transformed path transforms =>
    "transformed " ++ path.text ++ " with [" ++ " ".intercalate transforms ++ "]"
  | .cycle paths => "circular dependency: " ++ " -> ".intercalate (paths.map (·.text))
  | .graphBuilt modules => "built graph of " ++ toString modules ++ " modules"
  | .chunksAssigned chunks => "assigned " ++ toString chunks ++ " chunks"
  | .filesEmitted files => "emitted " ++ toString files ++ " files"
  | .filesCompressed files => "compressed " ++ toString files ++ " files"
  | .filesWritten files directory =>
    "wrote " ++ toString files ++ " files to " ++ directory.text
  | .outputWritten => "wrote output"
  | .filesChanged files modules =>
    toString files ++ " files changed, " ++ toString modules ++ " modules invalidated"
  | .rebuilt => "rebuilt"
  | .filesBuilt files => "built " ++ toString files ++ " files"
  | .failed message => message
  | .fileSummary name bytes => name ++ " (" ++ toString bytes ++ " bytes)"

/-- The line of an event, given the text of the milliseconds that the step took. -/
def line (milliseconds : String) (e : LogEvent) : String :=
  "weft: " ++ e.message ++ if e.isTimed then " in " ++ milliseconds ++ "ms" else ""

end LogEvent

/-- Which events are shown besides those that always are. -/
structure LogOptions where
  debug : Bool := false
  profile : Bool := false
deriving DecidableEq, Repr

/-- Whether an event is shown. -/
def LogOptions.shows (o : LogOptions) (e : LogEvent) : Bool :=
  match e.level with
  | .always => true
  | .debug => o.debug
  | .profile => o.profile

end Bundler
