import Bundler.Build.Release
import Bundler.CommandLine.Arguments
import Bundler.CommandLine.Usage
import Bundler.Settings.Grammar

set_option autoImplicit false

/-! # The program

The program reads the configuration file, whose directory is the root of the project, and makes a
release of the project. It tells the events that its flags ask for, then the size of each file, and
ends with a message if something fails. -/

namespace Bundler.CommandLine

/-- Why a run failed. -/
inductive RunError
  | directory (failure : FileFailure)
  | file (error : FileError)
  | notUtf8 (path : Path)
  | settings (error : Settings.ReadError)
  | configuration (error : ConfigurationError)
  | release (error : ReleaseError)
  | notServing

/-- The message for a run that failed. -/
def RunError.message : RunError → String
  | .directory failure => failure.message
  | .file error => error.message
  | .notUtf8 path => path.text ++ " is not valid UTF-8"
  | .settings error => error.message
  | .configuration error => error.message
  | .release error => error.message
  | .notServing => "this build cannot serve"

/-- The world that the program runs in. -/
structure World where
  disk : Disk
  environment : NameMap String

/-- What a run leaves behind. -/
structure Run where
  result : Except RunError Unit
  disk : Disk
  events : List LogEvent := []

namespace Program

/-- The configuration file that is read if the command line names none. -/
def defaultFile : String := "weft.conf"

/-- The disk seen from the directory that the command line names. -/
def enter (d : Disk) (directory : Option String) : Except RunError Disk :=
  match directory with
  | none => .ok d
  | some text => do
    let l ← (d.locate ⟨text⟩).mapError .directory
    if d.tree.isDirectory l then return { d with current := l }
    else throw (.directory .notDirectory)

/-- The path and the text of the configuration file. -/
def source (d : Disk) (file : Option String) : Except RunError (Path × String) := do
  let p ← (d.canonicalize ⟨file.getD defaultFile⟩).mapError .file
  match String.fromUTF8? (← (d.read p).mapError .file) with
  | some text => return (p, text)
  | none => throw (.notUtf8 p)

/-- What the command line says instead of the settings. -/
def overrides (d : Disk) (a : Arguments) : Configuration.Overrides where
  mode := a.mode.or (if a.serve then some .development else none)
  output := a.output.map fun text => d.current.path.join ⟨text⟩
  port := a.port

/-- The configuration of a project, and the path of its file. -/
def configure (w : World) (d : Disk) (a : Arguments) :
    Except RunError (Path × Configuration) := do
  let (p, text) ← source d a.file
  let root := p.parent?.getD ⟨"/"⟩
  let statements ← (Settings.read text).mapError .settings
  let c ← (Configuration.ofStatements root w.environment (overrides d a) Transform.standard
    statements).mapError .configuration
  return (p, c)

/-- The size of each file of an output. -/
def summary (o : BuildOutput) : List LogEvent :=
  o.files.toList.map fun f => .fileSummary f.1 f.2.size

/-- The release of a configured project. -/
def release (c : Configuration) (d : Disk) (quiet : Bool) : Run :=
  let r := BuildContext.release ⟨c, Transform.standard, d⟩
  match r.result with
  | .ok o => ⟨.ok (), r.disk, r.events ++ if quiet then [] else summary o⟩
  | .error e => ⟨.error (.release e), r.disk, r.events⟩

/-- The run of the program. -/
def run (w : World) (a : Arguments) : Run :=
  match enter w.disk a.directory with
  | .error e => { result := .error e, disk := w.disk }
  | .ok d =>
    match configure w d a with
    | .error e => { result := .error e, disk := d }
    | .ok (p, c) =>
      let compiled := .compiled c.entries.length c.rules.length p
      let r := if a.serve then { result := .error .notServing, disk := d }
        else release c d a.quiet
      { r with events := compiled :: r.events }

end Program

/-! ## What is printed -/

/-- The ending of a program: its code, its output and its messages. -/
structure Ending where
  code : Nat
  output : String := ""
  messages : String := ""
deriving DecidableEq, Repr

namespace Ending

/-- The ending of a program whose command line is wrong or asks for something else. -/
def ofUsage (environment : NameMap String) : UsageError → Ending
  | .displayHelp => { code := 0, output := helpText environment }
  | .displayVersion => { code := 0, output := versionText }
  | e => { code := 2, messages := "error: " ++ e.message ++ "\n" }

/-- The ending of a run, given the text of the milliseconds that each step took. -/
def ofRun (milliseconds : String) (a : Arguments) (r : Run) : Ending :=
  let shown := r.events.filter (LogOptions.shows ⟨a.debug, a.profile⟩)
  let lines := String.join (shown.map fun e => e.line milliseconds ++ "\n")
  match r.result with
  | .ok _ => { code := 0, messages := lines }
  | .error e =>
    { code := 1, messages := lines ++ a.logPrefix.getD "" ++ e.message ++ "\n" }

end Ending

end Bundler.CommandLine
