import Bundler.Build
import Bundler.Output.Write

set_option autoImplicit false

/-! # Releases

A release is a build from nothing whose output is written to the output directory. -/

namespace Bundler

/-- Why a release failed. -/
inductive ReleaseError
  | build (error : BuildError)
  | write (error : WriteError)
deriving DecidableEq, Repr

/-- The message for a release that failed. -/
def ReleaseError.message : ReleaseError → String
  | .build error => error.message
  | .write error => error.message

/-- What a release leaves behind. -/
structure Release where
  result : Except ReleaseError BuildOutput
  disk : Disk
  events : List LogEvent

/-- The release of a project. -/
def BuildContext.release (c : BuildContext) : Release :=
  match c.build.run.run {} with
  | (.error e, s) => ⟨.error (.build e), c.disk, s.events⟩
  | (.ok build, s) =>
    let place := c.configuration.output.directory
    match (build.output.writeTo place c.configuration.root).run c.disk with
    | .error e disk => ⟨.error (.write e), disk, s.events⟩
    | .ok _ disk =>
      let written := [.filesWritten build.output.size place, .outputWritten]
      ⟨.ok build.output, disk, s.events ++ written⟩

end Bundler
