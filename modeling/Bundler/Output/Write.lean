import Bundler.Disk
import Bundler.Output.Basic

set_option autoImplicit false

/-! # Writing the output

The output directory is replaced as a whole. The files are first written into a directory beside
it; then the directory that is there is put aside, the new one takes its place, and the old one is
removed. If something fails before that, what was there stays or comes back. A directory that holds
the project is never replaced. -/

namespace Bundler

/-- Why an output was not written. -/
inductive WriteError
  | file (error : FileError)
  | invalidDirectory (directory : Path)
deriving DecidableEq, Repr

/-- The message for an output that was not written. -/
def WriteError.message : WriteError → String
  | .file error => error.message
  | .invalidDirectory directory => "invalid output directory " ++ directory.text

namespace BuildOutput

open Disk (DiskM)

/-! ## Places beside the output directory -/

/-- What the new directory is marked with until it takes its place. -/
def stagingMark : String := "weft-staging"

/-- What the old directory is marked with until it is removed. -/
def previousMark : String := "weft-previous"

/-- The marked place beside a directory; there is none if its path does not end with a name. -/
def sibling? (directory : Path) (mark : String) : Option Path :=
  directory.fileName?.map fun name => directory.withFileName ("." ++ name ++ "." ++ mark)

/-! ## Steps -/

/-- Removes what stands at a path, if anything does. -/
def clear (p : Path) : DiskM FileError Unit := do
  if (← get).isPresent p then Disk.remove p

/-- Removes what stands at a path, whether that succeeds or not. -/
def discard (p : Path) : DiskM FileError Unit :=
  tryCatch (clear p) fun _ => return

/-- Does a step; if it fails, what stands at a path is discarded. -/
def orDiscard (p : Path) (step : DiskM FileError Unit) : DiskM FileError Unit :=
  tryCatch step fun error => do
    discard p
    throw error

/-- Writes all files into a directory, one after another in the order of their names, up to the first
    that cannot be written. Files may as well be written all at once; then some of the later ones
    may be there too when one fails, and what is there is discarded with the directory. -/
def writeFiles (o : BuildOutput) (directory : Path) : DiskM FileError Unit := do
  Disk.create directory
  o.files.toList.forM fun f => Disk.write (directory.join ⟨f.1⟩) f.2

/-- Puts the new directory in the place of the old one. -/
def replace (directory staging previous : Path) : DiskM FileError Unit := do
  let existed := (← get).isPresent directory
  if existed then orDiscard staging (Disk.rename directory previous)
  tryCatch (Disk.rename staging directory) fun error => do
    if existed then Disk.rename previous directory
    discard staging
    throw error
  if existed then Disk.remove previous

/-- Replaces the output directory of a project by the files of an output. -/
def writeTo (o : BuildOutput) (directory root : Path) : DiskM WriteError Unit := do
  if root.isWithin directory then throw (.invalidDirectory directory)
  match sibling? directory stagingMark, sibling? directory previousMark with
  | some staging, some previous =>
    EStateM.adaptExcept .file do
      clear staging
      clear previous
      orDiscard staging (o.writeFiles staging)
      replace directory staging previous
  | _, _ => throw (.invalidDirectory directory)

end BuildOutput

end Bundler
