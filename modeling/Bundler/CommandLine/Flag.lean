import Bundler.Configuration.OfStatements

set_option autoImplicit false

/-! # Command line flags

Each flag has a long name or a letter, or both. Some take a value, the others are switches. For
some, an environment variable stands in if the command line does not give them; for a switch it
holds `true` or `false`. -/

namespace Bundler.CommandLine

/-- A flag of the command line. -/
inductive Flag
  | file
  | directory
  | serve
  | mode
  | output
  | port
  | jobLimit
  | logPrefix
  | quiet
  | debug
  | profile
  | help
  | version
deriving DecidableEq, Repr

/-- What is wrong with a command line, or what it asks for instead of a run. -/
inductive UsageError
  | unknownArgument
  | argumentConflict
  | invalidValue
  | valueValidation
  | tooManyValues
  | displayHelp
  | displayVersion
deriving DecidableEq, Repr

namespace Flag

/-- All flags, in the order in which they are listed. -/
def all : List Flag :=
  [.file, .directory, .serve, .mode, .output, .port, .jobLimit, .logPrefix, .quiet, .debug,
    .profile, .help, .version]

/-! ## Names -/

/-- The long name of a flag. -/
def long? : Flag → Option String
  | .file | .directory => none
  | .serve => some "serve"
  | .mode => some "mode"
  | .output => some "output"
  | .port => some "port"
  | .jobLimit => some "job-limit"
  | .logPrefix => some "log-prefix"
  | .quiet => some "quiet"
  | .debug => some "debug"
  | .profile => some "profile"
  | .help => some "help"
  | .version => some "version"

/-- The letter of a flag. -/
def letter? : Flag → Option Char
  | .file => some 'f'
  | .directory => some 'C'
  | .jobLimit => some 'j'
  | .help => some 'h'
  | .version => some 'V'
  | _ => none

/-- What the value of a flag is called; a switch has none. -/
def valueName? : Flag → Option String
  | .file => some "FILE"
  | .directory => some "DIRECTORY"
  | .mode => some "MODE"
  | .output => some "OUTPUT"
  | .port => some "PORT"
  | .jobLimit => some "JOB_LIMIT"
  | .logPrefix => some "LOG_PREFIX"
  | _ => none

/-- Whether a flag takes a value. -/
def takesValue (f : Flag) : Bool := f.valueName?.isSome

/-- The environment variable that stands in for a flag. -/
def variableName? : Flag → Option String
  | .mode => some "WEFT_MODE"
  | .output => some "OUTPUT_DIR"
  | .port => some "DEV_SERVER_PORT"
  | .debug => some "WEFT_DEBUG"
  | .profile => some "WEFT_PROFILE"
  | _ => none

/-- The flag of a long name. -/
def ofLong? (name : String) : Option Flag := all.find? (·.long? == some name)

/-- The flag of a letter. -/
def ofLetter? (letter : Char) : Option Flag := all.find? (·.letter? == some letter)

/-! ## Values -/

/-- The mode that a value names. -/
def mode? : String → Option Mode
  | "development" => some .development
  | "production" => some .production
  | _ => none

/-- Whether a switch is on. -/
def switch? : String → Option Bool
  | "true" => some true
  | "false" => some false
  | _ => none

/-- The number of a port, which may have a sign. -/
def port? (value : String) : Option Nat :=
  let number := match value.toList with
    | '-' :: digits => (Configuration.decimal? (.ofList ('+' :: digits))).filter (· = 0)
    | _ => Configuration.decimal? value
  number.filter (· < UInt16.size)

/-- The number of a job limit. -/
def jobLimit? (value : String) : Option Nat := (Configuration.decimal? value).filter (· < UInt64.size)

/-- What is wrong with a value of a flag, if anything is. -/
def valueError? (f : Flag) (value : String) : Option UsageError :=
  match f with
  | .mode => if (mode? value).isSome then none else some .invalidValue
  | .port => if (port? value).isSome then none else some .valueValidation
  | .jobLimit => if (jobLimit? value).isSome then none else some .valueValidation
  | .file | .directory | .output | .logPrefix => none
  | .serve | .quiet | .debug | .profile | .help | .version =>
    if (switch? value).isSome then none else some .invalidValue

end Flag

end Bundler.CommandLine
