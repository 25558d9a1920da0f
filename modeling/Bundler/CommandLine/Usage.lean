import Bundler.CommandLine.Flag

set_option autoImplicit false

/-! # Texts about the command line -/

namespace Bundler.CommandLine

/-- The name of the program. -/
def programName : String := "weft"

/-- The text that tells the version of the program. -/
def versionText : String := programName ++ " 0.1.0\n"

/-- What the program is. -/
def about : String := "Content-addressed module bundler for web front-ends"

namespace Flag

/-- What a flag is for. -/
def purpose : Flag → String
  | .file => "Set a configuration file"
  | .directory => "Set a working directory"
  | .serve => "Serve output in memory and rebuild it on file changes"
  | .mode => "Set a build mode"
  | .output => "Set an output directory"
  | .port => "Set a development server port"
  | .jobLimit => "Set a job limit"
  | .logPrefix => "Set a log prefix"
  | .quiet => "Show no summary of output files"
  | .debug => "Show debug logs"
  | .profile => "Show profile timings"
  | .help => "Print help"
  | .version => "Print version"

/-- How a flag is written. -/
def shape (f : Flag) : String :=
  let letter := match f.letter?, f.long? with
    | some c, some _ => "-" ++ c.toString ++ ", "
    | some c, none => "-" ++ c.toString
    | none, _ => "    "
  let name := (f.long?.map ("--" ++ ·)).getD ""
  letter ++ name ++ (f.valueName?.map fun v => " <" ++ v ++ ">").getD ""

/-- What stands in for a flag in an environment, and the values that it may have. -/
def remarks (environment : NameMap String) (f : Flag) : String :=
  let variableRemark := f.variableName?.map fun name =>
    " [env: " ++ name ++ "=" ++ (environment.get? name).getD "" ++ "]"
  let values := if f = .mode then " [possible values: development, production]" else ""
  variableRemark.getD "" ++ values

end Flag

/-- The text that tells how the program is used. -/
def helpText (environment : NameMap String) : String :=
  let width := (Flag.all.map (·.shape.length)).foldl max 0
  let line (f : Flag) :=
    "  " ++ f.shape ++ String.ofList (List.replicate (width - f.shape.length) ' ') ++ "  " ++
      f.purpose ++ f.remarks environment ++ "\n"
  about ++ "\n\nUsage: " ++ programName ++ " [OPTIONS]\n\nOptions:\n" ++
    String.join (Flag.all.map line)

/-- The message about a command line that is wrong. -/
def UsageError.message : UsageError → String
  | .unknownArgument => "unexpected argument found"
  | .argumentConflict => "an argument cannot be used multiple times"
  | .invalidValue => "a value is missing or is none of the possible values"
  | .valueValidation => "a value is not a number in range"
  | .tooManyValues => "an unexpected value was found for a flag"
  | .displayHelp | .displayVersion => ""

end Bundler.CommandLine
