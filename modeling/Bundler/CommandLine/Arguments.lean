import Bundler.CommandLine.Flag

set_option autoImplicit false

/-! # Reading the command line

Arguments are read from left to right. The value of a flag is attached to it, or else is the next
argument; then it is checked only when the next known flag is met, or at the end. No flag is given
twice, and there are no arguments besides flags and their values. -/

namespace Bundler.CommandLine

/-- The arguments read so far. -/
structure Reading where
  given : List (Flag × String) := []
  pending : Option (Flag × Option String) := none
  isTrailing : Bool := false

namespace Reading

/-! ## Values -/

/-- The reading with the value of a flag that was not given before. -/
def give (r : Reading) (f : Flag) (value : String) : Except UsageError Reading :=
  if r.given.any (·.1 = f) then .error .argumentConflict
  else match f.valueError? value with
    | some error => .error error
    | none => .ok { r with given := r.given ++ [(f, value)] }

/-- The reading after the value that is not checked yet, if there is one, has been checked. -/
def settle (r : Reading) : Except UsageError Reading :=
  match r.pending with
  | none => .ok r
  | some (_, none) => .error .invalidValue
  | some (f, some value) => { r with pending := none }.give f value

/-! ## Flags -/

/-- The reading after a flag that takes a value, which may be attached. -/
def meetValued (r : Reading) (f : Flag) (attached : Option String) :
    Except UsageError Reading := do
  let r ← r.settle
  match attached with
  | some value => r.give f value
  | none => return { r with pending := some (f, none) }

/-- The reading after a switch. -/
def meetSwitch (r : Reading) (f : Flag) : Except UsageError Reading := do
  let r ← r.settle
  match f with
  | .help => throw .displayHelp
  | .version => throw .displayVersion
  | f => r.give f "true"

/-- A text cut at its first equals sign. -/
def cutEquals (text : List Char) : String × Option String :=
  let name := text.takeWhile (· ≠ '=')
  (.ofList name, match text.drop name.length with
    | [] => none
    | _ :: value => some (.ofList value))

/-- The reading after a long flag, without its dashes. -/
def meetLong (r : Reading) (text : List Char) : Except UsageError Reading :=
  let (name, attached) := cutEquals text
  match Flag.ofLong? name with
  | none => .error .unknownArgument
  | some f =>
    if f.takesValue then r.meetValued f attached
    else if attached.isSome then .error .tooManyValues
    else r.meetSwitch f

/-- The reading after a letter and what is attached to it. -/
def meetLetter (r : Reading) (letter : Char) (rest : List Char) : Except UsageError Reading :=
  match Flag.ofLetter? letter with
  | none => .error .unknownArgument
  | some f =>
    if f.takesValue then
      r.meetValued f (match rest with
        | [] => none
        | '=' :: value => some (.ofList value)
        | value => some (.ofList value))
    else r.meetSwitch f

/-- The reading after an argument that is no flag. -/
def meetPlain (r : Reading) (argument : String) : Except UsageError Reading :=
  match r.pending with
  | some (f, none) => .ok { r with pending := some (f, some argument) }
  | _ => .error .unknownArgument

/-- The reading after one more argument. -/
def meet (r : Reading) (argument : String) : Except UsageError Reading :=
  if r.isTrailing then .error .unknownArgument
  else match argument.toList with
    | ['-', '-'] => .ok { r with isTrailing := true }
    | '-' :: '-' :: text => r.meetLong text
    | '-' :: letter :: rest => r.meetLetter letter rest
    | _ => r.meetPlain argument

/-! ## Environment -/

/-- The reading in which an environment variable stands in for a flag that is not given. -/
def standIn (environment : NameMap String) (r : Reading) (f : Flag) :
    Except UsageError Reading :=
  if r.given.any (·.1 = f) then .ok r
  else match f.variableName?.bind environment.get? with
    | some value => r.give f value
    | none => .ok r

/-- The value of a flag. -/
def value? (r : Reading) (f : Flag) : Option String := r.given.lookup f

/-- Whether a switch is on. -/
def isOn (r : Reading) (f : Flag) : Bool := (r.value? f).bind Flag.switch? == some true

end Reading

/-! ## Arguments -/

/-- What a command line says. -/
structure Arguments where
  file : Option String
  directory : Option String
  serve : Bool
  mode : Option Mode
  output : Option String
  port : Option Nat
  jobLimit : Option Nat
  logPrefix : Option String
  quiet : Bool
  debug : Bool
  profile : Bool
deriving DecidableEq, Repr

namespace Arguments

/-- The arguments of a finished reading. -/
def ofReading (r : Reading) : Arguments where
  file := r.value? .file
  directory := r.value? .directory
  serve := r.isOn .serve
  mode := (r.value? .mode).bind Flag.mode?
  output := r.value? .output
  port := (r.value? .port).bind Flag.port?
  jobLimit := (r.value? .jobLimit).bind Flag.jobLimit?
  logPrefix := r.value? .logPrefix
  quiet := r.isOn .quiet
  debug := r.isOn .debug
  profile := r.isOn .profile

/-- The arguments of a command line in an environment. -/
def read (environment : NameMap String) (arguments : List String) :
    Except UsageError Arguments := do
  let r ← arguments.foldlM Reading.meet {}
  let r ← r.settle
  return ofReading (← Flag.all.foldlM (Reading.standIn environment) r)

/-- The number of files that are loaded at once: the limit, or one for each processor, and never
    fewer than one. -/
def effectiveJobLimit (limit : Option Nat) (processors : Nat) : Nat :=
  max (limit.getD processors) 1

end Arguments

end Bundler.CommandLine
