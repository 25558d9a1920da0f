import Bundler.Configuration.Basic
import Bundler.Configuration.Error
import Bundler.Settings.Statement
import Bundler.Text.Quoted
import Bundler.Text.Words

set_option autoImplicit false

/-! # The configuration of a settings file

Statements are taken in order into a draft; the first that is wrong decides the error. A setting
given twice has its last value, and so has a constant. What the finished draft says is then checked
value by value. No output directory may hold the project's root, an entry or the template, since
the output replaces the whole directory. -/

namespace Bundler.Configuration

open Settings

/-! ## Choices made outside the settings file -/

/-- Choices that win over the settings file. -/
structure Overrides where
  mode : Option Mode := none
  output : Option Path := none
  port : Option Nat := none

/-! ## Defaults -/

/-- The settings that a project may make. -/
def knownSettings : List String :=
  ["output", "port", "public_path", "template", "extensions", "vendor", "split_vendor",
    "deterministic_ids", "compress", "compression_threshold", "static", "unhandled",
    "history_fallback"]

/-- The extensions that are tried by default. -/
def defaultExtensions : String := ".tsx .ts .js .jsx"

/-- The paths of modules that come from packages. -/
def defaultVendor : String := "[\\\\/]node_modules[\\\\/]"

/-- The files that are compressed by default. -/
def defaultCompress : String := "\\.js$|\\.css$|\\.html$"

/-- The size above which files are compressed by default. -/
def defaultThreshold : Nat := 10240

/-- The port of the development server by default. -/
def defaultPort : Nat := 3000

/-! ## Values -/

/-- A pattern, or the error that names where it stands. -/
def pattern (name source : String) : Except ConfigurationError Pattern :=
  match Pattern.ofSource? source with
  | some p => .ok p
  | none => .error (.invalidPattern name)

/-- A truth value. -/
def boolean (settings : NameMap String) (name : String) (default : Bool) :
    Except ConfigurationError Bool :=
  match settings.get? name with
  | none => .ok default
  | some "true" => .ok true
  | some "false" => .ok false
  | some value => .error (.invalidValue name value)

/-- The number that decimal digits write, with or without a plus sign before them. -/
def decimal? (text : String) : Option Nat :=
  let digits := match text.toList with
    | '+' :: rest => rest
    | chars => chars
  if !digits.isEmpty && digits.all Unicode.isAsciiDigit then
    some (digits.foldl (fun n d => 10 * n + (d.toNat - '0'.toNat)) 0)
  else none

/-- A number below a bound. -/
def number (settings : NameMap String) (name : String) (bound default : Nat) :
    Except ConfigurationError Nat :=
  match settings.get? name with
  | none => .ok default
  | some value => match decimal? value with
    | some n => if n < bound then .ok n else .error (.invalidValue name value)
    | none => .error (.invalidValue name value)

/-- The extensions that a value lists, each with a dot in front and listed once. -/
def extensions (value : String) : List String :=
  let dotted (extension : String) :=
    if extension.toList.head? = some '.' then extension else "." ++ extension
  ((Text.words value).map dotted).eraseDups

/-- What happens to files that nothing handles. -/
def unhandledPolicy (settings : NameMap String) : Except ConfigurationError UnhandledPolicy :=
  match settings.get? "unhandled" with
  | none | some "error" => .ok .error
  | some "copy" => .ok .copy
  | some value => .error (.invalidValue "unhandled" value)

/-! ## Rules -/

/-- A rule whose settings are read up to some point. -/
structure RuleDraft where
  test : Option Pattern := none
  exclude : Option Pattern := none
  transforms : Option String := none

/-- The draft of a rule after one more setting. -/
def RuleDraft.add (rule : String) (draft : RuleDraft) (s : Setting) :
    Except ConfigurationError RuleDraft :=
  match s.name with
  | "test" => do return { draft with test := some (← pattern "test" s.value) }
  | "exclude" => do return { draft with exclude := some (← pattern "exclude" s.value) }
  | "use" => .ok { draft with transforms := some s.value }
  | name => .error (.unknownRuleVariable rule name)

/-- A transform that a rule names, if it is registered. -/
def registered (registry : Registry) (rule transform : String) :
    Except ConfigurationError String :=
  if registry.contains transform then .ok transform
  else .error (.transformNotFound rule transform)

/-- The rule of some settings. It needs a test and at least one transform. -/
def ruleOf (registry : Registry) (name : String) (settings : List Setting) :
    Except ConfigurationError Rule := do
  let draft ← settings.foldlM (RuleDraft.add name) {}
  match draft.test with
  | none => .error (.ruleTestMissing name)
  | some test =>
    let transforms ← (Text.words (draft.transforms.getD "")).mapM (registered registry name)
    if transforms.isEmpty then .error (.emptyTransforms name)
    else .ok ⟨name, test, draft.exclude, transforms⟩

/-! ## Drafts -/

/-- The statements of a settings file up to some point. -/
structure Draft where
  settings : NameMap String := .empty
  entries : List Entry := []
  aliases : List Alias := []
  constants : Script.Constants := .empty
  rules : List Rule := []

/-- The name of the constant of an environment variable. -/
def environmentConstant (name : String) : String := "process.env." ++ name

/-- A draft after one more statement. -/
def Draft.add (root : Path) (environment : NameMap String) (registry : Registry) (draft : Draft) :
    Statement → Except ConfigurationError Draft
  | .aliasFor start path =>
    .ok { draft with aliases := draft.aliases ++ [⟨start, root.join ⟨path⟩⟩] }
  | .define name literal => .ok { draft with constants := draft.constants.insert name literal }
  | .entry name path =>
    if draft.entries.any (·.name = name) then .error (.duplicateEntry name)
    else .ok { draft with entries := draft.entries ++ [⟨name, root.join ⟨path⟩⟩] }
  | .environment name default =>
    match (environment.get? name).or default with
    | none => .error (.environmentVariableNotFound name)
    | some value =>
      .ok { draft with
        constants := draft.constants.insert (environmentConstant name) (Text.quote value) }
  | .rule name settings => do
    let rule ← ruleOf registry name settings
    return { draft with rules := draft.rules ++ [rule] }
  | .setting s =>
    if knownSettings.contains s.name then
      .ok { draft with settings := draft.settings.insert s.name s.value }
    else .error (.unknownVariable s.name)

/-- Where the output of a draft goes. -/
def Draft.output (root : Path) (overrides : Overrides) (draft : Draft) : OutputPlace where
  directory := overrides.output.getD (root.join ⟨(draft.settings.get? "output").getD "dist"⟩)
  template := (draft.settings.get? "template").map fun path => root.join ⟨path⟩

/-- The first source that the output directory of a draft would replace. -/
def Draft.overlapped? (root : Path) (overrides : Overrides) (draft : Draft) : Option Path :=
  let output := draft.output root overrides
  let sources := root :: draft.entries.map Entry.path ++ output.template.toList
  sources.find? (·.isWithin output.directory)

/-- The configuration of a finished draft. -/
def Draft.finish (root : Path) (overrides : Overrides) (draft : Draft) :
    Except ConfigurationError Configuration := do
  let settings := draft.settings
  let output := draft.output root overrides
  if draft.entries.isEmpty then throw .missingEntry
  if let some source := draft.overlapped? root overrides then
    throw (.outputOverlapsSource output.directory source)
  let policy ← unhandledPolicy settings
  let splitVendor ← boolean settings "split_vendor" true
  let vendor ← pattern "vendor" ((settings.get? "vendor").getD defaultVendor)
  let deterministicIds ← boolean settings "deterministic_ids" true
  let compress ← pattern "compress" ((settings.get? "compress").getD defaultCompress)
  let threshold ← number settings "compression_threshold" UInt64.size defaultThreshold
  let port ← match overrides.port with
    | some port => .ok port
    | none => number settings "port" UInt16.size defaultPort
  let historyFallback ← boolean settings "history_fallback" true
  return {
    root := root
    entries := draft.entries
    resolution :=
      .ofAliases draft.aliases (extensions ((settings.get? "extensions").getD defaultExtensions))
    rules := draft.rules
    passthrough :=
      ⟨(extensions ((settings.get? "static").getD "")).map Unicode.lower, policy⟩
    output := output
    optimization := ⟨splitVendor, vendor, deterministicIds, ⟨compress, threshold⟩⟩
    server := ⟨port, historyFallback⟩
    context := {
      mode := overrides.mode.getD .production
      publicPath := (settings.get? "public_path").getD "/"
      constants := draft.constants } }

/-- The configuration of some statements. -/
def ofStatements (root : Path) (environment : NameMap String) (overrides : Overrides)
    (registry : Registry) (statements : List Statement) :
    Except ConfigurationError Configuration := do
  let draft ← statements.foldlM (Draft.add root environment registry) {}
  draft.finish root overrides

end Bundler.Configuration
