import Bundler.Path

set_option autoImplicit false

/-! # Settings that make no configuration -/

namespace Bundler

/-- Why settings make no configuration. -/
inductive ConfigurationError
  | duplicateEntry (name : String)
  | emptyTransforms (rule : String)
  | environmentVariableNotFound (name : String)
  | invalidPattern (name : String)
  | invalidValue (name value : String)
  | missingEntry
  | outputOverlapsSource (directory source : Path)
  | ruleTestMissing (rule : String)
  | transformNotFound (rule transform : String)
  | unknownRuleVariable (rule name : String)
  | unknownVariable (name : String)
deriving DecidableEq, Repr

/-- The message for settings that make no configuration. -/
def ConfigurationError.message : ConfigurationError → String
  | .duplicateEntry name => "entry \"" ++ name ++ "\" defined twice"
  | .emptyTransforms rule => "rule \"" ++ rule ++ "\" uses no transforms"
  | .environmentVariableNotFound name => "environment variable \"" ++ name ++ "\" not defined"
  | .invalidPattern name => "invalid regular expression in \"" ++ name ++ "\""
  | .invalidValue name value => "invalid value \"" ++ value ++ "\" for \"" ++ name ++ "\""
  | .missingEntry => "no entry defined"
  | .outputOverlapsSource directory source =>
    "output directory " ++ directory.text ++ " contains source " ++ source.text
  | .ruleTestMissing rule => "rule \"" ++ rule ++ "\" has no test"
  | .transformNotFound rule transform =>
    "transform \"" ++ transform ++ "\" used by rule \"" ++ rule ++ "\" not found"
  | .unknownRuleVariable rule name =>
    "unknown variable \"" ++ name ++ "\" in rule \"" ++ rule ++ "\""
  | .unknownVariable name => "unknown variable \"" ++ name ++ "\""

end Bundler
