set_option autoImplicit false

/-! # Statements of a settings file

A settings file is a list of statements, one a line; a rule is followed by its own indented
settings. `Statement.render` is the plain written form: one space between words, one after each
`=`, two before a setting of a rule. -/

namespace Bundler.Settings

/-- A name and the value given to it. -/
structure Setting where
  name : String
  value : String
deriving DecidableEq, Repr

/-- One statement of a settings file. -/
inductive Statement
  /-- References that begin with `start` are looked for at `path`. -/
  | aliasFor (start path : String)
  /-- A constant that scripts are compiled with. -/
  | define (name literal : String)
  /-- An entry of the application. -/
  | entry (name path : String)
  /-- A constant whose value comes from the environment. -/
  | environment (name : String) (default : Option String)
  /-- How files of one kind are transformed. -/
  | rule (name : String) (settings : List Setting)
  /-- A setting of the whole project. -/
  | setting (given : Setting)
deriving DecidableEq, Repr

/-! ## Written form -/

/-- The line of a setting. -/
def Setting.render (s : Setting) : String := s.name ++ " = " ++ s.value ++ "\n"

/-- The lines of a statement. -/
def Statement.render : Statement → String
  | .aliasFor start path => "alias " ++ start ++ " = " ++ path ++ "\n"
  | .define name literal => "define " ++ name ++ " = " ++ literal ++ "\n"
  | .entry name path => "entry " ++ name ++ " = " ++ path ++ "\n"
  | .environment name none => "env " ++ name ++ "\n"
  | .environment name (some value) => "env " ++ name ++ " = " ++ value ++ "\n"
  | .rule name settings =>
    "rule " ++ name ++ "\n" ++ String.join (settings.map fun s => "  " ++ s.render)
  | .setting s => s.render

/-- The text of a settings file. -/
def render (statements : List Statement) : String :=
  String.join (statements.map Statement.render)

end Bundler.Settings
