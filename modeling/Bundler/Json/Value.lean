set_option autoImplicit false

/-! # JSON values

Numbers are not told apart: nothing depends on which number a value is. -/

namespace Bundler.Json

/-- A value of a JSON text. Members keep the order of the text. -/
inductive Value
  | null
  | bool (value : Bool)
  | number
  | text (value : String)
  | array (items : List Value)
  | object (members : List (String × Value))
deriving Inhabited, Repr

namespace Value

/-- The member of a name; of several, the last. -/
def member? (v : Value) (name : String) : Option Value :=
  match v with
  | .object members => members.reverse.lookup name
  | _ => none

/-- The text of a string. -/
def text? : Value → Option String
  | .text value => some value
  | _ => none

end Value

end Bundler.Json
