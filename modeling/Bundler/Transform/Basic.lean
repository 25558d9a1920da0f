import Bundler.Bytes.Equality
import Bundler.Mode
import Bundler.NameMap
import Bundler.Path
import Bundler.Script.Constants

set_option autoImplicit false

/-! # Transforms

A transform turns the content of a file into the content of a module and reports what the module
depends on: other modules, by reference, and assets, which are emitted as files of their own. A
rule names a chain of transforms; each takes the content that the one before it gave, and the
dependencies of all of them add up. Transforms are looked up by name in a registry. -/

namespace Bundler

/-! ## What transforms give -/

/-- A file that a module needs beside itself. -/
structure Asset where
  fileName : String
  content : ByteArray
deriving DecidableEq

/-- What a module depends on. -/
inductive Dependency
  | reference (text : String)
  | asset (file : Asset)
deriving DecidableEq

/-- The content of a module and its dependencies. -/
structure Transformed where
  content : ByteArray
  dependencies : List Dependency
deriving DecidableEq

namespace Transformed

/-- The references among the dependencies. -/
def references (t : Transformed) : List String :=
  t.dependencies.filterMap fun
    | .reference text => some text
    | .asset _ => none

/-- The assets among the dependencies. -/
def assets (t : Transformed) : List Asset :=
  t.dependencies.filterMap fun
    | .reference _ => none
    | .asset file => some file

end Transformed

/-- What transforms know about the project. -/
structure TransformContext where
  mode : Mode
  publicPath : String
  constants : Script.Constants

/-! ## Failures -/

/-- Why a transform does not take a content. -/
inductive Refusal
  | notUtf8
  | because (message : String)
deriving DecidableEq, Repr

/-- The message of a refusal. -/
def Refusal.message : Refusal → String
  | .notUtf8 => "content is not valid UTF-8"
  | .because message => message

/-- Why a file could not be transformed. -/
inductive TransformCause
  | refused (refusal : Refusal)
  | notRegistered
  | moduleNotUtf8
deriving DecidableEq, Repr

/-- The message of a cause. -/
def TransformCause.message : TransformCause → String
  | .refused refusal => refusal.message
  | .notRegistered => "transform not registered"
  | .moduleNotUtf8 => "module content is not valid UTF-8"

/-- A file that could not be transformed. -/
structure TransformError where
  path : Path
  transform : String
  cause : TransformCause
deriving DecidableEq, Repr

/-- The message for a file that could not be transformed. -/
def TransformError.message (e : TransformError) : String :=
  "transform \"" ++ e.transform ++ "\" failed on " ++ e.path.text ++ ": " ++ e.cause.message

/-! ## Transforms and their registry -/

/-- A named way of turning files into modules. -/
structure Transform where
  name : String
  run : TransformContext → Path → ByteArray → Except Refusal Transformed

namespace Transform

/-- One transform applied to what the chain before it gave. -/
def continueWith (context : TransformContext) (path : Path) (before : Transformed)
    (t : Transform) : Except TransformError Transformed :=
  match t.run context path before.content with
  | .ok next => .ok ⟨next.content, before.dependencies ++ next.dependencies⟩
  | .error refusal => .error ⟨path, t.name, .refused refusal⟩

/-- A chain of transforms applied to the content of a file. -/
def applyChain (context : TransformContext) (path : Path) (content : ByteArray)
    (chain : List Transform) : Except TransformError Transformed :=
  chain.foldlM (continueWith context path) ⟨content, []⟩

end Transform

/-- Transforms by name. -/
structure Registry where
  transforms : NameMap Transform

namespace Registry

/-- The registry of some transforms, each under its own name. -/
def ofList (transforms : List Transform) : Registry :=
  ⟨.ofList (transforms.map fun t => (t.name, t))⟩

/-- The transform of a name. -/
def get? (r : Registry) (name : String) : Option Transform := r.transforms.get? name

/-- Whether a name is registered. -/
def contains (r : Registry) (name : String) : Bool := r.transforms.contains name

/-- The registered names, in byte order. -/
def names (r : Registry) : List String := r.transforms.names

end Registry

end Bundler
