import Bundler.Pattern
import Bundler.Transform.Basic

set_option autoImplicit false

/-! # Configurations

What a project is built from, where it goes, and how references are resolved, files transformed and
modules grouped. Of all rules the first that matches a file decides its transforms; a file without
a rule is a module or an asset by its extension, or is not handled. Of all aliases the first that
applies to a reference is used, and longer ones come first. -/

namespace Bundler

/-! ## Resolution -/

/-- References that begin with `start` are looked for at `target`. -/
structure Alias where
  start : String
  target : Path
deriving DecidableEq, Repr

namespace Alias

/-- The path that a reference stands for: the target itself, or what the reference names below it.
    The text after `start` must begin with a slash, unless `start` ends with one. -/
def path? (a : Alias) (reference : String) : Option Path :=
  let start := a.start.toList
  if start.isPrefixOf reference.toList then
    match reference.toList.drop start.length with
    | [] => some a.target
    | '/' :: rest => some (a.target.join ⟨.ofList rest⟩)
    | rest => if start.getLast? = some '/' then some (a.target.join ⟨.ofList rest⟩) else none
  else none

/-- Longer starts come first; equally long ones are in byte order. -/
def precedes (a b : Alias) : Bool :=
  b.start.utf8ByteSize < a.start.utf8ByteSize ||
    (a.start.utf8ByteSize == b.start.utf8ByteSize && decide (a.start ≤ b.start))

end Alias

/-- How references are resolved: aliases in the order in which they are tried, and the extensions
    that are tried after a reference. -/
structure Resolution where
  aliases : List Alias
  extensions : List String
deriving DecidableEq, Repr

namespace Resolution

/-- The resolution by some aliases, given in any order. -/
def ofAliases (aliases : List Alias) (extensions : List String) : Resolution :=
  ⟨aliases.mergeSort Alias.precedes, extensions⟩

/-- The path of the first alias that applies to a reference. -/
def aliasedPath? (r : Resolution) (reference : String) : Option Path :=
  r.aliases.findSome? (·.path? reference)

end Resolution

/-! ## Rules -/

/-- The transforms of the files whose paths match `test` and do not match `exclude`. -/
structure Rule where
  name : String
  test : Pattern
  exclude : Option Pattern
  transforms : List String

/-- Whether a rule holds for a path. -/
def Rule.matches (r : Rule) (p : Path) : Bool :=
  r.test.isMatch p.text && !r.exclude.any (·.isMatch p.text)

/-! ## Files without a rule -/

/-- What happens to a file that nothing else handles. -/
inductive UnhandledPolicy
  | copy
  | error
deriving DecidableEq, Repr

/-- What a file without a rule is passed as. -/
inductive PassthroughKind
  | module
  | asset
deriving DecidableEq, Repr

/-- How files without a rule are passed on. -/
structure Passthrough where
  staticExtensions : List String
  policy : UnhandledPolicy
deriving DecidableEq, Repr

namespace Passthrough

/-- Extensions that always mark a module. -/
def nativeExtensions : List String := [".mjs", ".cjs"]

/-- The extension of a file in lower case, with its dot. -/
def extensionOf? (p : Path) : Option String := p.extension?.map fun e => "." ++ Unicode.lower e

/-- What a file is passed as, given the extensions of modules. -/
def classify? (pass : Passthrough) (moduleExtensions : List String) (p : Path) :
    Option PassthroughKind :=
  let isListed (extensions : List String) := (extensionOf? p).any extensions.contains
  if isListed moduleExtensions || isListed nativeExtensions then some .module
  else if isListed pass.staticExtensions || pass.policy = .copy then some .asset
  else none

end Passthrough

/-! ## Output -/

/-- Where the output goes, and the document that scripts are put into. -/
structure OutputPlace where
  directory : Path
  template : Option Path
deriving DecidableEq, Repr

/-- Which emitted files get a compressed companion: those whose names match and that have more
    bytes than the threshold. -/
structure Compression where
  test : Pattern
  threshold : Nat

/-- How modules are grouped and named. -/
structure Optimization where
  splitVendor : Bool
  vendor : Pattern
  deterministicIds : Bool
  compression : Compression

/-- How the development server answers. -/
structure ServerSettings where
  port : Nat
  historyFallback : Bool
deriving DecidableEq, Repr

/-! ## Whole configurations -/

/-- A named place where the application starts. -/
structure Entry where
  name : String
  path : Path
deriving DecidableEq, Repr

/-- Everything a build depends on besides the files. -/
structure Configuration where
  root : Path
  entries : List Entry
  resolution : Resolution
  rules : List Rule
  passthrough : Passthrough
  output : OutputPlace
  optimization : Optimization
  server : ServerSettings
  context : TransformContext

namespace Configuration

/-- The first rule that holds for a path. -/
def rule? (c : Configuration) (p : Path) : Option Rule := c.rules.find? (·.matches p)

/-- The name of the entry that the document starts, if there is one of that name. -/
def mainEntryName : String := "main"

/-- The entry that the document starts. -/
def startEntry (c : Configuration) : Option Entry :=
  (c.entries.find? (·.name = mainEntryName)).or c.entries.head?

end Configuration

end Bundler
