set_option autoImplicit false

/-! # Paths

A path keeps the text it was written with, since messages show that text. What a path means is its
list of components: repeated and trailing slashes and inner `.` segments do not count, so two texts
with the same components name the same thing (`Path.same`). A leading `.` of a relative path is a
component of its own, and `..` is kept as it stands.

`Path.isWithin` compares paths after dropping `.` and letting each `..` remove the name before it,
without looking at any file. -/

namespace Bundler

/-- A path as it was written. -/
structure Path where
  text : String
deriving DecidableEq, Inhabited, Repr

namespace Path

/-- What a path is made of. -/
inductive Component
  | root
  | current
  | parent
  | name (text : String)
deriving DecidableEq, Repr

/-! ## Segments -/

/-- The texts between slashes, empty ones included. -/
def splitSlash (text : List Char) : List (List Char) :=
  text.foldr
    (fun c segments =>
      if c = '/' then [] :: segments
      else match segments with
        | first :: rest => (c :: first) :: rest
        | [] => [[c]])
    [[]]

/-- Whether a path starts at the root. -/
def isAbsolute (p : Path) : Bool := p.text.toList.head? == some '/'

/-- The segments of a path after the slash of its root, if it has one. -/
def segments (p : Path) : List (List Char) :=
  match p.text.toList with
  | '/' :: rest => splitSlash rest
  | text => splitSlash text

/-- The component that a segment stands for, inside a path. -/
def innerComponent (segment : List Char) : Option Component :=
  if segment = [] ∨ segment = ['.'] then none
  else if segment = ['.', '.'] then some .parent
  else some (.name (.ofList segment))

/-- The components of a path. -/
def components (p : Path) : List Component :=
  let inner := p.segments.filterMap innerComponent
  if p.isAbsolute then .root :: inner
  else if p.segments.head? = some ['.'] then .current :: inner
  else inner

/-- Whether two paths have the same components. -/
def same (p q : Path) : Bool := p.components == q.components

/-- Whether the components of `p` begin with those of `q`. -/
def startsWith (p q : Path) : Bool := q.components.isPrefixOf p.components

/-- The components of `p` after those of `q`, if `p` starts with `q`. -/
def componentsAfter? (p q : Path) : Option (List Component) :=
  if p.startsWith q then some (p.components.drop q.components.length) else none

/-! ## Joining -/

/-- `q` seen from `p`: an absolute path replaces `p`, any other is appended after one slash. -/
def join (p q : Path) : Path :=
  if q.isAbsolute then q
  else if p.text.isEmpty || p.text.toList.getLast? == some '/' then ⟨p.text ++ q.text⟩
  else ⟨p.text ++ "/" ++ q.text⟩

/-- `p` with a text added to its last segment. -/
def append (p : Path) (ending : String) : Path := ⟨p.text ++ ending⟩

/-! ## Directories above a path -/

/-- Whether the last of these reversed segments is a component: a `.` is one only as the first
    segment of a relative path. -/
def countsLast (relative : Bool) (segment : List Char) (before : List (List Char)) : Bool :=
  !segment.isEmpty && (segment != ['.'] || (relative && before.isEmpty))

/-- Reversed segments without those at the end that are no components. -/
def dropUncounted (relative : Bool) : List (List Char) → List (List Char)
  | [] => []
  | segment :: before =>
    if countsLast relative segment before then segment :: before
    else dropUncounted relative before

/-- The path of reversed segments. -/
def ofReversed (relative : Bool) (segments : List (List Char)) : Path :=
  ⟨(if relative then "" else "/") ++ "/".intercalate (segments.reverse.map String.ofList)⟩

/-- The directories above the last of the given reversed segments, nearest first. -/
def above (relative : Bool) : List (List Char) → List Path
  | [] => []
  | segment :: before =>
    if countsLast relative segment before then
      ofReversed relative (dropUncounted relative before) :: above relative before
    else above relative before

/-- A path and all directories above it, nearest first. -/
def ancestors (p : Path) : List Path :=
  p :: above (!p.isAbsolute) p.segments.reverse

/-- The directory that a path lies in; the root and the empty path lie in none. -/
def parent? (p : Path) : Option Path := (above (!p.isAbsolute) p.segments.reverse).head?

/-! ## File names -/

/-- The last component, if it is a name. -/
def fileName? (p : Path) : Option String :=
  match p.components.getLast? with
  | some (.name text) => some text
  | _ => none

/-- A file name cut at its last dot, unless that dot is its first character. -/
def cutExtension (name : String) : String × Option String :=
  let after := (name.toList.reverse.takeWhile (· ≠ '.')).reverse
  let before := (name.toList.reverse.dropWhile (· ≠ '.')).drop 1
  if before.isEmpty then (name, none) else (.ofList before.reverse, some (.ofList after))

/-- What precedes the last dot of the file name. -/
def stem? (p : Path) : Option String := p.fileName?.map (cutExtension · |>.1)

/-- What follows the last dot of the file name. -/
def extension? (p : Path) : Option String := p.fileName?.bind (cutExtension · |>.2)

/-- The path of a file of the given name in the same directory. -/
def withFileName (p : Path) (name : String) : Path :=
  match p.fileName?, p.parent? with
  | some _, some directory => directory.join ⟨name⟩
  | _, _ => p.join ⟨name⟩

/-! ## Lexical containment -/

/-- One component seen from a reversed list of components without `.` and `..`. -/
def stepLexical (stack : List Component) : Component → List Component
  | .current => stack
  | .parent => match stack with
    | .name _ :: rest => rest
    | _ => stack
  | c => c :: stack

/-- The components of a path after each `..` has removed the name before it. -/
def lexical (p : Path) : List Component :=
  (p.components.foldl stepLexical []).reverse

/-- Whether a path is a directory or inside it, comparing names only. -/
def isWithin (p directory : Path) : Bool := directory.lexical.isPrefixOf p.lexical

/-! ## Project-relative paths -/

/-- The name that a component has in a project-relative path. -/
def Component.relativeName? : Component → Option String
  | .name text => some text
  | .parent => some ".."
  | .root | .current => none

/-- A path seen from a root directory, with one slash between names; a path outside the root keeps
    all its names. -/
def relativeTo (root p : Path) : String :=
  let rest := (p.componentsAfter? root).getD p.components
  "/".intercalate (rest.filterMap Component.relativeName?)

end Path

end Bundler
