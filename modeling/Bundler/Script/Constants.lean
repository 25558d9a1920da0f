import Bundler.NameMap
import Bundler.Script.Span

set_option autoImplicit false

/-! # Constants of scripts

Constants are replaced by their literals where their names stand in the code of a script; comments
and strings are left as they are. Of several names at one place the longest counts, and what was
inserted is not looked at again. A name that starts or ends with a letter, digit or underscore must
start or end there at a word boundary. -/

namespace Bundler.Script

/-- The constants of a project: their names and literals. -/
abbrev Constants := NameMap String

/-- Characters at which the end of a name asks for a word boundary. -/
def needsBoundary (c : Char) : Bool := Unicode.isAlphanumeric c || c == '_'

/-- Whether a word begins or ends between two characters. -/
def isBoundary (before after : Option Char) : Bool :=
  before.any Unicode.isWord != after.any Unicode.isWord

/-- Whether a name stands at the start of a text after the character `before`. -/
def standsAt (name : List Char) (before : Option Char) (text : List Char) : Bool :=
  name.isPrefixOf text &&
    (!name.head?.any needsBoundary || isBoundary before name.head?) &&
    (!name.getLast?.any needsBoundary ||
      isBoundary name.getLast? (text.drop name.length).head?)

/-- Names with their literals, longer names first. -/
def byLength (constants : Constants) : List (List Char × List Char) :=
  let sorted := constants.toList.mergeSort fun a b => b.1.utf8ByteSize ≤ a.1.utf8ByteSize
  sorted.map fun e => (e.1.toList, e.2.toList)

/-- The constant that stands at the start of a text. -/
def constantAt? (names : List (List Char × List Char)) (before : Option Char)
    (text : List Char) : Option (List Char × List Char) :=
  names.find? fun e => standsAt e.1 before text

/-- The last of some characters, or else the one before them. -/
def lastOr (before : Option Char) (text : List Char) : Option Char :=
  text.getLast?.or before

/-- The code with its constants replaced, after what is `done`, last character first. An empty name
    stands everywhere but directly after another replaced name (`fresh` is false there). -/
def replaceCode (names : List (List Char × List Char)) (done : List Char) (before : Option Char)
    (fresh : Bool) (text : List Char) : List Char :=
  match text, constantAt? names before text with
  | [], some ([], literal) => if fresh then (literal.reverse ++ done).reverse else done.reverse
  | [], _ => done.reverse
  | c :: rest, some ([], literal) =>
    let done := if fresh then literal.reverse ++ done else done
    replaceCode names (c :: done) (some c) true rest
  | _ :: rest, some (n :: name, literal) =>
    replaceCode names (literal.reverse ++ done) (lastOr (some n) name) false
      (rest.drop name.length)
  | c :: rest, none => replaceCode names (c :: done) (some c) true rest
termination_by text.length
decreasing_by
  all_goals simp only [List.length_cons, List.length_drop]
  all_goals omega

/-- A span with its constants replaced. -/
def Span.replace (names : List (List Char × List Char)) : Span → List Char
  | .code text => replaceCode names [] none true text
  | .literal text => text

/-- A script with its constants replaced by their literals. -/
def replaceConstants (constants : Constants) (source : String) : String :=
  let names := byLength constants
  .ofList ((spans source.toList).flatMap (Span.replace names))

end Bundler.Script
