import Bundler.Pattern.Regex

set_option autoImplicit false

/-! # Reading regular expressions

The notation of patterns: literals, escapes, brackets with set operations, groups, alternatives,
greedy and lazy repetitions, and flags that hold from where they stand to the end of their group.
There is no looking around and no reference back to a group; a pattern that uses them, or that is
malformed, too deep or too large, is no pattern. -/

namespace Bundler.Pattern

/-! ## Flags and the place of reading -/

/-- The flags that change what the rest of a group means. -/
structure Flags where
  ignoreCase : Bool
  multiLine : Bool
  dotAll : Bool
  unicode : Bool
  crlf : Bool
  ignoreSpace : Bool

/-- The flags at the start of a pattern. -/
def Flags.initial : Flags := ⟨false, false, false, true, false, false⟩

/-- The text that is left, the flags that hold and the names of the groups so far. -/
structure Cursor where
  rest : List Char
  flags : Flags
  names : List String

namespace Cursor

/-- The cursor with another rest. -/
def withRest (s : Cursor) (rest : List Char) : Cursor := { s with rest := rest }

/-- The text after white space and comments. -/
def dropSpace : Nat → List Char → List Char
  | 0, text => text
  | fuel + 1, text =>
    match text with
    | '#' :: rest => dropSpace fuel ((rest.dropWhile (· ≠ '\n')).drop 1)
    | c :: rest => if Unicode.isSpace c then dropSpace fuel rest else text
    | [] => []

/-- The cursor after white space and comments, where the flags ignore them. -/
def skipSpace (s : Cursor) : Cursor :=
  if s.flags.ignoreSpace then s.withRest (dropSpace s.rest.length s.rest) else s

/-- The cursor after one character and ignored space. -/
def bump (s : Cursor) : Cursor := (s.withRest (s.rest.drop 1)).skipSpace

/-- The character after the next one, not counting ignored space. -/
def peekSpace (s : Cursor) : Option Char :=
  if s.flags.ignoreSpace then
    match (s.rest.drop 1).dropWhile Unicode.isSpace with
    | '#' :: rest =>
      match rest.dropWhile Unicode.isSpace with
      | c :: _ => some c
      | [] => some '#'
    | c :: _ => some c
    | [] => none
  else (s.rest.drop 1).head?

end Cursor

/-! ## Numbers -/

/-- The value of a hexadecimal digit of either case. -/
def hexValue? (c : Char) : Option Nat :=
  if '0' ≤ c ∧ c ≤ '9' then some (c.toNat - '0'.toNat)
  else if 'a' ≤ c ∧ c ≤ 'f' then some (c.toNat - 'a'.toNat + 10)
  else if 'A' ≤ c ∧ c ≤ 'F' then some (c.toNat - 'A'.toNat + 10)
  else none

/-- The number that some digits of a base write. -/
def ofDigits (base : Nat) (digits : List Nat) : Nat := digits.foldl (fun n d => base * n + d) 0

/-- Characters read one after the other, as long as they are of a class. -/
def spanBump (p : Char → Bool) : Nat → Cursor → List Char × Cursor
  | 0, s => ([], s)
  | fuel + 1, s =>
    match s.rest with
    | c :: _ =>
      if p c then
        let (more, s) := spanBump p fuel s.bump
        (c :: more, s)
      else ([], s)
    | [] => ([], s)

/-- A decimal number of 32 bits; nothing in front of the cursor if there is no digit. -/
def readDecimal (s : Cursor) : Option (Option Nat × Cursor) :=
  let s := s.withRest (s.rest.dropWhile Unicode.isSpace)
  let (digits, s) := spanBump Unicode.isAsciiDigit s.rest.length s
  let s := s.withRest (s.rest.dropWhile Unicode.isSpace)
  if digits.isEmpty then some (none, s)
  else
    let n := ofDigits 10 (digits.filterMap hexValue?)
    if n < UInt32.size then some (some n, s) else none

/-- The character of some hexadecimal digits. -/
def charOfHex? (digits : List Char) : Option Char :=
  let n := ofDigits 16 (digits.filterMap hexValue?)
  if h : n.isValidChar then some (Char.ofNatAux n h) else none

/-! ## Escapes -/

/-- A literal character; `byte` marks the escapes that stand for one byte. -/
structure Literal where
  char : Char
  byte : Bool

/-- What a single character or escape stands for. -/
inductive Primitive
  | literal (l : Literal)
  | dot
  | assertion (condition : Assertion)
  | chars (set : CharSet)

/-- Characters with a meaning of their own, which an escape takes away. -/
def isMeta (c : Char) : Bool := "\\.+*?()|[]\x7b\x7d^$#&-~".toList.contains c

/-- Characters that an escape leaves as they are. -/
def isEscapable (c : Char) : Bool :=
  isMeta c || (c.toNat < 0x80 && !(Unicode.isAsciiLetter c || Unicode.isAsciiDigit c ||
    c == '<' || c == '>'))

/-- The closure of a set under letter case, where the flags ask for it. -/
def foldFlagged (flags : Flags) (set : CharSet) : CharSet :=
  if flags.ignoreCase then .folded (!flags.unicode) set else set

/-- The complement of a set, if it is negated. -/
def negateIf (negated : Bool) (set : CharSet) : CharSet :=
  if negated then .complement set else set

/-- A code point written with a fixed number of digits or between braces. -/
def readHex (digits : Nat) (s : Cursor) : Option (Literal × Cursor) :=
  match s.rest with
  | '\x7b' :: _ => do
    let (found, s) := spanBump (fun c => (hexValue? c).isSome) s.rest.length s.bump
    guard (s.rest.head? == some '\x7d' && !found.isEmpty)
    let c ← charOfHex? found
    some (⟨c, false⟩, s.bump)
  | _ => do
    let found := s.rest.take digits
    let (found, s) :=
      if s.flags.ignoreSpace then
        let (found, s) := spanBump (fun c => (hexValue? c).isSome) digits s
        (found, s)
      else (found, s.withRest (s.rest.drop digits))
    guard (found.length == digits && found.all fun c => (hexValue? c).isSome)
    let c ← charOfHex? found
    some (⟨c, digits == 2⟩, s)

/-- The parts of a text before and after the first place where a sign stands. -/
def cutAt? (sign : List Char) : List Char → Option (List Char × List Char)
  | [] => none
  | c :: rest =>
    if sign.isPrefixOf (c :: rest) then some ([], (c :: rest).drop sign.length)
    else (cutAt? sign rest).map fun (before, after) => (c :: before, after)

/-- The set of a property, and whether its name negates it. -/
def propertyOf? (name : List Char) : Option (Bool × CharSet) :=
  match cutAt? ['!', '='] name, cutAt? [':'] name, cutAt? ['='] name with
  | some (property, value), _, _ =>
    (CharSet.propertyValue? (.ofList property) (.ofList value)).map (true, ·)
  | none, some (property, value), _ | none, none, some (property, value) =>
    (CharSet.propertyValue? (.ofList property) (.ofList value)).map (false, ·)
  | none, none, none => (CharSet.property? (.ofList name)).map (false, ·)

/-- The class of characters with a property, after `\p` or `\P`. -/
def readProperty (negated : Bool) (s : Cursor) : Option (CharSet × Cursor) := do
  guard s.flags.unicode
  match s.rest with
  | '\x7b' :: _ =>
    let (name, s) := spanBump (· ≠ '\x7d') s.rest.length s.bump
    guard (!s.rest.isEmpty)
    let (inverted, set) ← propertyOf? name
    some (negateIf (negated != inverted) (foldFlagged s.flags set), s.withRest (s.rest.drop 1))
  | c :: _ =>
    guard (c ≠ '\\')
    let set ← CharSet.property? (.singleton c)
    some (negateIf negated (foldFlagged s.flags set), s.bump)
  | [] => none

/-- The kinds of word boundary that a name between braces asks for. -/
def namedBoundary? (unicode : Bool) (name : String) : Option Assertion :=
  match name with
  | "start" => some (.wordStart unicode)
  | "end" => some (.wordEnd unicode)
  | "start-half" => some (.wordStartHalf unicode)
  | "end-half" => some (.wordEndHalf unicode)
  | _ => none

/-- A word boundary after `\b`, with the name of its kind if one follows. -/
def readBoundary (s : Cursor) : Option (Assertion × Cursor) :=
  let isNameChar (c : Char) := Unicode.isAsciiLetter c || c == '-'
  match s.rest with
  | '\x7b' :: _ => do
    let inner := s.bump
    let first ← inner.rest.head?
    if isNameChar first then
      let (name, after) := spanBump isNameChar inner.rest.length inner
      guard (after.rest.head? == some '\x7d')
      let boundary ← namedBoundary? s.flags.unicode (.ofList name)
      some (boundary, after.withRest (after.rest.drop 1))
    else some (.wordBoundary s.flags.unicode, s)
  | _ => some (.wordBoundary s.flags.unicode, s)

/-- The characters of a class of digits, white space or word characters. In bytes, a class that
    holds more than ASCII is refused. -/
def perlClass? (flags : Flags) (negated : Bool) (set : CharSet) : Option Primitive := do
  guard (flags.unicode || !negated)
  some (.chars (negateIf negated set))

/-- What an escape stands for, after its backslash. -/
def readEscape (s : Cursor) : Option (Primitive × Cursor) := do
  let c ← s.rest.head?
  let u := s.flags.unicode
  let after := s.withRest (s.rest.drop 1)
  let char (c : Char) : Option (Primitive × Cursor) := some (.literal ⟨c, false⟩, after)
  let assertion (a : Assertion) : Option (Primitive × Cursor) := some (.assertion a, after)
  match c with
  | 'x' => do let (l, s) ← readHex 2 s.bump; some (.literal l, s)
  | 'u' => do let (l, s) ← readHex 4 s.bump; some (.literal l, s)
  | 'U' => do let (l, s) ← readHex 8 s.bump; some (.literal l, s)
  | 'p' => do let (set, s) ← readProperty false s.bump; some (.chars set, s)
  | 'P' => do let (set, s) ← readProperty true s.bump; some (.chars set, s)
  | 'd' => do some (← perlClass? s.flags false (.digits u), after)
  | 'D' => do some (← perlClass? s.flags true (.digits u), after)
  | 's' => do some (← perlClass? s.flags false (.space u), after)
  | 'S' => do some (← perlClass? s.flags true (.space u), after)
  | 'w' => do some (← perlClass? s.flags false (.word u), after)
  | 'W' => do some (← perlClass? s.flags true (.word u), after)
  | 'a' => char '\x07'
  | 'f' => char '\x0C'
  | 't' => char '\t'
  | 'n' => char '\n'
  | 'r' => char '\r'
  | 'v' => char '\x0B'
  | 'A' => assertion .textStart
  | 'z' => assertion .textEnd
  | 'b' => do let (a, s) ← readBoundary after; some (.assertion a, s)
  | 'B' => assertion (.noWordBoundary u)
  | '<' => assertion (.wordStart u)
  | '>' => assertion (.wordEnd u)
  | _ => if isEscapable c then char c else none

/-! ## Brackets -/

/-- A set between brackets with the depth of its nesting. -/
structure SetNode where
  set : CharSet
  height : Nat

/-- The operations between sets. -/
inductive SetOperation
  | intersection
  | difference
  | symmetricDifference

/-- The set of a literal in a bracket. In bytes it is an ASCII character. -/
def literalSet? (flags : Flags) (l : Literal) : Option CharSet := do
  guard (flags.unicode || l.char.toNat < 0x80)
  some (.single l.char)

/-- One character or escape inside brackets. -/
def readSetPrimitive (s : Cursor) : Option (Primitive × Cursor) :=
  match s.rest with
  | '\\' :: rest => readEscape (s.withRest rest)
  | c :: rest => some (.literal ⟨c, false⟩, s.withRest rest)
  | [] => none

/-- A range, or one item that is none. -/
def readRange (s : Cursor) : Option (SetNode × Cursor) := do
  let (first, s) ← readSetPrimitive s
  let s := s.skipSpace
  let next ← s.rest.head?
  let ahead := s.peekSpace
  if next ≠ '-' ∨ ahead = some ']' ∨ ahead = some '-' then
    match first with
    | .literal l => some (⟨← literalSet? s.flags l, 0⟩, s)
    | .chars set => some (⟨set, 0⟩, s)
    | _ => none
  else
    let (last, s) ← readSetPrimitive s.bump
    match first, last with
    | .literal lo, .literal hi =>
      guard (lo.char ≤ hi.char && (s.flags.unicode || hi.char.toNat < 0x80))
      some (⟨.between lo.char hi.char, 0⟩, s)
    | _, _ => none

/-- A named class of ASCII characters, such as `[:alpha:]`, after its first bracket. -/
def readNamedClass (s : Cursor) : Option (SetNode × Cursor) := do
  let rest ← if s.rest.head? = some ':' then some (s.rest.drop 1) else none
  let (negated, rest) := if rest.head? = some '^' then (true, rest.drop 1) else (false, rest)
  let name := rest.takeWhile (· ≠ ':')
  let rest := rest.dropWhile (· ≠ ':')
  guard ([':', ']'].isPrefixOf rest)
  let set ← CharSet.asciiClass? (.ofList name)
  some (⟨negateIf negated (foldFlagged s.flags set), 0⟩, s.withRest (rest.drop 2))

/-- The union of the items read so far, last one first. -/
def unionNode (items : List SetNode) : SetNode :=
  match items with
  | [] => ⟨.none, 0⟩
  | [item] => item
  | _ => ⟨.unions (items.map (·.set)), 1 + (items.map (·.height)).foldl max 0⟩

/-- The operands read so far joined with the one that ends. -/
def joinNode (flags : Flags) (left : Option (SetOperation × SetNode)) (right : SetNode) : SetNode :=
  match left with
  | none => right
  | some (operation, left) =>
    let a := foldFlagged flags left.set
    let b := foldFlagged flags right.set
    let set := match operation with
      | .intersection => CharSet.intersection a b
      | .difference => .difference a b
      | .symmetricDifference => .symmetricDifference a b
    ⟨set, 1 + max left.height right.height⟩

/-- The hyphens at the start of a bracket, which stand for themselves. -/
def leadingHyphens : Nat → Cursor → List SetNode × Cursor
  | 0, s => ([], s)
  | fuel + 1, s =>
    if s.rest.head? = some '-' then
      let (more, s) := leadingHyphens fuel s.bump
      (⟨.single '-', 0⟩ :: more, s)
    else ([], s)

/-- The start of a bracket, after its first sign: whether it is negated, and the hyphens or the
    closing bracket that stand for themselves there. -/
def openBracket (s : Cursor) : Bool × List SetNode × Cursor :=
  let s := s.skipSpace
  let (negated, s) := if s.rest.head? = some '^' then (true, s.bump) else (false, s)
  let (hyphens, s) := leadingHyphens s.rest.length s
  if hyphens.isEmpty ∧ s.rest.head? = some ']' then (negated, [⟨.single ']', 0⟩], s.bump)
  else (negated, hyphens, s)

/-- The rest of a bracket. `items` are the members since the last operation, last one first. -/
def readBracket : Nat → Bool → List SetNode → Option (SetOperation × SetNode) → Cursor →
    Option (SetNode × Cursor)
  | 0, _, _, _, _ => none
  | fuel + 1, negated, items, left, s =>
    let s := s.skipSpace
    let operate (operation : SetOperation) :=
      readBracket fuel negated [] (some (operation, joinNode s.flags left (unionNode items)))
        (s.withRest (s.rest.drop 2))
    match s.rest with
    | [] => none
    | '[' :: rest =>
      match readNamedClass (s.withRest rest) with
      | some (item, s) => readBracket fuel negated (item :: items) left s
      | none =>
        let (innerNegated, start, inner) := openBracket (s.withRest rest)
        match readBracket fuel innerNegated start.reverse none inner with
        | some (item, s) => readBracket fuel negated (item :: items) left s
        | none => none
    | ']' :: rest =>
      let node := joinNode s.flags left (unionNode items)
      some (⟨negateIf negated (foldFlagged s.flags node.set), 1 + node.height⟩, s.withRest rest)
    | '&' :: '&' :: _ => operate .intersection
    | '-' :: '-' :: _ => operate .difference
    | '~' :: '~' :: _ => operate .symmetricDifference
    | _ =>
      match readRange s with
      | some (item, s) => readBracket fuel negated (item :: items) left s
      | none => none

/-! ## Groups -/

/-- A part of a sequence, with the depth of its nesting. Flags are no part that can be repeated. -/
structure Piece where
  regex : Regex
  height : Nat
  isFlags : Bool

/-- What an opening parenthesis begins. -/
inductive Opening
  | flags
  | group

/-- The flags with one of them set or cleared. -/
def Flags.set? (flags : Flags) (letter : Char) (on : Bool) : Option Flags :=
  match letter with
  | 'i' => some { flags with ignoreCase := on }
  | 'm' => some { flags with multiLine := on }
  | 's' => some { flags with dotAll := on }
  | 'U' => some flags
  | 'u' => some { flags with unicode := on }
  | 'R' => some { flags with crlf := on }
  | 'x' => some { flags with ignoreSpace := on }
  | _ => none

/-- Flags up to a colon or a closing parenthesis. `seen` are the letters so far, of which none may
    come twice; a hyphen, which clears what follows, must be followed by a letter. -/
def readFlags (flags : Flags) (on : Bool) (seen : List Char) :
    List Char → Option (Flags × List Char × List Char)
  | [] => none
  | c :: rest =>
    if c = ':' ∨ c = ')' then
      if seen.head? = some '-' then none else some (flags, seen, c :: rest)
    else if seen.contains c then none
    else if c = '-' then readFlags flags false (c :: seen) rest
    else match flags.set? c on with
      | some flags => readFlags flags on (c :: seen) rest
      | none => none

/-- Characters that a group's name may start with. -/
def isGroupStart (c : Char) : Bool := c == '_' || Unicode.isAlphabetic c

/-- Characters of a group's name after the first. -/
def isGroupChar (c : Char) : Bool :=
  c == '_' || c == '.' || c == '[' || c == ']' || Unicode.isAlphanumeric c

/-- The name of a group up to its closing angle. No two groups have the same name. -/
def readGroupName (s : Cursor) : Option Cursor := do
  let name := s.rest.takeWhile (· ≠ '>')
  let rest := s.rest.dropWhile (· ≠ '>')
  let first ← name.head?
  guard (rest.head? = some '>' ∧ isGroupStart first ∧ name.tail.all isGroupChar)
  guard (!s.names.contains (.ofList name))
  some { s with rest := rest.drop 1, names := .ofList name :: s.names }

/-- What follows an opening parenthesis up to the contents of the group. -/
def readOpening (s : Cursor) : Option (Opening × Cursor) :=
  let s := s.skipSpace
  match s.rest with
  | '?' :: 'P' :: '<' :: rest => (readGroupName (s.withRest rest)).map (.group, ·)
  | '?' :: '<' :: rest => do
    guard (rest.head? ≠ some '=' ∧ rest.head? ≠ some '!')
    (readGroupName (s.withRest rest)).map (.group, ·)
  | '?' :: rest => do
    let (flags, seen, rest) ← readFlags s.flags true [] rest
    if rest.head? = some ')' then
      guard (!seen.isEmpty)
      some (.flags, { s with flags := flags, rest := rest.drop 1 })
    else some (.group, { s with flags := flags, rest := rest.drop 1 })
  | _ => some (.group, s)

/-! ## Repetitions -/

/-- The bounds of a counted repetition, after its opening brace. -/
def readBounds (s : Cursor) : Option (Nat × Option Nat × Cursor) := do
  let (least, s) ← readDecimal s.skipSpace
  let least ← least
  match s.rest with
  | ',' :: _ =>
    let s := s.bump
    if s.rest.head? = some '\x7d' then some (least, none, s)
    else
      let (most, s) ← readDecimal s
      let most ← most
      guard (s.rest.head? = some '\x7d' ∧ least ≤ most)
      some (least, some most, s)
  | '\x7d' :: _ => some (least, some least, s)
  | _ => none

/-- The text after a question mark that makes a repetition lazy. -/
def dropLazy (s : Cursor) : Cursor :=
  if s.rest.head? = some '?' then s.withRest (s.rest.drop 1) else s

/-- The last piece of a sequence repeated; there must be one, and it must not be flags. -/
def repeatLast (pieces : List Piece) (least : Nat) (most : Option Nat) : Option (List Piece) :=
  match pieces with
  | [] => none
  | p :: rest =>
    if p.isFlags then none else some (⟨.repeated p.regex least most, p.height + 1, false⟩ :: rest)

/-! ## Sequences and alternatives -/

/-- The expression of a literal outside brackets. In bytes, an escape beyond ASCII is refused. -/
def literalRegex? (flags : Flags) (l : Literal) : Option Regex := do
  guard (flags.unicode || !l.byte || l.char.toNat < 0x80)
  some (.set (foldFlagged flags (.single l.char)))

/-- The expression of a dot. In bytes it would match half a character and is refused. -/
def dotRegex? (flags : Flags) : Option Regex := do
  guard flags.unicode
  let breaks : CharSet :=
    if flags.dotAll then .none
    else if flags.crlf then .union (.single '\n') (.single '\r')
    else .single '\n'
  some (.set (.complement breaks))

/-- The expression of a character or escape. -/
def Primitive.regex? (flags : Flags) : Primitive → Option Regex
  | .literal l => literalRegex? flags l
  | .dot => dotRegex? flags
  | .assertion condition => some (.assert condition)
  | .chars set => some (.set set)

/-- A single character or escape outside brackets. -/
def readPrimitive (s : Cursor) : Option (Primitive × Cursor) :=
  match s.rest with
  | '\\' :: rest => readEscape (s.withRest rest)
  | '.' :: rest => some (.dot, s.withRest rest)
  | '^' :: rest =>
    let a := if s.flags.multiLine then Assertion.lineStart s.flags.crlf else .textStart
    some (.assertion a, s.withRest rest)
  | '$' :: rest =>
    let a := if s.flags.multiLine then Assertion.lineEnd s.flags.crlf else .textEnd
    some (.assertion a, s.withRest rest)
  | c :: rest => some (.literal ⟨c, false⟩, s.withRest rest)
  | [] => none

/-- The sequence of some pieces, last one first. -/
def sequence (pieces : List Piece) : Piece :=
  match pieces with
  | [] => ⟨.empty, 0, false⟩
  | [p] => p
  | p :: rest =>
    ⟨rest.foldl (fun r q => .seq q.regex r) p.regex, 1 + (pieces.map (·.height)).foldl max 0, false⟩

/-- The alternatives of some branches, last one first. -/
def alternatives (branches : List Piece) : Piece :=
  match branches with
  | [] => ⟨.empty, 0, false⟩
  | [b] => b
  | b :: rest =>
    ⟨rest.foldl (fun r q => .alt q.regex r) b.regex, 1 + (branches.map (·.height)).foldl max 0,
      false⟩

/-- Alternatives up to a closing parenthesis or the end. `pieces` is the branch so far and
    `branches` those before it, last one first. -/
def readAlternatives : Nat → List Piece → List Piece → Cursor → Option (Piece × Cursor)
  | 0, _, _, _ => none
  | fuel + 1, pieces, branches, s =>
    let s := s.skipSpace
    let after := s.withRest (s.rest.drop 1)
    match s.rest with
    | [] | ')' :: _ => some (alternatives (sequence pieces :: branches), s)
    | '|' :: _ => readAlternatives fuel [] (sequence pieces :: branches) after
    | '(' :: _ =>
      match readOpening after with
      | none => none
      | some (.flags, s) =>
        readAlternatives fuel (⟨.empty, 0, true⟩ :: pieces) branches s
      | some (.group, inner) =>
        match readAlternatives fuel [] [] inner with
        | none => none
        | some (group, inner) =>
          if inner.rest.isEmpty then none
          else
            readAlternatives fuel (⟨group.regex, group.height + 1, false⟩ :: pieces) branches
              { inner with rest := inner.rest.drop 1, flags := s.flags }
    | '[' :: _ =>
      let (negated, start, inner) := openBracket after
      match readBracket fuel negated start.reverse none inner with
      | none => none
      | some (node, s) =>
        if s.flags.unicode || node.set.isAscii then
          readAlternatives fuel (⟨.set node.set, node.height, false⟩ :: pieces) branches s
        else none
    | '?' :: _ =>
      match repeatLast pieces 0 (some 1) with
      | some pieces => readAlternatives fuel pieces branches (dropLazy after)
      | none => none
    | '*' :: _ =>
      match repeatLast pieces 0 none with
      | some pieces => readAlternatives fuel pieces branches (dropLazy after)
      | none => none
    | '+' :: _ =>
      match repeatLast pieces 1 none with
      | some pieces => readAlternatives fuel pieces branches (dropLazy after)
      | none => none
    | '\x7b' :: _ =>
      match readBounds after with
      | none => none
      | some (least, most, s) =>
        match repeatLast pieces least most with
        | some pieces => readAlternatives fuel pieces branches (dropLazy s.bump)
        | none => none
    | _ =>
      match readPrimitive s with
      | none => none
      | some (p, rest) =>
        match p.regex? s.flags with
        | some r => readAlternatives fuel (⟨r, 0, false⟩ :: pieces) branches rest
        | none => none

/-! ## Whole patterns -/

/-- The deepest nesting that a pattern may have. -/
def maxHeight : Nat := 250

/-- The most bytes that the states of a pattern may take. -/
def maxCost : Nat := 10 * 1024 * 1024

/-- The expression of a pattern. -/
def read? (source : String) : Option Regex := do
  let text := source.toList
  let (piece, s) ← readAlternatives (text.length + 1) [] [] ⟨text, .initial, []⟩
  guard (s.rest.isEmpty ∧ piece.height ≤ maxHeight ∧ piece.regex.cost ≤ maxCost)
  some piece.regex

end Bundler.Pattern
