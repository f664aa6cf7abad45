/-! What can be wrong with a YAML text. -/

namespace QueryHooks.Yaml

inductive Problem
  | unprintable (c : Char)
  | strayCharacter (c : Char)
  | keyWithoutColon
  | misplacedEntry
  | misplacedKey
  | misplacedValue
  | badDirective
  | badAnchor
  | badTag
  | badBlockHeader
  | badEscape
  | unclosedQuote
  | separatorInQuote
  | missingDocumentStart
  | duplicateVersion
  | incompatibleVersion
  | duplicateHandle
  | undefinedHandle
  | missingNode
  | unclosedBlock
  | unclosedFlow
  | undefinedAlias (anchor : String)
  | duplicateAnchor (anchor : String)
  | severalDocuments
  | wrongKind (expected : String)
  | unknownTag (tag : String)
  | unhashableKey
  | badMerge
  | badBinary
  | badPair
deriving Repr

def Problem.message : Problem → String
  | .unprintable _ => "special characters are not allowed"
  | .strayCharacter _ => "found character that cannot start any token"
  | .keyWithoutColon => "could not find expected ':'"
  | .misplacedEntry => "sequence entries are not allowed here"
  | .misplacedKey => "mapping keys are not allowed here"
  | .misplacedValue => "mapping values are not allowed here"
  | .badDirective => "malformed directive"
  | .badAnchor => "malformed anchor or alias"
  | .badTag => "malformed tag"
  | .badBlockHeader => "malformed block scalar header"
  | .badEscape => "unknown escape sequence"
  | .unclosedQuote => "found unexpected end of stream"
  | .separatorInQuote => "found unexpected document separator"
  | .missingDocumentStart => "expected '<document start>'"
  | .duplicateVersion => "found duplicate YAML directive"
  | .incompatibleVersion => "found incompatible YAML document (version 1.* is required)"
  | .duplicateHandle => "duplicate tag handle"
  | .undefinedHandle => "found undefined tag handle"
  | .missingNode => "expected the node content"
  | .unclosedBlock => "expected <block end>"
  | .unclosedFlow => "expected ',' or the end of the collection"
  | .undefinedAlias anchor => s!"found undefined alias {anchor}"
  | .duplicateAnchor anchor => s!"found duplicate anchor {anchor}"
  | .severalDocuments => "expected a single document in the stream"
  | .wrongKind expected => s!"expected a {expected} node"
  | .unknownTag tag => s!"could not determine a constructor for the tag {tag}"
  | .unhashableKey => "found unhashable key"
  | .badMerge => "expected a mapping or list of mappings for merging"
  | .badBinary => "failed to decode base64 data"
  | .badPair => "expected a mapping of length 1"

/-- Why a text has no value: it is malformed, or a scalar's text does not denote what its tag promises. -/
inductive Failure
  | malformed (problem : Problem)
  | unrepresentable
deriving Repr

end QueryHooks.Yaml

/-! A place in a YAML text: what is left of it, and the index, line and column of its first character. -/

namespace QueryHooks.Yaml

/-- The character that stands for the end of a text. No text holds it. -/
def endMark : Char := '\x00'

def isBreak (c : Char) : Bool :=
  c == '\n' || c == '\r' || c == '\u0085' || c == '\u2028' || c == '\u2029'

def isBreakOrEnd (c : Char) : Bool := isBreak c || c == endMark

def isGap (c : Char) : Bool := c == ' ' || isBreakOrEnd c

def isWideGap (c : Char) : Bool := c == '\t' || isGap c

structure Cursor where
  rest : List Char
  /-- How many characters are left, kept so that nothing has to count them. -/
  left : Nat
  index : Nat
  line : Nat
  column : Nat
  left_eq : left = rest.length

namespace Cursor

def ofText (chars : List Char) : Cursor := ⟨chars, chars.length, 0, 0, 0, rfl⟩

def peek (c : Cursor) : Char := c.rest.headD endMark

def peekAt (c : Cursor) (n : Nat) : Char := c.rest.getD n endMark

/-- Step over one character. A byte order mark has no width. -/
def advance (c : Cursor) : Cursor :=
  match ahead : c.rest with
  | [] => c
  | first :: rest =>
      have left_eq : c.left - 1 = rest.length := by simp [c.left_eq, ahead]
      if first != '\r' && isBreak first || first == '\r' && rest.head? != some '\n' then
        ⟨rest, c.left - 1, c.index + 1, c.line + 1, 0, left_eq⟩
      else if first == '\uFEFF' then ⟨rest, c.left - 1, c.index + 1, c.line, c.column, left_eq⟩
      else ⟨rest, c.left - 1, c.index + 1, c.line, c.column + 1, left_eq⟩

def advanceBy (c : Cursor) : Nat → Cursor
  | 0 => c
  | n + 1 => c.advance.advanceBy n

/-- The longest run of characters of a class, and the place after it. -/
def span (c : Cursor) (isIn : Char → Bool) : List Char × Cursor :=
  let taken := c.rest.takeWhile isIn
  (taken, c.advanceBy taken.length)

def skipWhile (c : Cursor) (isIn : Char → Bool) : Cursor := (c.span isIn).2

def skipSpaces (c : Cursor) : Cursor := c.skipWhile (· == ' ')

/-- Step over a comment, if one starts here. -/
def skipComment (c : Cursor) : Cursor :=
  if c.peek == '#' then c.skipWhile (!isBreakOrEnd ·) else c

/-- Step over a line break, if there is one: every usual break reads as `\n`. -/
def lineBreak (c : Cursor) : Option Char × Cursor :=
  match c.rest with
  | '\r' :: '\n' :: _ => (some '\n', c.advanceBy 2)
  | first :: _ =>
      if first == '\u2028' || first == '\u2029' then (some first, c.advance)
      else if isBreak first then (some '\n', c.advance)
      else (none, c)
  | [] => (none, c)

/-- Whether a `---` or `...` with nothing directly after it starts here. -/
def atSeparator (c : Cursor) : Bool :=
  match c.rest with
  | '-' :: '-' :: '-' :: _ => isWideGap (c.peekAt 3)
  | '.' :: '.' :: '.' :: _ => isWideGap (c.peekAt 3)
  | _ => false

end Cursor

def malformed {α : Type} (problem : Problem) : Except Failure α := .error (.malformed problem)

end QueryHooks.Yaml
