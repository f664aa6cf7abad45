import QueryHooks.Yaml.Property
import QueryHooks.Yaml.Scalar.Block
import QueryHooks.Yaml.Scalar.Plain
import QueryHooks.Yaml.Scalar.Quoted

/-!
From text to tokens. A mapping key is recognised only at the colon after it, so every place where a key
may have started is remembered, and the tokens before it are put in later.
-/

namespace QueryHooks.Yaml

/-- A place where a mapping key may have started. A required one must turn out to be a key. -/
structure KeyPlace where
  depth : Nat
  tokensBefore : Nat
  required : Bool
  index : Nat
  line : Nat
  column : Nat

/-- Tokens read so far, last first, and what decides how reading goes on. -/
structure Stream where
  cursor : Cursor
  tokens : List Token
  count : Nat
  flow : Nat
  indent : Int
  indents : List Int
  keyAllowed : Bool
  keys : List KeyPlace

namespace Stream

def ofText (chars : List Char) : Stream := ⟨.ofText chars, [], 0, 0, -1, [], true, []⟩

def push (s : Stream) (t : Token) : Stream := { s with tokens := t :: s.tokens, count := s.count + 1 }

/-- Put a token after the first `place` tokens. -/
def insertAt (s : Stream) (place : Nat) (t : Token) : Stream :=
  let newer := s.count - place
  { s with tokens := s.tokens.take newer ++ t :: s.tokens.drop newer, count := s.count + 1 }

def column (s : Stream) : Int := Int.ofNat s.cursor.column

def inBlock (s : Stream) : Bool := s.flow == 0

/-- Close the block collections that are indented more than a column. -/
def closeTo (column : Int) (indents : List Int) (s : Stream) : Stream :=
  match indents with
  | [] => s
  | outer :: more =>
      if column < s.indent then
        closeTo column more ({ s with indent := outer, indents := more }.push .blockEnd)
      else s

def closeBlocks (s : Stream) (column : Int) : Stream :=
  if s.inBlock then closeTo column s.indents s else s

/-- Open a block collection at a column, if it is indented more than the one around it. -/
def opens (s : Stream) (column : Int) : Bool := decide (s.indent < column)

def openAt (s : Stream) (column : Int) : Stream :=
  { s with indent := column, indents := s.indent :: s.indents }

/-- Forget the possible key of the present depth. -/
def dropKey (s : Stream) : Except Failure Stream :=
  if s.keys.any fun k => k.depth == s.flow && k.required then malformed .keyWithoutColon
  else .ok { s with keys := s.keys.filter fun k => k.depth != s.flow }

/-- A key ends on its line, within 1024 characters. -/
def isStale (s : Stream) (k : KeyPlace) : Bool := k.line != s.cursor.line || 1024 < s.cursor.index - k.index

def dropStaleKeys (s : Stream) : Except Failure Stream :=
  if s.keys.any fun k => s.isStale k && k.required then malformed .keyWithoutColon
  else .ok { s with keys := s.keys.filter fun k => !s.isStale k }

/-- Remember that a key may start here. -/
def noteKey (s : Stream) : Except Failure Stream :=
  if !s.keyAllowed then .ok s
  else do
    let s ← s.dropKey
    let place : KeyPlace :=
      ⟨s.flow, s.count, s.inBlock && s.indent == s.column, s.cursor.index, s.cursor.line, s.cursor.column⟩
    return { s with keys := place :: s.keys }

/-- Pass over spaces, comments and line breaks. In a block, a key may start on a new line. -/
def skipGaps (fuel : Nat) (s : Stream) : Stream :=
  match fuel with
  | 0 => s
  | fuel + 1 =>
      let here := s.cursor.skipSpaces.skipComment
      match here.lineBreak with
      | (none, _) => { s with cursor := here }
      | (some _, next) =>
          skipGaps fuel { s with cursor := next, keyAllowed := s.keyAllowed || s.inBlock }

def moveTo (s : Stream) (c : Cursor) : Stream := { s with cursor := c }

/-- End what stands before a directive, a document mark or the end of the text. -/
def endBlocks (s : Stream) : Except Failure Stream := do
  let s ← (s.closeBlocks (-1)).dropKey
  return { s with keyAllowed := false }

def readDirective (s : Stream) : Except Failure Stream := do
  let s ← s.endBlocks
  let (d, next) ← directive s.cursor
  return (s.push (.directive d)).moveTo next

def readSeparator (s : Stream) (t : Token) : Except Failure Stream := do
  let s ← s.endBlocks
  return (s.push t).moveTo (s.cursor.advanceBy 3)

def openFlow (s : Stream) (t : Token) : Except Failure Stream := do
  let s ← s.noteKey
  return ({ s with flow := s.flow + 1, keyAllowed := true }.push t).moveTo s.cursor.advance

def closeFlow (s : Stream) (t : Token) : Except Failure Stream := do
  let s ← s.dropKey
  return ({ s with flow := s.flow - 1, keyAllowed := false }.push t).moveTo s.cursor.advance

def readFlowEntry (s : Stream) : Except Failure Stream := do
  let s ← s.dropKey
  return ({ s with keyAllowed := true }.push .flowEntry).moveTo s.cursor.advance

/-- Open the block collection that an indicator at the present column starts, where it may start one. -/
def startCollection (s : Stream) (start : Token) (problem : Problem) : Except Failure Stream :=
  if !s.inBlock then .ok s
  else if !s.keyAllowed then malformed problem
  else if s.opens s.column then .ok ((s.openAt s.column).push start)
  else .ok s

def readBlockEntry (s : Stream) : Except Failure Stream := do
  let s ← s.startCollection .blockSequenceStart .misplacedEntry
  let s ← s.dropKey
  return ({ s with keyAllowed := true }.push .blockEntry).moveTo s.cursor.advance

def readKey (s : Stream) : Except Failure Stream := do
  let s ← s.startCollection .blockMappingStart .misplacedKey
  let s ← s.dropKey
  return ({ s with keyAllowed := s.inBlock }.push .key).moveTo s.cursor.advance

/-- A colon makes a key of what started at the remembered place; without one, it starts an entry of its own. -/
def readValue (s : Stream) : Except Failure Stream := do
  match s.keys.find? fun k => k.depth == s.flow with
  | some place =>
      let s := { s with keys := s.keys.filter (fun k => k.depth != s.flow), keyAllowed := false }
      let s := s.insertAt place.tokensBefore .key
      let column := Int.ofNat place.column
      let s :=
        if s.inBlock && s.opens column then
          (s.openAt column).insertAt place.tokensBefore .blockMappingStart
        else s
      return (s.push .value).moveTo s.cursor.advance
  | none =>
      let s ← s.startCollection .blockMappingStart .misplacedValue
      let s ← { s with keyAllowed := s.inBlock }.dropKey
      return (s.push .value).moveTo s.cursor.advance

/-- A token at which a key may start and after which none may. -/
def readKeyed (s : Stream) (read : Cursor → Except Failure (Token × Cursor)) : Except Failure Stream := do
  let s ← s.noteKey
  let (t, next) ← read s.cursor
  return ({ s with keyAllowed := false }.push t).moveTo next

def readBlockScalar (s : Stream) (folded : Bool) : Except Failure Stream := do
  let s ← { s with keyAllowed := true }.dropKey
  let (text, next) ← Block.read folded s.indent s.cursor
  return (s.push (.scalar text false)).moveTo next

def readPlain (s : Stream) : Except Failure Stream := do
  let s ← s.noteKey
  let (text, newLine, next) := Plain.read (!s.inBlock) (s.indent + 1) s.cursor
  return ({ s with keyAllowed := newLine }.push (.scalar text true)).moveTo next

def named (token : String → Token) (c : Cursor) : Except Failure (Token × Cursor) := do
  let (name, next) ← anchorName c
  return (token name, next)

def tagged (c : Cursor) : Except Failure (Token × Cursor) := do
  let (t, next) ← writtenTag c
  return (.tag t, next)

def quoted (double : Bool) (c : Cursor) : Except Failure (Token × Cursor) := do
  let (text, next) ← Quoted.read double c
  return (.scalar text false, next)

def readToken (s : Stream) : Except Failure Stream :=
  let c := s.cursor
  let first := c.peek
  let lone := isWideGap (c.peekAt 1)
  if c.column == 0 && first == '%' then s.readDirective
  else if c.column == 0 && c.atSeparator then
    s.readSeparator (if first == '-' then .documentStart else .documentEnd)
  else if first == '[' then s.openFlow .flowSequenceStart
  else if first == '\x7b' then s.openFlow .flowMappingStart
  else if first == ']' then s.closeFlow .flowSequenceEnd
  else if first == '\x7d' then s.closeFlow .flowMappingEnd
  else if first == ',' then s.readFlowEntry
  else if first == '-' && lone then s.readBlockEntry
  else if first == '?' && (lone || !s.inBlock) then s.readKey
  else if first == ':' && (lone || !s.inBlock) then s.readValue
  else if first == '*' then s.readKeyed (named .alias)
  else if first == '&' then s.readKeyed (named .anchor)
  else if first == '!' then s.readKeyed tagged
  else if first == '|' && s.inBlock then s.readBlockScalar false
  else if first == '>' && s.inBlock then s.readBlockScalar true
  else if first == '\x27' then s.readKeyed (quoted false)
  else if first == '"' then s.readKeyed (quoted true)
  else if Plain.starts (!s.inBlock) c then s.readPlain
  else malformed (.strayCharacter first)

/-- Read on to the next token, or to the end. -/
def step (s : Stream) : Except Failure Stream := do
  let s ← (s.skipGaps (s.cursor.left + 1)).dropStaleKeys
  let s := s.closeBlocks s.column
  if s.cursor.rest.isEmpty then
    let s ← s.endBlocks
    return s.push .streamEnd
  else s.readToken

/--
The tokens that are certain before the next one is read, in order. A token at which a key may have started
is not, because others may still be put in before it; nor is any after it.
-/
def settled (s : Stream) : List Token :=
  let undecided := s.keys.filter fun k => k.required || !s.isStale k
  undecided.foldl (fun tokens k => tokens.take k.tokensBefore) s.tokens.reverse

/-- The tokens of a text in order, and the failure that ended reading early, if one did. -/
def run (fuel : Nat) (s : Stream) : List Token × Option Failure :=
  match fuel with
  | 0 => (s.tokens.reverse, none)
  | fuel + 1 =>
      match s.step with
      | .error failure => (s.settled, some failure)
      | .ok next =>
          match next.tokens with
          | .streamEnd :: _ => (next.tokens.reverse, none)
          | _ => run fuel next

end Stream

/-- Characters that a YAML text may hold. -/
def isAllowed (c : Char) : Bool :=
  let n := c.toNat
  n == 9 || n == 10 || n == 13 || (32 ≤ n && n ≤ 126) || n == 0x85 || (0xA0 ≤ n && n ≤ 0xD7FF) ||
    (0xE000 ≤ n && n ≤ 0xFFFD) || (0x10000 ≤ n && !Text.Half.isHalf c)

/-- The tokens of a text. A byte order mark at its start is passed over. -/
def tokens (chars : List Char) : List Token × Option Failure :=
  match chars.find? (!isAllowed ·) with
  | some c => ([], some (.malformed (.unprintable c)))
  | none =>
      let start := Stream.ofText chars
      let start := if chars.head? == some '\uFEFF' then start.moveTo start.cursor.advance else start
      start.run (chars.length + 1)

end QueryHooks.Yaml
