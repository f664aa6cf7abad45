import QueryHooks.Text.Class
import QueryHooks.Text.Integer
import QueryHooks.Text.Utf8
import QueryHooks.Yaml.Cursor

/-! The tokens of a YAML text. -/

namespace QueryHooks.Yaml

inductive Directive
  | version (major : Nat)
  | handle (name uri : String)
  | other
deriving Repr

/-- A tag as written: with a handle that stands for the start of a longer tag, or complete. -/
structure WrittenTag where
  handle : Option String
  suffix : String
deriving Repr

inductive Token
  | streamEnd
  | directive (d : Directive)
  | documentStart
  | documentEnd
  | blockSequenceStart
  | blockMappingStart
  | blockEnd
  | flowSequenceStart
  | flowSequenceEnd
  | flowMappingStart
  | flowMappingEnd
  | flowEntry
  | blockEntry
  | key
  | value
  | alias (anchor : String)
  | anchor (name : String)
  | tag (t : WrittenTag)
  | scalar (text : String) (plain : Bool)
deriving Repr

/-! The properties of a node, anchors and tags, and the directives before a document. -/

open QueryHooks.Text (isAsciiUpper isAsciiLower isAsciiDigit hexValue?)

def isNameChar (c : Char) : Bool :=
  isAsciiUpper c || isAsciiLower c || isAsciiDigit c || c == '-' || c == '_'

def isUriChar (c : Char) : Bool :=
  isAsciiUpper c || isAsciiLower c || isAsciiDigit c || "-;/?:@&=+$,_.!~*\x27()[]%".contains c

def anchorName (c : Cursor) : Except Failure (String × Cursor) :=
  let (name, c) := c.advance.span isNameChar
  if name.isEmpty || !(isWideGap c.peek || "?:,]\x7d%@\x60".contains c.peek) then malformed .badAnchor
  else .ok (String.ofList name, c)

/-- The bytes of a run of `%` escapes. -/
def uriEscapes : List Char → Option (List UInt8 × List Char)
  | '%' :: high :: low :: rest =>
      match hexValue? high, hexValue? low with
      | some h, some l => (uriEscapes rest).map fun (bytes, after) => ((h * 16 + l).toUInt8 :: bytes, after)
      | _, _ => none
  | '%' :: _ => none
  | rest => some ([], rest)

theorem uriEscapes_length {chars : List Char} {bytes : List UInt8} {rest : List Char}
    (found : uriEscapes chars = some (bytes, rest)) :
    rest.length ≤ chars.length ∧ (chars.head? = some '%' → rest.length < chars.length) := by
  fun_induction uriEscapes chars generalizing bytes rest with
  | case1 high low tail _ _ _ _ ih =>
      simp only [Option.map_eq_some_iff, Prod.mk.injEq, Prod.exists] at found
      obtain ⟨inner, after, inside, _, same⟩ := found
      subst same
      have := ih inside
      simp only [List.length_cons]
      omega
  | case2 => simp at found
  | case3 => simp at found
  | case4 tail noEscape noMark =>
      simp only [Option.some.injEq, Prod.mk.injEq] at found
      obtain ⟨_, same⟩ := found
      subst same
      refine ⟨Nat.le_refl _, fun starts => ?_⟩
      cases tail with
      | nil => simp at starts
      | cons c more => simp_all

/-- The characters of a tag or of a tag's start, `%` escapes decoded. -/
def uriChars (chars : List Char) : Option (List Char × List Char) :=
  match chars with
  | [] => some ([], [])
  | '%' :: rest =>
      match _found : uriEscapes ('%' :: rest) with
      | none => none
      | some (bytes, after) =>
          match Text.Utf8.decode bytes with
          | .error _ => none
          | .ok decoded => (uriChars after).map fun (more, left) => (decoded ++ more, left)
  | c :: rest =>
      if isUriChar c then (uriChars rest).map fun (more, left) => (c :: more, left)
      else some ([], c :: rest)
termination_by chars.length
decreasing_by
  · exact (uriEscapes_length _found).2 rfl
  · simp

/-- A tag's characters from here; there must be one. -/
def uri (c : Cursor) : Except Failure (String × Cursor) :=
  match uriChars c.rest with
  | none => malformed .badTag
  | some (chars, rest) =>
      let next := c.advanceBy (c.rest.length - rest.length)
      if next.index == c.index then malformed .badTag else .ok (String.ofList chars, next)

/-- A handle: `!`, `!!` or a name between exclamation marks. -/
def tagHandle (c : Cursor) : Except Failure (String × Cursor) :=
  if c.peek != '!' then malformed .badTag
  else
    let afterMark := c.advance
    if afterMark.peek == ' ' then .ok ("!", afterMark)
    else
      let (name, next) := afterMark.span isNameChar
      if next.peek == '!' then .ok (String.ofList ('!' :: name ++ ['!']), next.advance)
      else malformed .badTag

def writtenTag (c : Cursor) : Except Failure (WrittenTag × Cursor) := do
  let next := c.peekAt 1
  let (tag, after) ←
    if next == '<' then do
      let (suffix, c) ← uri (c.advanceBy 2)
      if c.peek == '>' then pure (WrittenTag.mk none suffix, c.advance) else malformed .badTag
    else if isWideGap next then pure (WrittenTag.mk none "!", c.advance)
    else if ((c.rest.drop 1).takeWhile (!isGap ·)).contains '!' then do
      let (handle, c) ← tagHandle c
      let (suffix, c) ← uri c
      pure (WrittenTag.mk (some handle) suffix, c)
    else do
      let (suffix, c) ← uri c.advance
      pure (WrittenTag.mk (some "!") suffix, c)
  if isGap after.peek then return (tag, after) else malformed .badTag

def versionNumber (c : Cursor) : Except Failure (Nat × Cursor) :=
  let (digits, next) := c.span isAsciiDigit
  if digits.isEmpty then malformed .badDirective
  else if Text.Integer.maxDecimalDigits < digits.length then .error .unrepresentable
  else .ok (digits.foldl (fun n d => n * 10 + (d.toNat - 48)) 0, next)

/-- What follows the name of a directive. -/
def directiveBody (name : String) (c : Cursor) : Except Failure (Directive × Cursor) :=
  if name == "YAML" then do
    let (major, c) ← versionNumber c.skipSpaces
    if c.peek != '.' then malformed .badDirective
    else
      let (_, c) ← versionNumber c.advance
      if isGap c.peek then return (.version major, c) else malformed .badDirective
  else if name == "TAG" then do
    let (handle, c) ← tagHandle c.skipSpaces
    if c.peek != ' ' then malformed .badDirective
    else
      let (start, c) ← uri c.skipSpaces
      if isGap c.peek then return (.handle handle start, c) else malformed .badDirective
  else .ok (.other, c.skipWhile (!isBreakOrEnd ·))

def directive (c : Cursor) : Except Failure (Directive × Cursor) := do
  let (name, next) := c.advance.span isNameChar
  if name.isEmpty || !isGap next.peek then malformed .badDirective
  else
    let (d, next) ← directiveBody (String.ofList name) next
    let last := next.skipSpaces.skipComment
    if isBreakOrEnd last.peek then return (d, last.lineBreak.2) else malformed .badDirective

end QueryHooks.Yaml
