import QueryHooks.Yaml.Cursor

/-! Plain scalars: text without quotes. Lines fold into one; a comment, a mapping colon or a lesser indent ends it. -/

namespace QueryHooks.Yaml.Plain

def isFlowMark (c : Char) : Bool := c == ',' || c == '[' || c == ']' || c == '\x7b' || c == '\x7d'

/-- Whether a plain scalar can start here. -/
def starts (inFlow : Bool) (c : Cursor) : Bool :=
  let first := c.peek
  !(isWideGap first || "-?:,[]\x7b\x7d#&*!|>\x27\"%@\x60".contains first) ||
    (!isWideGap (c.peekAt 1) && (first == '-' || (!inFlow && (first == '?' || first == ':'))))

/-- The characters up to white space, a mapping colon or, inside a flow collection, one of its marks. -/
def word (inFlow : Bool) : List Char → List Char
  | [] => []
  | c :: rest =>
      let next := rest.headD endMark
      if isWideGap c || (c == ':' && (isWideGap next || (inFlow && isFlowMark next))) ||
          (inFlow && (isFlowMark c || c == '?')) then []
      else c :: word inFlow rest

/-- Line breaks after the first one, spaces between them passed over; `none` before a document separator. -/
def breaks (fuel : Nat) (c : Cursor) : Option (List Char) × Cursor :=
  match fuel with
  | 0 => (some [], c)
  | fuel + 1 =>
      if c.peek == ' ' then breaks fuel c.advance
      else
        match c.lineBreak with
        | (none, _) => (some [], c)
        | (some b, next) =>
            if next.atSeparator then (none, next)
            else
              let (more, last) := breaks fuel next
              (more.map (b :: ·), last)

/-- One line break folds into a space, several into one less. -/
def fold (first : Char) (more : List Char) : List Char :=
  if first != '\n' then first :: more
  else if more.isEmpty then [' ']
  else more

/-- White space between two words: what it stands for, and whether a line ended in it. -/
structure Gap where
  text : List Char
  newLine : Bool

def gap (c : Cursor) : Gap × Cursor :=
  let (spaces, next) := c.span (· == ' ')
  match next.lineBreak with
  | (none, _) => (⟨spaces, false⟩, next)
  | (some first, after) =>
      if after.atSeparator then (⟨[], true⟩, after)
      else
        match breaks after.left after with
        | (none, last) => (⟨[], true⟩, last)
        | (some more, last) => (⟨fold first more, true⟩, last)

/-- The words from here, after the white space `before`; `newLine` tells whether a line ended since the last word. -/
def words (inFlow : Bool) (indent : Int) (before : List Char) (newLine : Bool) (fuel : Nat) (c : Cursor) :
    List Char × Bool × Cursor :=
  match fuel with
  | 0 => ([], newLine, c)
  | fuel + 1 =>
      let chars := if c.peek == '#' then [] else word inFlow c.rest
      if chars.isEmpty then ([], newLine, c)
      else
        let (space, next) := gap (c.advanceBy chars.length)
        if space.text.isEmpty || next.peek == '#' || (!inFlow && Int.ofNat next.column < indent) then
          (before ++ chars, space.newLine, next)
        else
          let (more, newLine, last) := words inFlow indent space.text space.newLine fuel next
          (before ++ chars ++ more, newLine, last)

def read (inFlow : Bool) (indent : Int) (c : Cursor) : String × Bool × Cursor :=
  let (chars, newLine, last) := words inFlow indent [] false c.left c
  (String.ofList chars, newLine, last)

end QueryHooks.Yaml.Plain
