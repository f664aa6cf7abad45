import QueryHooks.Failure
import QueryHooks.Report.Literal
import QueryHooks.Report.Style
import QueryHooks.Text.Letters
import QueryHooks.Text.Lines
import QueryHooks.Text.Table.Emoji

/-! Emoji by name: a name between colons stands for its emoji. -/

namespace QueryHooks.Report.Emoji

def ofDigits (digits : List Char) : Char :=
  Char.ofNat (digits.foldl (fun value c => value * 16 + (Text.hexValue? c).getD 0) 0)

/-- The emoji of a name in small letters among the entries of a line. -/
def inLine? (name line : List Char) : Option (List Char) :=
  (Text.splitOn ' ' line).findSome? fun entry =>
    match Text.cutAt '=' entry with
    | (known, some points) =>
        if known == name then some ((Text.splitOn '-' points).map ofDigits) else none
    | _ => none

/-- The emoji of a name, in letters of either case. -/
def named? (name : List Char) : Option (List Char) := do
  let small := Text.lower name
  let lines ← Text.Table.emojis.lookup (← small.head?)
  lines.findSome? fun line => inLine? small line.toList

/-- A name between colons. It may end in the variant in which the emoji is to be shown. -/
structure Code where
  name : List Char
  selector : List Char
  length : Nat

/-- The code after its first colon. It ends at the next colon, and holds no white space. -/
def code? : List Char → Option Code
  | [] => none
  | ':' :: _ => some ⟨[], [], 1⟩
  | '-' :: 'e' :: 'm' :: 'o' :: 'j' :: 'i' :: ':' :: _ => some ⟨[], ['\uFE0F'], 7⟩
  | '-' :: 't' :: 'e' :: 'x' :: 't' :: ':' :: _ => some ⟨[], ['\uFE0E'], 6⟩
  | c :: rest =>
      if Text.isBlank c then none
      else (code? rest).map fun code => { code with name := c :: code.name, length := code.length + 1 }

/-- What a code is shown as. One without an emoji stays. -/
def Code.shown (code : Code) (chars : List Char) : List Char :=
  match named? code.name with
  | some emoji => emoji ++ code.selector
  | none => ':' :: chars.take code.length

/-- Show the codes of a text, of which some characters are passed over. -/
def replaceAfter (passed : Nat) : List Char → List Char
  | [] => []
  | c :: rest =>
      match passed with
      | passed + 1 => replaceAfter passed rest
      | 0 =>
          if c == ':' then
            match code? rest with
            | some code => code.shown rest ++ replaceAfter code.length rest
            | none => c :: replaceAfter 0 rest
          else c :: replaceAfter 0 rest

/-- The text in which each code that names an emoji is replaced by it. -/
def replace (chars : List Char) : List Char := replaceAfter 0 chars

end QueryHooks.Report.Emoji

/-!
Markup: a tag between brackets switches a style on, and one with a slash switches it off again. The plain
text of markup is what stands outside of tags.
-/

namespace QueryHooks.Report.Markup

def startsTag (c : Char) : Bool := Text.isAsciiLower c || c == '#' || c == '/' || c == '@'

/-- The tag after an opening bracket, and the text after its closing bracket. -/
def tag? (chars : List Char) : Option (List Char × List Char) :=
  match chars with
  | [] => none
  | first :: rest =>
      if !startsTag first then none
      else
        let isInside (c : Char) : Bool := c != '[' && c != ']'
        match rest.dropWhile isInside with
        | ']' :: after => some (first :: rest.takeWhile isInside, after)
        | _ => none

theorem tag?_length {chars name rest : List Char} (found : tag? chars = some (name, rest)) :
    rest.length < chars.length := by
  unfold tag? at found
  split at found
  · simp at found
  · next first tail =>
    split at found
    · simp at found
    · simp only at found
      split at found
      · next after dropped =>
        obtain ⟨_, same⟩ := Prod.mk.inj (Option.some.inj found)
        have shorter := (List.dropWhile_suffix (l := tail) (fun c => c != '[' && c != ']')).length_le
        rw [dropped] at shorter
        subst same
        simp only [List.length_cons] at shorter ⊢
        omega
      · simp at found

inductive Piece
  | literal (chars : List Char)
  | tag (chars : List Char)
deriving DecidableEq, Repr

/-- Drop the backslash before each bracket of a text without tags. -/
def unescape : List Char → List Char
  | [] => []
  | '\\' :: '[' :: rest => '[' :: unescape rest
  | c :: rest => c :: unescape rest

/-- The piece of a text without tags, if there is any text. -/
def literal (chars : List Char) : List Piece := if chars.isEmpty then [] else [.literal (unescape chars)]

/--
The pieces of markup, after a text without tags, last character first, and some backslashes. Of the backslashes
before a tag each pair stands for one, and one left over takes the tag as text.
-/
def piecesAfter (text : List Char) (slashes : Nat) (chars : List Char) : List Piece :=
  let backslashes := List.replicate slashes '\\'
  match chars with
  | [] => literal (backslashes ++ text).reverse
  | '\\' :: rest => piecesAfter text (slashes + 1) rest
  | '[' :: rest =>
      match _found : tag? rest with
      | some (name, after) =>
          let shown := if slashes % 2 == 1 then .literal ('[' :: name ++ [']']) else .tag name
          literal text.reverse ++ literal (List.replicate (slashes / 2) '\\') ++ shown :: piecesAfter [] 0 after
      | none => piecesAfter ('[' :: backslashes ++ text) 0 rest
  | c :: rest => piecesAfter (c :: backslashes ++ text) 0 rest
termination_by chars.length
decreasing_by
  · simp
  · have := tag?_length _found
    simp only [List.length_cons]
    omega
  · simp
  · simp

def pieces (chars : List Char) : List Piece := piecesAfter [] 0 chars

/-- A tag that is on: the name of its style, and the text after an equals sign. -/
structure Tag where
  name : String
  parameters : Option (List Char)
deriving DecidableEq, Repr

/-- Switch off the innermost tag of a style. -/
def close (style : String) : List Tag → Option (Tag × List Tag)
  | [] => none
  | innermost :: others =>
      if innermost.name == style then some (innermost, others)
      else (close style others).map fun (tag, rest) => (tag, innermost :: rest)

/-- The arguments of a handler: what stands in parentheses after its name, or no arguments after a name alone. -/
def argumentsOf (parameters : List Char) : List Char :=
  let trimmed := Text.trim parameters
  match trimmed.dropWhile fun c => Text.isWord c || c == '.' with
  | [] => "()".toList
  | '(' :: rest =>
      if rest.getLast? == some ')' && !rest.contains '\n' then '(' :: rest else trimmed
  | _ => trimmed

/-- Whether a tag can be switched off: the arguments of a handler have to be literals. -/
def Tag.isClosable (tag : Tag) : Bool :=
  match tag.parameters with
  | none => true
  | some [] => true
  | some parameters => !tag.name.startsWith "@" || Literal.isLiteral (argumentsOf parameters)

def styleName (chars : List Char) : Except Failure String :=
  match Style.nameOf chars with
  | .ok name => .ok name
  | .error _ => .error .unexpected

/-- The tags that are on after the innermost of a style is switched off. Without a name it is the innermost of all. -/
def afterClosing (chars : List Char) (active : List Tag) : Except Failure (List Tag) := do
  let closed := match Text.trim chars, active with
    | [], innermost :: others => pure (some (innermost, others))
    | [], [] => pure none
    | style, active => (styleName style).map fun name => close name active
  match ← closed with
  | none => throw .unprintable
  | some (tag, others) => if tag.isClosable then return others else throw .unexpected

/-- The tags that are on after a tag. -/
def after (chars : List Char) (active : List Tag) : Except Failure (List Tag) :=
  let (name, parameters) := Text.cutAt '=' chars
  match name with
  | '/' :: name => afterClosing name active
  | name => (styleName name).map fun name => ⟨name, parameters⟩ :: active

/-- Control characters that are not shown. -/
def isSilent (c : Char) : Bool := c == '\x07' || c == '\x08' || c == '\x0b' || c == '\x0c' || c == '\r'

def shown (chars : List Char) : List Char := (Emoji.replace chars).filter (!isSilent ·)

/-- The text outside of tags, if every closing tag closes a style that is on. -/
def plainOf (active : List Tag) : List Piece → Except Failure (List Char)
  | [] => .ok []
  | .literal chars :: rest => (plainOf active rest).map (shown chars ++ ·)
  | .tag chars :: rest =>
      match after chars active with
      | .ok active => plainOf active rest
      | .error failure => .error failure

def plain (chars : List Char) : Except Failure (List Char) := plainOf [] (pieces chars)

end QueryHooks.Report.Markup
