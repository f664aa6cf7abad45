import QueryHooks.Text.Class
import QueryHooks.Text.Half
import QueryHooks.Yaml.Cursor

/-! Quoted scalars. Between single quotes only a doubled quote is special; between double quotes a backslash starts an escape. -/

namespace QueryHooks.Yaml.Quoted

open QueryHooks.Text (hexValue?)

/-- The character that a letter after a backslash stands for. -/
def escaped? : Char → Option Char
  | '0' => some '\x00'
  | 'a' => some '\x07'
  | 'b' => some '\x08'
  | 't' => some '\t'
  | '\t' => some '\t'
  | 'n' => some '\n'
  | 'v' => some '\x0b'
  | 'f' => some '\x0c'
  | 'r' => some '\r'
  | 'e' => some '\x1b'
  | ' ' => some ' '
  | '"' => some '"'
  | '\\' => some '\\'
  | '/' => some '/'
  | 'N' => some '\u0085'
  | '_' => some '\u00a0'
  | 'L' => some '\u2028'
  | 'P' => some '\u2029'
  | _ => none

/-- How many hexadecimal digits follow a letter after a backslash. -/
def codeLength? : Char → Option Nat
  | 'x' => some 2
  | 'u' => some 4
  | 'U' => some 8
  | _ => none

def codeOf? (chars : List Char) : Option Nat :=
  chars.foldlM (fun code c => (hexValue? c).map (code * 16 + ·)) 0

/-- The character of a code point. Halves of a surrogate pair stay apart, also side by side. -/
def charOf? (code : Nat) : Option Char := if 0x10FFFF < code then none else some (Text.Half.ofUnit code)

def number? (length : Nat) (c : Cursor) : Option (Nat × Cursor) :=
  let digits := c.rest.take length
  if digits.length == length then (codeOf? digits).map fun code => (code, c.advanceBy length) else none

def escapedCode (length : Nat) (c : Cursor) : Except Failure (Char × Cursor) :=
  match number? length c with
  | none => malformed .badEscape
  | some (code, next) =>
      match charOf? code with
      | some char => .ok (char, next)
      | none => .error .unrepresentable

/-- Line breaks with the white space around them; none may be followed by a document separator. -/
def breaks (fuel : Nat) (c : Cursor) : Except Failure (List Char × Cursor) :=
  match fuel with
  | 0 => .ok ([], c)
  | fuel + 1 =>
      if c.atSeparator then malformed .separatorInQuote
      else
        let next := c.skipWhile fun c => c == ' ' || c == '\t'
        match next.lineBreak with
        | (none, _) => .ok ([], next)
        | (some b, after) => do
            let (more, last) ← breaks fuel after
            return (b :: more, last)

/-- White space inside quotes: kept within a line, folded across lines. -/
def gap (c : Cursor) : Except Failure (List Char × Cursor) :=
  let (spaces, next) := c.span fun c => c == ' ' || c == '\t'
  match next.lineBreak with
  | (none, _) => if next.rest.isEmpty then malformed .unclosedQuote else .ok (spaces, next)
  | (some first, after) => do
      let (more, last) ← breaks (after.left + 1) after
      let folded := if first != '\n' then first :: more else if more.isEmpty then [' '] else more
      return (folded, last)

/-- An escape, its backslash read. An escaped line break stands for nothing. -/
def escape (c : Cursor) : Except Failure (List Char × Cursor) :=
  match escaped? c.peek, codeLength? c.peek with
  | some char, _ => .ok ([char], c.advance)
  | none, some length => do
      let (char, next) ← escapedCode length c.advance
      return ([char], next)
  | none, none =>
      match c.lineBreak with
      | (some _, after) => breaks (after.left + 1) after
      | (none, _) => malformed .badEscape

def body (double : Bool) (fuel : Nat) (c : Cursor) : Except Failure (List Char × Cursor) :=
  match fuel with
  | 0 => malformed .unclosedQuote
  | fuel + 1 =>
      match c.rest with
      | [] => malformed .unclosedQuote
      | first :: rest =>
          let also (chars : List Char) (next : Cursor) : Except Failure (List Char × Cursor) := do
            let (more, last) ← body double fuel next
            return (chars ++ more, last)
          if !double && first == '\x27' then
            if rest.head? == some '\x27' then also ['\x27'] (c.advanceBy 2) else .ok ([], c.advance)
          else if double && first == '"' then .ok ([], c.advance)
          else if double && first == '\\' then do
            let (chars, next) ← escape c.advance
            also chars next
          else if first == ' ' || first == '\t' || isBreak first then do
            let (chars, next) ← gap c
            also chars next
          else also [first] c.advance

def read (double : Bool) (c : Cursor) : Except Failure (String × Cursor) := do
  let (chars, last) ← body double (c.left + 1) c.advance
  return (String.ofList chars, last)

end QueryHooks.Yaml.Quoted
