import QueryHooks.Text.Class
import QueryHooks.Yaml.Cursor

/-! Block scalars: the indented lines after `|` or `>`. -/

namespace QueryHooks.Yaml.Block

open QueryHooks.Text (isAsciiDigit)

/-- What happens to the line breaks at the end. -/
inductive Chomping
  | clip
  | strip
  | keep
deriving DecidableEq

structure Header where
  chomping : Chomping
  indent : Option Nat

private def chompingOf? (c : Char) : Option Chomping :=
  if c == '+' then some .keep else if c == '-' then some .strip else none

private def indentOf? (c : Char) : Option Nat :=
  if isAsciiDigit c then some (c.toNat - 48) else none

/-- The indicators after the mark, in either order, and the rest of their line. -/
def header (c : Cursor) : Except Failure (Header × Cursor) :=
  let (chomping, indent, next) := match chompingOf? c.peek with
    | some chomping =>
        match indentOf? c.advance.peek with
        | some n => (chomping, some n, c.advanceBy 2)
        | none => (chomping, none, c.advance)
    | none =>
        match indentOf? c.peek with
        | some n =>
            match chompingOf? c.advance.peek with
            | some chomping => (chomping, some n, c.advanceBy 2)
            | none => (.clip, some n, c.advance)
        | none => (.clip, none, c)
  if indent == some 0 || !isGap next.peek then malformed .badBlockHeader
  else
    let last := next.skipSpaces.skipComment
    if isBreakOrEnd last.peek then .ok (⟨chomping, indent⟩, last.lineBreak.2)
    else malformed .badBlockHeader

/-- The empty lines before the first line of text, and the widest indent on the way. -/
def leading (fuel widest : Nat) (c : Cursor) : List Char × Nat × Cursor :=
  match fuel with
  | 0 => ([], widest, c)
  | fuel + 1 =>
      if c.peek == ' ' then leading fuel (max widest c.advance.column) c.advance
      else
        match c.lineBreak with
        | (none, _) => ([], widest, c)
        | (some b, next) =>
            let (more, widest, last) := leading fuel widest next
            (b :: more, widest, last)

def skipIndent (indent : Nat) (fuel : Nat) (c : Cursor) : Cursor :=
  match fuel with
  | 0 => c
  | fuel + 1 => if c.column < indent && c.peek == ' ' then skipIndent indent fuel c.advance else c

/-- The empty lines from here, each with at most the indent. -/
def breaks (indent : Nat) (fuel : Nat) (c : Cursor) : List Char × Cursor :=
  match fuel with
  | 0 => ([], c)
  | fuel + 1 =>
      let c := skipIndent indent indent c
      match c.lineBreak with
      | (none, _) => ([], c)
      | (some b, next) =>
          let (more, last) := breaks indent fuel next
          (b :: more, last)

/-- The last line break and the empty lines after it, as the chomping has them. -/
def tail (chomping : Chomping) (lineBreak : Option Char) (after : List Char) : List Char :=
  match chomping with
  | .strip => []
  | .clip => lineBreak.toList
  | .keep => lineBreak.toList ++ after

/-- The lines from here, after the empty lines `before`. A break between two lines that start with no white space folds. -/
def textLines (folded : Bool) (header : Header) (indent : Nat) (before : List Char) (fuel : Nat) (c : Cursor) :
    List Char × Cursor :=
  match fuel with
  | 0 => ([], c)
  | fuel + 1 =>
      let flush := !(c.peek == ' ' || c.peek == '\t')
      let (text, next) := c.span (!isBreakOrEnd ·)
      let (lineBreak, next) := next.lineBreak
      let (empty, next) := breaks indent (next.left + 1) next
      if next.column == indent && !next.rest.isEmpty then
        let joint :=
          if folded && lineBreak == some '\n' && flush && !(next.peek == ' ' || next.peek == '\t') then
            if empty.isEmpty then [' '] else []
          else lineBreak.toList
        let (more, last) := textLines folded header indent empty fuel next
        (before ++ text ++ joint ++ more, last)
      else (before ++ text ++ tail header.chomping lineBreak empty, next)

/-- The block scalar that starts here, inside a collection of indent `parent`. -/
def read (folded : Bool) (parent : Int) (c : Cursor) : Except Failure (String × Cursor) := do
  let (header, c) ← header c.advance
  let least := max 1 (parent + 1).toNat
  let (before, indent, next) := match header.indent with
    | none =>
        let (before, widest, next) := leading (c.left + 1) 0 c
        (before, max least widest, next)
    | some n =>
        let indent := least + n - 1
        let (before, next) := breaks indent (c.left + 1) c
        (before, indent, next)
  if next.column == indent && !next.rest.isEmpty then
    let (chars, last) := textLines folded header indent before (next.left + 1) next
    return (String.ofList chars, last)
  else return (String.ofList (tail header.chomping none before), next)

end QueryHooks.Yaml.Block
