import QueryHooks.Value

/-! Writing JSON, on one line or indented. Characters above ASCII stand for themselves. -/

namespace QueryHooks.Json

def escape (c : Char) : List Char :=
  match c with
  | '"' => ['\\', '"']
  | '\\' => ['\\', '\\']
  | '\n' => ['\\', 'n']
  | '\r' => ['\\', 'r']
  | '\t' => ['\\', 't']
  | '\x08' => ['\\', 'b']
  | '\x0c' => ['\\', 'f']
  | c => if c < ' ' then '\\' :: 'u' :: Text.Quoted.hexDigits 4 c.toNat else [c]

def quoted (text : String) : String := String.ofList ('"' :: text.toList.flatMap escape ++ ['"'])

/-- JSON numbers, with words for those that digits cannot write. -/
def numberLayout : Decimal.Layout :=
  ⟨Value.numberLayout.leastPoint, Value.numberLayout.greatestPoint, Value.numberLayout.exponentWidth,
    "NaN".toList, "Infinity".toList⟩

/-- The text of a value that is no collection; kinds that JSON lacks become texts. -/
def scalar : Value → String
  | .null => "null"
  | .bool b => if b then "true" else "false"
  | .int n => toString n
  | .float x => String.ofList (numberLayout.write x)
  | v => quoted v.display

/-- The name of a member; a key that is no text takes the text of its value. -/
def name : Value → String
  | .text s => quoted s
  | v => quoted (scalar v)

/-- Where the parts of a collection go: on one line, or on a line each at a depth. -/
inductive Style
  | compact
  | indented (depth : Nat)

def Style.inner : Style → Style
  | .compact => .compact
  | .indented depth => .indented (depth + 1)

def margin (depth : Nat) : String := String.ofList ('\n' :: List.replicate (2 * depth) ' ')

def enclose (style : Style) (opening closing : String) (parts : List String) : String :=
  match parts, style with
  | [], _ => opening ++ closing
  | parts, .compact => opening ++ ", ".intercalate parts ++ closing
  | parts, .indented depth =>
      opening ++ margin (depth + 1) ++ ("," ++ margin (depth + 1)).intercalate parts ++
        margin depth ++ closing

mutual

def writeIn (style : Style) : Value → String
  | .list items => enclose style "[" "]" (writeItems style.inner items)
  | .map entries => enclose style "\x7b" "\x7d" (writeEntries style.inner entries)
  | .pair first second => enclose style "[" "]" [writeIn style.inner first, writeIn style.inner second]
  | v => scalar v

def writeItems (style : Style) : List Value → List String
  | [] => []
  | v :: rest => writeIn style v :: writeItems style rest

def writeEntries (style : Style) : List (Value × Value) → List String
  | [] => []
  | (k, v) :: rest => (name k ++ ": " ++ writeIn style v) :: writeEntries style rest

end

def compact (v : Value) : String := writeIn .compact v

/-- A value with each part of a collection on a line of its own, indented by two spaces. -/
def pretty (v : Value) : String := writeIn (.indented 0) v

end QueryHooks.Json
