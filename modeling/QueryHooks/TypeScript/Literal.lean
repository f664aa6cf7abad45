import QueryHooks.Json.Writer

/-! Literals and property names of TypeScript. -/

namespace QueryHooks.TypeScript

open QueryHooks.Text (isAsciiUpper isAsciiLower isAsciiDigit)

def escape (c : Char) : List Char :=
  match c with
  | '\\' => ['\\', '\\']
  | '\x27' => ['\\', '\x27']
  | '\n' => ['\\', 'n']
  | c => [c]

def stringChars (chars : List Char) : List Char := '\x27' :: chars.flatMap escape ++ ['\x27']

def string (text : String) : String := String.ofList (stringChars text.toList)

def object (v : Value) : String := Json.pretty v

def isNameStart (c : Char) : Bool := isAsciiUpper c || isAsciiLower c || c == '_' || c == '$'

def isNamePart (c : Char) : Bool := isNameStart c || isAsciiDigit c

/-- Names that need no quotes. -/
def isIdentifier : List Char → Bool
  | [] => false
  | c :: rest => isNameStart c && rest.all isNamePart

/-- The written form of one character of a quoted property name. -/
def escapeName (c : Char) : List Char :=
  match c with
  | '\\' => ['\\', '\\']
  | '\x27' => ['\\', '\x27']
  | c => [c]

/-- A property name, in quotes unless it is an identifier. -/
def propertyChars (chars : List Char) : List Char :=
  if isIdentifier chars then chars else '\x27' :: chars.flatMap escapeName ++ ['\x27']

def property (name : String) : String := String.ofList (propertyChars name.toList)

end QueryHooks.TypeScript
