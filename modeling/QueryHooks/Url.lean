import QueryHooks.Text.Class
import QueryHooks.Text.Lines
import QueryHooks.Url.Host

/-! Resolving a relative reference against the address of the document that holds it. -/

namespace QueryHooks

def isUrl (source : String) : Bool :=
  "http://".toList.isPrefixOf source.toList || "https://".toList.isPrefixOf source.toList

namespace Url

structure Parts where
  scheme : List Char
  authority : List Char
  path : List Char
  parameters : List Char
  query : List Char
  fragment : List Char

private def isSchemeChar (c : Char) : Bool :=
  Text.isAsciiUpper c || Text.isAsciiLower c || Text.isAsciiDigit c || c == '+' || c == '-' || c == '.'

private def startsScheme (chars : List Char) : Bool :=
  match chars with
  | c :: _ => Text.isAsciiUpper c || Text.isAsciiLower c
  | [] => false

/-- The text before a mark and the text after it, or everything and nothing. -/
def divide (mark : Char) (chars : List Char) : List Char × List Char :=
  match Text.cutAt mark chars with
  | (before, some after) => (before, after)
  | (before, none) => (before, [])

def splitScheme (chars : List Char) : Option (List Char) × List Char :=
  match Text.cutAt ':' chars with
  | (scheme, some rest) =>
      if startsScheme scheme && scheme.all isSchemeChar then (some (scheme.map Char.toLower), rest)
      else (none, chars)
  | _ => (none, chars)

private def endsAuthority (c : Char) : Bool := c == '/' || c == '?' || c == '#'

/-- The authority after two slashes, and the rest. -/
def splitAuthority (chars : List Char) : List Char × List Char :=
  match chars with
  | '/' :: '/' :: rest => rest.span (!endsAuthority ·)
  | _ => ([], chars)

/-- The parameters after the first semicolon of the last segment. -/
def splitParameters (chars : List Char) : List Char × List Char :=
  let last := chars.reverse.takeWhile (· != '/')
  let before := chars.take (chars.length - last.length)
  let (name, parameters) := divide ';' last.reverse
  (before ++ name, parameters)

/-- The host and port of an authority, which come after its last `@`. -/
def placeOf (authority : List Char) : List Char := (authority.reverse.takeWhile (· != '@')).reverse

/-- Whether brackets stand around the whole host, which then is numeric. -/
def areAroundHost (authority : List Char) : Bool :=
  match Text.cutAt '[' (placeOf authority) with
  | ([], some rest) =>
      let (host, port) := divide ']' rest
      (port.isEmpty || port.head? == some ':') && isBracketable host
  | (_, some _) => false
  | (place, none) => isBracketable (divide ':' place).1

/-- Brackets come in pairs around a numeric host. -/
def hasFittingBrackets (authority : List Char) : Bool :=
  if authority.contains '[' && authority.contains ']' then areAroundHost authority
  else !authority.contains '[' && !authority.contains ']'

/-- Characters that stand for others, among which are marks that separate the parts of an address. -/
def isDisguise (c : Char) : Bool :=
  Text.inRanges c.toNat [(0x2047, 0x2049), (0x2100, 0x2101), (0x2105, 0x2106), (0x2A74, 0x2A74),
    (0xFE13, 0xFE13), (0xFE16, 0xFE16), (0xFE55, 0xFE56), (0xFE5F, 0xFE5F), (0xFE6B, 0xFE6B),
    (0xFF03, 0xFF03), (0xFF0F, 0xFF0F), (0xFF1A, 0xFF1A), (0xFF1F, 0xFF20)]

/-- The parts of a text; one without a scheme takes the given one. The authority must be well formed. -/
def parts? (scheme : List Char) (chars : List Char) : Option Parts :=
  let clean := (chars.dropWhile (· ≤ ' ')).filter fun c => c != '\t' && c != '\r' && c != '\n'
  let (own, rest) := splitScheme clean
  let (authority, rest) := splitAuthority rest
  if !hasFittingBrackets authority || authority.any isDisguise then none
  else
    let (rest, fragment) := divide '#' rest
    let (rest, query) := divide '?' rest
    let (path, parameters) := splitParameters rest
    some ⟨own.getD scheme, authority, path, parameters, query, fragment⟩

private def after (mark : Char) (chars : List Char) : List Char := if chars.isEmpty then [] else mark :: chars

def Parts.text (p : Parts) : List Char :=
  let path := p.path ++ after ';' p.parameters
  let rooted := if path.isEmpty || path.head? == some '/' then path else '/' :: path
  p.scheme ++ ':' :: '/' :: '/' :: p.authority ++ rooted ++ after '?' p.query ++ after '#' p.fragment

/-- Drop `.` segments, and with each `..` the segment before it. -/
def removeDots (kept : List (List Char)) : List (List Char) → List (List Char)
  | [] => kept.reverse
  | ['.', '.'] :: rest => removeDots kept.tail rest
  | ['.'] :: rest => removeDots kept rest
  | segment :: rest => removeDots (segment :: kept) rest

/-- The segments of a path without the last, unless that is empty. -/
def directory (path : List Char) : List (List Char) :=
  let segments := Text.splitOn '/' path
  if segments.getLast? == some [] then segments else segments.dropLast

/-- Drop the empty segments, except for the first and the last. -/
def dropInnerEmpty : List (List Char) → List (List Char)
  | first :: rest => first :: rest.dropLast.filter (!·.isEmpty) ++ rest.getLast?.toList
  | [] => []

def joinSegments (base path : List Char) : List (List Char) :=
  if path.head? == some '/' then Text.splitOn '/' path
  else dropInnerEmpty (directory base ++ Text.splitOn '/' path)

/-- A path that ends in a `.` or `..` segment leads to a directory, so an empty segment is last. -/
def ending (segments : List (List Char)) : List (List Char) :=
  if segments.getLast? == some ['.'] || segments.getLast? == some ['.', '.'] then [[]] else []

/-- A relative path put in place of the last segment of another. -/
def joinPath (base path : List Char) : List Char :=
  let segments := joinSegments base path
  let joined := ['/'].intercalate (removeDots [] segments ++ ending segments)
  if joined.isEmpty then ['/'] else joined

/-- Whether relative references are resolved within a scheme. -/
def isHierarchical (scheme : List Char) : Bool := scheme == "http".toList || scheme == "https".toList

/-- The address that a reference denotes in the document at an address; `none` when either is malformed. -/
def join? (base reference : List Char) : Option (List Char) := do
  let b ← parts? [] base
  let r ← parts? b.scheme reference
  if r.scheme != b.scheme || !isHierarchical r.scheme then return reference
  else if !r.authority.isEmpty then return r.text
  else if r.path.isEmpty && r.parameters.isEmpty then
    let query := if r.query.isEmpty then b.query else r.query
    return { b with query := query, fragment := r.fragment }.text
  else return { r with authority := b.authority, path := joinPath b.path r.path }.text

end Url

end QueryHooks
