import QueryHooks.Text.Charset
import QueryHooks.Text.Lines
import QueryHooks.World

/-! Answers from the network: their headers, and the text that their bytes stand for. -/

namespace QueryHooks.Document.Answer

/-- The value of a header, by its name in small letters. Several of one name are listed. -/
def header? (headers : List (String × String)) (name : String) : Option String :=
  match (headers.filter fun h => Text.lowerText h.1 == name).map (·.2) with
  | [] => none
  | values => some (", ".intercalate values)

/-- Whether headers are in ASCII, as all headers are. -/
def areHeaders (headers : List (String × String)) : Bool :=
  headers.all fun (name, value) => name.toList.all Text.isAscii && value.toList.all Text.isAscii

/-- Whether headers say that a body is compressed. No text is, so such a body cannot be unpacked. -/
def areOfPacked (headers : List (String × String)) : Bool :=
  let codings := (header? headers "content-encoding").getD ""
  (Text.splitOn ',' codings.toList).any fun coding => Text.lower (Text.trim coding) == "gzip".toList

/-- Why no body that is a text can be unpacked. -/
def packingMessage : String := "Error -3 while decompressing data: incorrect header check"

private def after (chars : List Char) : List (List Char) → List (List Char)
  | [] => [chars]
  | piece :: others => (chars ++ piece) :: others

/-- The pieces of a text between the semicolons that stand outside of quotation marks. -/
def pieces (isQuoted : Bool) : List Char → List (List Char)
  | [] => [[]]
  | '\\' :: '"' :: rest => after ['\\', '"'] (pieces isQuoted rest)
  | c :: rest =>
      if c == ';' && !isQuoted then [] :: pieces false rest
      else after [c] (pieces (isQuoted != (c == '"')) rest)

/-- The parameters of a header, each a name in small letters and a value. -/
def parameters (chars : List Char) : List (List Char × List Char) :=
  (pieces false chars).map fun piece =>
    let (name, value) := Text.cutAt '=' piece
    (Text.lower (Text.trim name), Text.trim (value.getD []))

/-- Drop the backslash before each backslash, and then the one before each quotation mark. -/
def unescape (mark : Char) : List Char → List Char
  | [] => []
  | '\\' :: c :: rest => if c == mark then c :: unescape mark rest else '\\' :: unescape mark (c :: rest)
  | c :: rest => c :: unescape mark rest

/-- A value without the quotation marks or angle brackets around it. -/
def unquote (chars : List Char) : List Char :=
  let inside := (chars.drop 1).dropLast
  if chars.length < 2 then chars
  else if chars.head? == some '"' && chars.getLast? == some '"' then unescape '"' (unescape '\\' inside)
  else if chars.head? == some '<' && chars.getLast? == some '>' then inside
  else chars

/-- The character set that a content type names. Without a known one it is UTF-8. -/
def charsetOf (contentType : String) : Text.Charset :=
  match (parameters contentType.toList).lookup "charset".toList with
  | none => .utf8
  | some value => (Text.Charset.named? (unquote value)).getD .utf8

/-- The text of a body, if its bytes can stand for text. -/
def text? (contentType : Option String) (body : String) : Option String :=
  if body.isEmpty then some body
  else
    let bytes := Text.Utf8.encode body.toList
    ((charsetOf (contentType.getD "")).decode? bytes).map String.ofList

end QueryHooks.Document.Answer
