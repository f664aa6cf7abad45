import QueryHooks.Text.Half
import QueryHooks.Text.Integer
import QueryHooks.Url
import QueryHooks.Url.Host

/-! Which addresses can be asked for at all, whether or not anybody answers. -/

namespace QueryHooks.Url

def maxLength : Nat := 65536

/-- The authority taken apart: a user before the last `@`, a host, and a port after a colon. -/
structure Authority where
  user : List Char
  host : List Char
  port : List Char

/-- The text before the last occurrence of a character, and the text after it. Without one, all is after it. -/
def divideLast (mark : Char) (chars : List Char) : List Char × List Char :=
  let after := (chars.reverse.takeWhile (· != mark)).reverse
  ((chars.take (chars.length - after.length)).dropLast, after)

/-- A host that starts with a bracket goes on to the last closing bracket, and another one to the first colon. -/
def splitHost (chars : List Char) : List Char × List Char :=
  if chars.head? == some '[' && chars.contains ']' then
    let port := (divideLast ']' chars).2
    (chars.take (chars.length - port.length), port)
  else chars.span (· != ':')

def Authority.ofText (chars : List Char) : Authority :=
  let (user, place) := divideLast '@' chars
  let (host, rest) := splitHost place
  match rest with
  | ':' :: port => ⟨user, host, port⟩
  | port => ⟨user, host, port⟩

def usualPort? (scheme : List Char) : Option Int :=
  if scheme == "http".toList then some 80 else if scheme == "https".toList then some 443 else none

/-- Whether an authority names nothing: no user, no host and no port of its own. -/
def Authority.isBlank (scheme : List Char) (authority : Authority) : Bool :=
  authority.user.isEmpty && authority.host.isEmpty &&
    (authority.port.isEmpty || Text.Integer.read? 10 authority.port == usualPort? scheme)

/-- Whether a port is left out or an integer. -/
def Authority.hasPort (authority : Authority) : Bool :=
  authority.port.isEmpty || (Text.Integer.read? 10 authority.port).isSome

private def isControl (c : Char) : Bool := c < ' ' || c == '\x7f'

/--
Whether an address can be asked for: it is not too long, has no control characters, a host that can be one and
a port that is a number, and its path does not start like an authority where none is named.
-/
def isValid (chars : List Char) : Bool :=
  let (scheme, rest) := splitScheme chars
  let (authority, rest) := splitAuthority rest
  let authority := Authority.ofText authority
  chars.length ≤ maxLength && !chars.any isControl && Text.Half.areWhole chars &&
    Host.isValid authority.host && authority.hasPort &&
    !(authority.isBlank (scheme.getD []) && rest.take 2 == ['/', '/'])

end QueryHooks.Url
