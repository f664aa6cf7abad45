import QueryHooks.Text.Integer

/-!
Literals: numbers, quoted texts, named constants, and tuples, sets and tables of literals. Only
whether a text is a literal matters here, not its value.
-/

namespace QueryHooks.Report.Literal

/-- A token of a literal. Of a number it matters whether it is imaginary, and of a text whether it is one of bytes. -/
inductive Token
  | mark (c : Char)
  | number (imaginary : Bool)
  | quoted (octets : Bool)
  | word (name : String)
deriving DecidableEq, Repr

private def isHexDigit (c : Char) : Bool := (Text.hexValue? c).isSome

/-- Digits of a class, with single underscores between them, and the text after them. -/
def digits (isDigit : Char → Bool) : List Char → List Char × List Char
  | [] => ([], [])
  | '_' :: c :: rest => if isDigit c then ((digits isDigit rest).map (c :: ·) id) else ([], '_' :: c :: rest)
  | c :: rest => if isDigit c then ((digits isDigit rest).map (c :: ·) id) else ([], c :: rest)

def afterFraction? : List Char → Option (List Char)
  | '.' :: rest => some (digits Text.isAsciiDigit rest).2
  | _ => none

def afterExponent? : List Char → Option (List Char)
  | e :: rest =>
      if e != 'e' && e != 'E' then none
      else
        let unsigned := match rest with
          | '+' :: more => more
          | '-' :: more => more
          | more => more
        match digits Text.isAsciiDigit unsigned with
        | ([], _) => none
        | (_, after) => some after
  | [] => none

/-- Whether digits spell a whole number: only zero starts with a zero. -/
def isWhole (chars : List Char) : Bool :=
  (chars.head? != some '0' || chars.all (· == '0')) && chars.length ≤ Text.Integer.maxDecimalDigits

def decimal? (chars : List Char) : Option (Bool × List Char) :=
  let (whole, rest) := if chars.head? == some '_' then ([], chars) else digits Text.isAsciiDigit chars
  let fraction := afterFraction? rest
  let rest := fraction.getD rest
  let exponent := afterExponent? rest
  match exponent.getD rest with
  | 'j' :: after => some (true, after)
  | 'J' :: after => some (true, after)
  | after => if fraction.isSome || exponent.isSome || isWhole whole then some (false, after) else none

def number? (chars : List Char) : Option (Bool × List Char) :=
  let based (isDigit : Char → Bool) (rest : List Char) : Option (Bool × List Char) :=
    match digits isDigit rest with
    | ([], _) => none
    | (_, after) => some (false, after)
  let found := match chars with
    | '0' :: 'x' :: rest => based isHexDigit rest
    | '0' :: 'X' :: rest => based isHexDigit rest
    | '0' :: 'o' :: rest => based (fun c => '0' ≤ c && c ≤ '7') rest
    | '0' :: 'O' :: rest => based (fun c => '0' ≤ c && c ≤ '7') rest
    | '0' :: 'b' :: rest => based (fun c => c == '0' || c == '1') rest
    | '0' :: 'B' :: rest => based (fun c => c == '0' || c == '1') rest
    | chars => decimal? chars
  match found with
  | some (imaginary, after) => if (after.head?.map Text.isWord).getD false then none else some (imaginary, after)
  | none => none

structure Quoting where
  mark : Char
  isTripled : Bool
  isRaw : Bool
  isOctets : Bool

/-- Whether an escape may stand in a text, by its first character and what follows it. -/
def Quoting.admitsEscape (quoting : Quoting) (c : Char) (rest : List Char) : Bool :=
  let hasHex (count : Nat) : Bool := (rest.take count).length == count && (rest.take count).all isHexDigit
  if quoting.isOctets && !Text.isAscii c then false
  else if quoting.isRaw then true
  else if c == 'x' then hasHex 2
  else if quoting.isOctets then true
  else if c == 'u' then hasHex 4
  else if c == 'U' then
    hasHex 8 && (rest.take 3 == ['0', '0', '0'] || rest.take 4 == ['0', '0', '1', '0'])
  else c != 'N'

/-- The text after a quoted text. -/
def Quoting.after? (quoting : Quoting) : List Char → Option (List Char)
  | [] => none
  | '\\' :: c :: rest => if quoting.admitsEscape c rest then quoting.after? rest else none
  | c :: rest =>
      if c == quoting.mark then
        if !quoting.isTripled then some rest
        else if rest.take 2 == [c, c] then some (rest.drop 2)
        else quoting.after? rest
      else if c == '\\' then none
      else if c == '\n' && !quoting.isTripled then none
      else if quoting.isOctets && !Text.isAscii c then none
      else quoting.after? rest

/-- The text after a quoted text that starts with its mark. -/
def quoted? (isRaw isOctets : Bool) (mark : Char) (rest : List Char) : Option (List Char) :=
  if rest.take 2 == [mark, mark] then (Quoting.mk mark true isRaw isOctets).after? (rest.drop 2)
  else (Quoting.mk mark false isRaw isOctets).after? rest

private def isQuote (c : Char) : Bool := c == '"' || c == '\x27'

/-- The token that a word starts: a word before a quotation mark says how the text is quoted. -/
def wordToken? (chars : List Char) : Option (Token × List Char) :=
  let name := chars.takeWhile Text.isWord
  let rest := chars.drop name.length
  match rest with
  | mark :: more =>
      if isQuote mark then
        let flags := name.map Char.toLower
        let known : Bool :=
          flags == ['r'] || flags == ['b'] || flags == ['u'] || flags == ['b', 'r'] || flags == ['r', 'b']
        if known then
          (quoted? (flags.contains 'r') (flags.contains 'b') mark more).map (.quoted (flags.contains 'b'), ·)
        else none
      else some (.word (String.ofList name), rest)
  | [] => some (.word (String.ofList name), rest)

/-- The first token of a text, and what follows it. -/
def token? (c : Char) (rest : List Char) : Option (Token × List Char) :=
  let startsNumber := Text.isAsciiDigit c || (c == '.' && (rest.head?.map Text.isAsciiDigit).getD false)
  if startsNumber then (number? (c :: rest)).map fun (imaginary, after) => (.number imaginary, after)
  else if isQuote c then (quoted? false false c rest).map (.quoted false, ·)
  else if Text.isWord c then wordToken? (c :: rest)
  else if c == '.' && rest.take 2 == ['.', '.'] then some (.word "Ellipsis", rest.drop 2)
  else if c ∈ ['(', ')', '\x7b', '\x7d', ',', ':', '+', '-'] then some (.mark c, rest)
  else none

private def opens (c : Char) : Bool := c == '(' || c == '\x7b'

private def closes (c : Char) : Bool := c == ')' || c == '\x7d'

/-- The tokens of a text. Lines end only within brackets, of which some are open. -/
def tokens? (fuel depth : Nat) (chars : List Char) : Option (List Token) :=
  match fuel, chars with
  | _, [] => some []
  | 0, _ => none
  | fuel + 1, c :: rest =>
      if c == ' ' || c == '\t' || c == '\x0c' || (c == '\n' && 0 < depth) then tokens? fuel depth rest
      else do
        let (token, after) ← token? c rest
        let depth := if opens c then depth + 1 else if closes c then depth - 1 else depth
        return token :: (← tokens? fuel depth after)

/-- What kind of literal a text is: signs apply to numbers, and members of sets and keys must not hold sets or tables. -/
inductive Kind
  | number (imaginary : Bool)
  | signed (imaginary : Bool)
  | simple
  | collection (isKey : Bool)
deriving DecidableEq, Repr

def Kind.isKey : Kind → Bool
  | .collection isKey => isKey
  | _ => true

/-- Whether a literal is a number that an imaginary one can be added to. -/
def Kind.isReal : Kind → Bool
  | .number imaginary => !imaginary
  | .signed imaginary => !imaginary
  | _ => false

/-- Drop the texts that go on the text before them; all are of one kind. -/
def afterQuoted? (octets : Bool) : List Token → Option (List Token)
  | .quoted more :: rest => if more == octets then afterQuoted? octets rest else none
  | rest => some rest

mutual

/-- A literal, which may be the sum of a real and an imaginary number. -/
def expression? (fuel : Nat) (tokens : List Token) : Option (Kind × List Token) :=
  match fuel with
  | 0 => none
  | fuel + 1 => do
      let (left, rest) ← term? fuel tokens
      match rest with
      | .mark c :: more =>
          if c != '+' && c != '-' then return (left, rest)
          else
            match ← atom? fuel more with
            | (.number true, after) => if left.isReal then return (.simple, after) else none
            | _ => none
      | _ => return (left, rest)

def term? (fuel : Nat) (tokens : List Token) : Option (Kind × List Token) :=
  match fuel with
  | 0 => none
  | fuel + 1 =>
      match tokens with
      | .mark c :: rest =>
          if c != '+' && c != '-' then atom? fuel tokens
          else
            match atom? fuel rest with
            | some (.number imaginary, after) => some (.signed imaginary, after)
            | _ => none
      | _ => atom? fuel tokens

def atom? (fuel : Nat) (tokens : List Token) : Option (Kind × List Token) :=
  match fuel with
  | 0 => none
  | fuel + 1 =>
      match tokens with
      | .number imaginary :: rest => some (.number imaginary, rest)
      | .quoted octets :: rest => (afterQuoted? octets rest).map (.simple, ·)
      | .word "set" :: .mark '(' :: .mark ')' :: rest => some (.collection false, rest)
      | .word name :: rest =>
          if name ∈ ["True", "False", "None", "Ellipsis"] then some (.simple, rest) else none
      | .mark '(' :: .mark ')' :: rest => some (.collection true, rest)
      | .mark '(' :: rest => do
          let (first, after) ← expression? fuel rest
          match after with
          | .mark ')' :: after => return (first, after)
          | _ =>
              let (isKey, after) ← others? fuel ')' after
              return (.collection (first.isKey && isKey), after)
      | .mark '\x7b' :: .mark '\x7d' :: rest => some (.collection false, rest)
      | .mark '\x7b' :: rest => do
          let (first, after) ← expression? fuel rest
          if !first.isKey then none
          else
            match after with
            | .mark ':' :: more =>
                let (_, after) ← expression? fuel more
                return (.collection false, ← entries? fuel after)
            | _ =>
                let (isKey, after) ← others? fuel '\x7d' after
                if isKey then return (.collection false, after) else none
      | _ => none

/-- The further items of a collection: whether all are keys, and the tokens after its closing mark. -/
def others? (fuel : Nat) (closing : Char) (tokens : List Token) : Option (Bool × List Token) :=
  match fuel with
  | 0 => none
  | fuel + 1 =>
      match tokens with
      | .mark c :: rest =>
          if c == closing then some (true, rest)
          else if c != ',' then none
          else if rest.head? == some (.mark closing) then some (true, rest.tail)
          else do
            let (item, after) ← expression? fuel rest
            let (isKey, after) ← others? fuel closing after
            return (item.isKey && isKey, after)
      | _ => none

/-- The tokens after the further entries of a table. -/
def entries? (fuel : Nat) (tokens : List Token) : Option (List Token) :=
  match fuel with
  | 0 => none
  | fuel + 1 =>
      match tokens with
      | .mark '\x7d' :: rest => some rest
      | .mark ',' :: .mark '\x7d' :: rest => some rest
      | .mark ',' :: rest => do
          let (key, after) ← expression? fuel rest
          if !key.isKey then none
          else
            match after with
            | .mark ':' :: more => entries? fuel (← expression? fuel more).2
            | _ => none
      | _ => none

end

/-- Whether a text is a literal. A tuple needs no parentheses. -/
def isLiteral (chars : List Char) : Bool :=
  match tokens? chars.length 0 chars with
  | none => false
  | some tokens =>
      let fuel := 4 * (tokens.length + 1)
      match expression? fuel tokens with
      | some (_, []) => true
      | some (_, rest) => (others? fuel ')' (rest ++ [.mark ')'])).any fun (_, after) => after.isEmpty
      | none => false

end QueryHooks.Report.Literal
