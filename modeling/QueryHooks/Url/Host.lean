import QueryHooks.Text.Letters
import QueryHooks.Text.Lines
import QueryHooks.Text.Table.HostLetter
import QueryHooks.Text.Table.Mark
import QueryHooks.Text.Width
import QueryHooks.Url.Punycode

/-! Numeric hosts: four octets, or eight groups of hexadecimal digits. -/

namespace QueryHooks.Url

/-- An octet in decimal digits, without leading zeros. -/
def isOctet (chars : List Char) : Bool :=
  !chars.isEmpty && chars.length ≤ 3 && chars.all Text.isAsciiDigit &&
    (chars == ['0'] || chars.head? != some '0') &&
    chars.foldl (fun value c => value * 10 + (c.toNat - 48)) 0 ≤ 255

def isQuad (chars : List Char) : Bool :=
  let octets := Text.splitOn '.' chars
  octets.length == 4 && octets.all isOctet

/-- Whether a text has digits in four places with any one character between them, so that it looks like four octets. -/
def isLikeQuad (chars : List Char) : Bool :=
  let runs := (chars.map fun c => if Text.isAsciiDigit c then c else '.') |> Text.splitOn '.'
  runs.length ≤ 4 && runs.all (!·.isEmpty) &&
    4 ≤ runs.length + runs.foldl (fun count run => count + (run.length - 1) / 2) 0

def isGroup (chars : List Char) : Bool :=
  !chars.isEmpty && chars.length ≤ 4 && chars.all fun c => (Text.hexValue? c).isSome

/-- The groups of an address, of which the last two can be written as four octets. -/
def groups? (chars : List Char) : Option (List (List Char)) :=
  let parts := Text.splitOn ':' chars
  if parts.length < 3 then none
  else
    match parts.getLast? with
    | some last =>
        if last.contains '.' then if isQuad last then some (parts.dropLast ++ [['0'], ['0']]) else none
        else some parts
    | none => none

/-- Whether groups stand on one side of a gap. Where the address ends in the gap no group stands beside it. -/
def isSide (isOuter : List Char → Bool) (groups : List (List Char)) : Bool :=
  groups.all isGroup || (groups.length == 1 && groups.all isOuter)

/-- Whether groups make an address. Two colons leave out one or more groups, and only once. -/
def areGroups (groups : List (List Char)) : Bool :=
  let inner := groups.dropLast.tail
  if inner.any List.isEmpty then
    let before := groups.head?.toList ++ inner.takeWhile (!·.isEmpty)
    let after := groups.drop (before.length + 1)
    let count (side : List (List Char)) : Nat := (side.filter (!·.isEmpty)).length
    isSide List.isEmpty before && isSide List.isEmpty after && count before + count after < 8
  else groups.length == 8 && groups.all isGroup

/-- Whether a text is an address of eight groups. After a percent sign it can name a zone. -/
def isGroupAddress (chars : List Char) : Bool :=
  !chars.contains '/' &&
    match Text.cutAt '%' chars with
    | (address, none) => ((groups? address).map areGroups).getD false
    | (address, some zone) =>
        !zone.isEmpty && !zone.contains '%' && ((groups? address).map areGroups).getD false

/-- Whether a text may stand in brackets as a host: eight groups, or an address of a later version. -/
def isBracketable (chars : List Char) : Bool :=
  match chars with
  | 'v' :: rest =>
      match Text.cutAt '.' rest with
      | (version, some address) =>
          !version.isEmpty && version.all (fun c => (Text.hexValue? c).isSome) && !address.isEmpty
      | _ => false
  | _ => isGroupAddress chars

end QueryHooks.Url

/-! Hosts: numeric addresses, and names that consist of labels. Labels above ASCII have a form in ASCII. -/

namespace QueryHooks.Url

namespace Label

def maxLength : Nat := 63

def isMark (c : Char) : Bool := Text.inRanges c.toNat Text.Table.marks

/-- Whether a mark suppresses the vowel of the letter before it. -/
def isVowelKiller (c : Char) : Bool := Text.inRanges c.toNat Text.Table.vowelKillers

/-- Whether a mark stands above or below the letter before it. -/
def isAttached (c : Char) : Bool := isMark c && Text.columnsOf c == 0

def isLeftward (c : Char) : Bool := Text.inRanges c.toNat Text.Table.leftwards

private def isArabicDigit (c : Char) : Bool := Text.inRanges c.toNat [(0x660, 0x669)]

private def isEasternDigit (c : Char) : Bool := Text.inRanges c.toNat [(0x6F0, 0x6F9)]

private def isGreek (c : Char) : Bool := Text.inRanges c.toNat [(0x370, 0x3FF), (0x1F00, 0x1FFF)]

private def isHebrew (c : Char) : Bool := Text.inRanges c.toNat [(0x591, 0x5F4), (0xFB1D, 0xFB4F)]

/-- Letters of Japanese and Chinese. -/
private def isEastern (c : Char) : Bool :=
  Text.inRanges c.toNat [(0x2E80, 0x2FD5), (0x3005, 0x3007), (0x3021, 0x3029), (0x3038, 0x303B),
    (0x3041, 0x309F), (0x30A1, 0x30FA), (0x30FD, 0x30FF), (0x31F0, 0x31FF), (0x3400, 0x4DBF),
    (0x4E00, 0x9FFF), (0xF900, 0xFAD9), (0x20000, 0x3134A)]

/-- Characters that are allowed only beside or along with certain others. -/
def isFitting (label before after : List Char) (c : Char) : Bool :=
  let follows (p : Char → Bool) : Bool := (before.head?.map p).getD false
  let precedes (p : Char → Bool) : Bool := (after.head?.map p).getD false
  if c == '\u200c' then follows isVowelKiller || (follows isLeftward && precedes isLeftward)
  else if c == '\u200d' then follows isVowelKiller
  else if c == '\u00b7' then follows (· == 'l') && precedes (· == 'l')
  else if c == '\u0375' then precedes isGreek
  else if c == '\u05f3' || c == '\u05f4' then follows isHebrew
  else if c == '\u30fb' then label.any isEastern
  else if isArabicDigit c then !label.any isEasternDigit
  else if isEasternDigit c then !label.any isArabicDigit
  else false

/-- Whether a character may stand in a label, given the characters before it, nearest first, and those after it. -/
def isAllowed (label before after : List Char) (c : Char) : Bool :=
  if Text.isAscii c then Text.isAsciiLower c || Text.isAsciiDigit c || c == '-'
  else Text.inRuns c.toNat Text.Table.hostLetters || isFitting label before after c

def areAllowed (label before : List Char) : List Char → Bool
  | [] => true
  | c :: rest => isAllowed label before rest c && areAllowed label (c :: before) rest

/-- Whether two neighbours make one character, so that a text should have that instead. -/
def composes (first second : Char) : Bool :=
  ((Text.Table.compositions.lookup second.toNat).map fun firsts => firsts.contains first.toNat).getD false

/-- Whether no neighbours in a text make one character. -/
def isComposed : List Char → Bool
  | first :: second :: rest => !composes first second && isComposed (second :: rest)
  | _ => true

/-- Hyphens stand within a label, and not in both the third and the fourth place. -/
def hasFittingHyphens (label : List Char) : Bool :=
  (label.drop 2).take 2 != ['-', '-'] && label.head? != some '-' && label.getLast? != some '-'

/-- Digits of a script that is written from right to left. -/
private def isLeftwardDigit (c : Char) : Bool := isArabicDigit c || Text.inRanges c.toNat [(0x10D30, 0x10D39)]

private def isRightwardDigit (c : Char) : Bool := Text.isAsciiDigit c || isEasternDigit c

/-- Characters that go with either direction of writing. -/
private def isNeutral (c : Char) : Bool :=
  c == '-' || isAttached c || Text.inRanges c.toNat [(183, 183), (697, 698), (710, 719), (748, 748), (885, 885),
    (8204, 8205), (11823, 11823), (12539, 12539), (42623, 42623), (42775, 42783), (42888, 42888)]

/--
A label with letters or digits of a script that is written from right to left starts with such a letter, has no
letters of other scripts, ends in a letter or digit, and has digits of one kind.
-/
def hasFittingDirections (label : List Char) : Bool :=
  let isLeftwards (c : Char) : Bool := isLeftward c || isLeftwardDigit c
  if !label.any isLeftwards then true
  else
    (label.head?.map isLeftward).getD false &&
      label.all (fun c => isLeftwards c || isRightwardDigit c || isNeutral c) &&
      ((label.reverse.dropWhile isAttached).head?.map fun c => isLeftwards c || isRightwardDigit c).getD false &&
      !(label.any isLeftwardDigit && label.any isRightwardDigit)

/-- Whether a text is a label. -/
def isValid (label : List Char) : Bool :=
  !label.isEmpty && isComposed label && hasFittingHyphens label && !(label.head?.map isMark).getD false &&
    areAllowed label [] label && hasFittingDirections label

/-- The start of a label that stands for another in ASCII. -/
def codeMark : List Char := "xn--".toList

/-- Whether a text is a label, or one that stands for a label. -/
def isReadable (label : List Char) : Bool :=
  if codeMark.isPrefixOf label then
    let code := label.drop codeMark.length
    !code.isEmpty && code.getLast? != some '-' && ((Punycode.decode? code).map isValid).getD false
  else isValid label

/-- The ASCII form of a label, if it has one and that is not too long. -/
def ascii? (label : List Char) : Option (List Char) :=
  if maxLength < label.length then none
  else if label.all Text.isAscii then if isReadable label then some label else none
  else if !isValid label then none
  else
    let code := codeMark ++ Punycode.encode label
    if code.length ≤ maxLength then some code else none

end Label

namespace Host

def maxLength : Nat := 253

/-- Characters that end a label. -/
def isDot (c : Char) : Bool := c == '.' || c == '\u3002' || c == '\uff0e' || c == '\uff61'

/-- The labels of a name. A dot at its end ends the last. -/
def labels (name : List Char) : List (List Char) :=
  let parts := Text.splitOn '.' (name.map fun c => if isDot c then '.' else c)
  if parts.getLast? == some [] then parts.dropLast else parts

/-- Whether a name above ASCII has a form in ASCII. -/
def hasAscii (name : List Char) : Bool :=
  let parts := labels name
  !parts.isEmpty &&
    match parts.mapM Label.ascii? with
    | some codes => (['.'].intercalate codes).length ≤ maxLength
    | none => false

/-- Whether an address can be looked for at a host. -/
def isValid (host : List Char) : Bool :=
  if host.isEmpty then true
  else if isLikeQuad host then isQuad host
  else if host.head? == some '[' && host.getLast? == some ']' then isGroupAddress (host.drop 1).dropLast
  else
    let name := Text.lower host
    if !host.all Text.isAscii then hasAscii name
    else if Label.codeMark.isPrefixOf name then !(labels name).isEmpty && (labels name).all Label.isReadable
    else true

end Host

end QueryHooks.Url
