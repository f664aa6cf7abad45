import QueryHooks.Text.Class
import QueryHooks.Text.Integer
import QueryHooks.Text.Letters
import QueryHooks.Text.Lines

/-! Colors of a terminal: by name, by number, or by their parts of red, green and blue. -/

namespace QueryHooks.Report

inductive StyleProblem
  | unknown
  | malformed
deriving DecidableEq, Repr

namespace Color

def names : List String :=
  ["aquamarine1", "aquamarine3", "black", "blue", "blue1", "blue3", "blue_violet", "bright_black",
    "bright_blue", "bright_cyan", "bright_green", "bright_magenta", "bright_red", "bright_white",
    "bright_yellow", "cadet_blue", "chartreuse1", "chartreuse2", "chartreuse3", "chartreuse4",
    "cornflower_blue", "cornsilk1", "cyan", "cyan1", "cyan2", "cyan3", "dark_blue", "dark_cyan",
    "dark_goldenrod", "dark_green", "dark_khaki", "dark_magenta", "dark_olive_green1",
    "dark_olive_green2", "dark_olive_green3", "dark_orange", "dark_orange3", "dark_red",
    "dark_sea_green", "dark_sea_green1", "dark_sea_green2", "dark_sea_green3", "dark_sea_green4",
    "dark_slate_gray1", "dark_slate_gray2", "dark_slate_gray3", "dark_turquoise", "dark_violet",
    "deep_pink1", "deep_pink2", "deep_pink3", "deep_pink4", "deep_sky_blue1", "deep_sky_blue2",
    "deep_sky_blue3", "deep_sky_blue4", "dodger_blue1", "dodger_blue2", "dodger_blue3", "gold1",
    "gold3", "gray0", "gray100", "gray11", "gray15", "gray19", "gray23", "gray27", "gray3",
    "gray30", "gray35", "gray37", "gray39", "gray42", "gray46", "gray50", "gray53", "gray54",
    "gray58", "gray62", "gray63", "gray66", "gray69", "gray7", "gray70", "gray74", "gray78",
    "gray82", "gray84", "gray85", "gray89", "gray93", "green", "green1", "green3", "green4",
    "green_yellow", "grey0", "grey100", "grey11", "grey15", "grey19", "grey23", "grey27", "grey3",
    "grey30", "grey35", "grey37", "grey39", "grey42", "grey46", "grey50", "grey53", "grey54",
    "grey58", "grey62", "grey63", "grey66", "grey69", "grey7", "grey70", "grey74", "grey78",
    "grey82", "grey84", "grey85", "grey89", "grey93", "honeydew2", "hot_pink", "hot_pink2",
    "hot_pink3", "indian_red", "indian_red1", "khaki1", "khaki3", "light_coral", "light_cyan1",
    "light_cyan3", "light_goldenrod1", "light_goldenrod2", "light_goldenrod3", "light_green",
    "light_pink1", "light_pink3", "light_pink4", "light_salmon1", "light_salmon3",
    "light_sea_green", "light_sky_blue1", "light_sky_blue3", "light_slate_blue",
    "light_slate_gray", "light_slate_grey", "light_steel_blue", "light_steel_blue1",
    "light_steel_blue3", "light_yellow3", "magenta", "magenta1", "magenta2", "magenta3",
    "medium_orchid", "medium_orchid1", "medium_orchid3", "medium_purple", "medium_purple1",
    "medium_purple2", "medium_purple3", "medium_purple4", "medium_spring_green",
    "medium_turquoise", "medium_violet_red", "misty_rose1", "misty_rose3", "navajo_white1",
    "navajo_white3", "navy_blue", "orange1", "orange3", "orange4", "orange_red1", "orchid",
    "orchid1", "orchid2", "pale_green1", "pale_green3", "pale_turquoise1", "pale_turquoise4",
    "pale_violet_red1", "pink1", "pink3", "plum1", "plum2", "plum3", "plum4", "purple", "purple3",
    "purple4", "red", "red1", "red3", "rosy_brown", "royal_blue1", "salmon1", "sandy_brown",
    "sea_green1", "sea_green2", "sea_green3", "sky_blue1", "sky_blue2", "sky_blue3",
    "slate_blue1", "slate_blue3", "spring_green1", "spring_green2", "spring_green3",
    "spring_green4", "steel_blue", "steel_blue1", "steel_blue3", "tan", "thistle1", "thistle3",
    "turquoise2", "turquoise4", "violet", "wheat1", "wheat4", "white", "yellow", "yellow1",
    "yellow2", "yellow3", "yellow4", "default"]

/-- The greatest number of a color, and of a part of it. -/
def maxPart : Nat := 255

/-- Whether a part of a color is in range. A part that is no integer is malformed. -/
def isPart (chars : List Char) : Except StyleProblem Bool :=
  match Text.Integer.read? 10 chars with
  | some n => .ok (n ≤ Int.ofNat maxPart)
  | none => .error .malformed

private def inRange (isInRange : Bool) : Except StyleProblem Unit :=
  if isInRange then .ok () else .error .unknown

/-- Whether a text consists of digits of any script and commas. -/
def areParts (chars : List Char) : Bool :=
  !chars.isEmpty && chars.all fun c => c == ',' || (Text.decimalValue? c).isSome

def checkParts (chars : List Char) : Except StyleProblem Unit :=
  if !areParts chars then .error .unknown
  else
    match Text.splitOn ',' chars with
    | [red, green, blue] => do
        let red ← isPart red
        let green ← isPart green
        let blue ← isPart blue
        inRange (red && green && blue)
    | _ => .error .unknown

/-- What stands between an opening text and the closing parenthesis at the end. -/
def enclosed? (opening : String) (chars : List Char) : Option (List Char) :=
  if opening.toList.isPrefixOf chars && chars.getLast? == some ')' then
    some (chars.drop opening.length).dropLast
  else none

private def isHexDigit (c : Char) : Bool := Text.isAsciiDigit c || ('a' ≤ c && c ≤ 'f')

/-- Check a color in small letters. -/
def check (chars : List Char) : Except StyleProblem Unit :=
  if names.contains (String.ofList chars) then .ok ()
  else
    match chars, enclosed? "color(" chars, enclosed? "rgb(" chars with
    | '#' :: digits, _, _ => inRange (digits.length == 6 && digits.all isHexDigit)
    | _, some number, _ =>
        if number.isEmpty || 3 < number.length || !number.all Text.isAsciiDigit then .error .unknown
        else (isPart number).bind inRange
    | _, none, some parts => checkParts parts
    | _, none, none => .error .unknown

def named (word : String) : Except StyleProblem String :=
  let small := Text.lower word.toList
  (check small).map fun _ => String.ofList small

end Color

end QueryHooks.Report

/-! Styles of text: attributes, colors and a link, and the one way in which each style is spelled. -/

namespace QueryHooks.Report

/-- A style. Of two settings of an attribute the first counts. -/
structure Style where
  attributes : List (String × Bool) := []
  color : Option String := none
  background : Option String := none
  link : Option String := none
deriving DecidableEq, Repr

namespace Style

/-- The attributes, in the order in which they are spelled. -/
def attributeNames : List String :=
  ["bold", "dim", "italic", "underline", "blink", "blink2", "reverse", "conceal", "strike", "underline2",
    "frame", "encircle", "overline"]

def abbreviations : List (String × String) :=
  [("b", "bold"), ("d", "dim"), ("i", "italic"), ("u", "underline"), ("r", "reverse"), ("c", "conceal"),
    ("s", "strike"), ("uu", "underline2"), ("o", "overline")]

def attribute? (word : String) : Option String :=
  if attributeNames.contains word then some word else abbreviations.lookup word

def set (style : Style) (name : String) (isOn : Bool) : Style :=
  { style with attributes := (name, isOn) :: style.attributes }

/-- Add a word that stands for itself: an attribute or a color. -/
def addWord (style : Style) (word : String) : Except StyleProblem Style :=
  match attribute? word with
  | some name => .ok (style.set name true)
  | none => (Color.named word).map fun color => { style with color := some color }

/-- Add words to a style. After `not`, `on` and `link` the next word is their object. -/
def addWords (style : Style) : List String → Except StyleProblem Style
  | [] => .ok style
  | [word] =>
      let small := Text.lowerText word
      if small == "on" || small == "not" || small == "link" then .error .unknown else style.addWord small
  | word :: object :: rest =>
      match Text.lowerText word with
      | "on" =>
          match Color.named object with
          | .ok color => { style with background := some color }.addWords rest
          | .error problem => .error problem
      | "not" =>
          match attribute? object with
          | some name => (style.set name false).addWords rest
          | none => .error .unknown
      | "link" => { style with link := some object }.addWords rest
      | small =>
          match style.addWord small with
          | .ok style => style.addWords (object :: rest)
          | .error problem => .error problem

def wordsOf (chars : List Char) : List String :=
  ((chars.splitBy fun a b => Text.isBlank a == Text.isBlank b).filter fun run =>
    !run.any Text.isBlank).map String.ofList

def ofText (chars : List Char) : Except StyleProblem Style :=
  if Text.trim chars == "none".toList then .ok {} else ({} : Style).addWords (wordsOf chars)

def words (style : Style) : List String :=
  let attributes := attributeNames.filterMap fun name =>
    (style.attributes.lookup name).map fun isOn => if isOn then name else "not " ++ name
  let background := match style.background with
    | some color => ["on", color]
    | none => []
  let link := match style.link with
    | some address => ["link", address]
    | none => []
  attributes ++ style.color.toList ++ background ++ link

def spelled (style : Style) : String :=
  match style.words with
  | [] => "none"
  | words => " ".intercalate words

/-- The one name of the style that a text describes; a text that describes none is its own name. -/
def nameOf (chars : List Char) : Except StyleProblem String :=
  match ofText chars with
  | .ok style => .ok style.spelled
  | .error .unknown => .ok (String.ofList (Text.lower (Text.trim chars)))
  | .error .malformed => .error .malformed

end Style

end QueryHooks.Report
