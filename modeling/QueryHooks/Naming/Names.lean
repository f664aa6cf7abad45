import QueryHooks.Api.Operation
import QueryHooks.Text.Letters

/-! Words of a text, and the text's name in camel case. -/

namespace QueryHooks.Naming

open QueryHooks.Text

def isWordChar (c : Char) : Bool := isLetter c || isDigit c

/-- Whether a word starts at a character: at a capital after a small letter or digit, and at the last capital of a run. -/
def startsWord (previous c : Char) (next : Option Char) : Bool :=
  isUpper c && (isLower previous || isDigit previous || (isUpper previous && next.any isLower))

private def extendFirst (c : Char) : List (List Char) → List (List Char)
  | [] => [[c]]
  | run :: more => (c :: run) :: more

/-- The runs between word starts and characters of no word. The first run goes on from the characters before. -/
def runs (previous : Option Char) : List Char → List (List Char)
  | [] => [[]]
  | c :: rest =>
      let later := runs (some c) rest
      let here := if isWordChar c then extendFirst c later else [] :: later
      if previous.any fun p => startsWord p c rest.head? then [] :: here else here

theorem exists_runs (previous : Option Char) (chars : List Char) :
    ∃ first later, runs previous chars = first :: later := by
  cases chars with
  | nil => exact ⟨[], [], rfl⟩
  | cons c rest =>
      rw [runs]
      split
      · exact ⟨_, _, rfl⟩
      · split
        · cases runs (some c) rest <;> exact ⟨_, _, rfl⟩
        · exact ⟨_, _, rfl⟩

theorem runs_cons (previous : Option Char) {c : Char} {rest first : List Char} {later : List (List Char)}
    (whole : runs (some c) rest = first :: later) :
    runs previous (c :: rest) =
      (if previous.any fun p => startsWord p c rest.head? then [[]] else []) ++
        if isWordChar c then (c :: first) :: later else [] :: first :: later := by
  rw [runs, whole]
  split <;> rfl

/-- The runs hold the characters of words, in order, and no others. -/
theorem flatten_runs (previous : Option Char) (chars : List Char) :
    (runs previous chars).flatten = chars.filter isWordChar := by
  have extended (c : Char) (later : List (List Char)) : (extendFirst c later).flatten = c :: later.flatten := by
    cases later <;> rfl
  induction chars generalizing previous with
  | nil => rfl
  | cons c rest ih =>
      have here : (if isWordChar c then extendFirst c (runs (some c) rest)
          else [] :: runs (some c) rest).flatten = (c :: rest).filter isWordChar := by
        cases isWord : isWordChar c with
        | true => rw [if_pos rfl, extended, ih, List.filter_cons_of_pos isWord]
        | false =>
            rw [if_neg (by decide), List.flatten_cons, List.nil_append, ih,
              List.filter_cons_of_neg (by simp [isWord])]
      rw [runs]
      split
      · exact here
      · exact here

def words (chars : List Char) : List (List Char) := (runs none (trim chars)).filter (!·.isEmpty)

theorem flatten_words (chars : List Char) : (words chars).flatten = (trim chars).filter isWordChar := by
  have nonEmpty (pieces : List (List Char)) : (pieces.filter (!·.isEmpty)).flatten = pieces.flatten := by
    induction pieces with
    | nil => rfl
    | cons piece rest ih => cases piece <;> simp [ih]
  rw [words, nonEmpty, flatten_runs]

/-- A word in small letters but for its first, in capitals. -/
def capitalized : List Char → List Char
  | [] => []
  | c :: rest => upperOf c ++ lower rest

/-- A word after another. A digit at its start is set off by an underscore. -/
def laterWord (word : List Char) : List Char :=
  if word.head?.any isAsciiDigit then '_' :: lower word else capitalized word

theorem laterWord_of_digit {c : Char} (digit : isAsciiDigit c = true) (word : List Char) :
    laterWord (c :: word) = '_' :: lower (c :: word) := by
  rw [laterWord, List.head?_cons, Option.any_some, if_pos digit]

theorem laterWord_of_letter {c : Char} (letter : isAsciiDigit c = false) (word : List Char) :
    laterWord (c :: word) = upperOf c ++ lower word := by
  rw [laterWord, List.head?_cons, Option.any_some, letter, if_neg (by decide), capitalized]

/-- The words joined, the first in small letters and each later one with a capital. -/
def joinWords : List (List Char) → List Char
  | [] => []
  | first :: rest => lower first ++ rest.flatMap laterWord

def camelCaseChars (chars : List Char) : List Char := joinWords (words chars)

def camelCase (text : String) : String := String.ofList (camelCaseChars text.toList)

def capitalizeFirst (text : String) : String :=
  match text.toList with
  | [] => ""
  | c :: rest => String.ofList (upperOf c ++ rest)

end QueryHooks.Naming

/-! The names that generated files use for operations and tags, and the paths of those files. -/

namespace QueryHooks.Naming

open QueryHooks.Api (Method Operation)

/-- An operation id without braces. -/
def sanitize (id : String) : String :=
  String.ofList (id.toList.filter fun c => c != '\x7b' && c != '\x7d')

/-- The id of an operation that declares none. -/
def synthesizedId (method path : String) : String := sanitize (camelCase (method ++ "_" ++ path))

def functionName (op : Operation) : String := camelCase op.id

def hookName (op : Operation) : String := "use" ++ capitalizeFirst (functionName op)

def paramsTypeName (op : Operation) : String := capitalizeFirst (functionName op) ++ "Params"

def tagKey (tag : String) : String := camelCase tag

def hooksPath (tag extension : String) : String := s!"hooks/{tag}.generated.{extension}"

def combinedHooksPath (extension : String) : String := s!"hooks.generated.{extension}"

end QueryHooks.Naming
