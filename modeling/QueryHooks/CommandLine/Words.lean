/-!
Reading the words of a command line: options with one or two dashes, their values, and other arguments.
Short options may share a dash, and a value may follow its option at once.
-/

namespace QueryHooks.CommandLine

/-- What an option stands for: something by itself, or something made of its value. -/
inductive Meaning (α : Type)
  | flag (a : α)
  | value (of : String → α)

/-- An option: its names with their dashes, and its meaning. -/
structure Rule (α : Type) where
  names : List String
  meaning : Meaning α

/-- What words say: the options in order, and the arguments that are no options. -/
structure Parsed (α : Type) where
  options : List α
  arguments : List String

namespace Parsed

variable {α : Type}

/-- Put options before those that are there. -/
def after (options : List α) (p : Parsed α) : Parsed α := { p with options := options ++ p.options }

def argument (word : String) (p : Parsed α) : Parsed α := { p with arguments := word :: p.arguments }

end Parsed

variable {α : Type}

def meaning? (rules : List (Rule α)) (name : String) : Option (Meaning α) :=
  (rules.find? fun r => r.names.contains name).map (·.meaning)

/-- Options, and the words after them, no more than there were. -/
abbrev Step (α : Type) (words : List String) := List α × { rest : List String // rest.length ≤ words.length }

/-- An option whose value is the next word. -/
def takeNext (of : String → α) (words : List String) : Option (Step α words) :=
  match words with
  | [] => none
  | word :: rest => some ([of word], ⟨rest, by simp⟩)

/-- Short options that share a dash. The first that takes a value takes the rest of the word, or else the next word. -/
def readShort (rules : List (Rule α)) (words : List String) : List Char → Option (Step α words)
  | [] => some ([], ⟨words, Nat.le_refl _⟩)
  | c :: others =>
      match meaning? rules (String.ofList ['-', c]) with
      | none => none
      | some (.flag a) => (readShort rules words others).map fun (found, rest) => (a :: found, rest)
      | some (.value of) =>
          if others.isEmpty then takeNext of words
          else some ([of (String.ofList others)], ⟨words, Nat.le_refl _⟩)

/-- The name of a long option, and the value after an equals sign. -/
def cutValue : List Char → List Char × Option (List Char)
  | [] => ([], none)
  | c :: rest => if c == '=' then ([], some rest) else (cutValue rest).map (c :: ·) id

def readOption (rules : List (Rule α)) (words : List String) (word : String) : Option (Step α words) :=
  let (name, value) := cutValue word.toList
  let long := if name.take 2 == ['-', '-'] then meaning? rules (String.ofList name) else none
  match long, value with
  | some (.flag a), none => some ([a], ⟨words, Nat.le_refl _⟩)
  | some (.flag _), some _ => none
  | some (.value of), some text => some ([of (String.ofList text)], ⟨words, Nat.le_refl _⟩)
  | some (.value of), none => takeNext of words
  | none, _ => if word.startsWith "--" then none else readShort rules words (word.toList.drop 1)

/-- A lone dash is an argument. -/
def isOption (word : String) : Bool := word.startsWith "-" && word != "-"

/-- Read words. Two dashes end the options; without mixing, so does the first argument. -/
def read (rules : List (Rule α)) (mixed : Bool) (words : List String) : Option (Parsed α) :=
  match words with
  | [] => some ⟨[], []⟩
  | word :: words =>
      if word == "--" then some ⟨[], words⟩
      else if isOption word then
        match readOption rules words word with
        | none => none
        | some (found, ⟨rest, _⟩) => (read rules mixed rest).map (.after found)
      else if mixed then (read rules mixed words).map (.argument word)
      else some ⟨[], word :: words⟩
termination_by words.length
decreasing_by
  · simp only [List.length_cons]; omega
  · simp

end QueryHooks.CommandLine
