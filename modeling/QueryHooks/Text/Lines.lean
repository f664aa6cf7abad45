import QueryHooks.Text.Class

/-! Cutting a text into lines. -/

namespace QueryHooks.Text

/-- The lines of a text, without their ends; `\r\n` ends one line, and a final end starts no further line. -/
def lines : List Char → List (List Char)
  | [] => []
  | '\r' :: '\n' :: rest => [] :: lines rest
  | c :: rest =>
      if isLineBreak c then [] :: lines rest
      else match lines rest with
        | [] => [[c]]
        | line :: others => (c :: line) :: others

/-- Newlines of every convention become `\n`. -/
def universalNewlines : List Char → List Char
  | [] => []
  | '\r' :: '\n' :: rest => '\n' :: universalNewlines rest
  | '\r' :: rest => '\n' :: universalNewlines rest
  | c :: rest => c :: universalNewlines rest

/-- Pieces of a text between the occurrences of a character; there is always at least one. -/
def splitOn (mark : Char) : List Char → List (List Char)
  | [] => [[]]
  | c :: rest =>
      if c == mark then [] :: splitOn mark rest
      else match splitOn mark rest with
        | [] => [[c]]
        | piece :: others => (c :: piece) :: others

/-- The text before the first occurrence of a character, and the text after it if there is one. -/
def cutAt (mark : Char) : List Char → List Char × Option (List Char)
  | [] => ([], none)
  | c :: rest =>
      if c == mark then ([], some rest)
      else ((cutAt mark rest).map (c :: ·) id)

theorem cutAt_length {mark : Char} {chars inside after : List Char}
    (found : cutAt mark chars = (inside, some after)) : after.length < chars.length := by
  induction chars generalizing inside with
  | nil => cases found
  | cons c rest ih =>
      rw [cutAt] at found
      split at found
      · obtain ⟨_, same⟩ := Prod.mk.inj found
        rw [Option.some.inj same, List.length_cons]
        exact Nat.lt_succ_self _
      · obtain ⟨_, same⟩ := Prod.mk.inj found
        have shorter := @ih (cutAt mark rest).1 (Prod.ext rfl same)
        rw [List.length_cons]
        omega

end QueryHooks.Text
