import QueryHooks.Text.Class

/-!
Punycode: a text as ASCII letters and digits. Its ASCII characters come first, and after a hyphen the places
of the others, in the order of their code points, as numbers of variable length.
-/

namespace QueryHooks.Url.Punycode

def digitChar (digit : Nat) : Char := Char.ofNat (if digit < 26 then 97 + digit else 22 + digit)

def digitValue? (c : Char) : Option Nat :=
  if Text.isAsciiLower c then some (c.toNat - 97)
  else if Text.isAsciiUpper c then some (c.toNat - 65)
  else if Text.isAsciiDigit c then some (c.toNat - 22)
  else none

/-- The digits from which on a number ends at a place, given the bias. -/
def threshold (place bias : Nat) : Nat := Nat.min 26 (Nat.max 1 (36 * (place + 1) - bias))

theorem threshold_pos (place bias : Nat) : 1 ≤ threshold place bias := by
  simp only [threshold, Nat.le_min]
  exact ⟨by decide, Nat.le_max_left ..⟩

/-- Scale a difference down to the bias that it calls for. -/
def biasOf (scaled steps : Nat) : Nat :=
  if 455 < scaled then biasOf (scaled / 35) (steps + 36) else steps + 36 * scaled / (scaled + 38)
termination_by scaled
decreasing_by omega

/-- The bias after a difference. -/
def adapt (difference : Nat) (isFirst : Bool) (count : Nat) : Nat :=
  let scaled := difference / (if isFirst then 700 else 2)
  biasOf (scaled + scaled / count) 0

def digits (bias place number : Nat) : List Char :=
  let least := threshold place bias
  if number < least then [digitChar number]
  else digitChar (least + (number - least) % (36 - least)) ::
    digits bias (place + 1) ((number - least) / (36 - least))
termination_by number
decreasing_by
  have lower := threshold_pos place bias
  have smaller := Nat.div_le_self (number - threshold place bias) (36 - threshold place bias)
  omega

/-- A text that is being written: its characters so far, how many of the text they stand for, and the difference so far. -/
structure Writing where
  written : List Char
  count : Nat
  difference : Nat
  bias : Nat

def Writing.pass (plain point : Nat) (state : Writing) (c : Char) : Writing :=
  if c.toNat < point then { state with difference := state.difference + 1 }
  else if c.toNat == point then
    { written := state.written ++ digits state.bias 0 state.difference
      count := state.count + 1
      difference := 0
      bias := adapt state.difference (state.count == plain) (state.count + 1) }
  else state

/-- Write the characters of a text that have the further points, in increasing order. -/
def writePoints (chars : List Char) (plain last : Nat) (state : Writing) : List Nat → List Char
  | [] => state.written
  | point :: rest =>
      let skipped := (point - last) * (state.count + 1)
      let passed := chars.foldl (Writing.pass plain point) { state with difference := state.difference + skipped }
      writePoints chars plain (point + 1) { passed with difference := passed.difference + 1 } rest

def encode (chars : List Char) : List Char :=
  let plain := chars.filter Text.isAscii
  let points := ((chars.filter (!Text.isAscii ·)).map Char.toNat).mergeSort.eraseDups
  writePoints chars plain.length 128
    ⟨if plain.isEmpty then [] else plain ++ ['-'], plain.length, 0, 72⟩ points

/-- A number and the digits after it. -/
def number? (bias place weight : Nat) : List Char → Option (Nat × List Char)
  | [] => none
  | c :: rest =>
      match digitValue? c with
      | none => none
      | some digit =>
          let least := threshold place bias
          if digit < least then some (digit * weight, rest)
          else (number? bias (place + 1) (weight * (36 - least)) rest).map fun (value, after) =>
            (digit * weight + value, after)

theorem number?_length {bias place weight value : Nat} {chars rest : List Char}
    (found : number? bias place weight chars = some (value, rest)) : rest.length < chars.length := by
  induction chars generalizing place weight value with
  | nil => simp [number?] at found
  | cons c more ih =>
      simp only [number?] at found
      split at found
      · simp at found
      · split at found
        · obtain ⟨_, same⟩ := Prod.mk.inj (Option.some.inj found)
          simp [same]
        · obtain ⟨pair, within, same⟩ := Option.map_eq_some_iff.1 found
          obtain ⟨_, rfl⟩ := Prod.mk.inj same
          have := ih within
          simp only [List.length_cons]
          omega

/-- Put the characters that digits place into a text, after a code point and a place. -/
def insert? (text : List Char) (point place bias : Nat) (isFirst : Bool) (chars : List Char) : Option (List Char) :=
  match chars with
  | [] => some text
  | first :: more =>
      match _found : number? bias 0 1 (first :: more) with
      | none => none
      | some (difference, rest) =>
          let place := place + difference
          let count := text.length + 1
          let point := point + place / count
          if 0x10FFFF < point then none
          else
            let place := place % count
            insert? (text.take place ++ Char.ofNat point :: text.drop place) point (place + 1)
              (adapt difference isFirst count) false rest
termination_by chars.length
decreasing_by exact number?_length _found

/-- The text that is written as another, if that is well formed. -/
def decode? (chars : List Char) : Option (List Char) :=
  let digits := (chars.reverse.takeWhile (· != '-')).reverse
  insert? (chars.take (chars.length - digits.length)).dropLast 128 0 72 true digits

end QueryHooks.Url.Punycode
