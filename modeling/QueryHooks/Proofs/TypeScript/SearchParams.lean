import QueryHooks.Text.Half
import QueryHooks.Text.Percent

/-!
Search parameters: pairs of texts, written as form data. Which bytes are written with a percent sign is
said by a row of sets, each of which has all that the one before it has.
-/

namespace QueryHooks.TypeScript.SearchParams

open QueryHooks.Text.Percent (encodeByte)

abbrev Pairs := List (List Char × List Char)

/-- A text with its pairs joined and its other characters changed one by one. -/
def joinPairs (paired? : Char → Char → Option Char) (alone : Char → Char) : List Char → List Char
  | [] => []
  | [c] => [alone c]
  | c :: d :: rest =>
      match paired? c d with
      | some joined => joined :: joinPairs paired? alone rest
      | none => alone c :: joinPairs paired? alone (d :: rest)

def paired? (first second : Char) : Option Char := do
  let high ← Text.Half.unit? first
  let low ← Text.Half.unit? second
  if Text.Half.isHigh high && Text.Half.isLow low then some (Text.Half.join high low) else none

/-- The scalar values of a text: one for each pair of halves, and a replacement for any other half. -/
def scalarValues (chars : List Char) : List Char :=
  joinPairs paired? (fun c => if Text.Half.isHalf c then '\uFFFD' else c) chars

def inControlSet (byte : UInt8) : Bool := byte ≤ 0x1F || 0x7E < byte

def isOneOf (chars : String) (byte : UInt8) : Bool := chars.toList.contains (Char.ofNat byte.toNat)

def inQuerySet (byte : UInt8) : Bool := inControlSet byte || isOneOf " \"#<>" byte

def inPathSet (byte : UInt8) : Bool := inQuerySet byte || isOneOf "?^\x60\x7b\x7d" byte

def inUserinfoSet (byte : UInt8) : Bool := inPathSet byte || isOneOf "/:;=@[\\]|" byte

def inComponentSet (byte : UInt8) : Bool := inUserinfoSet byte || isOneOf "$%&+," byte

def inFormSet (byte : UInt8) : Bool := inComponentSet byte || isOneOf "!'()~" byte

def writeByte (byte : UInt8) : List Char :=
  if byte = 0x20 then ['+']
  else if inFormSet byte then encodeByte byte
  else [Char.ofNat byte.toNat]

def write (chars : List Char) : List Char := (Text.Utf8.encode chars).flatMap writeByte

def writePair (pair : List Char × List Char) : List Char := write pair.1 ++ '=' :: write pair.2

/-- Pairs one after the other, with an ampersand ahead of each that has something before it. -/
def serialize (pairs : Pairs) : List Char :=
  pairs.foldl (fun output pair => (if output.isEmpty then output else output ++ ['&']) ++ writePair pair) []

theorem joinPairs_eq_self {paired? : Char → Char → Option Char} {alone : Char → Char} {chars : List Char}
    (single : ∀ c ∈ chars, (∀ d, paired? c d = none) ∧ alone c = c) :
    joinPairs paired? alone chars = chars := by
  induction chars with
  | nil => rfl
  | cons c rest ih =>
      obtain ⟨⟨unpaired, kept⟩, later⟩ := List.forall_mem_cons.1 single
      cases rest with
      | nil => rw [joinPairs, kept]
      | cons d rest => rw [joinPairs, unpaired, kept, ih later]

theorem scalarValues_of_whole {chars : List Char} (whole : ∀ c ∈ chars, Text.Half.isHalf c = false) :
    scalarValues chars = chars := by
  refine joinPairs_eq_self fun c inside => ⟨fun d => ?_, by simp [whole c inside]⟩
  have none : Text.Half.unit? c = none := by simpa [Text.Half.isHalf] using whole c inside
  rw [paired?, none]
  rfl

theorem writePair_ne_nil (pair : List Char × List Char) : writePair pair ≠ [] :=
  List.append_ne_nil_of_right_ne_nil _ (List.cons_ne_nil _ _)

theorem serialize_eq_intercalate (pairs : Pairs) : serialize pairs = ['&'].intercalate (pairs.map writePair) := by
  -- once there is output, each further pair comes after an ampersand
  have further (pairs : Pairs) (output : List Char) (filled : output ≠ []) :
      pairs.foldl (fun output pair => (if output.isEmpty then output else output ++ ['&']) ++ writePair pair)
        output = ['&'].intercalate (output :: pairs.map writePair) := by
    induction pairs generalizing output with
    | nil => simp
    | cons pair rest ih =>
        have grown : output ++ ['&'] ++ writePair pair ≠ [] :=
          List.append_ne_nil_of_right_ne_nil _ (writePair_ne_nil pair)
        rw [List.foldl_cons, if_neg (by simpa using filled), ih _ grown, List.map_cons,
          List.intercalate_cons_cons]
        cases rest with
        | nil => simp
        | cons second others => simp [List.intercalate_cons_cons]
  cases pairs with
  | nil => rfl
  | cons pair rest =>
      rw [serialize, List.foldl_cons, List.isEmpty_nil, if_pos rfl, List.nil_append,
        further rest _ (writePair_ne_nil pair), List.map_cons]

end QueryHooks.TypeScript.SearchParams
