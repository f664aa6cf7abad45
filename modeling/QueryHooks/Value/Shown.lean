import QueryHooks.Failure
import QueryHooks.Text.Integer
import QueryHooks.Value

/-! Showing values in text. An integer of too many digits has no text. -/

namespace QueryHooks.Value

/-- The least absolute value that is too long to write. -/
def unwritable : Nat := Nat.pow 10 Text.Integer.maxDecimalDigits

mutual

/-- Whether a value holds an integer that is too long to write. -/
def hasLongInteger : Value → Bool
  | .int n => unwritable ≤ n.natAbs
  | .list items => anyHasLongInteger items
  | .map entries => anyEntryHasLongInteger entries
  | .set members => anyHasLongInteger members
  | .pair first second => hasLongInteger first || hasLongInteger second
  | _ => false

def anyHasLongInteger : List Value → Bool
  | [] => false
  | v :: rest => hasLongInteger v || anyHasLongInteger rest

def anyEntryHasLongInteger : List (Value × Value) → Bool
  | [] => false
  | (k, v) :: rest => hasLongInteger k || hasLongInteger v || anyEntryHasLongInteger rest

end

/-- The plain form of a value, if it has one. -/
def shown (v : Value) : Except Failure String :=
  if v.hasLongInteger then .error .unexpected else .ok v.display

end QueryHooks.Value
