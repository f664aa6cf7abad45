import QueryHooks.Proofs.TypeScript.Script
import QueryHooks.Request.Query

/-!
Query parameters as both sides have them. A value is spelled in a preview as its text is in the language,
unless a mapping in it hides how its text is made.
-/

namespace QueryHooks.Request

open QueryHooks.TypeScript.Script
open QueryHooks.TypeScript.SearchParams (Pairs scalarValues)

/-- Whether an integer is one that the language has exactly. -/
def IsExact (n : Int) : Prop := n.natAbs < Nat.pow 2 53

instance (n : Int) : Decidable (IsExact n) := inferInstanceAs (Decidable (_ < _))

/-- What a query parameter can be on both sides. -/
inductive Argument
  | null
  | bool (b : Bool)
  | int (n : Int) (exact : IsExact n)
  | text (s : String)
  | list (items : List Argument)
  | map (entries : List (String × Argument))

namespace Argument

mutual

def toValue : Argument → Value
  | .null => .null
  | .bool b => .bool b
  | .int n _ => .int n
  | .text s => .text s
  | .list items => .list (toValues items)
  | .map entries => .map (toEntries entries)

def toValues : List Argument → List Value
  | [] => []
  | a :: rest => a.toValue :: toValues rest

def toEntries : List (String × Argument) → List (Value × Value)
  | [] => []
  | (key, a) :: rest => (.text key, a.toValue) :: toEntries rest

end

mutual

def toDatum : Argument → Datum
  | .null => .null
  | .bool b => .boolean b
  | .int n _ => .number n
  | .text s => .text s.toList
  | .list items => .array (toData items)
  | .map entries => .object (toProperties entries)

def toData : List Argument → List Datum
  | [] => []
  | a :: rest => a.toDatum :: toData rest

def toProperties : List (String × Argument) → List (String × Datum)
  | [] => []
  | (key, a) :: rest => (key, a.toDatum) :: toProperties rest

end

mutual

/-- Whether a mapping whose text is asked for has a key that hides the method for it. -/
def hidesText : Argument → Bool
  | .list items => anyHidesText items
  | .map entries => entries.any (·.1 == "toString")
  | _ => false

def anyHidesText : List Argument → Bool
  | [] => false
  | a :: rest => a.hidesText || anyHidesText rest

end

theorem toValues_eq (items : List Argument) : toValues items = items.map toValue := by
  induction items with
  | nil => rfl
  | cons a rest ih => rw [toValues, ih, List.map_cons]

theorem toData_eq (items : List Argument) : toData items = items.map toDatum := by
  induction items with
  | nil => rfl
  | cons a rest ih => rw [toData, ih, List.map_cons]

theorem toProperties_eq (entries : List (String × Argument)) :
    toProperties entries = entries.map fun entry => (entry.1, entry.2.toDatum) := by
  induction entries with
  | nil => rfl
  | cons entry rest ih => rw [toProperties, ih, List.map_cons]

theorem anyHidesText_eq (items : List Argument) : anyHidesText items = items.any hidesText := by
  induction items with
  | nil => rfl
  | cons a rest ih => rw [anyHidesText, ih, List.any_cons]

theorem spellItem_toValue {a : Argument} (filled : a.toDatum.isNull = false) :
    spellItem a.toValue = spell a.toValue := by
  cases a with
  | null => cases filled
  | _ => exact spellItem.eq_2 _ (by simp [toValue])

mutual

theorem toText_toDatum (store : Store) : ∀ a : Argument, a.toDatum.toText store =
    if a.hidesText then .error .typeError else .ok (spell a.toValue).toList
  | .null => by simp [toDatum, Datum.toText, hidesText, toValue, spell]
  | .bool b => by cases b <;> simp [toDatum, Datum.toText, hidesText, toValue, spell]
  | .int n _ => by simp [toDatum, Datum.toText, hidesText, toValue, spell, Value.display, Value.inspect]
  | .text s => by simp [toDatum, Datum.toText, hidesText, toValue, spell, Value.display]
  | .list items => by
      rw [toDatum, Datum.toText, itemTexts_toData store items, hidesText, toValue, spell, String.toList_intercalate]
      split <;> rfl
  | .map entries => by
      have same : (toProperties entries).any (·.1 == "toString") = entries.any (·.1 == "toString") := by
        rw [toProperties_eq, List.any_map]
        rfl
      rw [toDatum, Datum.toText, same, hidesText, toValue, spell]

theorem itemTexts_toData (store : Store) : ∀ items : List Argument, Datum.itemTexts store (toData items) =
    if anyHidesText items then .error .typeError else .ok ((spellItems (toValues items)).map String.toList)
  | [] => by simp [toData, Datum.itemTexts, anyHidesText, toValues, spellItems]
  | a :: rest => by
      have here := toText_toDatum store a
      have others := itemTexts_toData store rest
      rw [toData, anyHidesText, toValues, spellItems]
      -- null has a text, but an empty one as an item
      by_cases filled : a.toDatum.isNull = false
      · have defined : a.toDatum.isUndefined = false := by cases a <;> rfl
        rw [Datum.itemTexts_cons defined filled, here, others, spellItem_toValue filled]
        cases a.hidesText <;> cases anyHidesText rest <;> rfl
      · cases a with
        | null =>
            have shown : null.hidesText = false := by simp [hidesText]
            rw [toDatum, Datum.itemTexts, others, shown, Bool.false_or, toValue, spellItem]
            split <;> rfl
        | _ => exact absurd rfl filled

end

mutual

/-- How deep lists lie inside each other. -/
def nesting : Argument → Nat
  | .list items => nestingOfAll items + 1
  | _ => 0

def nestingOfAll : List Argument → Nat
  | [] => 0
  | a :: rest => max a.nesting (nestingOfAll rest)

end

mutual

theorem isSpellable_toValue (levels : Nat) : ∀ a : Argument,
    isSpellable levels a.toValue = decide (a.nesting ≤ levels)
  | .list items => by
      rw [toValue, isSpellable, areSpellable_toValues (levels - 1) items, nesting, ← Bool.decide_and]
      exact decide_eq_decide.2 (by omega)
  | .int n exact => by
      have short : n.natAbs < Value.unwritable := Nat.lt_trans exact (by decide +kernel)
      simpa [toValue, isSpellable, nesting, Value.hasLongInteger] using short
  | .null => by simp [toValue, isSpellable, nesting, Value.hasLongInteger]
  | .bool b => by simp [toValue, isSpellable, nesting, Value.hasLongInteger]
  | .text s => by simp [toValue, isSpellable, nesting, Value.hasLongInteger]
  | .map entries => by simp [toValue, isSpellable, nesting]

theorem areSpellable_toValues (levels : Nat) : ∀ items : List Argument,
    areSpellable levels (toValues items) = decide (nestingOfAll items ≤ levels)
  | [] => by simp [toValues, areSpellable, nestingOfAll]
  | a :: rest => by
      rw [toValues, areSpellable, isSpellable_toValue levels a, areSpellable_toValues levels rest, nestingOfAll,
        ← Bool.decide_and]
      exact decide_eq_decide.2 (by omega)

end

/-- What is sent of a parameter: the items of a list, and nothing of null. -/
def sent : Argument → List Argument
  | .null => []
  | .list items => items
  | a => [a]

theorem sent_toValue (a : Argument) : Fields.sent a.toValue = a.sent.map toValue := by
  cases a with
  | list items => rw [toValue, toValues_eq]; rfl
  | _ => rfl

def pair (key : String) (a : Argument) : List Char × List Char :=
  (scalarValues key.toList, scalarValues (spell a.toValue).toList)

def pairs (key : String) (a : Argument) : Pairs := a.sent.map (pair key)

end Argument

end QueryHooks.Request
