import QueryHooks.Api.Operation
import QueryHooks.PathTemplate

/-! The expression that computes the path of a request. -/

namespace QueryHooks.TypeScript

open QueryHooks.Api (Parameter isRequired)

structure Accessor where
  base : String
  optional : Bool
deriving DecidableEq, Repr

namespace Accessor

/-- A trailing question mark makes every access optional, and so does one inside. -/
def ofText (text : String) : Accessor :=
  let chars := text.toList
  let base := if chars.getLast? == some '?' then chars.dropLast else chars
  ⟨String.ofList base, chars.getLast? == some '?' || hasOptionalAccess base⟩
where
  hasOptionalAccess : List Char → Bool
    | '?' :: '.' :: _ => true
    | _ :: rest => hasOptionalAccess rest
    | [] => false

def read (a : Accessor) (name : String) : String := a.base ++ (if a.optional then "?." else ".") ++ name

end Accessor

/-- What stands in a template literal for a name between braces: an optional value may be empty. -/
def interpolation (params : List Parameter) (accessor : Accessor) (name : String) : String :=
  if isRequired params name then "$\x7b" ++ accessor.read name ++ "\x7d"
  else "$\x7b" ++ accessor.read name ++ " ?? \x27\x27\x7d"

/-- A path without parameters is a plain literal, and one with parameters a template. -/
def pathExpression (path : String) (params : List Parameter) (accessor : Accessor) : String :=
  if params.isEmpty then "\x27" ++ path ++ "\x27"
  else
    let filled := PathTemplate.fill (fun name => (interpolation params accessor name).toList) (PathTemplate.ofText path)
    "\x60" ++ String.ofList filled ++ "\x60"

end QueryHooks.TypeScript
