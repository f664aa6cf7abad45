import QueryHooks.Failure

/-! Notes on a run: what goes beside its result, each with its level. -/

namespace QueryHooks

inductive Level
  | debug
  | info
  | success
  | suggestion
  | warning
  | error
deriving DecidableEq, Repr

structure Note where
  level : Level
  text : String
deriving DecidableEq, Repr

namespace Note

def debug (text : String) : Note := ⟨.debug, text⟩

def warning (text : String) : Note := ⟨.warning, text⟩

end Note

/-! Computations that leave notes on their way to a result or a failure. -/

/-- A result, and the notes made before it. -/
structure Noted (α : Type) where
  notes : List Note
  result : Except Failure α

namespace Noted

variable {α β : Type}

def say (note : Note) : Noted Unit := ⟨[note], .ok ()⟩

/-- A computation that has nothing to say. -/
def quietly (result : Except Failure α) : Noted α := ⟨[], result⟩

/-- Go on with a result. After a failure nothing more is noted. -/
def andThen (first : Noted α) (next : α → Noted β) : Noted β :=
  match first.result with
  | .ok a => ⟨first.notes ++ (next a).notes, (next a).result⟩
  | .error failure => ⟨first.notes, .error failure⟩

instance : Monad Noted where
  pure a := quietly (.ok a)
  bind := andThen

/-- What hears notes: the failure of one that it cannot take. -/
abbrev Listener : Type := Note → Option Failure

/-- A listener that takes every note. -/
def Listener.open : Listener := fun _ => none

/-- The notes up to the first that a listener cannot take, and its failure. -/
def Listener.hear (listener : Listener) : List Note → List Note × Except Failure Unit
  | [] => ([], .ok ())
  | note :: rest =>
      match listener note with
      | some failure => ([note], .error failure)
      | none =>
          let (heard, result) := listener.hear rest
          (note :: heard, result)

/-- A computation before a listener: a note that it cannot take is the last, and its failure the result. -/
def heard (listener : Listener) (computed : Noted α) : Noted α :=
  match listener.hear computed.notes with
  | (notes, .ok ()) => ⟨notes, computed.result⟩
  | (notes, .error failure) => ⟨notes, .error failure⟩

end Noted

end QueryHooks
