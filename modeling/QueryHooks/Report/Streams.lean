import QueryHooks.Json.Writer
import QueryHooks.Report.Diagnostic

/-! Data on standard output: lines, tables and records. -/

namespace QueryHooks.Report

inductive Data
  | line (text : String)
  | table (headers : List String) (rows : List (List String))
  | response (v : Value)

namespace Data

/-- A row of a table under its headers. Cells without a header and headers without a cell are left out. -/
def recordOf (headers row : List String) : Value :=
  .map (Value.ofPairs ((headers.zip row).map fun (name, cell) => (.text name, .text cell)))

/-- A value after its name; collections are on one line. -/
def fieldText (v : Value) : String :=
  match v with
  | .map _ => Json.compact v
  | .list _ => Json.compact v
  | v => v.display

def lines (format : Format) : Data → List String
  | .line text => [text]
  | .table headers rows =>
      match format with
      | .json => [Json.pretty (.list (rows.map (recordOf headers)))]
      | .plain => (headers :: rows).map "\t".intercalate
  | .response v =>
      match format, v with
      | .json, v => [Json.pretty v]
      | .plain, .map entries => entries.map fun (key, v) => key.display ++ "\t" ++ fieldText v
      | .plain, v => [Json.compact v]

end Data

/-! What a run prints: data on one stream and notes on the other. -/

inductive Item
  | data (d : Data)
  | note (n : Note)

/-- The texts printed on the two streams. -/
structure Streams where
  stdout : String
  stderr : String
deriving DecidableEq, Repr

namespace Streams

def empty : Streams := ⟨"", ""⟩

def append (first second : Streams) : Streams := ⟨first.stdout ++ second.stdout, first.stderr ++ second.stderr⟩

instance : Append Streams := ⟨append⟩

end Streams

def ended (lines : List String) : String := String.join (lines.map (· ++ "\n"))

def printItem (settings : Settings) : Item → Except Failure Streams
  | .data d => .ok ⟨ended (d.lines settings.format), ""⟩
  | .note n =>
      if isShown settings n.level then (diagnostic settings n).map fun lines => ⟨"", ended lines⟩
      else .ok .empty

/-- Print one thing after the other, up to the first that cannot be printed. -/
def print (settings : Settings) : List Item → Streams × Except Failure Unit
  | [] => (.empty, .ok ())
  | item :: rest =>
      match printItem settings item with
      | .error failure => (.empty, .error failure)
      | .ok printed =>
          let (others, result) := print settings rest
          (printed ++ others, result)

/-- The lines of a report on a computation: its notes, and then what its result is shown as. -/
def printNoted {α : Type} (settings : Settings) (computed : Noted α) (shown : α → List Item) :
    Streams × Except Failure α :=
  let items := match computed.result with
    | .ok a => shown a
    | .error _ => []
  match print settings (computed.notes.map .note ++ items) with
  | (streams, .ok ()) => (streams, computed.result)
  | (streams, .error failure) => (streams, .error failure)

end QueryHooks.Report
