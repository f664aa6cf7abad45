import QueryHooks.Value

/-!
How deep values are, and values that contain themselves. A part of these may refer to collections around it, so whoever takes it out
puts those in their places; what comes out refers to nothing but itself.
-/

namespace QueryHooks.Value

mutual

/-- Whether a value has no end, because some part of it stands for a collection around it. -/
def isEndless : Value → Bool
  | .list items => anyIsEndless items
  | .map entries => anyEntryIsEndless entries
  | .pair first second => isEndless first || isEndless second
  | .again .. => true
  | _ => false

def anyIsEndless : List Value → Bool
  | [] => false
  | v :: rest => isEndless v || anyIsEndless rest

def anyEntryIsEndless : List (Value × Value) → Bool
  | [] => false
  | (_, v) :: rest => isEndless v || anyEntryIsEndless rest

end

mutual

/-- How many collections lie inside each other in a value. -/
def depth : Value → Nat
  | .list items => depthOfAll items + 1
  | .map entries => depthOfEntries entries + 1
  | .pair first second => Nat.max (depth first) (depth second) + 1
  | _ => 0

def depthOfAll : List Value → Nat
  | [] => 0
  | v :: rest => Nat.max (depth v) (depthOfAll rest)

def depthOfEntries : List (Value × Value) → Nat
  | [] => 0
  | (_, v) :: rest => Nat.max (depth v) (depthOfEntries rest)

end

mutual

/-- Whether a value that lies in `depth` collections of its own refers to one further out. -/
def reachesOut (depth : Nat) : Value → Bool
  | .list items => anyReachesOut (depth + 1) items
  | .map entries => anyEntryReachesOut (depth + 1) entries
  | .pair first second => reachesOut depth first || reachesOut depth second
  | .again _ up => depth ≤ up
  | _ => false

def anyReachesOut (depth : Nat) : List Value → Bool
  | [] => false
  | v :: rest => reachesOut depth v || anyReachesOut depth rest

def anyEntryReachesOut (depth : Nat) : List (Value × Value) → Bool
  | [] => false
  | (_, v) :: rest => reachesOut depth v || anyEntryReachesOut depth rest

end

/-- The collection that lies `up` levels out, where there is one. -/
def surrounding (around : List Value) (kind : Collection) (depth up : Nat) : Value :=
  if up < depth then .again kind up
  else
    match around[up - depth]? with
    | some (.list items) => .list items
    | some (.map entries) => .map entries
    | _ => .again kind up

mutual

/-- A value with the collections around it put in their places, from the innermost on. -/
def within (around : List Value) (depth : Nat) : Value → Value
  | .list items => .list (itemsWithin around (depth + 1) items)
  | .map entries => .map (entriesWithin around (depth + 1) entries)
  | .pair first second => .pair (within around depth first) (within around depth second)
  | .again kind up => surrounding around kind depth up
  | v => v

def itemsWithin (around : List Value) (depth : Nat) : List Value → List Value
  | [] => []
  | v :: rest => within around depth v :: itemsWithin around depth rest

def entriesWithin (around : List Value) (depth : Nat) : List (Value × Value) → List (Value × Value)
  | [] => []
  | (k, v) :: rest => (k, within around depth v) :: entriesWithin around depth rest

end

def partOf (container part : Value) : Value :=
  if part.reachesOut 0 then part.within [container] 0 else part

/-- Collections around a place, from the innermost on, each as a value of its own. -/
def closeAll : List Value → List Value
  | [] => []
  | v :: around =>
      let closed := closeAll around
      v.within closed 0 :: closed

/-- The value at a place among collections, as a value of its own. -/
def closedIn (around : List Value) (v : Value) : Value :=
  if v.reachesOut 0 then v.within (closeAll around) 0 else v

def part? (v : Value) (key : String) : Option Value := (v.get? key).map v.partOf

end QueryHooks.Value
