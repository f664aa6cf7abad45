import Mathlib.Data.List.Nodup
import QueryHooks.Proofs.Api.MovedOut
import QueryHooks.Proofs.TypeScript.Lines
import QueryHooks.Proofs.TypeScript.ObjectType
import QueryHooks.Render.Types

/-!
The members of the types that an operation is written with. Its parameters stand in a group for each place, where their
names are different; but an interface has those of the path and of the query side by side.
-/

namespace QueryHooks

namespace Api.Operation

variable {op : Operation}

/-- Whether the parameters of an operation are known by name and place. -/
def HasUniqueParameters (op : Operation) : Prop := (op.parameters.map fun p => (p.name, p.location)).Nodup

theorem nodup_names (unique : op.HasUniqueParameters) (place : Location) :
    ((op.parametersIn place).map (·.name)).Nodup := by
  have apart := List.pairwise_map.1 (unique.sublist ((List.filter_sublist (p := (·.location == place))).map _))
  refine List.pairwise_map.2 (apart.imp_of_mem fun {p q} here there other same => other ?_)
  rw [same, eq_of_beq (List.mem_filter.1 here).2, eq_of_beq (List.mem_filter.1 there).2]

/-- The parameters that an interface has members for. -/
def declared (op : Operation) : List Parameter := op.parametersIn .path ++ op.parametersIn .query

theorem nodup_declared_iff (unique : op.HasUniqueParameters) : (op.declared.map (·.name)).Nodup ↔
    ∀ p ∈ op.parametersIn .path, ∀ q ∈ op.parametersIn .query, p.name ≠ q.name := by
  rw [declared, List.map_append, List.nodup_append]
  refine ⟨fun ⟨_, _, apart⟩ p here q there => apart _ (List.mem_map_of_mem here) _ (List.mem_map_of_mem there),
    fun apart => ⟨nodup_names unique .path, nodup_names unique .query, ?_⟩⟩
  rintro _ here _ there
  obtain ⟨p, isPath, rfl⟩ := List.mem_map.1 here
  obtain ⟨q, isQuery, rfl⟩ := List.mem_map.1 there
  exact apart p isPath q isQuery

end Api.Operation

namespace TypeScript.TypeForm

open QueryHooks.Api (Operation Parameter Location)

variable {op : Operation} {params : List Parameter} {body : Option String}

/-- The code units of the names of parameters. -/
def units (params : List Parameter) : List (List Nat) := params.map fun p => textUnits p.name.toList

theorem nodup_units_iff : (units params).Nodup ↔ (params.map (·.name)).Nodup := by
  have injective : Function.Injective fun name : String => textUnits name.toList :=
    fun _ _ same => String.toList_inj.1 (textUnits_injective same)
  have whole : units params = (params.map (·.name)).map fun name => textUnits name.toList := by
    rw [units, List.map_map]
    rfl
  rw [whole, List.nodup_map_iff injective]

/-- Whether no name has a line break in it. -/
def stayOnLine (params : List Parameter) : Bool := params.all fun p => staysOnLine p.name.toList

/-- What is written of a parameter. -/
def ofParameter (optional : Bool) (p : Parameter) : Member :=
  written p.name (optional && !p.required) (parameterType p.shape).toList true .plain

theorem toList_member (optional : Bool) (p : Parameter) :
    (member optional p).toList = (ofParameter optional p).chars := by
  rw [member, ofParameter, written, String.toList_append, String.toList_append, String.toList_append,
    List.append_assoc, List.append_assoc]

theorem exists_plain {text : String} (known : text ∈ plainTypes) :
    ∃ c more, text.toList = c :: more ∧ Token.isGap c = false := by
  simp only [plainTypes, List.mem_cons, List.not_mem_nil, or_false] at known
  rcases known with rfl | rfl | rfl | rfl | rfl | rfl | rfl | rfl <;> exact ⟨_, _, rfl, by decide⟩

theorem isRead_ofParameter (optional : Bool) (p : Parameter) : (ofParameter optional p).IsRead :=
  isRead_written _ (reads_plain (mem_plainTypes_parameterType p.shape))
    (exists_plain (mem_plainTypes_parameterType p.shape))

theorem isRead_map (optional : Bool) : ∀ m ∈ params.map (ofParameter optional), m.IsRead :=
  List.forall_mem_map.2 fun p _ => isRead_ofParameter optional p

theorem legible_map (optional : Bool) : (params.map (ofParameter optional)).all (·.legible) = stayOnLine params := by
  rw [List.all_map, stayOnLine]
  exact congrArg (List.all params) (funext fun p => Bool.and_true _)

/-- The entry of a parameter among the members of a type. -/
def parameterEntry (p : Parameter) : List Nat × TypeForm := (textUnits p.name.toList, .plain)

theorem entry_map (optional : Bool) :
    (params.map (ofParameter optional)).map Member.entry = params.map parameterEntry := by
  rw [List.map_map]
  rfl

theorem keys_object_parameters (params : List Parameter) :
    (object (params.map parameterEntry)).keys = units params := by
  rw [keys, List.map_map]
  rfl

/-! ## Groups -/

/-- The type of a group, whose members are those of its parameters. -/
def groupForm (params : List Parameter) : TypeForm :=
  if params.isEmpty then .plain else .object (params.map parameterEntry)

theorem toList_group (optional : Bool) (otherwise : String) (some : params ≠ []) :
    (group optional params otherwise).toList =
      '\x7b' :: ' ' :: (inlineChars (params.map (ofParameter optional)) ++ [' ', '\x7d']) := by
  have opening : "\x7b ".toList = ['\x7b', ' '] := rfl
  have closing : " \x7d".toList = [' ', '\x7d'] := rfl
  have chars : (params.map (member optional)).map String.toList =
      (params.map (ofParameter optional)).map (·.chars) := by
    rw [List.map_map, List.map_map]
    exact List.map_congr_left fun p _ => toList_member optional p
  rw [group, List.isEmpty_eq_false_iff.2 some, if_neg Bool.false_ne_true, String.toList_append, String.toList_append,
    String.toList_intercalate, chars, opening, closing, inlineChars]
  rfl

theorem reads_group (optional : Bool) {otherwise : String} (known : otherwise ∈ plainTypes) :
    Reads (group optional params otherwise).toList (stayOnLine params) (groupForm params) := by
  cases params with
  | nil => exact reads_plain known
  | cons p rest =>
      have some : p :: rest ≠ [] := List.cons_ne_nil _ _
      have areRead : ∀ m ∈ (p :: rest).map (ofParameter optional), m.IsRead := isRead_map optional
      have reads := reads_inline (fun empty => some (List.map_eq_nil_iff.1 empty)) areRead
      rw [entry_map, legible_map] at reads
      rw [toList_group optional otherwise some]
      exact reads

theorem exists_group (optional : Bool) {otherwise : String} (known : otherwise ∈ plainTypes) :
    ∃ c more, (group optional params otherwise).toList = c :: more ∧ Token.isGap c = false := by
  cases params with
  | nil => exact exists_plain known
  | cons p rest => exact ⟨_, _, toList_group optional otherwise (List.cons_ne_nil _ _), by decide⟩

/-- The groups of the type that a hook is called with, as they are written. -/
def groups (op : Operation) : List Member :=
  [written "path" true (group false (op.parametersIn .path) "Record<string, never>").toList
      (stayOnLine (op.parametersIn .path)) (groupForm (op.parametersIn .path)),
    written "query" true (group true (op.parametersIn .query) "Record<string, never>").toList
      (stayOnLine (op.parametersIn .query)) (groupForm (op.parametersIn .query)),
    written "headers" true (group true (op.parametersIn .header) "Record<string, string>").toList
      (stayOnLine (op.parametersIn .header)) (groupForm (op.parametersIn .header))]

/-- A body, of a type that is not looked into. -/
def bodyMember (text : String) : Member := written "body" true text.toList true .plain

theorem isRead_groups (op : Operation) : ∀ m ∈ groups op, m.IsRead := by
  have never : "Record<string, never>" ∈ plainTypes := by decide
  have texts : "Record<string, string>" ∈ plainTypes := by decide
  simp only [groups, List.forall_mem_cons]
  exact ⟨isRead_written true (reads_group false never) (exists_group false never),
    isRead_written true (reads_group true never) (exists_group true never),
    isRead_written true (reads_group true texts) (exists_group true texts),
    fun _ impossible => absurd impossible List.not_mem_nil⟩

/-- The members of the type that a hook is called with, with a body or without. -/
def callMembers (op : Operation) (body : Option String) : List Member := groups op ++ body.toList.map bodyMember

theorem isRead_callMembers (op : Operation) (known : ∀ text ∈ body, text ∈ plainTypes) :
    ∀ m ∈ callMembers op body, m.IsRead := by
  refine List.forall_mem_append.2 ⟨isRead_groups op, List.forall_mem_map.2 fun text inside => ?_⟩
  have isKnown := known text (Option.mem_toList.1 inside)
  exact isRead_written true (reads_plain isKnown) (exists_plain isKnown)

theorem legible_callMembers (op : Operation) (body : Option String) : (callMembers op body).all (·.legible) =
    stayOnLine (op.parametersIn .path ++ (op.parametersIn .query ++ op.parametersIn .header)) := by
  have keys : ∀ key ∈ ["path", "query", "headers"], staysOnLine key.toList = true := by decide
  simp only [List.forall_mem_cons] at keys
  obtain ⟨path, query, headers, -⟩ := keys
  have bodies : (body.toList.map bodyMember).all (·.legible) = true :=
    List.all_eq_true.2 (List.forall_mem_map.2 fun _ _ => rfl)
  rw [callMembers, List.all_append, bodies, Bool.and_true]
  simp only [groups, written, path, query, headers, stayOnLine, List.all_append, List.all_cons, List.all_nil,
    Bool.true_and, Bool.and_true]

theorem toList_braced {lines : List String} (some : lines ≠ []) :
    ("\x7b\n" ++ "\n".intercalate lines ++ "\n\x7d").toList =
      '\x7b' :: ((lines.map String.toList).flatMap ('\n' :: ·) ++ ['\n', '\x7d']) := by
  have newline : "\n".toList = ['\n'] := rfl
  have filled : lines.map String.toList ≠ [] := fun empty => some (List.map_eq_nil_iff.1 empty)
  rw [String.toList_append, String.toList_append, String.toList_intercalate, newline,
    ← Text.cons_intercalate '\n' filled]
  rfl

theorem toList_paramsType (op : Operation) (body : Option String) :
    (paramsType op body).toList = '\x7b' :: (lineChars (callMembers op body) ++ ['\n', '\x7d']) := by
  have line (key : String) (text : String) (legible : Bool) (form : TypeForm)
      (known : key ∈ ["path", "query", "headers", "body"]) :
      (("  " ++ key ++ "?: ") ++ text ++ ";").toList =
        ' ' :: ' ' :: ((written key true text.toList legible form).chars ++ [';']) := by
    have plain : property key = key := by
      simp only [List.mem_cons, List.not_mem_nil, or_false] at known
      rcases known with rfl | rfl | rfl | rfl <;> rfl
    simp only [String.toList_append, written, plain, List.append_assoc]
    rfl
  unfold paramsType
  rw [toList_braced (List.append_ne_nil_of_left_ne_nil (List.cons_ne_nil _ _) _), lineChars, callMembers,
    List.flatMap_map, List.flatMap_append, List.flatMap_append]
  refine congrArg (fun chars => '\x7b' :: (chars ++ ['\n', '\x7d'])) (congrArg₂ (· ++ ·) ?_ ?_)
  · simp only [groups, List.flatMap_cons, List.flatMap_nil]
    rw [← line "path" _ _ _ (by decide), ← line "query" _ _ _ (by decide), ← line "headers" _ _ _ (by decide)]
    rfl
  · cases body with
    | none => rfl
    | some text =>
        simp only [Option.toList_some, List.map_singleton, List.flatMap_singleton]
        rw [bodyMember, ← line "body" _ _ _ (by decide)]
        rfl

/-- What is read of the type that a hook is called with. -/
def callForm (op : Operation) (body : Option String) : TypeForm :=
  .object ([("path", groupForm (op.parametersIn .path)), ("query", groupForm (op.parametersIn .query)),
    ("headers", groupForm (op.parametersIn .header))].map (fun (key, form) => (textUnits key.toList, form)) ++
      body.toList.map fun _ => (textUnits "body".toList, .plain))

/-- The type that a hook is called with is read if no name of the groups has a line break in it. -/
theorem read?_paramsType (known : ∀ text ∈ body, text ∈ plainTypes) : read? (paramsType op body).toList =
    if stayOnLine (op.parametersIn .path ++ (op.parametersIn .query ++ op.parametersIn .header)) then
      some (callForm op body, [])
    else none := by
  have entries : (callMembers op body).map Member.entry = [("path", groupForm (op.parametersIn .path)),
      ("query", groupForm (op.parametersIn .query)), ("headers", groupForm (op.parametersIn .header))].map
        (fun (key, form) => (textUnits key.toList, form)) ++
      body.toList.map fun _ => (textUnits "body".toList, .plain) := by
    cases body <;> rfl
  have reads := reads_lines (isRead_callMembers op known) _ [] (Nat.le_refl _) nofun
  rw [List.append_nil, ← toList_paramsType, legible_callMembers, entries] at reads
  exact reads

/-- Whether no two members of a type have one key, nor have those of a type in it. -/
inductive DeclaresOnce : TypeForm → Prop
  | plain : DeclaresOnce .plain
  | object {members : List (List Nat × TypeForm)} (distinct : (members.map (·.1)).Nodup)
      (inner : ∀ entry ∈ members, entry.2.DeclaresOnce) : DeclaresOnce (.object members)

theorem declaresOnce_parameters_iff :
    (object (params.map parameterEntry)).DeclaresOnce ↔ (params.map (·.name)).Nodup := by
  rw [← nodup_units_iff, ← keys_object_parameters]
  constructor
  · intro once
    cases once with
    | object distinct inner => exact distinct
  · exact fun distinct => .object distinct (List.forall_mem_map.2 fun _ _ => .plain)

theorem declaresOnce_groupForm (distinct : (params.map (·.name)).Nodup) : (groupForm params).DeclaresOnce := by
  unfold groupForm
  split
  · exact .plain
  · exact declaresOnce_parameters_iff.2 distinct

theorem declaresOnce_callForm (unique : op.HasUniqueParameters) (body : Option String) :
    (callForm op body).DeclaresOnce := by
  refine .object ?_ (List.forall_mem_append.2 ⟨?_, List.forall_mem_map.2 fun _ _ => .plain⟩)
  · have distinct : (["path", "query", "headers"].map fun key => textUnits key.toList).Nodup := by decide
    have distinctBody : (["path", "query", "headers", "body"].map fun key => textUnits key.toList).Nodup := by decide
    cases body with
    | none => exact distinct
    | some text => exact distinctBody
  · have distinct (place : Location) := declaresOnce_groupForm (Operation.nodup_names unique place)
    simp only [List.map_cons, List.forall_mem_cons, List.map_nil]
    exact ⟨distinct .path, distinct .query, distinct .header, nofun⟩

end TypeScript.TypeForm

namespace Render.Types

open QueryHooks.Api (Model Operation Parameter)
open QueryHooks.TypeScript (Code)
open QueryHooks.TypeScript.TypeForm

variable {model : Model} {op : Operation} {front back : List Operation}

/-- The members of an interface, as they are written. -/
def interfaceMembers (op : Operation) : List Member :=
  (op.parametersIn .path).map (ofParameter false) ++ (op.parametersIn .query).map (ofParameter true)

/-- What is read of an interface. -/
def interfaceForm (op : Operation) : TypeScript.TypeForm := .object (op.declared.map parameterEntry)

/-- What an interface has in front of its members. -/
def head (op : Operation) : String := "\n" ++ ("export interface " ++ Naming.paramsTypeName op ++ " ")

theorem allLines_members (op : Operation) : Code.allLines 1 ((members op).map fun m => .line (m ++ ";")) =
    (interfaceMembers op).map fun m => ' ' :: ' ' :: (m.chars ++ [';']) := by
  have line (m : String) : Code.lines 1 (.line (m ++ ";")) = [' ' :: ' ' :: (m.toList ++ [';'])] := by
    rw [Code.lines_line, String.toList_append, String.toList_append]
    rfl
  have chars : (members op).map String.toList = (interfaceMembers op).map (·.chars) := by
    simp only [members, interfaceMembers, List.map_append, List.map_map]
    exact congrArg₂ (· ++ ·) (List.map_congr_left fun p _ => toList_member false p)
      (List.map_congr_left fun p _ => toList_member true p)
  calc Code.allLines 1 ((members op).map fun m => .line (m ++ ";"))
    _ = (members op).map fun m => ' ' :: ' ' :: (m.toList ++ [';']) := by
        rw [Code.allLines_map, funext line, ← List.map_eq_flatMap]
    _ = ((members op).map String.toList).map fun m => ' ' :: ' ' :: (m ++ [';']) := by
        rw [List.map_map]
        rfl
    _ = (interfaceMembers op).map fun m => ' ' :: ' ' :: (m.chars ++ [';']) := by
        rw [chars, List.map_map]
        rfl

theorem toList_interface (op : Operation) : (Code.text (interfaceCode op)).toList =
    (head op).toList ++ '\x7b' :: (lineChars (interfaceMembers op) ++ ['\n', '\x7d', '\n']) := by
  have unindented : (Code.indent 0).toList = [] := rfl
  have newline : "\n".toList = ['\n'] := rfl
  have openBrace : "\x7b".toList = ['\x7b'] := rfl
  have closeBrace : "\x7d".toList = ['\x7d'] := rfl
  have opening (line : String) :
      '\n' :: (Code.indent 0 ++ (line ++ "\x7b")).toList = ("\n" ++ line).toList ++ ['\x7b'] := by
    simp only [String.toList_append, unindented, newline, openBrace, List.nil_append, List.cons_append]
  have closing : (Code.indent 0 ++ ("\x7d" ++ "")).toList = ['\x7d'] := by
    rw [String.append_empty, String.toList_append, unindented, closeBrace, List.nil_append]
  have lines : lineChars (interfaceMembers op) =
      (Code.allLines 1 ((members op).map fun m => .line (m ++ ";"))).flatMap ('\n' :: ·) := by
    rw [allLines_members, List.flatMap_map]
    rfl
  rw [Code.toList_text, interfaceCode, Code.allLines_cons, Code.lines_blank, Code.allLines_cons, Code.lines_braces,
    Code.allLines_nil, closing, lines, head]
  simp only [List.append_nil, List.nil_append, List.cons_append, List.flatMap_cons, List.flatMap_append,
    List.flatMap_nil]
  rw [← List.cons_append, ← List.cons_append, opening, List.append_assoc, List.append_assoc, List.singleton_append,
    List.singleton_append, ← List.cons_append, Text.cons_flatMap_concat, List.append_assoc, List.singleton_append]

theorem exists_interface (whole : model.operations = front ++ op :: back) :
    ∃ rest, (types model).toList = (types { model with operations := front }).toList ++ ((head op).toList ++
      '\x7b' :: (lineChars (interfaceMembers op) ++ '\n' :: '\x7d' :: '\n' :: rest)) := by
  refine ⟨(Code.text (back.flatMap interfaceCode)).toList, ?_⟩
  unfold types
  rw [whole, List.flatMap_append, List.flatMap_cons, ← List.append_assoc, Code.text_append, Code.text_append,
    Code.text_append, String.toList_append, String.toList_append, String.toList_append, toList_interface]
  simp only [List.append_assoc, List.cons_append, List.nil_append]

theorem read?_interface (op : Operation) (rest : List Char) :
    read? ('\x7b' :: (lineChars (interfaceMembers op) ++ '\n' :: '\x7d' :: '\n' :: rest)) =
      if stayOnLine op.declared then some (interfaceForm op, '\n' :: rest) else none := by
  have areRead : ∀ m ∈ interfaceMembers op, m.IsRead :=
    List.forall_mem_append.2 ⟨isRead_map false, isRead_map true⟩
  have legible : (interfaceMembers op).all (·.legible) = stayOnLine op.declared := by
    rw [interfaceMembers, List.all_append, legible_map, legible_map]
    exact List.all_append.symm
  have entries : (interfaceMembers op).map Member.entry = op.declared.map parameterEntry := by
    rw [interfaceMembers, List.map_append, entry_map, entry_map, Operation.declared, List.map_append]
  have whole : '\x7b' :: (lineChars (interfaceMembers op) ++ '\n' :: '\x7d' :: '\n' :: rest) =
      '\x7b' :: (lineChars (interfaceMembers op) ++ ['\n', '\x7d']) ++ '\n' :: rest := by
    simp only [List.cons_append, List.append_assoc, List.nil_append]
  have stops : Stops ('\n' :: rest) := stops_cons (by decide) rest
  have reads := reads_lines areRead _ ('\n' :: rest) (Nat.le_add_right _ ('\n' :: rest).length) stops
  rw [legible, entries, ← List.length_append, ← whole] at reads
  exact reads

/--
What a hook is called with has a group of members for each place, and where parameters are known by name and place,
no two members of a group have one name. But an interface has the members of the path and the query together, so that
it declares a name twice if it has a parameter in both. Each type is read as long as its names are on one line.
-/
theorem declaresOnce_iff (model : Model) {front back : List Operation} (op : Operation)
    (whole : model.operations = front ++ op :: back) (unique : op.HasUniqueParameters) :
    (∀ body : Option String, (∀ text ∈ body, text ∈ plainTypes) →
      (read? (TypeScript.paramsType op body).toList =
        if stayOnLine (op.parametersIn .path ++ (op.parametersIn .query ++ op.parametersIn .header)) then
          some (callForm op body, [])
        else none) ∧
      (callForm op body).DeclaresOnce) ∧
    (∃ after rest, (types model).toList =
        (types { model with operations := front }).toList ++ ((head op).toList ++ after) ∧
      read? after = if stayOnLine op.declared then some (interfaceForm op, '\n' :: rest) else none) ∧
    ((interfaceForm op).DeclaresOnce ↔
      ∀ p ∈ op.parametersIn .path, ∀ q ∈ op.parametersIn .query, p.name ≠ q.name) := by
  refine ⟨fun body known => ⟨read?_paramsType known, declaresOnce_callForm unique body⟩, ?_, ?_⟩
  · obtain ⟨rest, written⟩ := exists_interface whole
    exact ⟨_, rest, written, read?_interface op rest⟩
  · exact declaresOnce_parameters_iff.trans (Operation.nodup_declared_iff unique)

/-- A pet by its id, which can be shown as of a version with an id too. -/
private def petById : Value := .record [("paths", .record [("/pets/\x7bid\x7d", .record [("get", .record
  [("operationId", .text "getPet"),
   ("parameters", .list
    [.record [("name", .text "id"), ("in", .text "path"), ("required", .bool true),
        ("schema", .record [("type", .text "string")])],
     .record [("name", .text "id"), ("in", .text "query"), ("schema", .record [("type", .text "integer")])],
     .record [("name", .text "x-id"), ("in", .text "header")]])])])])]

private def getPet : Operation where
  tag := "default"
  id := "getPet"
  method := .get
  path := "/pets/\x7bid\x7d"
  summary := none
  description := none
  parameters := [⟨"id", .path, true, .string, none, some [("type", .text "string")]⟩,
    ⟨"id", .query, false, .number, none, some [("type", .text "integer")]⟩,
    ⟨"x-id", .header, false, .string, none, none⟩]
  body := none
  responses := []

private theorem petById_extractIn :
    Model.extractIn (.ofDocuments []) [] petById (some "api.json") = .ok ⟨[getPet], none, none, none⟩ := by
  refine Model.extractIn_of_resolveIn petById 30 (by decide) (by decide) ?room ?done ?model
  case room => with_unfolding_all rfl
  case done => with_unfolding_all rfl
  case model => with_unfolding_all rfl

/-- The id has a group of its own each time, but two members in the interface. -/
theorem petById_declares :
    ∃ document model op,
      Model.extractIn (.ofDocuments []) [] document (some "api.json") = .ok model ∧
      model.operations = [op] ∧ op.HasUniqueParameters ∧
      read? (TypeScript.paramsType op none).toList = some (callForm op none, []) ∧
      (callForm op none).DeclaresOnce ∧
      (∃ before after rest, (types model).toList = before ++ ((head op).toList ++ after) ∧
        read? after = some (.object [("id".toList.map Char.toNat, .plain), ("id".toList.map Char.toNat, .plain)],
          '\n' :: rest)) ∧
      ¬ (interfaceForm op).DeclaresOnce := by
  have unique : getPet.HasUniqueParameters := by
    unfold Operation.HasUniqueParameters
    decide
  obtain ⟨called, ⟨after, rest, written, read⟩, once⟩ := declaresOnce_iff ⟨[getPet], none, none, none⟩ getPet
    (List.nil_append [getPet]).symm unique
  obtain ⟨isRead, distinct⟩ := called none nofun
  refine ⟨petById, _, getPet, petById_extractIn, rfl, unique, isRead, distinct, ⟨_, after, rest, written, read⟩, ?_⟩
  exact fun declared => once.1 declared _ (List.mem_singleton_self _) _ (List.mem_singleton_self _) rfl

end Render.Types

end QueryHooks
