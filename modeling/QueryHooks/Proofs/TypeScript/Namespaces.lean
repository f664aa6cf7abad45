import QueryHooks.Proofs.TypeScript.Lines

/-!
Reading object literals whose members are objects themselves: each inner object, a namespace, is
opened by a line that ends in a brace after its key, has a member in each line after that, and is
closed by a line that is no member.
-/

namespace QueryHooks.TypeScript

/-- A member of an object: its key and the text of its value. -/
structure Member where
  key : String
  value : String
deriving DecidableEq, Repr

/-- The line that states a member of a namespace. -/
def Member.line (m : Member) : List Char := ("    " ++ m.key ++ ": " ++ m.value ++ ",").toList

/-- An object inside an object. -/
structure Namespace where
  key : String
  members : List Member
deriving DecidableEq, Repr

namespace Namespace

def withoutComma (value : List Char) : List Char :=
  if value.getLast? = some ',' then value.dropLast else value

/-- The key and the value that a line states, wherever it starts. -/
def stated? (line : List Char) : Option (List Char × List Char) :=
  match Text.cutAt ':' (line.dropWhile (· == ' ')) with
  | (key, some (' ' :: value)) => some (key, withoutComma value)
  | _ => none

/-- The namespaces that lines hold, given one that is open. A namespace counts once it is closed. -/
def ofLines (opened : Option Namespace) : List (List Char) → List Namespace
  | [] => []
  | line :: rest =>
      match opened, stated? line with
      | none, some (key, ['\x7b']) => ofLines (some ⟨String.ofList key, []⟩) rest
      | none, _ => ofLines none rest
      | some ns, some (key, value) =>
          ofLines (some { ns with members := ns.members ++ [⟨String.ofList key, String.ofList value⟩] }) rest
      | some ns, none => ns :: ofLines none rest

/-- The namespaces of a text. -/
def ofText (text : String) : List Namespace := ofLines none (Text.splitOn '\n' text.toList)

/-- The lines that state a namespace. -/
def lines (ns : Namespace) : List (List Char) :=
  ("  " ++ ns.key ++ ": \x7b").toList ::
    ns.members.map Member.line ++ ["  \x7d,".toList]

/-- Keys that are known as such where they stand in a line. -/
def IsPlainKey (key : String) : Prop := ∀ mark ∈ [':', ' ', '\n'], mark ∉ key.toList

/-- Whether a namespace can be read back from its lines. -/
structure Plain (ns : Namespace) : Prop where
  key : IsPlainKey ns.key
  members : ∀ m ∈ ns.members, IsPlainKey m.key ∧ '\n' ∉ m.value.toList

theorem stated?_append {key value : List Char} (depth : Nat) (colon : ':' ∉ key) (blank : ' ' ∉ key) :
    stated? (List.replicate depth ' ' ++ (key ++ ':' :: ' ' :: value)) = some (key, withoutComma value) := by
  have begins : (List.replicate depth ' ' ++ (key ++ ':' :: ' ' :: value)).dropWhile (· == ' ') =
      key ++ ':' :: ' ' :: value := by
    have noBlank : (key ++ ':' :: ' ' :: value).dropWhile (· == ' ') = key ++ ':' :: ' ' :: value := by
      cases key with
      | nil => rfl
      | cons c rest =>
          have other : (c == ' ') = false := beq_false_of_ne fun same => blank (same ▸ List.mem_cons_self)
          rw [List.cons_append, List.dropWhile_cons, other]
          rfl
    induction depth with
    | zero => exact noBlank
    | succ depth ih =>
        rw [List.replicate_succ, List.cons_append, List.dropWhile_cons]
        exact ih
  rw [stated?, begins, Text.cutAt_append colon]
  rfl

theorem stated?_opening {key : String} (plain : IsPlainKey key) :
    stated? ("  " ++ key ++ ": \x7b").toList = some (key.toList, ['\x7b']) := by
  have whole : ("  " ++ key ++ ": \x7b").toList =
      List.replicate 2 ' ' ++ (key.toList ++ ':' :: ' ' :: ['\x7b']) := by
    rw [String.toList_append, String.toList_append, List.append_assoc]
    rfl
  rw [whole, stated?_append 2 (plain _ (by decide)) (plain _ (by decide))]
  rfl

theorem stated?_member {m : Member} (plain : IsPlainKey m.key) :
    stated? m.line = some (m.key.toList, m.value.toList) := by
  have whole : m.line =
      List.replicate 4 ' ' ++ (m.key.toList ++ ':' :: ' ' :: (m.value.toList ++ [','])) := by
    simp only [Member.line, String.toList_append, List.append_assoc]
    rfl
  have comma : withoutComma (m.value.toList ++ [',']) = m.value.toList := by
    rw [withoutComma, List.getLast?_concat, if_pos rfl, List.dropLast_concat]
  rw [whole, stated?_append 4 (plain _ (by decide)) (plain _ (by decide)), comma]

theorem ofLines_opening {line key : List Char} {rest : List (List Char)}
    (opens : stated? line = some (key, ['\x7b'])) :
    ofLines none (line :: rest) = ofLines (some ⟨String.ofList key, []⟩) rest := by
  simp only [ofLines, opens]

theorem ofLines_member {line key value : List Char} {ns : Namespace} {rest : List (List Char)}
    (states : stated? line = some (key, value)) :
    ofLines (some ns) (line :: rest) =
      ofLines (some { ns with members := ns.members ++ [⟨String.ofList key, String.ofList value⟩] }) rest := by
  simp only [ofLines, states]

theorem ofLines_members {members : List Member} {ns : Namespace} {rest : List (List Char)}
    (plain : ∀ m ∈ members, IsPlainKey m.key) :
    ofLines (some ns) (members.map Member.line ++ "  \x7d,".toList :: rest) =
      { ns with members := ns.members ++ members } :: ofLines none rest := by
  induction members generalizing ns with
  | nil =>
      rw [List.append_nil]
      rfl
  | cons m others ih =>
      rw [List.map_cons, List.cons_append, ofLines_member (stated?_member (plain m List.mem_cons_self)),
        String.ofList_toList, String.ofList_toList, ih fun other later => plain other (List.mem_cons_of_mem _ later)]
      simp only [List.append_assoc, List.singleton_append]

theorem ofLines_lines {namespaces : List Namespace} {rest : List (List Char)}
    (plain : ∀ ns ∈ namespaces, ns.Plain) :
    ofLines none (namespaces.flatMap lines ++ rest) = namespaces ++ ofLines none rest := by
  induction namespaces with
  | nil => rfl
  | cons ns others ih =>
      obtain ⟨key, members⟩ := plain ns List.mem_cons_self
      rw [List.flatMap_cons, lines, List.append_assoc, List.append_assoc, List.cons_append,
        ofLines_opening (stated?_opening key), String.ofList_toList, List.singleton_append,
        ofLines_members fun m inside => (members m inside).1, ih fun other later => plain other (List.mem_cons_of_mem _ later)]
      rfl

theorem not_mem_lines {ns : Namespace} (plain : ns.Plain) : ∀ line ∈ ns.lines, '\n' ∉ line := by
  have ofKey {key : String} (isPlain : IsPlainKey key) : '\n' ∉ key.toList := isPlain _ (by decide)
  have opening : '\n' ∉ "  ".toList ∧ '\n' ∉ ": \x7b".toList := by decide
  have inner : '\n' ∉ "    ".toList ∧ '\n' ∉ ": ".toList ∧ '\n' ∉ ",".toList := by decide
  have closing : '\n' ∉ "  \x7d,".toList := by decide
  intro line inside
  rw [lines, List.cons_append, List.mem_cons, List.mem_append, List.mem_singleton] at inside
  rcases inside with rfl | member | rfl
  · simp only [String.toList_append, List.mem_append, opening, ofKey plain.key, or_self,
      not_false_eq_true]
  · obtain ⟨m, known, rfl⟩ := List.mem_map.1 member
    obtain ⟨key, value⟩ := plain.members m known
    simp only [Member.line, String.toList_append, List.mem_append, inner, ofKey key, value, or_self,
      not_false_eq_true]
  · exact closing

/-- Code whose other lines neither open a namespace nor are left open holds the namespaces of its lines. -/
theorem ofText_text {code : List Code} {before after : List (List Char)} {namespaces : List Namespace}
    (whole : Code.allLines 0 code = before ++ (namespaces.flatMap lines ++ after))
    (plain : ∀ ns ∈ namespaces, ns.Plain) (single : ∀ line ∈ before ++ after, '\n' ∉ line)
    (begins : ∀ rest, ofLines none (before ++ rest) = ofLines none rest)
    (ends : ofLines none (after ++ [[]]) = []) :
    ofText (Code.text code) = namespaces := by
  have free : ∀ line ∈ Code.allLines 0 code, '\n' ∉ line := by
    intro line inside
    rw [whole, List.mem_append, List.mem_append] at inside
    rcases inside with outer | inner | outer
    · exact single line (List.mem_append_left _ outer)
    · obtain ⟨ns, known, within⟩ := List.mem_flatMap.1 inner
      exact not_mem_lines (plain ns known) line within
    · exact single line (List.mem_append_right _ outer)
  rw [ofText, Code.splitOn_text free, whole, List.append_assoc, List.append_assoc, begins,
    ofLines_lines plain, ends, List.append_nil]

end Namespace

end QueryHooks.TypeScript
