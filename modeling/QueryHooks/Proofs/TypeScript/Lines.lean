import QueryHooks.Proofs.Text.Pieces
import QueryHooks.TypeScript.Code

/-! Source text by its lines: each line of the code, indented to its depth and ended by a newline. -/

namespace QueryHooks.TypeScript.Code

variable {depth : Nat}

mutual

def lines (depth : Nat) : Code → List (List Char)
  | .line text => [(indent depth ++ text).toList]
  | .blank => [[]]
  | .group parts => allLines depth parts
  | .inner parts => allLines (depth + 1) parts

def allLines (depth : Nat) : List Code → List (List Char)
  | [] => []
  | c :: rest => lines depth c ++ allLines depth rest

end

mutual

theorem toList_render (depth : Nat) :
    (c : Code) → (render depth c).toList = (lines depth c).flatMap (· ++ ['\n'])
  | .line text => by
      have newline : "\n".toList = ['\n'] := rfl
      rw [render, lines, String.toList_append, newline, List.flatMap_cons, List.flatMap_nil,
        List.append_nil]
  | .blank => by
      rw [render, lines]
      rfl
  | .group parts => by
      rw [render, lines]
      exact toList_renderAll depth parts
  | .inner parts => by
      rw [render, lines]
      exact toList_renderAll (depth + 1) parts

theorem toList_renderAll (depth : Nat) :
    (code : List Code) → (renderAll depth code).toList = (allLines depth code).flatMap (· ++ ['\n'])
  | [] => rfl
  | c :: rest => by
      rw [renderAll, allLines, String.toList_append, toList_render depth c, toList_renderAll depth rest,
        List.flatMap_append]

end

@[simp] theorem lines_line (text : String) : lines depth (.line text) = [(indent depth ++ text).toList] := by
  rw [lines]

@[simp] theorem lines_blank : lines depth .blank = [[]] := by
  rw [lines]

@[simp] theorem lines_inner (parts : List Code) : lines depth (.inner parts) = allLines (depth + 1) parts := by
  rw [lines]

@[simp] theorem lines_braces (head tail : String) (body : List Code) :
    lines depth (braces head body tail) =
      (indent depth ++ (head ++ "\x7b")).toList ::
        (allLines (depth + 1) body ++ [(indent depth ++ ("\x7d" ++ tail)).toList]) := by
  simp only [braces, block, lines, allLines, List.append_nil, List.singleton_append]

@[simp] theorem allLines_nil : allLines depth [] = [] := by
  rw [allLines]

@[simp] theorem allLines_cons (c : Code) (rest : List Code) :
    allLines depth (c :: rest) = lines depth c ++ allLines depth rest := by
  rw [allLines]

theorem allLines_append (first second : List Code) :
    allLines depth (first ++ second) = allLines depth first ++ allLines depth second := by
  induction first with
  | nil => rw [allLines, List.nil_append, List.nil_append]
  | cons c rest ih => rw [List.cons_append, allLines, allLines, ih, List.append_assoc]

theorem allLines_flatMap {α : Type} (items : List α) (code : α → List Code) :
    allLines depth (items.flatMap code) = items.flatMap fun item => allLines depth (code item) := by
  induction items with
  | nil => rw [List.flatMap_nil, allLines, List.flatMap_nil]
  | cons item rest ih => rw [List.flatMap_cons, allLines_append, ih, List.flatMap_cons]

theorem allLines_map {α : Type} (items : List α) (code : α → Code) :
    allLines depth (items.map code) = items.flatMap fun item => lines depth (code item) := by
  induction items with
  | nil => rw [List.map_nil, allLines, List.flatMap_nil]
  | cons item rest ih => rw [List.map_cons, allLines, ih, List.flatMap_cons]

theorem mem_allLines {c : Code} {code : List Code} {line : List Char} (inside : c ∈ code)
    (here : line ∈ lines depth c) : line ∈ allLines depth code := by
  obtain ⟨before, after, rfl⟩ := List.append_of_mem inside
  rw [allLines_append, allLines_cons]
  exact List.mem_append_right _ (List.mem_append_left _ here)

theorem mem_allLines_line {text : String} {code : List Code} (inside : .line text ∈ code) :
    (indent depth ++ text).toList ∈ allLines depth code :=
  mem_allLines inside (by rw [lines_line]; exact List.mem_singleton_self _)

theorem mem_lines_braces {head tail : String} {body : List Code} {line : List Char}
    (here : line ∈ allLines (depth + 1) body) : line ∈ lines depth (braces head body tail) := by
  rw [lines_braces]
  exact List.mem_cons_of_mem _ (List.mem_append_left _ here)

theorem toList_text (code : List Code) : (text code).toList = (allLines 0 code).flatMap (· ++ ['\n']) :=
  toList_renderAll 0 code

theorem text_append (first second : List Code) : text (first ++ second) = text first ++ text second := by
  apply String.toList_inj.1
  rw [String.toList_append, toList_text, toList_text, toList_text, allLines_append, List.flatMap_append]

/-- A line of code is a line of its text. -/
theorem exists_text_of_mem {line : String} {code : List Code} (inside : line.toList ∈ allLines 0 code) :
    ∃ before after, text code = before ++ line ++ "\n" ++ after := by
  obtain ⟨first, second, whole⟩ := List.append_of_mem inside
  have newline : "\n".toList = ['\n'] := rfl
  refine ⟨String.ofList (first.flatMap (· ++ ['\n'])), String.ofList (second.flatMap (· ++ ['\n'])), ?_⟩
  apply String.toList_inj.1
  rw [toList_text, whole, List.flatMap_append, List.flatMap_cons]
  simp only [String.toList_append, String.toList_ofList, newline, List.append_assoc]

theorem splitOn_text {code : List Code} (free : ∀ line ∈ allLines 0 code, '\n' ∉ line) :
    Text.splitOn '\n' (text code).toList = allLines 0 code ++ [[]] := by
  rw [toList_text, Text.splitOn_flatMap free]

end QueryHooks.TypeScript.Code

/-!
What source text imports. Import statements stand one to a line ahead of all else, and an empty line
ends them.
-/

namespace QueryHooks.TypeScript.Imports

/-- The specifier of an import statement: what stands in quotes at the end of its line. -/
def specifier? (line : List Char) : Option String :=
  if "import ".toList.isPrefixOf line then
    match Text.cutAt '\x27' ((Text.cutAt '\x27' line).2.getD []) with
    | (specifier, some [';']) => some (String.ofList specifier)
    | _ => none
  else none

def isRelative (specifier : String) : Bool :=
  "./".toList.isPrefixOf specifier.toList || "../".toList.isPrefixOf specifier.toList

def headLines (chars : List Char) : List (List Char) := (Text.splitOn '\n' chars).takeWhile (!·.isEmpty)

/-- The specifiers that lead on from the place of the file itself. -/
def relative (text : String) : List String := ((headLines text.toList).filterMap specifier?).filter isRelative

theorem headLines_flatMap {lines : List (List Char)} (plain : ∀ line ∈ lines, line ≠ [] ∧ '\n' ∉ line)
    (rest : List Char) : headLines (lines.flatMap (· ++ ['\n']) ++ '\n' :: rest) = lines := by
  induction lines with
  | nil =>
      have cut : Text.splitOn '\n' ([] ++ '\n' :: rest) = [] :: Text.splitOn '\n' rest :=
        Text.splitOn_append_mark List.not_mem_nil
      rw [headLines, List.flatMap_nil, cut]
      rfl
  | cons line others ih =>
      obtain ⟨⟨filled, free⟩, later⟩ := List.forall_mem_cons.1 plain
      have here := ih later
      rw [headLines] at here
      rw [headLines, List.flatMap_cons, List.append_assoc, List.append_assoc, List.singleton_append,
        Text.splitOn_append_mark free, List.takeWhile_cons_of_pos (by simpa using filled), here]

/-- The imports of a text are those of its lines before the first empty one. -/
theorem relative_text {code : List Code} (plain : ∀ line ∈ Code.allLines 0 code, line ≠ [] ∧ '\n' ∉ line)
    (rest : List Code) :
    relative (Code.text (code ++ Code.blank :: rest)) =
      ((Code.allLines 0 code).filterMap specifier?).filter isRelative := by
  have chars : (Code.text (code ++ Code.blank :: rest)).toList =
      (Code.allLines 0 code).flatMap (· ++ ['\n']) ++ '\n' :: (Code.text rest).toList := by
    rw [Code.toList_text, Code.toList_text, Code.allLines_append, Code.allLines_cons, Code.lines_blank,
      List.flatMap_append, List.singleton_append, List.flatMap_cons, List.nil_append, List.singleton_append]
  rw [relative, chars, headLines_flatMap plain]

end QueryHooks.TypeScript.Imports
