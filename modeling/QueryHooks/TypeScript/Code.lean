/-! Source text as lines at depths, each depth indented by two spaces. -/

namespace QueryHooks.TypeScript

/-- A line, an empty line, parts one after the other, or parts one level deeper. -/
inductive Code
  | line (text : String)
  | blank
  | group (parts : List Code)
  | inner (parts : List Code)

namespace Code

/-- Parts between an opening and a closing line. -/
def block (opening : String) (body : List Code) (closing : String) : Code :=
  .group [.line opening, .inner body, .line closing]

def braces (head : String) (body : List Code) (tail : String) : Code :=
  block (head ++ "\x7b") body ("\x7d" ++ tail)

def parens (head : String) (body : List Code) (tail : String) : Code :=
  block (head ++ "(") body (")" ++ tail)

/-- Blocks in braces that follow each other, such as the branches of a choice. -/
def chain (head : String) (body : List Code) (others : List (String × List Code)) : Code :=
  .group ([.line (head ++ "\x7b"), .inner body] ++
    others.flatMap (fun (next, body) => [.line ("\x7d" ++ next ++ "\x7b"), .inner body]) ++ [.line "\x7d"])

def inBraces (text : String) : String := "\x7b " ++ text ++ " \x7d"

def emptyBraces : String := "\x7b\x7d"

def indent (depth : Nat) : String := String.ofList (List.replicate (2 * depth) ' ')

mutual

def render (depth : Nat) : Code → String
  | .line text => indent depth ++ text ++ "\n"
  | .blank => "\n"
  | .group parts => renderAll depth parts
  | .inner parts => renderAll (depth + 1) parts

def renderAll (depth : Nat) : List Code → String
  | [] => ""
  | c :: rest => render depth c ++ renderAll depth rest

end

def text (code : List Code) : String := renderAll 0 code

end Code

end QueryHooks.TypeScript
