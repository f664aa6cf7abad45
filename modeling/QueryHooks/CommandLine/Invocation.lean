import QueryHooks.CommandLine.Words
import QueryHooks.Options
import QueryHooks.Report.Diagnostic

/-! What a command line asks for. -/

namespace QueryHooks.CommandLine

structure Flags where
  json : Bool := false
  plain : Bool := false
  noColor : Bool := false
  quiet : Bool := false
  verbose : Bool := false
deriving DecidableEq, Repr

/-- Data is plain unless JSON is asked for. -/
def Flags.format (flags : Flags) : Report.Format := if flags.json then .json else .plain

inductive Command
  | generate (arguments : Arguments)
  | operations (schema : Option String)
  | request (operation : String) (schema : Option String) (path query : List String)
deriving DecidableEq, Repr

/-- What words ask for. `bare` is a group of commands without any word after it, and `unusable` is what makes no sense. -/
inductive Invocation
  | run (flags : Flags) (command : Command)
  | version
  | help
  | bare
  | unusable
deriving DecidableEq, Repr

/-- What an option does: it changes what is asked for, or asks for something else at once. -/
inductive Effect (σ : Type)
  | change (f : σ → σ)
  | answer (i : Invocation)

namespace Effect

variable {σ : Type}

/-- The first option that asks for something at once, if there is one. -/
def answered? (effects : List (Effect σ)) : Option Invocation :=
  effects.findSome? fun e =>
    match e with
    | .answer i => some i
    | .change _ => none

def changed (effects : List (Effect σ)) (start : σ) : σ :=
  effects.foldl (fun s e =>
    match e with
    | .change f => f s
    | .answer _ => s) start

end Effect

private def flag {σ : Type} (names : List String) (f : σ → σ) : Rule (Effect σ) := ⟨names, .flag (.change f)⟩

private def valued {σ : Type} (names : List String) (f : String → σ → σ) : Rule (Effect σ) :=
  ⟨names, .value fun text => .change (f text)⟩

private def helpRule {σ : Type} : Rule (Effect σ) := ⟨["--help"], .flag (.answer .help)⟩

def flagRules : List (Rule (Effect Flags)) :=
  [⟨["--version"], .flag (.answer .version)⟩,
    flag ["--json"] fun s => { s with json := true },
    flag ["--plain"] fun s => { s with plain := true },
    flag ["--no-color"] fun s => { s with noColor := true },
    flag ["--quiet", "-q"] fun s => { s with quiet := true },
    flag ["--verbose", "-v"] fun s => { s with verbose := true },
    helpRule]

def generateRules : List (Rule (Effect Arguments)) :=
  [valued ["--schema", "-s"] fun text s => { s with schema := some text },
    valued ["--out", "-o"] fun text s => { s with out := some text },
    valued ["--base-url"] fun text s => { s with baseUrl := some text },
    valued ["--openapi-ts-config"] fun text s => { s with openapiTsConfig := some text },
    flag ["--generate-types"] fun s => { s with generateTypes := some true },
    flag ["--no-generate-types"] fun s => { s with generateTypes := some false },
    flag ["--group-by-tag"] fun s => { s with groupByTag := some true },
    flag ["--no-group-by-tag"] fun s => { s with groupByTag := some false },
    flag ["--dry-run", "-n"] fun s => { s with dryRun := true },
    helpRule]

def operationsRules : List (Rule (Effect (Option String))) :=
  [valued ["--schema", "-s"] fun text _ => some text, helpRule]

structure RequestOptions where
  schema : Option String := none
  path : List String := []
  query : List String := []

def requestRules : List (Rule (Effect RequestOptions)) :=
  [valued ["--schema", "-s"] fun text s => { s with schema := some text },
    valued ["--path"] fun text s => { s with path := s.path ++ [text] },
    valued ["--query"] fun text s => { s with query := s.query ++ [text] },
    helpRule]

def groupRules : List (Rule (Effect Unit)) := [helpRule]

/-- The invocation of a command with its words. Help is given even where arguments are missing or too many. -/
def ofCommand {σ : Type} (rules : List (Rule (Effect σ))) (start : σ) (words : List String)
    (make : σ → List String → Invocation) : Invocation :=
  match read rules true words with
  | none => .unusable
  | some parsed =>
      (Effect.answered? parsed.options).getD (make (Effect.changed parsed.options start) parsed.arguments)

/-- The invocation of a group of commands. A name that no command has is read once more as an option of the group. -/
def ofGroup {σ : Type} (rules : List (Rule (Effect σ))) (start : σ) (words : List String)
    (named : σ → String → List String → Option Invocation) : Invocation :=
  if words.isEmpty then .bare
  else
    match read rules false words with
    | none => .unusable
    | some parsed =>
        match Effect.answered? parsed.options, parsed.arguments with
        | some answer, _ => answer
        | none, [] => .unusable
        | none, name :: rest =>
            match named (Effect.changed parsed.options start) name rest with
            | some i => i
            | none =>
                ((read rules false (name :: rest)).bind fun again => Effect.answered? again.options).getD .unusable

def ofInspect (flags : Flags) (words : List String) : Invocation :=
  ofGroup groupRules () words fun _ name rest =>
    match name with
    | "operations" =>
        some (ofCommand operationsRules none rest fun schema arguments =>
          match arguments with
          | [] => .run flags (.operations schema)
          | _ => .unusable)
    | "request" =>
        some (ofCommand requestRules {} rest fun options arguments =>
          match arguments with
          | [operation] => .run flags (.request operation options.schema options.path options.query)
          | _ => .unusable)
    | _ => none

def Invocation.ofWords (words : List String) : Invocation :=
  ofGroup flagRules {} words fun flags name rest =>
    match name with
    | "generate" =>
        some (ofCommand generateRules {} rest fun options arguments =>
          match arguments with
          | [] => .run flags (.generate options)
          | _ => .unusable)
    | "inspect" => some (ofInspect flags rest)
    | _ => none

end QueryHooks.CommandLine
