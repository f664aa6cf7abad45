import QueryHooks.Proofs.Json.Limits
import QueryHooks.Proofs.Options.Layers
import QueryHooks.Proofs.Text.Pieces
import QueryHooks.Proofs.Text.Utf8

/-!
The options of a run. Its project's file can be read as an object, or is none, or cannot be read for its size; from
there on the values that count decide.
-/

namespace QueryHooks.Options

variable {world : World} {fields : List (Value × Value)} {arguments : Arguments} {o : Options}

/-! The project's configuration. -/

def projectPath (world : World) (directory : Option String) : Path :=
  ((directory.map Path.ofText).getD (.ofPlace world.workdir)).join (.ofText projectFile)

/-- The bytes of the project's file, if there is one. -/
def projectOctets? (world : World) (directory : Option String) : Option (List UInt8) :=
  match world.disk.find world.workdir (projectPath world directory) with
  | .ok (_, .file octets) => some octets
  | _ => none

/-- Whether bytes can be read as a JSON object. A numeral that is too long to read stands in the way. -/
def IsObject (octets : List UInt8) (fields : List (Value × Value)) : Prop :=
  ∃ text, Document.textOf octets = .ok text ∧ Json.read text.toList = .ok (.map fields)

def IsTooDeep (octets : List UInt8) : Prop :=
  ∃ text, Document.textOf octets = .ok text ∧ Json.read text.toList = .error .tooDeep

/-- Whether the project's file cannot be looked for, or lies deeper in itself than can be read. -/
def IsOutOfReach (world : World) (directory : Option String) : Prop :=
  world.disk.find world.workdir (projectPath world directory) = .error .nameTooLong ∨
    ∃ octets, projectOctets? world directory = some octets ∧ IsTooDeep octets

/-- Whether these are the fields of the project's configuration. A project without a file has none. -/
def Loads (world : World) (directory : Option String) (fields : List (Value × Value)) : Prop :=
  (∃ octets, projectOctets? world directory = some octets ∧ IsObject octets fields) ∨
    (projectOctets? world directory = none ∧ ¬ IsOutOfReach world directory ∧ fields = [])

def IsNoObject (world : World) (directory : Option String) : Prop :=
  ∃ octets, projectOctets? world directory = some octets ∧ (∀ fields, ¬ IsObject octets fields) ∧ ¬ IsTooDeep octets

/-- The fields that the bytes of a project's file hold. -/
def projectOf (path : String) (octets : List UInt8) : Except Failure (Option (List (Value × Value))) :=
  match Document.textOf octets with
  | .error reason => .error (.config (.invalidProject path reason))
  | .ok text =>
      match Json.read text.toList with
      | .error fault =>
          match fault.message? text.toList with
          | some reason => .error (.config (.invalidProject path reason))
          | none => .error .unexpected
      | .ok (.map fields) => .ok (some fields)
      | .ok _ => .error (.config (.invalidProject path "expected a JSON object"))

theorem projectOf_cases (path : String) (octets : List UInt8) :
    (∃ fields, IsObject octets fields ∧ projectOf path octets = .ok (some fields)) ∨
      ((∀ fields, ¬ IsObject octets fields) ∧ ¬ IsTooDeep octets ∧
        ∃ problem, projectOf path octets = .error (.config problem)) ∨
      (IsTooDeep octets ∧ projectOf path octets = .error .unexpected) := by
  unfold projectOf
  cases isText : Document.textOf octets with
  | error reason =>
      refine .inr (.inl ⟨fun fields isObject => ?_, fun deep => ?_, _, rfl⟩)
      · obtain ⟨text, isText', -⟩ := isObject
        cases isText.symm.trans isText'
      · obtain ⟨text, isText', -⟩ := deep
        cases isText.symm.trans isText'
  | ok text =>
      have only {text' : String} (isText' : Document.textOf octets = .ok text') : text = text' :=
        Except.ok.inj (isText.symm.trans isText')
      cases isRead : Json.read text.toList with
      | error fault =>
          have noObject (fields : List (Value × Value)) : ¬ IsObject octets fields := by
            rintro ⟨text', isText', isRead'⟩
            cases only isText'
            cases isRead.symm.trans isRead'
          cases fault with
          | tooDeep => exact .inr (.inr ⟨⟨text, isText, isRead⟩, by simp only [isRead]; rfl⟩)
          | _ =>
              refine .inr (.inl ⟨noObject, ?_, _, by simp only [isRead]; rfl⟩)
              rintro ⟨text', isText', isRead'⟩
              cases only isText'
              cases isRead.symm.trans isRead'
      | ok v =>
          have shallow : ¬ IsTooDeep octets := by
            rintro ⟨text', isText', isRead'⟩
            cases only isText'
            cases isRead.symm.trans isRead'
          cases v with
          | map fields => exact .inl ⟨fields, ⟨text, isText, isRead⟩, by simp only [isRead]⟩
          | _ =>
              refine .inr (.inl ⟨?_, shallow, _, by simp only [isRead]; rfl⟩)
              rintro fields ⟨text', isText', isRead'⟩
              cases only isText'
              cases isRead.symm.trans isRead'

theorem project_eq (world : World) (directory : Option String) :
    project world directory =
      match world.disk.find world.workdir (projectPath world directory) with
      | .error .nameTooLong => .error .unexpected
      | .error _ => .ok none
      | .ok (_, .directory) => .ok none
      | .ok (_, .file octets) => projectOf (projectPath world directory).text octets := by
  cases directory <;> rfl

theorem projectOctets_cases (world : World) (directory : Option String) :
    (∃ octets, projectOctets? world directory = some octets ∧
        project world directory = projectOf (projectPath world directory).text octets) ∨
      (projectOctets? world directory = none ∧
        (world.disk.find world.workdir (projectPath world directory) = .error .nameTooLong ∧
            project world directory = .error .unexpected ∨
          world.disk.find world.workdir (projectPath world directory) ≠ .error .nameTooLong ∧
            project world directory = .ok none)) := by
  rw [project_eq, projectOctets?]
  cases world.disk.find world.workdir (projectPath world directory) with
  | error refusal =>
      cases refusal with
      | nameTooLong => exact .inr ⟨rfl, .inl ⟨rfl, rfl⟩⟩
      | _ => exact .inr ⟨rfl, .inr ⟨by simp, rfl⟩⟩
  | ok found =>
      obtain ⟨place, e⟩ := found
      cases e with
      | directory => exact .inr ⟨rfl, .inr ⟨by simp, rfl⟩⟩
      | file octets => exact .inl ⟨octets, rfl, rfl⟩

theorem project_cases (world : World) (directory : Option String) :
    (∃ found, project world directory = .ok found ∧ Loads world directory (found.getD [])) ∨
      (IsNoObject world directory ∧ ∃ problem, project world directory = .error (.config problem)) ∨
      (IsOutOfReach world directory ∧ project world directory = .error .unexpected) := by
  rcases projectOctets_cases world directory with
    ⟨octets, isThere, project⟩ | ⟨nothing, ⟨tooLong, project⟩ | ⟨reached, project⟩⟩
  · rw [project]
    rcases projectOf_cases (projectPath world directory).text octets with
      ⟨fields, isObject, read⟩ | ⟨noObject, shallow, refused⟩ | ⟨deep, read⟩
    · exact .inl ⟨some fields, read, .inl ⟨octets, isThere, isObject⟩⟩
    · exact .inr (.inl ⟨⟨octets, isThere, noObject, shallow⟩, refused⟩)
    · exact .inr (.inr ⟨.inr ⟨octets, isThere, deep⟩, read⟩)
  · exact .inr (.inr ⟨.inl tooLong, project⟩)
  · refine .inl ⟨none, project, .inr ⟨nothing, ?_, rfl⟩⟩
    rintro (tooLong | ⟨octets, isThere, -⟩)
    · exact reached tooLong
    · cases nothing.symm.trans isThere

theorem loads_unique {directory : Option String} {fields' : List (Value × Value)}
    (loads : Loads world directory fields) (loads' : Loads world directory fields') : fields = fields' := by
  rcases loads with ⟨octets, isThere, text, isText, isRead⟩ | ⟨nothing, -, rfl⟩
  · rcases loads' with ⟨octets', isThere', text', isText', isRead'⟩ | ⟨nothing, -, -⟩
    · cases isThere.symm.trans isThere'
      cases isText.symm.trans isText'
      cases isRead.symm.trans isRead'
      rfl
    · cases nothing.symm.trans isThere
  · rcases loads' with ⟨octets', isThere', -⟩ | ⟨-, -, rfl⟩
    · cases nothing.symm.trans isThere'
    · rfl

/-- A project's file has fields, or is no object, or cannot be read; never two of these. -/
theorem not_loads_of_isNoObject {directory : Option String} (noObject : IsNoObject world directory) :
    ¬ Loads world directory fields := by
  obtain ⟨octets, isThere, none, -⟩ := noObject
  rintro (⟨octets', isThere', isObject⟩ | ⟨nothing, -⟩)
  · cases isThere.symm.trans isThere'
    exact none fields isObject
  · cases nothing.symm.trans isThere

theorem not_loads_of_isOutOfReach {directory : Option String} (out : IsOutOfReach world directory) :
    ¬ Loads world directory fields := by
  rintro (⟨octets, isThere, text, isText, isRead⟩ | ⟨-, reached, -⟩)
  · rcases out with tooLong | ⟨octets', isThere', text', isText', isRead'⟩
    · rw [projectOctets?, tooLong] at isThere
      cases isThere
    · cases isThere.symm.trans isThere'
      cases isText.symm.trans isText'
      cases isRead.symm.trans isRead'
  · exact reached out

theorem not_isNoObject_of_isOutOfReach {directory : Option String} (out : IsOutOfReach world directory) :
    ¬ IsNoObject world directory := by
  rintro ⟨octets, isThere, -, shallow⟩
  rcases out with tooLong | ⟨octets', isThere', deep⟩
  · rw [projectOctets?, tooLong] at isThere
    cases isThere
  · cases isThere.symm.trans isThere'
    exact shallow deep

/-! The options of a run. -/

section Resolve

variable {directory : Option String}

theorem counts_layered (world : World) (fields : List (Value × Value)) (arguments : Arguments) (f : Field) :
    ((layered world fields arguments).get f).or f.default? = effective? world fields arguments f := by
  rw [get_layered, effective_eq]

theorem resolve_of_loads (loads : Loads world directory fields) (arguments : Arguments) :
    resolve world arguments directory = ofLayered (layered world fields arguments) arguments.dryRun := by
  rcases project_cases world directory with ⟨found, project, loads'⟩ | ⟨noObject, -⟩ | ⟨out, -⟩
  · rw [resolve, project, loads_unique loads loads']
    rfl
  · exact absurd loads (not_loads_of_isNoObject noObject)
  · exact absurd loads (not_loads_of_isOutOfReach out)

/-- What comes of resolving options, one outcome for each thing that can be found. -/
theorem resolve_cases (world : World) (arguments : Arguments) (directory : Option String) :
    (∃ fields, Loads world directory fields ∧ ¬ isGiven (effective? world fields arguments) ∧
        resolve world arguments directory = .error (.usage .noSchema)) ∨
      (∃ fields, Loads world directory fields ∧ isGiven (effective? world fields arguments) ∧
        ∃ o, (∀ f : Field, ∃ v, effective? world fields arguments f = some v ∧ f.Holds o v) ∧
          o.dryRun = arguments.dryRun ∧ resolve world arguments directory = .ok o) ∨
      (∃ fields, Loads world directory fields ∧ isGiven (effective? world fields arguments) ∧
        (∃ f v, effective? world fields arguments f = some v ∧ ¬ f.Accepts v) ∧
          ∃ problem, resolve world arguments directory = .error (.config problem)) ∨
      (IsNoObject world directory ∧ ∃ problem, resolve world arguments directory = .error (.config problem)) ∨
      (IsOutOfReach world directory ∧ resolve world arguments directory = .error .unexpected) := by
  rcases project_cases world directory with ⟨found, -, loads⟩ | ⟨noObject, problem, project⟩ | ⟨out, project⟩
  · have outcome := resolve_of_loads loads arguments
    rcases ofLayered_cases arguments.dryRun (counts_layered world (found.getD []) arguments)
      (get_layered_ne_null world _ arguments) with ⟨missing, made⟩ | ⟨given, all, made⟩ | ⟨given, wrong, made⟩
    · exact .inl ⟨_, loads, missing, outcome.trans made⟩
    · exact .inr (.inl ⟨_, loads, given, _, all, rfl, outcome.trans made⟩)
    · exact .inr (.inr (.inl ⟨_, loads, given, wrong, _, outcome.trans made⟩))
  · refine .inr (.inr (.inr (.inl ⟨noObject, problem, ?_⟩)))
    rw [resolve, project]
    rfl
  · refine .inr (.inr (.inr (.inr ⟨out, ?_⟩)))
    rw [resolve, project]
    rfl

theorem resolve_ok_iff :
    resolve world arguments directory = .ok o ↔
      ∃ fields, Loads world directory fields ∧ isGiven (effective? world fields arguments) ∧
        (∀ f : Field, ∃ v, effective? world fields arguments f = some v ∧ f.Holds o v) ∧
        o.dryRun = arguments.dryRun := by
  constructor
  · intro done
    rcases resolve_cases world arguments directory with ⟨_, -, -, failed⟩ | ⟨fields, loads, given, o', all, dry, made⟩ |
      ⟨_, -, -, -, _, failed⟩ | ⟨-, _, failed⟩ | ⟨-, failed⟩
    · cases done.symm.trans failed
    · cases made.symm.trans done
      exact ⟨fields, loads, given, all, dry⟩
    · cases done.symm.trans failed
    · cases done.symm.trans failed
    · cases done.symm.trans failed
  · rintro ⟨fields, loads, given, all, dry⟩
    rw [resolve_of_loads loads]
    rcases ofLayered_cases arguments.dryRun (counts_layered world fields arguments)
      (get_layered_ne_null world fields arguments) with ⟨missing, -⟩ | ⟨-, all', made⟩ | ⟨-, ⟨f, v, isThere, refused⟩, -⟩
    · exact absurd given missing
    · rw [made]
      refine congrArg Except.ok (eq_of_holds (fun f => ?_) dry.symm)
      obtain ⟨v, isThere, holds⟩ := all f
      obtain ⟨v', isThere', holds'⟩ := all' f
      cases isThere.symm.trans isThere'
      exact ⟨v, holds', holds⟩
    · obtain ⟨v', isThere', holds⟩ := all f
      cases isThere.symm.trans isThere'
      exact absurd ⟨_, holds⟩ refused

theorem exists_resolve (loads : Loads world directory fields) (given : isGiven (effective? world fields arguments))
    (all : ∀ f v, effective? world fields arguments f = some v → f.Accepts v) :
    ∃ o, resolve world arguments directory = .ok o := by
  rw [resolve_of_loads loads]
  rcases ofLayered_cases arguments.dryRun (counts_layered world fields arguments)
    (get_layered_ne_null world fields arguments) with ⟨missing, -⟩ | ⟨-, -, made⟩ | ⟨-, ⟨f, v, isThere, refused⟩, -⟩
  · exact absurd given missing
  · exact ⟨_, made⟩
  · exact absurd (all f v isThere) refused

theorem resolve_usage_iff :
    (∃ problem, resolve world arguments directory = .error (.usage problem)) ↔
      ∃ fields, Loads world directory fields ∧ ¬ isGiven (effective? world fields arguments) := by
  constructor
  · rintro ⟨problem, failed⟩
    rcases resolve_cases world arguments directory with ⟨fields, loads, missing, -⟩ | ⟨_, -, -, _, -, -, made⟩ |
      ⟨_, -, -, -, _, failed'⟩ | ⟨-, _, failed'⟩ | ⟨-, failed'⟩
    · exact ⟨fields, loads, missing⟩
    · cases failed.symm.trans made
    · cases failed.symm.trans failed'
    · cases failed.symm.trans failed'
    · cases failed.symm.trans failed'
  · rintro ⟨fields, loads, missing⟩
    rw [resolve_of_loads loads]
    rcases ofLayered_cases arguments.dryRun (counts_layered world fields arguments)
      (get_layered_ne_null world fields arguments) with ⟨-, failed⟩ | ⟨given, -⟩ | ⟨given, -⟩
    · exact ⟨_, failed⟩
    · exact absurd given missing
    · exact absurd given missing

theorem resolve_config_iff :
    (∃ problem, resolve world arguments directory = .error (.config problem)) ↔
      IsNoObject world directory ∨
        ∃ fields, Loads world directory fields ∧ isGiven (effective? world fields arguments) ∧
          ∃ f v, effective? world fields arguments f = some v ∧ ¬ f.Accepts v := by
  constructor
  · rintro ⟨problem, failed⟩
    rcases resolve_cases world arguments directory with ⟨_, -, -, failed'⟩ | ⟨_, -, -, _, -, -, made⟩ |
      ⟨fields, loads, given, wrong, -⟩ | ⟨noObject, -⟩ | ⟨-, failed'⟩
    · cases failed.symm.trans failed'
    · cases failed.symm.trans made
    · exact .inr ⟨fields, loads, given, wrong⟩
    · exact .inl noObject
    · cases failed.symm.trans failed'
  · rintro (noObject | ⟨fields, loads, given, f, v, isThere, refused⟩)
    · rcases project_cases world directory with ⟨_, -, loads⟩ | ⟨-, problem, project⟩ | ⟨out, -⟩
      · exact absurd loads (not_loads_of_isNoObject noObject)
      · refine ⟨problem, ?_⟩
        rw [resolve, project]
        rfl
      · exact absurd noObject (not_isNoObject_of_isOutOfReach out)
    · rw [resolve_of_loads loads]
      rcases ofLayered_cases arguments.dryRun (counts_layered world fields arguments)
        (get_layered_ne_null world fields arguments) with ⟨missing, -⟩ | ⟨-, all, -⟩ | ⟨-, -, failed⟩
      · exact absurd given missing
      · obtain ⟨v', isThere', holds⟩ := all f
        cases isThere.symm.trans isThere'
        exact absurd ⟨_, holds⟩ refused
      · exact ⟨_, failed⟩

theorem resolve_unexpected_iff :
    resolve world arguments directory = .error .unexpected ↔ IsOutOfReach world directory := by
  constructor
  · intro failed
    rcases resolve_cases world arguments directory with ⟨_, -, -, failed'⟩ | ⟨_, -, -, _, -, -, made⟩ |
      ⟨_, -, -, -, _, failed'⟩ | ⟨-, _, failed'⟩ | ⟨out, -⟩
    · cases failed.symm.trans failed'
    · cases failed.symm.trans made
    · cases failed.symm.trans failed'
    · cases failed.symm.trans failed'
    · exact out
  · intro out
    rcases project_cases world directory with ⟨_, -, loads⟩ | ⟨noObject, -⟩ | ⟨-, project⟩
    · exact absurd loads (not_loads_of_isOutOfReach out)
    · exact absurd noObject (not_isNoObject_of_isOutOfReach out)
    · rw [resolve, project]
      rfl

end Resolve

/-- What comes of resolving the options of a run, by the values that count. -/
structure FollowsLayers (world : World) (arguments : Arguments) (directory : Option String) : Prop where
  returns : ∀ o, resolve world arguments directory = .ok o ↔
    ∃ fields, Loads world directory fields ∧ isGiven (effective? world fields arguments) ∧
      (∀ f : Field, ∃ v, effective? world fields arguments f = some v ∧ f.Holds o v) ∧ o.dryRun = arguments.dryRun
  accepts : ∀ fields, Loads world directory fields → isGiven (effective? world fields arguments) →
    (∀ f v, effective? world fields arguments f = some v → f.Accepts v) →
    ∃ o, resolve world arguments directory = .ok o
  usage : (∃ problem, resolve world arguments directory = .error (.usage problem)) ↔
    ∃ fields, Loads world directory fields ∧ ¬ isGiven (effective? world fields arguments)
  config : (∃ problem, resolve world arguments directory = .error (.config problem)) ↔
    IsNoObject world directory ∨
      ∃ fields, Loads world directory fields ∧ isGiven (effective? world fields arguments) ∧
        ∃ f v, effective? world fields arguments f = some v ∧ ¬ f.Accepts v
  unexpected : resolve world arguments directory = .error .unexpected ↔ IsOutOfReach world directory
  /-- Nothing but the values that count makes a difference. -/
  alone : ∀ world' arguments' directory' fields fields',
    Loads world directory fields → Loads world' directory' fields' →
    (∀ f, effective? world fields arguments f = effective? world' fields' arguments' f) →
    arguments.dryRun = arguments'.dryRun →
    resolve world arguments directory = resolve world' arguments' directory'

/-- A project in the root directory. -/
private def configured (text : List Char) : World where
  disk := ⟨[([projectFile], .file (Text.Utf8.encode text))]⟩
  workdir := []
  stdin := ""
  responses := []
  environment := []

private theorem projectOctets_configured (text : List Char) :
    projectOctets? (configured text) none = some (Text.Utf8.encode text) := by
  have isPath : projectPath (configured text) none = ⟨.root, [projectFile]⟩ :=
    (by decide : (Path.ofPlace []).join (.ofText projectFile) = ⟨.root, [projectFile]⟩)
  have short : (Path.mk .root [projectFile]).isTooLong = false := by decide
  rw [projectOctets?, isPath, Disk.find, short]
  rfl

/-- A configuration with an entry for no option: a numeral of so many digits, and one more. -/
private def noted (n : Nat) : List Char := "\x7b\"x\": ".toList ++ (List.replicate (n + 1) '1' ++ ['\x7d'])

private theorem textOf_noted (n : Nat) :
    Document.textOf (Text.Utf8.encode (noted n)) = .ok (String.ofList (noted n)) := by
  have oneLine : '\r' ∉ noted n := by
    unfold noted
    rw [List.mem_append, List.mem_append]
    rintro (opening | inside | closing)
    · revert opening
      decide
    · cases List.eq_of_mem_replicate inside
    · cases List.mem_singleton.1 closing
  rw [Document.textOf, Text.Utf8.decode_encode]
  simp only [Text.universalNewlines_of_not_mem oneLine]

private theorem loads_noted {n : Nat} (short : ¬ Text.Integer.maxDecimalDigits < n + 1) :
    Loads (configured (noted n)) none
      [(.text "x", .int (Int.ofNat (Json.natOf (List.replicate (n + 1) '1'))))] := by
  refine .inl ⟨_, projectOctets_configured _, _, textOf_noted n, ?_⟩
  rw [String.toList_ofList]
  unfold noted
  rw [Json.read_ones, if_neg short]

private theorem isNoObject_noted {n : Nat} (long : Text.Integer.maxDecimalDigits < n + 1) :
    IsNoObject (configured (noted n)) none := by
  have isRead : Json.read (String.ofList (noted n)).toList = .error (.longNumeral (n + 1)) := by
    rw [String.toList_ofList]
    unfold noted
    rw [Json.read_ones, if_pos long]
  refine ⟨_, projectOctets_configured _, ?_, ?_⟩
  · rintro fields ⟨text, isText, isObject⟩
    cases (textOf_noted n).symm.trans isText
    cases isRead.symm.trans isObject
  · rintro ⟨text, isText, isDeep⟩
    cases (textOf_noted n).symm.trans isText
    cases isRead.symm.trans isDeep

end QueryHooks.Options
