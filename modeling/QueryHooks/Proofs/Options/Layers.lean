import QueryHooks.Options

/-!
The layers of options. What a run is asked to do follows from one value for each option: the first that is given
among the command line, the environment, the project's configuration and the defaults.
-/

namespace QueryHooks.Options

variable {world : World} {fields : List (Value × Value)} {arguments : Arguments} {l : Layered} {o o' : Options}
  {dryRun : Bool} {v : Value}

/-- The options that have layers. -/
inductive Field
  | schemaSource
  | outDir
  | baseUrl
  | groupByTag
  | generateTypes
  | openapiTsConfig
  | extension
deriving DecidableEq, Repr

namespace Field

def all : List Field :=
  [.schemaSource, .outDir, .baseUrl, .groupByTag, .generateTypes, .openapiTsConfig, .extension]

def argument? (arguments : Arguments) : Field → Option Value
  | .schemaSource => arguments.schema.map .text
  | .outDir => arguments.out.map .text
  | .baseUrl => arguments.baseUrl.map .text
  | .groupByTag => arguments.groupByTag.map .bool
  | .generateTypes => arguments.generateTypes.map .bool
  | .openapiTsConfig => arguments.openapiTsConfig.map .text
  | .extension => none

def settingName? : Field → Option String
  | .schemaSource => some "SPECQUERY_SCHEMA"
  | .outDir => some "SPECQUERY_OUT"
  | .baseUrl => some "SPECQUERY_BASE_URL"
  | .openapiTsConfig => some "SPECQUERY_OPENAPI_TS_CONFIG"
  | _ => none

/-- The variable of an option, where it has one that is set and not empty. -/
def setting? (world : World) (f : Field) : Option Value :=
  ((f.settingName?.bind world.setting?).filter (· != "")).map .text

def projectKey : Field → String
  | .schemaSource => "schema"
  | .outDir => "out"
  | .baseUrl => "base_url"
  | .groupByTag => "group_by_tag"
  | .generateTypes => "generate_types"
  | .openapiTsConfig => "openapi_ts_config"
  | .extension => "extension"

/-- The entry of the project's configuration for an option, unless it is null. -/
def projected? (fields : List (Value × Value)) (f : Field) : Option Value :=
  (Value.lookup f.projectKey fields).filter fun v =>
    match v with
    | .null => false
    | _ => true

/-- Every option but the description itself has a default. -/
def default? : Field → Option Value
  | .schemaSource => none
  | .outDir => some (.text "examples/out")
  | .baseUrl => some .null
  | .groupByTag => some (.bool true)
  | .generateTypes => some (.bool false)
  | .openapiTsConfig => some .null
  | .extension => some (.text "ts")

/-- Whether options have a value of a field: a text as it is, and a switch by what it says. -/
def Holds (o : Options) : Field → Value → Prop
  | .schemaSource, v => v = .text o.schemaSource
  | .outDir, v => v = .text o.outDir
  | .baseUrl, v => v = Value.ofText? o.baseUrl
  | .groupByTag, v => boolOf? v = some o.groupByTag
  | .generateTypes, v => boolOf? v = some o.generateTypes
  | .openapiTsConfig, v => v = Value.ofText? o.openapiTsConfig
  | .extension, v => v = .text o.extension

/-- Whether a value is of a type that a field can have. -/
def Accepts (f : Field) (v : Value) : Prop := ∃ o, f.Holds o v

end Field

/-- The value of an option that counts: the first in the order of the layers. -/
def effective? (world : World) (fields : List (Value × Value)) (arguments : Arguments) (f : Field) : Option Value :=
  [f.argument? arguments, f.setting? world, f.projected? fields, f.default?].findSome? id

/-! Options and the values that they hold. -/

theorem ofText_inj {s t : Option String} (same : Value.ofText? s = Value.ofText? t) : s = t := by
  cases s with
  | none =>
      cases t with
      | none => rfl
      | some t => cases same
  | some s =>
      cases t with
      | none => cases same
      | some t => rw [Value.text.inj same]

/-- Options are told by the values that they hold. -/
theorem eq_of_holds (same : ∀ f : Field, ∃ v, f.Holds o v ∧ f.Holds o' v) (dryRun : o.dryRun = o'.dryRun) : o = o' := by
  have schemaSource : o.schemaSource = o'.schemaSource := by
    obtain ⟨v, here, there⟩ := same .schemaSource
    exact Value.text.inj (here.symm.trans there)
  have outDir : o.outDir = o'.outDir := by
    obtain ⟨v, here, there⟩ := same .outDir
    exact Value.text.inj (here.symm.trans there)
  have baseUrl : o.baseUrl = o'.baseUrl := by
    obtain ⟨v, here, there⟩ := same .baseUrl
    exact ofText_inj (here.symm.trans there)
  have groupByTag : o.groupByTag = o'.groupByTag := by
    obtain ⟨v, here, there⟩ := same .groupByTag
    exact Option.some.inj (here.symm.trans there)
  have generateTypes : o.generateTypes = o'.generateTypes := by
    obtain ⟨v, here, there⟩ := same .generateTypes
    exact Option.some.inj (here.symm.trans there)
  have openapiTsConfig : o.openapiTsConfig = o'.openapiTsConfig := by
    obtain ⟨v, here, there⟩ := same .openapiTsConfig
    exact ofText_inj (here.symm.trans there)
  have extension : o.extension = o'.extension := by
    obtain ⟨v, here, there⟩ := same .extension
    exact Value.text.inj (here.symm.trans there)
  cases o
  cases o'
  simp_all

/-! The layers as they are put together. -/

def Layered.get (l : Layered) : Field → Option Value
  | .schemaSource => l.schemaSource
  | .outDir => l.outDir
  | .baseUrl => l.baseUrl
  | .groupByTag => l.groupByTag
  | .generateTypes => l.generateTypes
  | .openapiTsConfig => l.openapiTsConfig
  | .extension => l.extension

theorem nonEmpty_eq (world : World) (name : String) :
    nonEmpty? world name = ((world.setting? name).filter (· != "")).map .text := by
  unfold nonEmpty?
  split
  · next here =>
      rw [here]
      rfl
  · next text filled here =>
      have kept : (text != "") = true := bne_iff_ne.2 filled
      rw [here, Option.filter, kept]
      rfl
  · next here =>
      rw [here]
      rfl

theorem projectValue_eq (fields : List (Value × Value)) (f : Field) :
    projectValue? fields f.projectKey = f.projected? fields := by
  unfold projectValue? Field.projected?
  cases Value.lookup f.projectKey fields with
  | none => rfl
  | some v => cases v <;> rfl

theorem effective_eq (world : World) (fields : List (Value × Value)) (arguments : Arguments) (f : Field) :
    effective? world fields arguments f =
      (((f.argument? arguments).or (f.setting? world)).or (f.projected? fields)).or f.default? := by
  unfold effective?
  cases f.argument? arguments <;> cases f.setting? world <;> cases f.projected? fields <;> cases f.default? <;> rfl

/-- Above the defaults, the value that counts is the one that the layers are put together to. -/
theorem get_layered (world : World) (fields : List (Value × Value)) (arguments : Arguments) (f : Field) :
    (layered world fields arguments).get f =
      ((f.argument? arguments).or (f.setting? world)).or (f.projected? fields) := by
  rw [← projectValue_eq]
  cases f with
  | extension => rfl
  | groupByTag => exact congrArg (Option.or · _) Option.or_none.symm
  | generateTypes => exact congrArg (Option.or · _) Option.or_none.symm
  | _ =>
      simp only [Field.setting?, Field.settingName?, Option.bind_some, ← nonEmpty_eq]
      rfl

theorem get_layered_ne_null (world : World) (fields : List (Value × Value)) (arguments : Arguments) (f : Field) :
    (layered world fields arguments).get f ≠ some .null := by
  intro isNull
  rw [get_layered, Option.or_eq_some_iff, Option.or_eq_some_iff] at isNull
  rcases isNull with (given | ⟨-, set⟩) | ⟨-, projected⟩
  · cases f <;> simp [Field.argument?] at given
  · obtain ⟨text, -, same⟩ := Option.map_eq_some_iff.1 set
    cases same
  · obtain ⟨-, kept⟩ := Option.filter_eq_some_iff.1 projected
    cases kept

/-! What is read from the layers. -/

/-- A text that can be missing. -/
def optionalOf? (v : Value) : Option (Option String) := (textOf? v).map some

theorem textOf_eq_some_iff {s : String} : textOf? v = some s ↔ v = .text s := by
  constructor
  · intro isText
    cases v with
    | text t => rw [Option.some.inj isText]
    | _ => cases isText
  · rintro rfl
    rfl

theorem optionalOf_eq_some_iff (notNull : v ≠ .null) {s : Option String} :
    optionalOf? v = some s ↔ v = Value.ofText? s := by
  rw [optionalOf?, Option.map_eq_some_iff]
  cases s with
  | none =>
      constructor
      · rintro ⟨t, -, impossible⟩
        cases impossible
      · intro isNull
        exact absurd isNull notNull
  | some s =>
      constructor
      · rintro ⟨t, isText, same⟩
        cases same
        exact textOf_eq_some_iff.1 isText
      · intro isText
        exact ⟨s, textOf_eq_some_iff.2 isText, rfl⟩

/-- The value that counts is read, whether it is given or the default, or there is no value that it stands for. -/
theorem read_cases {α : Type} {convert : Value → Option α} {given : Option Value} (stands : α → Value → Prop)
    (default : α) (counts : given = some v ∨ given = none ∧ stands default v)
    (reads : given = some v → ∀ a, convert v = some a ↔ stands a v) :
    ((read convert given default).2 = 0 ∧ stands (read convert given default).1 v) ∨
      ((read convert given default).2 = 1 ∧ ∀ a, ¬ stands a v) := by
  rcases counts with rfl | ⟨rfl, stands⟩
  · simp only [read]
    cases converted : convert v with
    | none =>
        refine .inr ⟨rfl, fun a stands => ?_⟩
        rw [(reads rfl a).2 stands] at converted
        cases converted
    | some a => exact .inl ⟨rfl, (reads rfl a).1 converted⟩
  · exact .inl ⟨rfl, stands⟩

/-- Whether the value of an option will not do. -/
def errors (l : Layered) : Field → Nat
  | .schemaSource => (read textOf? l.schemaSource "").2
  | .outDir => (read textOf? l.outDir "examples/out").2
  | .baseUrl => (read optionalOf? l.baseUrl none).2
  | .groupByTag => (read boolOf? l.groupByTag true).2
  | .generateTypes => (read boolOf? l.generateTypes false).2
  | .openapiTsConfig => (read optionalOf? l.openapiTsConfig none).2
  | .extension => (read textOf? l.extension "ts").2

def total (l : Layered) : Nat :=
  errors l .schemaSource + errors l .outDir + errors l .baseUrl + errors l .groupByTag + errors l .generateTypes +
    errors l .openapiTsConfig + errors l .extension

def made (l : Layered) (dryRun : Bool) : Options where
  schemaSource := (read textOf? l.schemaSource "").1
  outDir := (read textOf? l.outDir "examples/out").1
  baseUrl := (read optionalOf? l.baseUrl none).1
  groupByTag := (read boolOf? l.groupByTag true).1
  generateTypes := (read boolOf? l.generateTypes false).1
  openapiTsConfig := (read optionalOf? l.openapiTsConfig none).1
  dryRun := dryRun
  extension := (read textOf? l.extension "ts").1

theorem ofLayered_eq (l : Layered) (dryRun : Bool) :
    ofLayered l dryRun =
      if !l.schemaSource.any Value.isTruthy then .error (.usage .noSchema)
      else if total l == 0 then .ok (made l dryRun)
      else .error (.config (.invalidOptions (total l))) := rfl

theorem total_eq_zero_iff : total l = 0 ↔ ∀ f, errors l f = 0 := by
  unfold total
  constructor
  · intro none f
    cases f <;> omega
  · intro all
    simp only [all]

/-- The value that counts for an option is held by the options that are made, or it will not do. -/
theorem errors_cases (dryRun : Bool) {f : Field} (counts : (l.get f).or f.default? = some v) (notNull : l.get f ≠ some .null) :
    (errors l f = 0 ∧ f.Holds (made l dryRun) v) ∨ (errors l f = 1 ∧ ¬ f.Accepts v) := by
  rw [Option.or_eq_some_iff] at counts
  have text {given : Option Value} (default : String)
      (counts : given = some v ∨ given = none ∧ some (.text default) = some v) :=
    read_cases (fun s v => v = .text s) default
      (counts.imp_right (And.imp_right fun same => (Option.some.inj same).symm)) fun _ _ => textOf_eq_some_iff
  have optional {given : Option Value} (notNull : given ≠ some .null)
      (counts : given = some v ∨ given = none ∧ some .null = some v) :=
    read_cases (fun s v => v = Value.ofText? s) none
      (counts.imp_right (And.imp_right fun same => (Option.some.inj same).symm))
      fun isGiven _ => optionalOf_eq_some_iff fun isNull => notNull (isNull ▸ isGiven)
  have switch {given : Option Value} {default : Bool}
      (counts : given = some v ∨ given = none ∧ some (.bool default) = some v) :=
    read_cases (fun b v => boolOf? v = some b) default
      (counts.imp_right (And.imp_right fun same => congrArg boolOf? (Option.some.inj same).symm)) fun _ _ => Iff.rfl
  -- Each field is read in one of three ways; they differ in the default and in what a value must be.
  cases f with
  | schemaSource =>
      have given : l.schemaSource = some v := counts.resolve_right fun ⟨_, impossible⟩ => by cases impossible
      exact (text "" (.inl given)).imp_right (And.imp_right fun other ⟨_, holds⟩ => other _ holds)
  | outDir => exact (text _ counts).imp_right (And.imp_right fun other ⟨_, holds⟩ => other _ holds)
  | extension => exact (text _ counts).imp_right (And.imp_right fun other ⟨_, holds⟩ => other _ holds)
  | baseUrl => exact (optional notNull counts).imp_right (And.imp_right fun other ⟨_, holds⟩ => other _ holds)
  | openapiTsConfig => exact (optional notNull counts).imp_right (And.imp_right fun other ⟨_, holds⟩ => other _ holds)
  | groupByTag => exact (switch counts).imp_right (And.imp_right fun other ⟨_, holds⟩ => other _ holds)
  | generateTypes => exact (switch counts).imp_right (And.imp_right fun other ⟨_, holds⟩ => other _ holds)

/-! What layered options make, as far as the values that count tell. -/

/-- Whether there is a description to work on. -/
def isGiven (effective? : Field → Option Value) : Prop := ∃ v, effective? .schemaSource = some v ∧ v.isTruthy = true

section Effective

variable {eff : Field → Option Value}

theorem isGiven_iff (counts : ∀ f, (l.get f).or f.default? = eff f) :
    isGiven eff ↔ l.schemaSource.any Value.isTruthy = true := by
  have same : l.schemaSource = eff .schemaSource := (Option.or_none).symm.trans (counts .schemaSource)
  rw [isGiven, same, Option.any_eq_true]

/-- Once a description is given every option has a value. -/
theorem exists_of_isGiven (counts : ∀ f, (l.get f).or f.default? = eff f) (given : isGiven eff) (f : Field) :
    ∃ v, eff f = some v := by
  have some {default : Value} (isDefault : f.default? = some default) : ∃ v, eff f = some v := by
    rw [← counts f, isDefault]
    cases l.get f with
    | none => exact ⟨_, rfl⟩
    | some v => exact ⟨v, rfl⟩
  cases f with
  | schemaSource =>
      obtain ⟨v, isThere, -⟩ := given
      exact ⟨v, isThere⟩
  | _ => exact some rfl

/-- Layered options are made from the values that count, or there is no description, or a value that will not do. -/
theorem ofLayered_cases (dryRun : Bool) (counts : ∀ f, (l.get f).or f.default? = eff f)
    (notNull : ∀ f, l.get f ≠ some .null) :
    (¬ isGiven eff ∧ ofLayered l dryRun = .error (.usage .noSchema)) ∨
      (isGiven eff ∧ (∀ f : Field, ∃ v, eff f = some v ∧ f.Holds (made l dryRun) v) ∧
        ofLayered l dryRun = .ok (made l dryRun)) ∨
      (isGiven eff ∧ (∃ f v, eff f = some v ∧ ¬ f.Accepts v) ∧
        ofLayered l dryRun = .error (.config (.invalidOptions (total l)))) := by
  have layered := ofLayered_eq l dryRun
  by_cases given : isGiven eff
  · right
    rw [(isGiven_iff counts).1 given, if_neg (by decide)] at layered
    -- Every field was read without an error, or one of them has a value that it refuses.
    by_cases none : total l = 0
    · left
      rw [none, if_pos (by decide)] at layered
      refine ⟨given, fun f => ?_, layered⟩
      obtain ⟨v, isThere⟩ := exists_of_isGiven counts given f
      rcases errors_cases dryRun ((counts f).trans isThere) (notNull f) with ⟨-, holds⟩ | ⟨one, -⟩
      · exact ⟨v, isThere, holds⟩
      · rw [total_eq_zero_iff.1 none f] at one
        cases one
    · right
      rw [if_neg (by simpa using none)] at layered
      obtain ⟨f, wrong⟩ := Classical.not_forall.1 fun all => none (total_eq_zero_iff.2 all)
      obtain ⟨v, isThere⟩ := exists_of_isGiven counts given f
      rcases errors_cases dryRun ((counts f).trans isThere) (notNull f) with ⟨zero, -⟩ | ⟨-, refused⟩
      · exact absurd zero wrong
      · exact ⟨given, ⟨f, v, isThere, refused⟩, layered⟩
  · left
    have missing : l.schemaSource.any Value.isTruthy = false :=
      Bool.eq_false_iff.2 fun some => given ((isGiven_iff counts).2 some)
    rw [missing, if_pos (by decide)] at layered
    exact ⟨given, layered⟩

theorem errors_congr {l' : Layered} {f : Field} (same : (l.get f).or f.default? = (l'.get f).or f.default?)
    (notNull : l.get f ≠ some .null) (notNull' : l'.get f ≠ some .null)
    (isThere : (l.get f).or f.default? = some v) : errors l f = errors l' f := by
  rcases errors_cases false isThere notNull with ⟨zero, holds⟩ | ⟨one, refused⟩
  · rcases errors_cases false (same ▸ isThere) notNull' with ⟨zero', -⟩ | ⟨-, refused'⟩
    · rw [zero, zero']
    · exact absurd ⟨_, holds⟩ refused'
  · rcases errors_cases false (same ▸ isThere) notNull' with ⟨-, holds'⟩ | ⟨one', -⟩
    · exact absurd ⟨_, holds'⟩ refused
    · rw [one, one']

/-- Layers that give the same values make the same options, or miss them in the same way. -/
theorem ofLayered_congr {l' : Layered} (dryRun : Bool) (counts : ∀ f, (l.get f).or f.default? = eff f)
    (notNull : ∀ f, l.get f ≠ some .null) (counts' : ∀ f, (l'.get f).or f.default? = eff f)
    (notNull' : ∀ f, l'.get f ≠ some .null) : ofLayered l dryRun = ofLayered l' dryRun := by
  -- The same values count in both, so both fall under the same of the three cases.
  rcases ofLayered_cases dryRun counts notNull with
    ⟨missing, outcome⟩ | ⟨given, all, outcome⟩ | ⟨given, ⟨f, v, isThere, refused⟩, outcome⟩
  · rcases ofLayered_cases dryRun counts' notNull' with ⟨-, outcome'⟩ | ⟨given', -⟩ | ⟨given', -⟩
    · rw [outcome, outcome']
    · exact absurd given' missing
    · exact absurd given' missing
  · rcases ofLayered_cases dryRun counts' notNull' with
      ⟨missing, -⟩ | ⟨-, all', outcome'⟩ | ⟨-, ⟨f, v, isThere, refused⟩, -⟩
    · exact absurd given missing
    · have same : made l dryRun = made l' dryRun := by
        refine eq_of_holds (fun f => ?_) rfl
        obtain ⟨v, isThere, holds⟩ := all f
        obtain ⟨v', isThere', holds'⟩ := all' f
        cases isThere.symm.trans isThere'
        exact ⟨v, holds, holds'⟩
      rw [outcome, outcome', same]
    · obtain ⟨v', isThere', holds⟩ := all f
      cases isThere.symm.trans isThere'
      exact absurd ⟨_, holds⟩ refused
  · rcases ofLayered_cases dryRun counts' notNull' with ⟨missing, -⟩ | ⟨-, all', -⟩ | ⟨-, -, outcome'⟩
    · exact absurd given missing
    · obtain ⟨v', isThere', holds⟩ := all' f
      cases isThere.symm.trans isThere'
      exact absurd ⟨_, holds⟩ refused
    · have same (f : Field) : errors l f = errors l' f := by
        obtain ⟨v, isThere⟩ := exists_of_isGiven counts given f
        exact errors_congr ((counts f).trans (counts' f).symm) (notNull f) (notNull' f) ((counts f).trans isThere)
      have sameTotal : total l = total l' := by
        unfold total
        simp only [same]
      rw [outcome, outcome', sameTotal]

end Effective

end QueryHooks.Options
