import QueryHooks.CommandLine.Invocation

/-!
What the words of a command line make of its rules. Every option that is read is one of the rules', so a flag
in front of other words changes the flags of what they ask for, and nothing else of it.
-/

namespace QueryHooks.CommandLine

section Read

variable {α : Type} {rules : List (Rule α)} {p : α → Prop}

/-- Whether a rule makes only options of a kind. -/
def Rule.Gives (p : α → Prop) (rule : Rule α) : Prop :=
  match rule.meaning with
  | .flag a => p a
  | .value of => ∀ text, p (of text)

theorem flag_of_meaning {name : String} {a : α} (all : ∀ rule ∈ rules, rule.Gives p)
    (found : meaning? rules name = some (.flag a)) : p a := by
  obtain ⟨rule, here, same⟩ := Option.map_eq_some_iff.1 found
  have gives := all rule (List.mem_of_find?_eq_some here)
  rwa [Rule.Gives, same] at gives

theorem value_of_meaning {name : String} {of : String → α} (all : ∀ rule ∈ rules, rule.Gives p)
    (found : meaning? rules name = some (.value of)) (text : String) : p (of text) := by
  obtain ⟨rule, here, same⟩ := Option.map_eq_some_iff.1 found
  have gives := all rule (List.mem_of_find?_eq_some here)
  rw [Rule.Gives, same] at gives
  exact gives text

theorem all_of_takeNext {of : String → α} {words : List String} {step : Step α words} (all : ∀ text, p (of text))
    (done : takeNext of words = some step) : ∀ a ∈ step.1, p a := by
  cases words with
  | nil => cases done
  | cons word rest =>
      cases done
      exact fun a inside => List.mem_singleton.1 inside ▸ all word

theorem all_of_readShort {words : List String} {step : Step α words} {chars : List Char}
    (all : ∀ rule ∈ rules, rule.Gives p) (done : readShort rules words chars = some step) : ∀ a ∈ step.1, p a := by
  induction chars generalizing step with
  | nil =>
      cases done
      exact fun a inside => absurd inside List.not_mem_nil
  | cons c others ih =>
      rw [readShort] at done
      split at done
      · cases done
      · next a found =>
          obtain ⟨later, below, rfl⟩ := Option.map_eq_some_iff.1 done
          exact List.forall_mem_cons.2 ⟨flag_of_meaning all found, ih below⟩
      · next of found =>
          split at done
          · exact all_of_takeNext (value_of_meaning all found) done
          · cases done
            exact fun a inside => List.mem_singleton.1 inside ▸ value_of_meaning all found _

theorem all_of_readOption {words : List String} {word : String} {step : Step α words}
    (all : ∀ rule ∈ rules, rule.Gives p) (done : readOption rules words word = some step) : ∀ a ∈ step.1, p a := by
  unfold readOption at done
  dsimp only at done
  generalize isNamed : (if (cutValue word.toList).1.take 2 == ['-', '-'] then
    meaning? rules (String.ofList (cutValue word.toList).1) else none) = named at done
  have ofRule {meaning : Meaning α} (same : named = some meaning) :
      meaning? rules (String.ofList (cutValue word.toList).1) = some meaning := by
    rw [same] at isNamed
    split at isNamed
    · exact isNamed
    · cases isNamed
  split at done
  · cases done
    exact fun a inside => List.mem_singleton.1 inside ▸ flag_of_meaning all (ofRule rfl)
  · cases done
  · cases done
    exact fun a inside => List.mem_singleton.1 inside ▸ value_of_meaning all (ofRule rfl) _
  · exact all_of_takeNext (value_of_meaning all (ofRule rfl)) done
  · split at done
    · cases done
    · exact all_of_readShort all done

/-- Every option that is read is made by a rule. -/
theorem all_of_read {mixed : Bool} {words : List String} {parsed : Parsed α} (all : ∀ rule ∈ rules, rule.Gives p)
    (done : read rules mixed words = some parsed) : ∀ a ∈ parsed.options, p a := by
  fun_induction read rules mixed words generalizing parsed with
  | case1 =>
      cases done
      exact fun a inside => absurd inside List.not_mem_nil
  | case2 =>
      cases done
      exact fun a inside => absurd inside List.not_mem_nil
  | case3 => cases done
  | case4 word words _ _ found rest _ isRead ih =>
      obtain ⟨later, below, rfl⟩ := Option.map_eq_some_iff.1 done
      intro a inside
      rcases List.mem_append.1 inside with first | later
      · exact all_of_readOption all isRead a first
      · exact ih below a later
  | case5 word words _ _ _ ih =>
      obtain ⟨later, below, rfl⟩ := Option.map_eq_some_iff.1 done
      exact fun a inside => ih below a inside
  | case6 =>
      cases done
      exact fun a inside => absurd inside List.not_mem_nil

end Read

/-- What is asked for, with other flags. -/
def Invocation.withFlags (change : Flags → Flags) : Invocation → Invocation
  | .run flags command => .run (change flags) command
  | other => other

variable {change : Flags → Flags}

namespace Effect

variable {σ : Type}

/-- Whether an option asks for nothing that has flags, and changes what is asked for independently of a change. -/
def Allows (change : σ → σ) : Effect σ → Prop
  | .change f => ∀ s, f (change s) = change (f s)
  | .answer i => i = .help ∨ i = .version

theorem answered_of_allows {change : σ → σ} {effects : List (Effect σ)} {i : Invocation}
    (all : ∀ e ∈ effects, e.Allows change) (found : answered? effects = some i) : i = .help ∨ i = .version := by
  obtain ⟨e, inside, here⟩ := List.exists_of_findSome?_eq_some found
  cases e with
  | change f => cases here
  | answer j =>
      cases here
      exact all _ inside

theorem changed_of_allows {change : σ → σ} {effects : List (Effect σ)} (all : ∀ e ∈ effects, e.Allows change)
    (start : σ) : changed effects (change start) = change (changed effects start) := by
  induction effects generalizing start with
  | nil => rfl
  | cons e rest ih =>
      obtain ⟨first, others⟩ := List.forall_mem_cons.1 all
      cases e with
      | change f =>
          have commutes : f (change start) = change (f start) := first start
          change changed rest (f (change start)) = change (changed rest (f start))
          rw [commutes, ih others]
      | answer i => exact ih others start

end Effect

theorem withFlags_answer {i : Invocation} (answer : i = .help ∨ i = .version) : i.withFlags change = i := by
  rcases answer with rfl | rfl <;> rfl

section Rules

/-! No option of a command asks for another command, so all that changes with the flags are the flags. -/

theorem generateRules_allow (rule : Rule (Effect Arguments)) (inside : rule ∈ generateRules) :
    rule.Gives (Effect.Allows id) := by
  revert rule
  unfold generateRules
  simp only [List.forall_mem_cons]
  exact ⟨fun _ _ => rfl, fun _ _ => rfl, fun _ _ => rfl, fun _ _ => rfl, fun _ => rfl, fun _ => rfl, fun _ => rfl,
    fun _ => rfl, fun _ => rfl, .inl rfl, fun _ impossible => absurd impossible List.not_mem_nil⟩

theorem operationsRules_allow (rule : Rule (Effect (Option String))) (inside : rule ∈ operationsRules) :
    rule.Gives (Effect.Allows id) := by
  revert rule
  unfold operationsRules
  simp only [List.forall_mem_cons]
  exact ⟨fun _ _ => rfl, .inl rfl, fun _ impossible => absurd impossible List.not_mem_nil⟩

theorem requestRules_allow (rule : Rule (Effect RequestOptions)) (inside : rule ∈ requestRules) :
    rule.Gives (Effect.Allows id) := by
  revert rule
  unfold requestRules
  simp only [List.forall_mem_cons]
  exact ⟨fun _ _ => rfl, fun _ _ => rfl, fun _ _ => rfl, .inl rfl,
    fun _ impossible => absurd impossible List.not_mem_nil⟩

theorem groupRules_allow (rule : Rule (Effect Unit)) (inside : rule ∈ groupRules) : rule.Gives (Effect.Allows id) := by
  revert rule
  unfold groupRules
  simp only [List.forall_mem_cons]
  exact ⟨.inl rfl, fun _ impossible => absurd impossible List.not_mem_nil⟩

end Rules

variable {σ : Type} {rules : List (Rule (Effect σ))} {start : σ} {words : List String}

theorem withFlags_ofCommand {make make' : σ → List String → Invocation}
    (all : ∀ rule ∈ rules, rule.Gives (Effect.Allows id))
    (same : ∀ s arguments, make' s arguments = (make s arguments).withFlags change) :
    ofCommand rules start words make' = (ofCommand rules start words make).withFlags change := by
  unfold ofCommand
  cases isRead : read rules true words with
  | none => rfl
  | some parsed =>
      dsimp only
      cases answered : Effect.answered? parsed.options with
      | none => exact same _ _
      | some i => exact (withFlags_answer (Effect.answered_of_allows (all_of_read all isRead) answered)).symm

/-- What a group asks for changes its flags with what it starts from, if its commands do. -/
theorem withFlags_ofGroup (update : σ → σ) {named named' : σ → String → List String → Option Invocation}
    (all : ∀ rule ∈ rules, rule.Gives (Effect.Allows update))
    (same : ∀ s name rest, named' (update s) name rest = (named s name rest).map (Invocation.withFlags change)) :
    ofGroup rules (update start) words named' = (ofGroup rules start words named).withFlags change := by
  have answers {mixed : Bool} {words : List String} {parsed : Parsed (Effect σ)} {i : Invocation}
      (isRead : read rules mixed words = some parsed) (answered : Effect.answered? parsed.options = some i) :
      i.withFlags change = i :=
    withFlags_answer (Effect.answered_of_allows (all_of_read all isRead) answered)
  unfold ofGroup
  split
  · rfl
  cases isRead : read rules false words with
  | none => rfl
  | some parsed =>
      dsimp only
      cases answered : Effect.answered? parsed.options with
      | some i => exact (answers isRead answered).symm
      | none =>
          cases parsed.arguments with
          | nil => rfl
          | cons name rest =>
              dsimp only
              rw [Effect.changed_of_allows (all_of_read all isRead), same]
              cases named (Effect.changed parsed.options start) name rest with
              | some i => rfl
              | none =>
                  dsimp only [Option.map_none]
                  -- No command has the name: the words are read once more, which can still ask for help.
                  cases again : read rules false (name :: rest) with
                  | none => rfl
                  | some parsed =>
                      dsimp only [Option.bind_some]
                      cases answered : Effect.answered? parsed.options with
                      | none => rfl
                      | some i => exact (answers again answered).symm

theorem withFlags_ofInspect (flags : Flags) (words : List String) :
    ofInspect (change flags) words = (ofInspect flags words).withFlags change := by
  refine withFlags_ofGroup id groupRules_allow fun _ name rest => ?_
  split
  · refine congrArg some (withFlags_ofCommand operationsRules_allow fun schema arguments => ?_)
    cases arguments <;> rfl
  · refine congrArg some (withFlags_ofCommand requestRules_allow fun options arguments => ?_)
    match arguments with
    | [] => rfl
    | [_] => rfl
    | _ :: _ :: _ => rfl
  · rfl

/-- A word that is read as an option of its own, with a change that it stands for. -/
structure IsFlag (rules : List (Rule (Effect σ))) (word : String) (update : σ → σ) : Prop where
  notEnd : (word == "--") = false
  isOption : isOption word = true
  isRead : ∀ words, readOption rules words word = some ([.change update], ⟨words, Nat.le_refl _⟩)

theorem read_of_isFlag {word : String} {update : σ → σ} (front : IsFlag rules word update) (words : List String) :
    read rules false (word :: words) = (read rules false words).map (.after [.change update]) := by
  obtain ⟨other, isOption, isRead⟩ := front
  rw [read, other, if_neg Bool.false_ne_true, isOption, if_pos rfl, isRead]

/-- A group goes on behind a flag from what the flag makes of its start. -/
theorem ofGroup_of_isFlag {word : String} {update : σ → σ} (front : IsFlag rules word update) (more : words ≠ [])
    (named : σ → String → List String → Option Invocation) :
    ofGroup rules start (word :: words) named = ofGroup rules (update start) words named := by
  unfold ofGroup
  rw [read_of_isFlag front, List.isEmpty_cons, List.isEmpty_eq_false_iff.2 more]
  cases read rules false words with
  | none => rfl
  | some parsed => rfl

/-- A flag in front of words changes the flags of what they ask for, if no other flag stands in its way. -/
theorem ofWords_of_isFlag {word : String} (front : IsFlag flagRules word change)
    (all : ∀ rule ∈ flagRules, rule.Gives (Effect.Allows change)) (more : words ≠ []) :
    Invocation.ofWords (word :: words) = (Invocation.ofWords words).withFlags change := by
  unfold Invocation.ofWords
  rw [ofGroup_of_isFlag front more]
  refine withFlags_ofGroup change all fun flags name rest => ?_
  split
  · refine congrArg some (withFlags_ofCommand generateRules_allow fun options arguments => ?_)
    cases arguments <;> rfl
  · exact congrArg some (withFlags_ofInspect flags rest)
  · rfl

/-- Flags of a run that keeps to warnings and errors. -/
def Flags.hushed (flags : Flags) : Flags := { flags with quiet := true }

/-- Flags of a run that tells everything. -/
def Flags.outspoken (flags : Flags) : Flags := { flags with verbose := true }

/-- Flags of a run that shows its data as JSON. -/
def Flags.inJson (flags : Flags) : Flags := { flags with json := true }

/-- Flags that are set can be set in any order. -/
theorem flagRules_allow (rule : Rule (Effect Flags)) (inside : rule ∈ flagRules) :
    rule.Gives (Effect.Allows Flags.hushed) ∧ rule.Gives (Effect.Allows Flags.outspoken) ∧
      rule.Gives (Effect.Allows Flags.inJson) := by
  revert rule
  unfold flagRules
  simp only [List.forall_mem_cons]
  exact ⟨⟨.inr rfl, .inr rfl, .inr rfl⟩, ⟨fun _ => rfl, fun _ => rfl, fun _ => rfl⟩,
    ⟨fun _ => rfl, fun _ => rfl, fun _ => rfl⟩, ⟨fun _ => rfl, fun _ => rfl, fun _ => rfl⟩,
    ⟨fun _ => rfl, fun _ => rfl, fun _ => rfl⟩, ⟨fun _ => rfl, fun _ => rfl, fun _ => rfl⟩,
    ⟨.inl rfl, .inl rfl, .inl rfl⟩, fun _ impossible => absurd impossible List.not_mem_nil⟩

theorem ofWords_quiet {word : String} (quiet : word = "--quiet" ∨ word = "-q") (more : words ≠ []) :
    Invocation.ofWords (word :: words) = (Invocation.ofWords words).withFlags Flags.hushed := by
  refine ofWords_of_isFlag ?_ (fun rule inside => (flagRules_allow rule inside).1) more
  rcases quiet with rfl | rfl <;> exact ⟨rfl, by with_unfolding_all rfl, fun _ => by with_unfolding_all rfl⟩

theorem ofWords_verbose {word : String} (verbose : word = "--verbose" ∨ word = "-v") (more : words ≠ []) :
    Invocation.ofWords (word :: words) = (Invocation.ofWords words).withFlags Flags.outspoken := by
  refine ofWords_of_isFlag ?_ (fun rule inside => (flagRules_allow rule inside).2.1) more
  rcases verbose with rfl | rfl <;> exact ⟨rfl, by with_unfolding_all rfl, fun _ => by with_unfolding_all rfl⟩

theorem ofWords_json (more : words ≠ []) :
    Invocation.ofWords ("--json" :: words) = (Invocation.ofWords words).withFlags Flags.inJson :=
  ofWords_of_isFlag ⟨rfl, by with_unfolding_all rfl, fun _ => by with_unfolding_all rfl⟩
    (fun rule inside => (flagRules_allow rule inside).2.2) more

end QueryHooks.CommandLine
