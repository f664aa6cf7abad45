import QueryHooks.Bundle.Inline
import QueryHooks.Proofs.Value.Tree

/-! What bundling does at a value, by what the value is. -/

namespace QueryHooks.Bundle

open Value (closedIn)

variable {b : Bundle}

private theorem referencesOfItems_values (entries : List (Value × Value)) :
    Value.referencesOfItems (entries.map Prod.snd) = Value.referencesOfEntries entries := by
  induction entries with
  | nil => rfl
  | cons head rest ih =>
      obtain ⟨k, v⟩ := head
      rw [List.map_cons, Value.referencesOfItems, ih, Value.referencesOfEntries]

theorem KnownEntries.values {key : String} {entries : List (Value × Value)}
    (known : b.KnownEntries key entries) : b.Known key (.list (entries.map Prod.snd)) := by
  intro r inside
  rw [Value.references, referencesOfItems_values] at inside
  exact known r inside

theorem Known.parts {key : String} {v : Value} (known : b.Known key v) : b.Known key (.list v.parts) := by
  refine known.mono fun r inside => ?_
  rw [Value.references] at inside
  cases v with
  | list items => exact inside
  | map entries =>
      rw [Value.references]
      exact List.mem_append_right _ (referencesOfItems_values entries ▸ inside)
  | _ => cases inside

theorem inlineEntries_eq (key : String) (seen : List String) (steps : Nat)
    (around : List Value) (entries : List (Value × Value)) (known : b.KnownEntries key entries)
    (shelf : Shelf b) :
    (inlineEntries b key seen steps around entries known shelf).1 =
      Except.map (entries.map Prod.fst).zip
        (inlineItems b key seen steps around (entries.map Prod.snd) known.values shelf).1 ∧
    (inlineEntries b key seen steps around entries known shelf).2 =
      (inlineItems b key seen steps around (entries.map Prod.snd) known.values shelf).2 := by
  induction entries generalizing shelf with
  | nil =>
      rw [inlineEntries]
      simp only [List.map_nil]
      rw [inlineItems]
      exact ⟨rfl, rfl⟩
  | cons head rest ih =>
      obtain ⟨k, v⟩ := head
      rw [inlineEntries]
      simp only [List.map_cons]
      rw [inlineItems]
      split
      · next failure after here =>
          rw [here]
          exact ⟨rfl, rfl⟩
      · next w after here =>
          rw [here]
          obtain ⟨result, shelf'⟩ := ih (KnownEntries.uncons known).2 after
          have sameResult := result
          -- Both go on with the same shelf, so they also fail at the same entry.
          cases rest' : inlineItems b key seen steps around (rest.map Prod.snd)
              (KnownEntries.uncons known).2.values after with
          | mk items last =>
              rw [rest'] at result shelf'
              have sameRest : inlineEntries b key seen steps around rest
                (KnownEntries.uncons known).2 after =
                  (Except.map (rest.map Prod.fst).zip items, last) := Prod.ext result shelf'
              simp only [sameRest, rest']
              cases items <;> exact ⟨rfl, rfl⟩

section Value

variable {document reference : String} {followed : List String} {steps : Nat} {around : List Value} {v : Value}
  {target : Target} (known : b.Known document v) (shelf : Shelf b)

theorem inline_of_far (far : maxSteps < steps) :
    inline b document followed steps around v known shelf = (.error .unexpected, shelf) := by
  rw [inline.eq_def, if_pos far]

theorem inline_of_unnamed (near : ¬ maxSteps < steps) (isReference : v.reference? = some reference)
    (unnamed : Reference.target? b.workdir document reference = none) :
    inline b document followed steps around v known shelf = (.error .unexpected, shelf) := by
  cases v with
  | map entries =>
      have isReference : Reference.of? entries = some reference := isReference
      rw [inline.eq_def, if_neg near]
      simp only
      split
      · next none => rw [isReference] at none; cases none
      · next reference' isReference' =>
          rw [isReference] at isReference'
          cases isReference'
          split
          · rfl
          · next named => rw [unnamed] at named; cases named
  | _ => cases isReference

theorem inline_of_named (near : ¬ maxSteps < steps) (isReference : v.reference? = some reference)
    (named : Reference.target? b.workdir document reference = some target) :
    inline b document followed steps around v known shelf =
      if target.key ∈ followed then (.ok (closedIn around v), shelf)
      else
        match fetch b reference target.document shelf with
        | (.error failure, after) => (.error failure, after)
        | (.ok ⟨whole, held⟩, after) =>
            match reached : Pointer.follow whole target.pointer with
            | .error problem => (.error (.spec (.pointer reference problem)), after)
            | .ok part =>
                inline b target.document (target.key :: followed) (steps + 1) [] part
                  ((Known.of_holds held).mono (Pointer.references_follow reached)) after := by
  cases v with
  | map entries =>
      have isReference : Reference.of? entries = some reference := isReference
      rw [inline.eq_def, if_neg near]
      simp only
      split
      · next none => rw [isReference] at none; cases none
      · next reference' isReference' =>
          rw [isReference] at isReference'
          cases isReference'
          split
          · next unnamed => rw [named] at unnamed; cases unnamed
          · next target' named' =>
              rw [named] at named'
              cases named'
              by_cases before : target.key ∈ followed
              · rw [if_pos before, dif_pos (by simpa using before)]
              · refine (dif_neg (by simpa using before)).trans (.trans ?_ (if_neg before).symm)
                rcases fetch b reference target.document shelf with ⟨failure | ⟨whole, held⟩, after⟩
                · rfl
                · rfl
  | _ => cases isReference

theorem inline_of_again (near : ¬ maxSteps < steps) {kind : Collection} {up : Nat}
    (known : b.Known document (.again kind up)) :
    inline b document followed steps around (.again kind up) known shelf = (.error .unexpected, shelf) := by
  rw [inline.eq_def, if_neg near]

theorem inline_of_pair (near : ¬ maxSteps < steps) {first second : Value}
    (known : b.Known document (.pair first second)) :
    inline b document followed steps around (.pair first second) known shelf =
      (.ok (closedIn around (.pair first second)), shelf) := by
  rw [inline.eq_def, if_neg near]

theorem inline_of_parts (near : ¬ maxSteps < steps) (noReference : v.reference? = none)
    (notAgain : ∀ kind up, v ≠ .again kind up) (notPair : ∀ first second, v ≠ .pair first second) :
    inline b document followed steps around v known shelf =
      (Except.map v.withParts
        (inlineItems b document followed (steps + 2) (v :: around) v.parts known.parts shelf).1,
      (inlineItems b document followed (steps + 2) (v :: around) v.parts known.parts shelf).2) := by
  cases v with
  | map entries =>
      have noReference : Reference.of? entries = none := noReference
      rw [inline.eq_def, if_neg near]
      simp only
      split
      -- The entries are resolved as a list of their values, with the keys put back after.
      · obtain ⟨sameResult, sameShelf⟩ :=
          inlineEntries_eq document followed (steps + 2) (.map entries :: around) entries known.entries shelf
        change _ = (Except.map _ (inlineItems b document followed (steps + 2) (.map entries :: around)
          (entries.map Prod.snd) known.entries.values shelf).1,
          (inlineItems b document followed (steps + 2) (.map entries :: around)
            (entries.map Prod.snd) known.entries.values shelf).2)
        revert sameResult sameShelf
        rcases inlineEntries b document followed (steps + 2) (.map entries :: around) entries
          known.entries shelf with ⟨failure | outs, after⟩ <;>
        rcases inlineItems b document followed (steps + 2) (.map entries :: around) (entries.map Prod.snd)
          known.entries.values shelf with ⟨failure' | outs', after'⟩ <;>
        intro sameResult sameShelf <;> cases sameResult <;> cases sameShelf <;> rfl
      · next isReference => rw [noReference] at isReference; cases isReference
  | list items =>
      rw [inline.eq_def, if_neg near]
      simp only
      change _ = (Except.map _ (inlineItems b document followed (steps + 2) (.list items :: around)
        items known shelf).1,
        (inlineItems b document followed (steps + 2) (.list items :: around) items known shelf).2)
      rcases inlineItems b document followed (steps + 2) (.list items :: around) items known shelf with
        ⟨failure | outs, after⟩
      · rfl
      · rfl
  | again kind up => exact absurd rfl (notAgain kind up)
  | pair first second => exact absurd rfl (notPair first second)
  | _ =>
      rw [inline.eq_def, if_neg near, inlineItems.eq_def]
      rfl

end Value

end QueryHooks.Bundle
