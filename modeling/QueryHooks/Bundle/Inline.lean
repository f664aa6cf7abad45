import QueryHooks.Bundle.Reachable

/-!
Bundling: every reference is replaced by what it points at, read in its own document. A target that is
being followed already stays a reference, so each step either follows a new target or goes into a part. A
document that contains itself outside of references has no end, and cannot be bundled.
-/

namespace QueryHooks.Bundle

/-- The documents met so far, the root among them, and the keys that the library was asked for, last first. -/
structure Shelf (b : Bundle) where
  documents : List (String × Value)
  requests : List String
  sound : ∀ key document, (key, document) ∈ documents → b.Holds key document
  rooted : (b.rootKey, b.root) ∈ documents

def Shelf.start (b : Bundle) : Shelf b :=
  { documents := [(b.rootKey, b.root)]
    requests := []
    sound := fun key document member => by
      obtain ⟨sameKey, sameRoot⟩ := Prod.mk.inj (List.mem_singleton.1 member)
      subst sameKey sameRoot
      exact b.holds_root
    rooted := List.mem_singleton_self _ }

def blame (reference : String) : Failure → Failure
  | .spec (.source problem) => .spec (.document reference problem)
  | failure => failure

theorem mem_of_find {documents : List (String × Value)} {key : String} {entry : String × Value}
    (found : documents.find? (fun e => e.1 == key) = some entry) : (key, entry.2) ∈ documents := by
  have member := List.mem_of_find?_eq_some found
  have same := List.find?_some found
  rw [← eq_of_beq same]
  exact member

/-- Only the library can answer for what is not on the shelf. -/
private theorem answer_of_unknown {b : Bundle} {key : String} (shelf : Shelf b)
    (unknown : shelf.documents.find? (fun e => e.1 == key) = none) : b.answer key = b.library.answer key := by
  have other : key ≠ b.rootKey := by
    intro same
    exact List.find?_eq_none.1 unknown (b.rootKey, b.root) shelf.rooted (beq_iff_eq.2 same.symm)
  exact if_neg other

private theorem holds_of_unknown {b : Bundle} {key : String} {document : Value} (shelf : Shelf b)
    (unknown : shelf.documents.find? (fun e => e.1 == key) = none) (found : b.library.answer key = .ok document) :
    b.Holds key document :=
  (answer_of_unknown shelf unknown).trans found

/-- The document of a key: from the shelf, or else from the library, and then onto the shelf. -/
def fetch (b : Bundle) (reference key : String) (shelf : Shelf b) :
    Except Failure { document : Value // b.Holds key document } × Shelf b :=
  match known : shelf.documents.find? fun e => e.1 == key with
  | some entry => (.ok ⟨entry.2, shelf.sound key entry.2 (mem_of_find known)⟩, shelf)
  | none =>
      match found : b.library.answer key with
      | .error failure => (.error (blame reference failure), { shelf with requests := key :: shelf.requests })
      | .ok document =>
          (.ok ⟨document, holds_of_unknown shelf known found⟩,
            { documents := (key, document) :: shelf.documents
              requests := key :: shelf.requests
              sound := fun k d member => by
                rcases List.mem_cons.1 member with same | earlier
                · obtain ⟨sameKey, sameDocument⟩ := Prod.mk.inj same
                  subst sameKey sameDocument
                  exact holds_of_unknown shelf known found
                · exact shelf.sound k d earlier
              rooted := List.mem_cons_of_mem _ shelf.rooted })

/-- The shelf does not change what a key's document is. -/
theorem fetch_of_holds {b : Bundle} {key : String} {document : Value} (held : b.Holds key document)
    (reference : String) (shelf : Shelf b) :
    ∃ after, fetch b reference key shelf = (.ok ⟨document, held⟩, after) := by
  unfold fetch
  split
  · next entry known =>
      have also : b.Holds key entry.2 := shelf.sound key entry.2 (mem_of_find known)
      rw [Holds, held] at also
      injection also with same
      subst same
      exact ⟨_, rfl⟩
  · next unknown =>
      split
      · next failure missing =>
          rw [Holds, answer_of_unknown shelf unknown, missing] at held
          cases held
      · next document' found =>
          have also : b.Holds key document' := holds_of_unknown shelf unknown found
          rw [Holds, held] at also
          injection also with same
          subst same
          exact ⟨_, rfl⟩

theorem fetch_of_missing {b : Bundle} {key : String} {failure : Failure} (missing : b.answer key = .error failure)
    (reference : String) (shelf : Shelf b) :
    ∃ after, fetch b reference key shelf = (.error (blame reference failure), after) := by
  unfold fetch
  split
  · next entry known =>
      have held : b.Holds key entry.2 := shelf.sound key entry.2 (mem_of_find known)
      rw [Holds, missing] at held
      cases held
  · next unknown =>
      rw [answer_of_unknown shelf unknown] at missing
      split
      · next failure' missing' =>
          rw [missing'] at missing
          injection missing with same
          subst same
          exact ⟨_, rfl⟩
      · next document found =>
          rw [found] at missing
          cases missing

theorem Known.item {b : Bundle} {key : String} {v : Value} {items : List Value}
    (known : b.Known key (.list (v :: items))) : b.Known key v ∧ b.Known key (.list items) := by
  constructor
  · exact known.mono fun r member => by
      rw [Value.references, Value.referencesOfItems]
      exact List.mem_append_left _ member
  · exact known.mono fun r member => by
      rw [Value.references] at member ⊢
      rw [Value.referencesOfItems]
      exact List.mem_append_right _ member

/-- The references in the values of entries lead to targets. -/
def KnownEntries (b : Bundle) (key : String) (entries : List (Value × Value)) : Prop :=
  ∀ r ∈ Value.referencesOfEntries entries, ∀ t, Reference.target? b.workdir key r = some t → t.key ∈ b.targets

theorem Known.entries {b : Bundle} {key : String} {entries : List (Value × Value)}
    (known : b.Known key (.map entries)) : b.KnownEntries key entries := by
  intro r member
  apply known
  rw [Value.references]
  exact List.mem_append_right _ member

theorem KnownEntries.uncons {b : Bundle} {key : String} {k v : Value} {rest : List (Value × Value)}
    (known : b.KnownEntries key ((k, v) :: rest)) : b.Known key v ∧ b.KnownEntries key rest := by
  constructor
  · intro r member
    apply known
    rw [Value.referencesOfEntries]
    exact List.mem_append_left _ member
  · intro r member
    apply known
    rw [Value.referencesOfEntries]
    exact List.mem_append_right _ member

private theorem Known.target {b : Bundle} {key reference : String} {entries : List (Value × Value)} {t : Target}
    (known : b.Known key (.map entries)) (isReference : Reference.of? entries = some reference)
    (found : Reference.target? b.workdir key reference = some t) : t.key ∈ b.targets := by
  apply known reference _ t found
  rw [Value.references, isReference]
  exact List.mem_append_left _ List.mem_cons_self

/-- How far bundling may lead: a reference is one step and a collection two. -/
def maxSteps : Nat := 980

mutual

/--
A value of the document `key` after so many steps, its references replaced; `seen` holds the targets being
followed, and `around` the collections that the value lies in.
-/
def inline (b : Bundle) (key : String) (seen : List String) (steps : Nat) (around : List Value) (v : Value)
    (known : b.Known key v) (shelf : Shelf b) : Except Failure Value × Shelf b :=
  if maxSteps < steps then (.error .unexpected, shelf)
  else match v with
  | .map entries =>
      match _isReference : Reference.of? entries with
      | none =>
          match inlineEntries b key seen (steps + 2) (.map entries :: around) entries (Known.entries known) shelf with
          | (.ok entries, shelf) => (.ok (.map entries), shelf)
          | (.error failure, shelf) => (.error failure, shelf)
      | some reference =>
          match _found : Reference.target? b.workdir key reference with
          | none => (.error .unexpected, shelf)
          | some target =>
              if _fresh : seen.contains target.key then (.ok (Value.closedIn around (.map entries)), shelf)
              else
                match fetch b reference target.document shelf with
                | (.error failure, shelf) => (.error failure, shelf)
                | (.ok ⟨document, held⟩, shelf) =>
                    match reached : Pointer.follow document target.pointer with
                    | .error problem => (.error (.spec (.pointer reference problem)), shelf)
                    | .ok part =>
                        inline b target.document (target.key :: seen) (steps + 1) [] part
                          ((Known.of_holds held).mono (Pointer.references_follow reached)) shelf
  | .list items =>
      match inlineItems b key seen (steps + 2) (.list items :: around) items known shelf with
      | (.ok items, shelf) => (.ok (.list items), shelf)
      | (.error failure, shelf) => (.error failure, shelf)
  | .again .. => (.error .unexpected, shelf)
  | .pair first second => (.ok (Value.closedIn around (.pair first second)), shelf)
  | v => (.ok v, shelf)
termination_by (b.unseen seen, sizeOf v)
decreasing_by
  · exact Prod.Lex.right _ (by simp)
  · exact Prod.Lex.left _ _ (unseen_lt (Known.target known _isReference _found) (by simpa using _fresh))
  · exact Prod.Lex.right _ (by simp)

def inlineItems (b : Bundle) (key : String) (seen : List String) (steps : Nat) (around items : List Value)
    (known : b.Known key (.list items)) (shelf : Shelf b) : Except Failure (List Value) × Shelf b :=
  match items with
  | [] => (.ok [], shelf)
  | v :: rest =>
      match inline b key seen steps around v (Known.item known).1 shelf with
      | (.error failure, shelf) => (.error failure, shelf)
      | (.ok v, shelf) =>
          match inlineItems b key seen steps around rest (Known.item known).2 shelf with
          | (.error failure, shelf) => (.error failure, shelf)
          | (.ok rest, shelf) => (.ok (v :: rest), shelf)
termination_by (b.unseen seen, sizeOf items)
decreasing_by
  · exact Prod.Lex.right _ (by simp only [List.cons.sizeOf_spec]; omega)
  · exact Prod.Lex.right _ (by simp only [List.cons.sizeOf_spec]; omega)

def inlineEntries (b : Bundle) (key : String) (seen : List String) (steps : Nat) (around : List Value)
    (entries : List (Value × Value)) (known : b.KnownEntries key entries) (shelf : Shelf b) :
    Except Failure (List (Value × Value)) × Shelf b :=
  match entries with
  | [] => (.ok [], shelf)
  | (k, v) :: rest =>
      match inline b key seen steps around v (KnownEntries.uncons known).1 shelf with
      | (.error failure, shelf) => (.error failure, shelf)
      | (.ok v, shelf) =>
          match inlineEntries b key seen steps around rest (KnownEntries.uncons known).2 shelf with
          | (.error failure, shelf) => (.error failure, shelf)
          | (.ok rest, shelf) => (.ok ((k, v) :: rest), shelf)
termination_by (b.unseen seen, sizeOf entries)
decreasing_by
  · exact Prod.Lex.right _ (by simp only [List.cons.sizeOf_spec, Prod.mk.sizeOf_spec]; omega)
  · exact Prod.Lex.right _ (by simp only [List.cons.sizeOf_spec, Prod.mk.sizeOf_spec]; omega)

end

def trace (b : Bundle) : Except Failure Value × Shelf b :=
  inline b b.rootKey [] 0 [] b.root (Known.of_holds b.holds_root) (Shelf.start b)

/-- How deep a document may be that is bundled. -/
def maxDepth : Nat := 490

def run (b : Bundle) : Except Failure Value :=
  if maxDepth < b.root.depth then .error .unexpected else b.trace.1

end Bundle

/-- Bundle a document, the others in a library. Without a source it lies in the working directory. -/
def bundleIn (library : Library) (workdir : Place) (document : Value) (source : Option String) :
    Except Failure Value :=
  match Reference.documentKey? workdir source with
  | none => .error .unexpected
  | some key => (Bundle.mk library workdir key document).run

def bundle (world : World) (document : Value) (source : Option String) : Except Failure Value :=
  bundleIn (.ofWorld world) world.workdir document source

end QueryHooks
