import QueryHooks.Proofs.Bundle.Step
import QueryHooks.Proofs.Reference.Keys

/-!
Bundling without a shelf: a bundler that asks for the document of every reference it follows, however often.
The real one yields the same, and asks the library for each of these documents once, but never for the root.
-/

namespace QueryHooks

/-- A result, and the keys of the documents that were asked for on the way to it, in order. -/
structure Asking (α : Type) where
  asked : List String
  result : Except Failure α

namespace Asking

variable {α β : Type}

def giving (a : α) : Asking α := ⟨[], .ok a⟩

def failing (failure : Failure) : Asking α := ⟨[], .error failure⟩

def andThen (first : Asking α) (next : α → Asking β) : Asking β :=
  match first.result with
  | .error failure => ⟨first.asked, .error failure⟩
  | .ok a => ⟨first.asked ++ (next a).asked, (next a).result⟩

def map (f : α → β) (first : Asking α) : Asking β := ⟨first.asked, first.result.map f⟩

/-- One after the other, until one fails. -/
def each (f : α → Asking β) : List α → Asking (List β)
  | [] => giving []
  | a :: rest => (f a).andThen fun out => (each f rest).map (out :: ·)

theorem andThen_of_error {first : Asking α} {failure : Failure} (failed : first.result = .error failure)
    (next : α → Asking β) : first.andThen next = ⟨first.asked, .error failure⟩ := by
  rw [andThen, failed]

theorem andThen_of_ok {first : Asking α} {a : α} (isOk : first.result = .ok a) (next : α → Asking β) :
    first.andThen next = ⟨first.asked ++ (next a).asked, (next a).result⟩ := by
  rw [andThen, isOk]

theorem asked_andThen_left (first : Asking α) (next : α → Asking β) :
    first.asked ⊆ (first.andThen next).asked := by
  cases result : first.result with
  | error failure => exact (andThen_of_error result next) ▸ List.Subset.refl _
  | ok a => exact (andThen_of_ok result next) ▸ List.subset_append_left _ _

theorem asked_andThen_right {first : Asking α} {a : α} (isOk : first.result = .ok a) (next : α → Asking β) :
    (next a).asked ⊆ (first.andThen next).asked :=
  (andThen_of_ok isOk next) ▸ List.subset_append_right _ _

theorem andThen_congr {first : Asking α} {next next' : α → Asking β}
    (same : ∀ a, first.result = .ok a → next' a = next a) : first.andThen next' = first.andThen next := by
  cases result : first.result with
  | error failure => rw [andThen_of_error result, andThen_of_error result]
  | ok a => rw [andThen_of_ok result, andThen_of_ok result, same a result]

/-- When what is done with an item depends only on the answers to what is asked, so does going through items. -/
theorem each_congr {f f' : α → Asking β} {Kept : String → Prop}
    (one : ∀ a, (∀ key ∈ (f a).asked, Kept key) → f' a = f a) {items : List α}
    (kept : ∀ key ∈ (each f items).asked, Kept key) : each f' items = each f items := by
  induction items with
  | nil => rfl
  | cons a rest ih =>
      rw [each, one a fun key here => kept key (asked_andThen_left _ _ here)]
      refine andThen_congr fun out isOk => congrArg (map (out :: ·)) (ih fun key here => ?_)
      exact kept key (asked_andThen_right isOk (fun out => (each f rest).map (out :: ·)) here)

end Asking

namespace Bundle

open Value (closedIn)

/-- The document that a reference leads to, from whoever has the documents. -/
def ask (answer : String → Except Failure Value) (reference key : String) : Asking Value :=
  ⟨[key], (answer key).mapError (blame reference)⟩

/-- A value with its references replaced, where every reference that is followed asks for its document. -/
def afresh (answer : String → Except Failure Value) (workdir : Place) (document : String)
    (followed : List String) (steps : Nat) (around : List Value) (v : Value) : Asking Value :=
  if _far : maxSteps < steps then .failing .unexpected
  else
    match v.reference? with
    | some reference =>
        match Reference.target? workdir document reference with
        | none => .failing .unexpected
        | some target =>
            if target.key ∈ followed then .giving (closedIn around v)
            else
              (ask answer reference target.document).andThen fun whole =>
                match Pointer.follow whole target.pointer with
                | .error problem => .failing (.spec (.pointer reference problem))
                | .ok part => afresh answer workdir target.document (target.key :: followed) (steps + 1) [] part
    | none =>
        match v with
        | .again .. => .failing .unexpected
        | .pair first second => .giving (closedIn around (.pair first second))
        | v =>
            (Asking.each (fun part => afresh answer workdir document followed (steps + 2) (v :: around) part)
              v.parts).map v.withParts
termination_by maxSteps + 1 - steps
decreasing_by all_goals omega

section Equations

variable {answer : String → Except Failure Value} {workdir : Place} {document reference : String}
  {followed : List String} {steps : Nat} {around : List Value} {v : Value} {target : Target}

theorem afresh_of_far (far : maxSteps < steps) :
    afresh answer workdir document followed steps around v = .failing .unexpected := by
  rw [afresh.eq_def, dif_pos far]

theorem afresh_of_unnamed (near : ¬ maxSteps < steps) (isReference : v.reference? = some reference)
    (unnamed : Reference.target? workdir document reference = none) :
    afresh answer workdir document followed steps around v = .failing .unexpected := by
  rw [afresh.eq_def, dif_neg near]
  simp only [isReference, unnamed]

theorem afresh_of_named (near : ¬ maxSteps < steps) (isReference : v.reference? = some reference)
    (named : Reference.target? workdir document reference = some target) :
    afresh answer workdir document followed steps around v =
      if target.key ∈ followed then .giving (closedIn around v)
      else
        (ask answer reference target.document).andThen fun whole =>
          match Pointer.follow whole target.pointer with
          | .error problem => .failing (.spec (.pointer reference problem))
          | .ok part => afresh answer workdir target.document (target.key :: followed) (steps + 1) [] part := by
  rw [afresh.eq_def, dif_neg near]
  simp only [isReference, named]

theorem afresh_of_again (near : ¬ maxSteps < steps) (kind : Collection) (up : Nat) :
    afresh answer workdir document followed steps around (.again kind up) = .failing .unexpected := by
  rw [afresh.eq_def, dif_neg near]
  rfl

theorem afresh_of_pair (near : ¬ maxSteps < steps) (first second : Value) :
    afresh answer workdir document followed steps around (.pair first second) =
      .giving (closedIn around (.pair first second)) := by
  rw [afresh.eq_def, dif_neg near]
  rfl

theorem afresh_of_parts (near : ¬ maxSteps < steps) (noReference : v.reference? = none)
    (notAgain : ∀ kind up, v ≠ .again kind up) (notPair : ∀ first second, v ≠ .pair first second) :
    afresh answer workdir document followed steps around v =
      (Asking.each (fun part => afresh answer workdir document followed (steps + 2) (v :: around) part)
        v.parts).map v.withParts := by
  rw [afresh.eq_def, dif_neg near]
  simp only [noReference]

end Equations

/-- Asking afresh depends on no answers but those to what is asked. -/
theorem afresh_congr {answer answer' : String → Except Failure Value} {workdir : Place} (document : String)
    (followed : List String) (steps : Nat) (around : List Value) (v : Value)
    (same : ∀ key ∈ (afresh answer workdir document followed steps around v).asked, answer' key = answer key) :
    afresh answer' workdir document followed steps around v =
      afresh answer workdir document followed steps around v := by
  induction document, followed, steps, around, v using afresh.induct workdir with
  | case1 document followed steps around v far => rw [afresh_of_far far, afresh_of_far far]
  | case2 document followed steps around v near reference isReference unnamed =>
      rw [afresh_of_unnamed near isReference unnamed, afresh_of_unnamed near isReference unnamed]
  | case3 document followed steps around v near reference isReference target named before =>
      rw [afresh_of_named near isReference named, afresh_of_named near isReference named, if_pos before,
        if_pos before]
  | case4 document followed steps around v near reference isReference target named fresh ih =>
      rw [afresh_of_named near isReference named, if_neg fresh] at same ⊢
      rw [afresh_of_named near isReference named, if_neg fresh]
      -- The document is asked for here, and what is asked for below is asked for as well.
      have sameAnswer : ask answer' reference target.document = ask answer reference target.document := by
        have here := same target.document (Asking.asked_andThen_left _ _ List.mem_cons_self)
        rw [ask, ask, here]
      rw [sameAnswer]
      refine Asking.andThen_congr fun whole isOk => ?_
      have below := fun key inside => same key (Asking.asked_andThen_right isOk _ inside)
      cases reached : Pointer.follow whole target.pointer with
      | error problem => rfl
      | ok part =>
          simp only [reached] at below
          exact ih part below
  | case5 document followed steps around near kind up => rw [afresh_of_again near, afresh_of_again near]
  | case6 document followed steps around near first second => rw [afresh_of_pair near, afresh_of_pair near]
  | case7 document followed steps around near v notAgain notPair noReference ih =>
      rw [afresh_of_parts near noReference notAgain notPair] at same ⊢
      rw [afresh_of_parts near noReference notAgain notPair]
      exact congrArg (Asking.map v.withParts) (Asking.each_congr ih same)

/-! The shelf -/

variable {b : Bundle} {α β : Type}

/-- A shelf that holds the root and what the library was asked for, each asked for once. -/
structure Shelf.Settled (shelf : Shelf b) : Prop where
  once : shelf.requests.Nodup
  held : ∀ key, (∃ document, (key, document) ∈ shelf.documents) ↔ key = b.rootKey ∨ key ∈ shelf.requests

/--
Whether an outcome with a shelf is that of asking afresh each time, where the library was asked for what that asks
for and the shelf did not have.
-/
structure Follows (before : Shelf b) (outcome : Except Failure α × Shelf b) (alone : Asking α) : Prop where
  result : outcome.1 = alone.result
  once : outcome.2.requests.Nodup
  requests : ∀ key, key ∈ outcome.2.requests ↔ key ∈ before.requests ∨ key ∈ alone.asked ∧ key ≠ b.rootKey
  settled : ∀ a, outcome.1 = .ok a → outcome.2.Settled

theorem Shelf.Settled.not_mem_of_unknown {shelf : Shelf b} (settled : shelf.Settled) {key : String}
    (unknown : shelf.documents.find? (fun e => e.1 == key) = none) : key ≠ b.rootKey ∧ key ∉ shelf.requests := by
  refine not_or.1 fun held => ?_
  obtain ⟨document, inside⟩ := (settled.held key).2 held
  exact List.find?_eq_none.1 unknown (key, document) inside (beq_self_eq_true key)

theorem Shelf.settled_start (b : Bundle) : (Shelf.start b).Settled where
  once := List.nodup_nil
  held := fun key => by simp [Shelf.start]

namespace Follows

variable {shelf middle after : Shelf b} {alone : Asking α} {failure : Failure}

theorem giving (settled : shelf.Settled) (a : α) : Follows shelf (.ok a, shelf) (.giving a) where
  result := rfl
  once := settled.once
  requests := fun key => by simp [Asking.giving]
  settled := fun _ _ => settled

theorem failing (settled : shelf.Settled) (failure : Failure) :
    Follows (α := α) shelf (.error failure, shelf) (.failing failure) where
  result := rfl
  once := settled.once
  requests := fun key => by simp [Asking.failing]
  settled := fun _ impossible => by cases impossible

theorem map (f : α → β) {outcome : Except Failure α × Shelf b} (follows : Follows shelf outcome alone) :
    Follows shelf (Except.map f outcome.1, outcome.2) (alone.map f) where
  result := congrArg (Except.map f) follows.result
  once := follows.once
  requests := follows.requests
  settled := fun out isOk => by
    cases result : outcome.1 with
    | ok a => exact follows.settled a result
    | error failure => rw [result] at isOk; cases isOk

theorem andThen_error (follows : Follows shelf (.error failure, after) alone) (next : α → Asking β) :
    Follows shelf (.error failure, after) (alone.andThen next) := by
  rw [Asking.andThen_of_error follows.result.symm]
  exact ⟨rfl, follows.once, follows.requests, fun _ impossible => by cases impossible⟩

theorem andThen_ok {a : α} (first : Follows shelf (.ok a, middle) alone) {next : α → Asking β}
    {outcome : Except Failure β × Shelf b} (rest : Follows middle outcome (next a)) :
    Follows shelf outcome (alone.andThen next) := by
  rw [Asking.andThen_of_ok first.result.symm]
  refine ⟨rest.result, rest.once, fun key => ?_, rest.settled⟩
  have early := first.requests key
  have late := rest.requests key
  dsimp only at early ⊢
  rw [late, early, List.mem_append, or_and_right, or_assoc]

end Follows

/-- A key that was met is answered from the shelf. Any other goes to the library, and its document onto the shelf. -/
theorem fetch_cases {shelf : Shelf b} (settled : shelf.Settled) (reference key : String) :
    ((key = b.rootKey ∨ key ∈ shelf.requests) ∧ (fetch b reference key shelf).2 = shelf) ∨
    ((key ≠ b.rootKey ∧ key ∉ shelf.requests) ∧
      (fetch b reference key shelf).2.requests = key :: shelf.requests ∧
      ∀ whole, (fetch b reference key shelf).1 = .ok whole →
        (fetch b reference key shelf).2.documents = (key, whole.1) :: shelf.documents) := by
  unfold fetch
  split
  · next entry known => exact .inl ⟨(settled.held key).1 ⟨entry.2, mem_of_find known⟩, rfl⟩
  · next unknown =>
      refine .inr ⟨settled.not_mem_of_unknown unknown, ?_⟩
      split
      · exact ⟨rfl, fun _ impossible => by cases impossible⟩
      · exact ⟨rfl, fun _ isOk => by cases isOk; rfl⟩

theorem result_of_fetch (shelf : Shelf b) (reference key : String) :
    Except.map Subtype.val (fetch b reference key shelf).1 = (ask b.answer reference key).result := by
  cases answered : b.answer key with
  | ok document =>
      obtain ⟨after, fetched⟩ := fetch_of_holds answered reference shelf
      simp only [fetched, ask, answered, Except.map, Except.mapError]
  | error failure =>
      obtain ⟨after, fetched⟩ := fetch_of_missing answered reference shelf
      simp only [fetched, ask, answered, Except.map, Except.mapError]

theorem follows_fetch {shelf : Shelf b} (settled : shelf.Settled) (reference key : String) :
    Follows shelf
      (Except.map Subtype.val (fetch b reference key shelf).1, (fetch b reference key shelf).2)
      (ask b.answer reference key) := by
  have result := result_of_fetch shelf reference key
  rcases fetch_cases settled reference key with ⟨met, same⟩ | ⟨⟨other, new⟩, requests, documents⟩
  · rw [same]
    refine ⟨result, settled.once, fun k => ⟨.inl, ?_⟩, fun _ _ => settled⟩
    rintro (before | ⟨asked, other⟩)
    · exact before
    · rw [List.mem_singleton.1 asked] at other ⊢
      exact met.resolve_left other
  · have once : (fetch b reference key shelf).2.requests.Nodup :=
      requests ▸ List.nodup_cons.2 ⟨new, settled.once⟩
    refine ⟨result, once, fun k => ?_, fun document isOk => ⟨once, fun k => ?_⟩⟩
    · rw [requests, ask, List.mem_cons, List.mem_singleton, or_comm]
      exact or_congr_right ⟨fun same => ⟨same, same ▸ other⟩, And.left⟩
    · cases fetched : (fetch b reference key shelf).1 with
      | error failure =>
          rw [fetched] at isOk
          cases isOk
      | ok whole =>
          rw [requests, documents whole fetched]
          simp only [List.mem_cons, Prod.mk.injEq, exists_or, exists_and_left, exists_eq, and_true]
          rw [settled.held k, or_left_comm]

theorem follows_items {document : String} {followed : List String} {steps : Nat} {around : List Value}
    {alone : Value → Asking Value}
    (each : ∀ v (known : b.Known document v) (shelf : Shelf b), shelf.Settled →
      Follows shelf (inline b document followed steps around v known shelf) (alone v))
    (items : List Value) (known : b.Known document (.list items)) (shelf : Shelf b) (settled : shelf.Settled) :
    Follows shelf (inlineItems b document followed steps around items known shelf) (Asking.each alone items) := by
  induction items generalizing shelf with
  | nil =>
      rw [inlineItems.eq_def]
      exact .giving settled []
  | cons v rest ih =>
      rw [inlineItems.eq_def]
      have first := each v (Known.item known).1 shelf settled
      dsimp only
      split
      · next failure after here =>
          rw [here] at first
          exact first.andThen_error _
      · next out middle here =>
          rw [here] at first
          have later := (ih (Known.item known).2 middle (first.settled out rfl)).map (out :: ·)
          refine first.andThen_ok ?_
          revert later
          rcases inlineItems b document followed steps around rest (Known.item known).2 middle with
            ⟨failure | outs, after⟩
          · exact id
          · exact id

/-- Bundling a value asks for the same documents as asking afresh each time, and yields the same. -/
theorem follows_inline (document : String) (followed : List String) (steps : Nat) (around : List Value)
    (v : Value) (known : b.Known document v) (shelf : Shelf b) (settled : shelf.Settled) :
    Follows shelf (inline b document followed steps around v known shelf)
      (afresh b.answer b.workdir document followed steps around v) := by
  -- The calls are those of the bundler without a shelf. Each starts from what the one before left on the shelf.
  induction document, followed, steps, around, v using afresh.induct b.workdir generalizing shelf with
  | case1 document followed steps around v far =>
      rw [inline_of_far known shelf far, afresh_of_far far]
      exact .failing settled _
  | case2 document followed steps around v near reference isReference unnamed =>
      rw [inline_of_unnamed known shelf near isReference unnamed, afresh_of_unnamed near isReference unnamed]
      exact .failing settled _
  | case3 document followed steps around v near reference isReference target named before =>
      rw [inline_of_named known shelf near isReference named, if_pos before,
        afresh_of_named near isReference named, if_pos before]
      exact .giving settled _
  | case4 document followed steps around v near reference isReference target named fresh ih =>
      rw [inline_of_named known shelf near isReference named, if_neg fresh,
        afresh_of_named near isReference named, if_neg fresh]
      -- A failed request leaves a shelf that is not settled, but then nothing else is asked for.
      have asked := follows_fetch settled reference target.document
      revert asked
      rcases fetch b reference target.document shelf with ⟨failure | ⟨whole, held⟩, middle⟩
      · exact fun asked => asked.andThen_error _
      · intro asked
        have settled : middle.Settled := asked.settled whole rfl
        refine asked.andThen_ok ?_
        dsimp only
        split
        · next missed =>
            simp only [missed]
            exact .failing settled _
        · next found =>
            simp only [found]
            exact ih _ _ middle settled
  | case5 document followed steps around near kind up =>
      rw [inline_of_again shelf near known, afresh_of_again near]
      exact .failing settled _
  | case6 document followed steps around near first second =>
      rw [inline_of_pair shelf near known, afresh_of_pair near]
      exact .giving settled _
  | case7 document followed steps around near v notAgain notPair noReference ih =>
      rw [inline_of_parts known shelf near noReference notAgain notPair,
        afresh_of_parts near noReference notAgain notPair]
      exact (follows_items ih v.parts known.parts shelf settled).map v.withParts

end Bundle

/-- The document of a key, from a loader, but the root from memory. -/
def loadedBeside (rootKey : String) (root : Value) (load : String → Except Failure Value) (key : String) :
    Except Failure Value :=
  if key = rootKey then .ok root else load key

/-- A document bundled with the documents asked for at every reference that is followed. -/
def bundleAfresh (load : String → Except Failure Value) (workdir : Place) (document : Value)
    (source : Option String) : Asking Value :=
  match Reference.documentKey? workdir source with
  | none => .failing .unexpected
  | some rootKey =>
      if Bundle.maxDepth < document.depth then .failing .unexpected
      else Bundle.afresh (loadedBeside rootKey document load) workdir rootKey [] 0 [] document

/-- The keys that a library is asked for when a document is bundled, last first. -/
def bundleRequests (library : Library) (workdir : Place) (document : Value) (source : Option String) : List String :=
  match Reference.documentKey? workdir source with
  | none => []
  | some rootKey =>
      if Bundle.maxDepth < document.depth then []
      else (Bundle.mk library workdir rootKey document).trace.2.requests

namespace Library

/-- Whether a library answers like a loader for every document but the root that bundling comes to. -/
def StandsFor (library : Library) (load : String → Except Failure Value) (workdir : Place) (document : Value)
    (source : Option String) : Prop :=
  ∀ key ∈ (bundleAfresh load workdir document source).asked,
    Reference.documentKey? workdir source ≠ some key → library.answer key = load key

/-- A library that answers like a loader for these keys only. -/
def within (keys : List String) (load : String → Except Failure Value) : Library where
  keys := keys
  answer key := if key ∈ keys then load key else .error .unexpected
  closed := fun found => by
    split at found
    · assumption
    · cases found

theorem within_standsFor (load : String → Except Failure Value) (workdir : Place) (document : Value)
    (source : Option String) :
    (within (bundleAfresh load workdir document source).asked load).StandsFor load workdir document source :=
  fun _ asked _ => if_pos asked

end Library

section Once

variable {library : Library} {workdir : Place} {document : Value} {source : Option String}
  {load : String → Except Failure Value}

/-- With a library in place of the loader, bundling asks once for what it would else ask for at each reference. -/
private theorem bundle_of_standsFor (agree : library.StandsFor load workdir document source) :
    (bundleRequests library workdir document source).Nodup ∧
    (∀ key, key ∈ bundleRequests library workdir document source ↔
      key ∈ (bundleAfresh load workdir document source).asked ∧ Reference.documentKey? workdir source ≠ some key) ∧
    bundleIn library workdir document source = (bundleAfresh load workdir document source).result := by
  rw [Library.StandsFor, bundleAfresh] at agree
  rw [bundleRequests, bundleAfresh, bundleIn]
  cases keyed : Reference.documentKey? workdir source with
  | none => simp [Asking.failing]
  | some rootKey =>
      rw [keyed] at agree
      by_cases deep : Bundle.maxDepth < document.depth
      · simp [deep, Asking.failing, Bundle.run]
      · simp only [if_neg deep, Bundle.run] at agree ⊢
        let b : Bundle := ⟨library, workdir, rootKey, document⟩
        have same : Bundle.afresh b.answer workdir rootKey [] 0 [] document =
            Bundle.afresh (loadedBeside rootKey document load) workdir rootKey [] 0 [] document := by
          refine Bundle.afresh_congr rootKey [] 0 [] document fun key asked => ?_
          by_cases isRoot : key = rootKey
          · rw [Bundle.answer, loadedBeside, if_pos isRoot, if_pos isRoot]
          · rw [Bundle.answer, loadedBeside, if_neg isRoot, if_neg isRoot]
            exact agree key asked fun same => isRoot (Option.some.inj same).symm
        have follows := Bundle.follows_inline rootKey [] 0 [] document (Bundle.Known.of_holds b.holds_root)
          (Bundle.Shelf.start b) (Bundle.Shelf.settled_start b)
        rw [same] at follows
        refine ⟨follows.once, fun key => (follows.requests key).trans ?_, follows.result⟩
        simp [Bundle.Shelf.start, b, eq_comm]

/-- A reference of a file in an actual place leads to the root exactly when it leads to the place of the root. -/
private theorem document_eq_root_iff {path reference : String} {holder : Place}
    (workdirActual : workdir.IsActual) (isFile : IsFile path) (given : path ≠ "-")
    (actual : holder.IsActual) (names : IsFile (Reference.locationOf reference))
    (some : Reference.locationOf reference ≠ "") :
    (Reference.target? workdir (Path.placeText holder) reference).map Target.document =
        Reference.documentKey? workdir (.some path) ↔
      (Path.ofText (Reference.locationOf reference)).resolve holder.dropLast = (Path.ofText path).resolve workdir := by
  rw [Reference.document_of_target, Reference.locate_of_file actual names some,
    Reference.documentKey_of_file isFile given, Option.some_inj]
  exact Path.placeText_inj (Path.actual_resolve_ofText actual.dropLast names.1)
    (Path.actual_resolve_ofText workdirActual isFile.1)

end Once

/--
The shelf is transparent, and what is on it is asked for once: bundling yields what it yields when the loader
is called at every reference that is followed, and calls it once for each document of these, but never for
the root. The key of a file is the path of its place, however the file is spelled.
-/
theorem bundle_asks_once (workdir : Place) (document : Value) (source : Option String)
    (load : String → Except Failure Value) :
    (∃ library : Library, library.StandsFor load workdir document source) ∧
    (∀ library : Library, library.StandsFor load workdir document source →
      (bundleRequests library workdir document source).Nodup ∧
      (∀ key, key ∈ bundleRequests library workdir document source ↔
        key ∈ (bundleAfresh load workdir document source).asked ∧ Reference.documentKey? workdir source ≠ some key) ∧
      bundleIn library workdir document source = (bundleAfresh load workdir document source).result) ∧
    ∀ path, source = some path → IsFile path → path ≠ "-" → workdir.IsActual →
      let rootPlace := (Path.ofText path).resolve workdir
      rootPlace.IsActual ∧ Reference.documentKey? workdir source = some (Path.placeText rootPlace) ∧
      ∀ (holder : Place) (reference : String), holder.IsActual → IsFile (Reference.locationOf reference) →
        Reference.locationOf reference ≠ "" →
        let place := (Path.ofText (Reference.locationOf reference)).resolve holder.dropLast
        let document? := (Reference.target? workdir (Path.placeText holder) reference).map Target.document
        place.IsActual ∧ document? = some (Path.placeText place) ∧
        (document? = Reference.documentKey? workdir source ↔ place = rootPlace) := by
  refine ⟨⟨_, Library.within_standsFor load workdir document source⟩,
    fun library agree => bundle_of_standsFor agree, ?_⟩
  rintro path rfl isFile given workdirActual
  refine ⟨Path.actual_resolve_ofText workdirActual isFile.1, Reference.documentKey_of_file isFile given, ?_⟩
  intro holder reference actual names some
  refine ⟨Path.actual_resolve_ofText actual.dropLast names.1, ?_,
    document_eq_root_iff workdirActual isFile given actual names some⟩
  rw [Reference.document_of_target, Reference.locate_of_file actual names some]

/-- A description with a part in another file that refers back to it. -/
def scattered : Value :=
  .record [("a", Reference.value "./parts.yaml#/x"), ("b", Reference.value "parts.yaml#/x"), ("d", .int 1)]

/-- A loader that has one file. -/
def loadParts (key : String) : Except Failure Value :=
  if key = "/work/api/parts.yaml" then .ok (.record [("x", Reference.value "../api/./openapi.yaml#/d")])
  else .error (.spec (.source (.missing key)))

private def partsOnly : Library := .within ["/work/api/parts.yaml"] loadParts

private def roundaboutSource : Option String := some "api/../api//openapi.yaml"

theorem scattered_asks_once :
    partsOnly.StandsFor loadParts ["work"] scattered roundaboutSource ∧
    (bundleAfresh loadParts ["work"] scattered roundaboutSource).asked =
      ["/work/api/parts.yaml", "/work/api/openapi.yaml", "/work/api/parts.yaml", "/work/api/openapi.yaml"] ∧
    bundleRequests partsOnly ["work"] scattered roundaboutSource = ["/work/api/parts.yaml"] ∧
    bundleIn partsOnly ["work"] scattered roundaboutSource =
      .ok (.record [("a", .int 1), ("b", .int 1), ("d", .int 1)]) ∧
    (Reference.target? ["work"] "/work/api/parts.yaml" "../api/./openapi.yaml#/d").map Target.document =
      Reference.documentKey? ["work"] roundaboutSource := by
  obtain ⟨-, always, keys⟩ := bundle_asks_once ["work"] scattered roundaboutSource loadParts
  have rootKey : Reference.documentKey? ["work"] roundaboutSource = some "/work/api/openapi.yaml" := by
    decide +kernel
  have asked : (bundleAfresh loadParts ["work"] scattered roundaboutSource).asked =
      ["/work/api/parts.yaml", "/work/api/openapi.yaml", "/work/api/parts.yaml", "/work/api/openapi.yaml"] := by
    decide +kernel
  have only (key : String) : (key ∈ ["/work/api/parts.yaml", "/work/api/openapi.yaml", "/work/api/parts.yaml",
      "/work/api/openapi.yaml"] ∧ some "/work/api/openapi.yaml" ≠ some key) ↔ key = "/work/api/parts.yaml" := by
    constructor
    · rintro ⟨inside, other⟩
      simp only [List.mem_cons, List.not_mem_nil, or_false] at inside
      rcases inside with same | rfl | same | rfl
      · exact same
      · exact absurd rfl other
      · exact same
      · exact absurd rfl other
    · rintro rfl
      decide
  have agree : partsOnly.StandsFor loadParts ["work"] scattered roundaboutSource := by
    intro key inside other
    rw [asked] at inside
    rw [rootKey] at other
    rw [(only key).1 ⟨inside, other⟩]
    rfl
  obtain ⟨once, requests, same⟩ := always partsOnly agree
  obtain ⟨-, -, spelled⟩ := keys _ rfl (by decide) (by decide) (by decide)
  refine ⟨agree, asked, ?_, same.trans (by with_unfolding_all rfl), ?_⟩
  · refine List.perm_singleton.1 ((List.perm_ext_iff_of_nodup once (by decide)).2 fun key => ?_)
    rw [requests, asked, rootKey, only, List.mem_singleton]
  · exact (spelled ["work", "api", "parts.yaml"] _ (by decide) (by decide) (by decide)).2.2.2 (by decide +kernel)

end QueryHooks
