import QueryHooks.Proofs.Api.Declarations
import QueryHooks.Proofs.Naming.Again
import QueryHooks.Proofs.Naming.Identifiers

/-!
The ids of operations that declare none. Such an id is a name already, and the name of the function is made of the id,
so the two are the same only as far as the name of a name is that name.
-/

namespace QueryHooks.Api

open QueryHooks.Naming

variable {op : Operation} {d : Declaration}

/-- How the function of an operation without an id is named beside the id that is made for it. -/
structure Operation.IsNamedFrom (op : Operation) (d : Declaration) : Prop where
  id : op.id = camelCase (d.method.text ++ "_" ++ d.path)
  same : functionName op = op.id ↔ isSettled none op.id.toList = true
  /-- Where the path has ASCII letters and digits only, the words of method and path tell. -/
  sameWords : (∀ c ∈ d.path.toList, isWordChar c = true → Text.isAscii c = true) →
    (functionName op = op.id ↔ runsTogether (words (d.method.text ++ "_" ++ d.path).toList).tail = false)

theorem sanitize_of_isName {text : String} (named : IsName text.toList) : sanitize text = text := by
  rw [sanitize, List.filter_eq_self.2, String.ofList_toList]
  intro c inside
  have opening : c ≠ '\x7b' := fun same => named.not_mem (by decide) (same ▸ inside)
  have closing : c ≠ '\x7d' := fun same => named.not_mem (by decide) (same ▸ inside)
  rw [Bool.and_eq_true, bne_iff_ne, bne_iff_ne]
  exact ⟨opening, closing⟩

theorem Declaration.isNamedFrom (done : d.read = .ok op)
    (undeclared : (field d.operation "operationId").isTruthy = false) : op.IsNamedFrom d := by
  have made := (Declaration.steps_of_read done).id
  rw [idOf, undeclared, if_neg (by decide), synthesizedId, sanitize_of_isName (isName_camelCase _)] at made
  have isId := (Except.ok.inj made).symm
  refine ⟨isId, camelCase_eq_self_iff op.id, fun ascii => ?_⟩
  rw [functionName, isId]
  refine camelCase_camelCase_eq_iff fun c inside isWord => ?_
  rw [String.toList_append, String.toList_append, List.mem_append] at inside
  rcases inside with method | path
  · have plain : ∀ m : Method, ∀ c ∈ m.text.toList ++ "_".toList, Text.isAscii c = true := by
      intro m
      cases m <;> decide
    exact plain d.method c method
  · exact ascii c path isWord

/--
The name of a name is that name exactly if it is settled; in ASCII, exactly if no letter alone runs into the next word.
So it is with the function of each operation that declares no id: it is named by the id exactly in these cases.
-/
theorem ids_kept_iff (text : String) :
    (camelCase (camelCase text) = camelCase text ↔ isSettled none (camelCase text).toList = true) ∧
      ((∀ c ∈ text.toList, isWordChar c = true → Text.isAscii c = true) →
        (camelCase (camelCase text) = camelCase text ↔ runsTogether (words text.toList).tail = false)) ∧
      ∀ library workdir document source model, Model.extractIn library workdir document source = .ok model →
        ∃ bundled, bundleIn library workdir document source = .ok bundled ∧
          List.Forall₂ (fun op d => (field d.operation "operationId").isTruthy = false → op.IsNamedFrom d)
            model.operations (declarations bundled) := by
  refine ⟨camelCase_eq_self_iff _, camelCase_camelCase_eq_iff, ?_⟩
  intro library workdir document source model done
  obtain ⟨bundled, isBundled, isModel⟩ := exists_of_bind done
  have reads := (operationsOf_ok (Model.operations_of_ofBundled isModel)).2
  exact ⟨bundled, isBundled, reads.imp fun _ _ read => Declaration.isNamedFrom read⟩

private def lettered : Value := .record [("paths", .record [
  ("/a/b", .record [("get", .record [])]),
  ("/pets/\x7bpetId\x7d", .record [("get", .record [])])])]

private theorem lettered_run : bundleIn (.ofDocuments []) [] lettered (some "api.json") = .ok lettered := by
  apply bundleIn_of_resolveIn lettered 30 (by decide) (by decide)
  · with_unfolding_all rfl
  · with_unfolding_all rfl

theorem lettered_ids_kept :
    camelCase (camelCase "get_/a/b") ≠ camelCase "get_/a/b" ∧
      ∃ model lone other, Model.extractIn (.ofDocuments []) [] lettered (some "api.json") = .ok model ∧
        model.operations = [lone, other] ∧ lone.id = "getAB" ∧ functionName lone ≠ lone.id ∧
        other.id = "getPetsPetId" ∧ functionName other = other.id := by
  obtain ⟨-, again, named⟩ := ids_kept_iff "get_/a/b"
  refine ⟨fun kept => absurd ((again (by decide)).1 kept) (by decide), ?_⟩
  obtain ⟨model, isModel⟩ : ∃ model, Model.ofBundled lettered = .ok model := ⟨_, rfl⟩
  have done : Model.extractIn (.ofDocuments []) [] lettered (some "api.json") = .ok model := by
    unfold Model.extractIn
    rw [lettered_run]
    exact isModel
  obtain ⟨bundled, isBundled, named⟩ := named _ _ _ _ _ done
  cases Except.ok.inj (lettered_run.symm.trans isBundled)
  have declared : declarations lettered = [⟨"/a/b", .record [("get", .record [])], .get⟩,
      ⟨"/pets/\x7bpetId\x7d", .record [("get", .record [])], .get⟩] := by with_unfolding_all rfl
  rw [declared] at named
  obtain ⟨lone, others, first, rest, whole⟩ := List.forall₂_cons_right_iff.1 named
  obtain ⟨other, none, second, last, rfl⟩ := List.forall₂_cons_right_iff.1 rest
  obtain rfl := List.forall₂_nil_right_iff.1 last
  have isLone := first rfl
  have isOther := second rfl
  refine ⟨model, lone, other, done, whole, isLone.id.trans (by decide), fun same => ?_,
    isOther.id.trans (by decide), (isOther.sameWords (by decide)).2 (by decide)⟩
  exact absurd ((isLone.sameWords (by decide)).1 same) (by decide)

end QueryHooks.Api

/-!
The names that generated files have for the tags and operations of a model, as identifiers. Tags and ids are any text,
so a name is an identifier only as far as the letters and digits of its text are those of identifiers: a digit can come
first, and some letters and digits can stand in no identifier at all.
-/

namespace QueryHooks.Api

open QueryHooks.Naming
open QueryHooks.TypeScript (isIdStart isIdContinue isIdentifierName isIdContinue_of_isIdStart reservedWords)

variable {op : Operation} {d : Declaration}

/-- Which names of an operation are identifiers, by the letters and digits of its tag and its id. -/
structure Operation.IsNamedBy (op : Operation) : Prop where
  tag : isIdentifierName (tagKey op.tag).toList = true ↔ startsName op.tag = true ∧ fitsName op.tag = true
  function : isIdentifierName (functionName op).toList = true ↔ startsName op.id = true ∧ fitsName op.id = true
  hook : isIdentifierName (hookName op).toList = true ↔ fitsName op.id = true
  paramsType : isIdentifierName (paramsTypeName op).toList = true ↔
    (letters op.id = [] ∨ startsName op.id = true) ∧ fitsName op.id = true
  declarable : hookName op ∉ reservedWords ∧ paramsTypeName op ∉ reservedWords

/-- The names of an operation that declares no tags, or no id. -/
structure Operation.IsNamedWithout (op : Operation) (d : Declaration) : Prop where
  tag : (field d.operation "tags").isTruthy = false → isIdentifierName (tagKey op.tag).toList = true
  function : (field d.operation "operationId").isTruthy = false →
    (isIdentifierName (functionName op).toList = true ↔ fitsName d.path = true)

theorem Operation.isNamedBy (op : Operation) : op.IsNamedBy where
  tag := by rw [tagKey, isIdentifierName_camelCase, Bool.and_eq_true]
  function := by rw [functionName, isIdentifierName_camelCase, Bool.and_eq_true]
  hook := by rw [isIdentifierName_hookName]
  paramsType := by
    rw [isIdentifierName_paramsTypeName, Bool.and_eq_true, startsName]
    cases letters op.id <;> simp
  declarable := ⟨hookName_not_reserved op, paramsTypeName_not_reserved op⟩

theorem exists_letters_of_method (method : Method) (path : String) : ∃ c rest,
    letters (method.text ++ "_" ++ path) = c :: (rest ++ letters path) ∧ isIdStart c = true ∧
      rest.all isIdContinue = true := by
  rw [letters, String.toList_append, String.toList_append, List.filter_append, List.filter_append]
  cases method <;> exact ⟨_, _, rfl, by decide, by decide⟩

theorem Declaration.isNamedWithout (done : d.read = .ok op) : op.IsNamedWithout d where
  tag := by
    intro undeclared
    have isTag := (Declaration.steps_of_read done).tag
    rw [tagOf, undeclared, if_neg (by decide)] at isTag
    rw [← Except.ok.inj isTag]
    decide
  function := by
    intro undeclared
    obtain ⟨c, rest, whole, starts, fits⟩ := exists_letters_of_method d.method d.path
    rw [functionName, (Declaration.isNamedFrom done undeclared).id, isIdentifierName_camelCase,
      (names_of_camelCase _).1, (names_of_camelCase _).2, startsName, fitsName, fitsName, whole, List.head?_cons,
      Option.any_some, starts, Bool.true_and, List.all_cons, List.all_append, fits,
      isIdContinue_of_isIdStart starts, Bool.true_and, Bool.true_and]

/--
The names that the operations of a model have in generated files, and which of them are identifiers: that is up to the
letters and digits of tags and ids. Where no id is declared, it is up to those of the path.
-/
theorem names_are_identifiers_iff (library : Library) (workdir : Place) (document : Value) (source : Option String)
    (model : Model) (done : Model.extractIn library workdir document source = .ok model) :
    (∀ op ∈ model.operations, op.IsNamedBy) ∧
      ∃ bundled, bundleIn library workdir document source = .ok bundled ∧
        List.Forall₂ Operation.IsNamedWithout model.operations (declarations bundled) := by
  obtain ⟨bundled, isBundled, isModel⟩ := exists_of_bind done
  have reads := (operationsOf_ok (Model.operations_of_ofBundled isModel)).2
  exact ⟨fun op _ => op.isNamedBy, bundled, isBundled,
    reads.imp fun _ _ read => Declaration.isNamedWithout read⟩

private def digits : Value := .record [("paths", .record [
  ("/pets", .record [
    ("get", .record [("tags", .list [.text "2fa"]), ("operationId", .text "2fa")]),
    ("post", .record [("tags", .list [.text "pets"])])])])]

private theorem digits_run : bundleIn (.ofDocuments []) [] digits (some "api.json") = .ok digits := by
  apply bundleIn_of_resolveIn digits 30 (by decide) (by decide)
  · with_unfolding_all rfl
  · with_unfolding_all rfl

/-- A tag and an id that start with a digit have names that do so too. -/
theorem numbered_names : ∃ model digit plain,
    Model.extractIn (.ofDocuments []) [] digits (some "api.json") = .ok model ∧
      model.operations = [digit, plain] ∧
      (tagKey digit.tag = "2fa" ∧ isIdentifierName (tagKey digit.tag).toList = false) ∧
      (functionName digit = "2fa" ∧ isIdentifierName (functionName digit).toList = false) ∧
      (paramsTypeName digit = "2faParams" ∧ isIdentifierName (paramsTypeName digit).toList = false) ∧
      isIdentifierName (hookName digit).toList = true ∧
      isIdentifierName (tagKey plain.tag).toList = true ∧ isIdentifierName (functionName plain).toList = true := by
  obtain ⟨model, isModel⟩ : ∃ model, Model.ofBundled digits = .ok model := ⟨_, rfl⟩
  have done : Model.extractIn (.ofDocuments []) [] digits (some "api.json") = .ok model := by
    unfold Model.extractIn
    rw [digits_run]
    exact isModel
  obtain ⟨named, bundled, isBundled, undeclared⟩ := names_are_identifiers_iff _ _ _ _ _ done
  cases Except.ok.inj (digits_run.symm.trans isBundled)
  cases isModel
  obtain ⟨-, others⟩ := List.forall₂_cons.1 undeclared
  obtain ⟨isPlain, -⟩ := List.forall₂_cons.1 others
  have isDigit := named _ List.mem_cons_self
  refine ⟨_, _, _, done, rfl, ⟨by decide, ?_⟩, ⟨by decide, ?_⟩, ⟨by decide, ?_⟩, isDigit.hook.2 (by decide), ?_,
    (isPlain.function rfl).2 (by decide)⟩
  · exact Bool.eq_false_iff.2 fun is => absurd (isDigit.tag.1 is) (by decide)
  · exact Bool.eq_false_iff.2 fun is => absurd (isDigit.function.1 is) (by decide)
  · exact Bool.eq_false_iff.2 fun is => absurd (isDigit.paramsType.1 is) (by decide)
  · exact (named _ (List.mem_cons_of_mem _ List.mem_cons_self)).tag.2 (by decide)

end QueryHooks.Api
