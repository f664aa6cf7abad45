import QueryHooks.Proofs.Naming.Characters

/-!
What the case tables make of the letters and digits of words. A capital is its own upper case, a letter or digit
leads to a letter or digit first, and only what is its own lower case has a lower case that starts with it.
-/

namespace QueryHooks.Naming

open QueryHooks.Text

variable {c : Char}

theorem inRanges_iff {point : Nat} {ranges : List (Nat × Nat)} :
    inRanges point ranges = true ↔ ∃ range ∈ ranges, range.1 ≤ point ∧ point ≤ range.2 := by
  induction ranges with
  | nil => simp [inRanges]
  | cons range rest ih => simp [inRanges, ih]

theorem exists_of_inRuns {point : Nat} {runs : List (Nat × Nat × Nat)} (inside : inRuns point runs = true) :
    ∃ first last step, (first, last, step) ∈ runs ∧
      first ≤ point ∧ point ≤ last ∧ (point - first) % step = 0 := by
  induction runs with
  | nil => cases inside
  | cons run rest ih =>
      obtain ⟨first, last, step⟩ := run
      rw [inRuns, Bool.or_eq_true] at inside
      rcases inside with here | later
      · simp only [Bool.and_eq_true, decide_eq_true_eq, beq_iff_eq] at here
        exact ⟨first, last, step, List.mem_cons_self, and_assoc.1 here⟩
      · obtain ⟨first, last, step, listed, covered⟩ := ih later
        exact ⟨first, last, step, List.mem_cons_of_mem _ listed, covered⟩

/-! ## Tables in slices -/

/-- A table cut into slices of so many entries, so that a search can pass over a slice at once. -/
def slices {α : Type} (size : Nat) : Nat → List α → List (List α)
  | 0, table => [table]
  | count + 1, table => table.take size :: slices size count (table.drop size)

theorem mem_slices_iff {α : Type} (size count : Nat) {table : List α} {entry : α} :
    (∃ slice ∈ slices size count table, entry ∈ slice) ↔ entry ∈ table := by
  induction count generalizing table with
  | zero => simp [slices]
  | succ count ih =>
      simp only [slices, List.mem_cons, exists_eq_or_imp, ih]
      rw [← List.mem_append, List.take_append_drop]

/-- Whether all points from one to another lie in one range of a table, as a search slice by slice finds it. -/
def spans (ranges : List (Nat × Nat)) (low high : Nat) : Bool :=
  (slices 24 26 ranges).any fun slice =>
    (slice.getLast?.any fun range => Nat.ble high range.2) &&
      slice.any fun range => Nat.ble range.1 low && Nat.ble high range.2

theorem inRanges_of_spans {ranges : List (Nat × Nat)} {low high point : Nat} (spans : spans ranges low high = true)
    (above : low ≤ point) (below : point ≤ high) : inRanges point ranges = true := by
  simp only [Naming.spans, List.any_eq_true, Bool.and_eq_true, Nat.ble_eq] at spans
  obtain ⟨slice, isSlice, -, range, listed, start, stop⟩ := spans
  exact inRanges_iff.2 ⟨range, (mem_slices_iff _ _).1 ⟨slice, isSlice, listed⟩, by omega, by omega⟩

/-! ## Capitals -/

/-- Whether all points of a run are even or all are odd. -/
private def keepsParity (first last step : Nat) : Bool := step % 2 == 0 || first == last

/-- Whether two runs have no point in common: they lie apart, or one has even points and the other odd ones. -/
private def areApart : Nat × Nat × Nat × Int → Nat × Nat × Nat → Bool
  | (first, last, step, _), (first', last', step') =>
      Nat.blt last first' || Nat.blt last' first ||
        (keepsParity first last step && keepsParity first' last' step' && first % 2 != first' % 2)

private theorem parity_of_keepsParity {point first last step : Nat} (kept : keepsParity first last step = true)
    (covered : first ≤ point ∧ point ≤ last ∧ (point - first) % step = 0) : point % 2 = first % 2 := by
  rw [keepsParity, Bool.or_eq_true, beq_iff_eq, beq_iff_eq] at kept
  rcases kept with even | alone
  · have twice : 2 ∣ point - first :=
      Nat.dvd_trans (Nat.dvd_of_mod_eq_zero even) (Nat.dvd_of_mod_eq_zero covered.2.2)
    omega
  · omega

/-- Whether the runs of a slice lie between the first and the last one. -/
private def isOrdered (slice : List (Nat × Nat × Nat)) : Bool :=
  slice.all fun run =>
    (slice.head?.any fun first => Nat.ble first.1 run.1) && slice.getLast?.any fun last => Nat.ble run.2.1 last.2.1

/-- Whether a run has no point in common with those of a slice: it lies apart from all of them, or from each. -/
private def isApartFrom (run : Nat × Nat × Nat × Int) (slice : List (Nat × Nat × Nat)) : Bool :=
  (slice.head?.any fun first => Nat.blt run.2.1 first.1) || (slice.getLast?.any fun last => Nat.blt last.2.1 run.1) ||
    slice.all (areApart run)

/-- Whether no capital is in a run. -/
private def hasNoCapital (run : Nat × Nat × Nat × Int) : Bool :=
  (slices 12 13 Table.uppers).all (isApartFrom run)

private theorem not_upper_of_hasNoCapital {point first last step : Nat} {shift : Int}
    (checked : hasNoCapital (first, last, step, shift) = true)
    (covered : first ≤ point ∧ point ≤ last ∧ (point - first) % step = 0) : inRuns point Table.uppers = false := by
  refine Bool.eq_false_iff.2 fun upper => ?_
  obtain ⟨first', last', step', listed, covered'⟩ := exists_of_inRuns upper
  obtain ⟨slice, isSlice, inside⟩ := (mem_slices_iff 12 13).2 listed
  have ordered : (slices 12 13 Table.uppers).all isOrdered = true := by decide +kernel
  have between := List.all_eq_true.1 (List.all_eq_true.1 ordered slice isSlice) _ inside
  have apart := List.all_eq_true.1 checked slice isSlice
  simp only [Bool.and_eq_true, Option.any_eq_true, Nat.ble_eq] at between
  obtain ⟨⟨least, isLeast, low⟩, greatest, isGreatest, high⟩ := between
  simp only [isApartFrom, isLeast, isGreatest, Option.any_some, Bool.or_eq_true, Nat.blt_eq] at apart
  rcases apart with (below | above) | each
  · omega
  · omega
  · have pair := List.all_eq_true.1 each _ inside
    simp only [areApart, Bool.or_eq_true, Bool.and_eq_true, Nat.blt_eq, bne_iff_ne] at pair
    rcases pair with (below | above) | ⟨⟨kept, kept'⟩, differ⟩
    · omega
    · omega
    · exact absurd ((parity_of_keepsParity kept covered).symm.trans (parity_of_keepsParity kept' covered')) differ

/-- No capital is moved by the table of upper case, or spelled out by it. -/
theorem upperOf_of_isUpper (upper : isUpper c = true) : upperOf c = [c] := by
  cases ascii : isAscii c with
  | true =>
      revert upper
      exact forall_ascii (P := fun c => isUpper c = true → upperOf c = [c]) (by decide) ascii
  | false =>
      rw [isUpper, ascii, if_neg (by decide)] at upper
      have whole := mapped_upperOf ascii
      generalize upperOf c = chars at whole
      cases whole with
      | moved listed covered =>
          have checked : Table.toUpperRuns.all hasNoCapital = true := by decide +kernel
          rw [not_upper_of_hasNoCapital (List.all_eq_true.1 checked _ listed) covered] at upper
          cases upper
      | expanded listed =>
          have checked : (Table.toUpperExpansions.all fun e => hasNoCapital (e.1, e.1, 1, 0)) = true := by
            decide +kernel
          rw [not_upper_of_hasNoCapital (List.all_eq_true.1 checked _ listed) (by omega)] at upper
          cases upper
      | kept => rfl

/-! ## Letters and digits lead to letters and digits -/

/-- A point among the letters is a character, and one of them. -/
theorem toNat_ofNat_of_letter {point : Nat} (letter : inRanges point Table.letters = true) :
    (Char.ofNat point).toNat = point ∧ isAscii (Char.ofNat point) = false := by
  have checked : ∀ range ∈ Table.letters,
      128 ≤ range.1 ∧ (range.2 < 0xD800 ∨ 0xE000 ≤ range.1 ∧ range.2 < 0x110000) := by decide +kernel
  obtain ⟨range, listed, low, high⟩ := inRanges_iff.1 letter
  have bounds := checked range listed
  have isChar : point.isValidChar := by
    rw [Nat.isValidChar]
    omega
  have same : (Char.ofNat point).toNat = point := by
    rw [Char.ofNat, dif_pos isChar]
    rfl
  refine ⟨same, ?_⟩
  rw [isAscii, same]
  exact decide_eq_false (by omega)

private theorem isWordChar_ofNat {point : Nat} (letter : inRanges point Table.letters = true) :
    isWordChar (Char.ofNat point) = true := by
  obtain ⟨same, other⟩ := toNat_ofNat_of_letter letter
  rw [isWordChar, isLetter, other, if_neg (by decide), same, letter]
  rfl

/--
Whether a run leads to characters of a class: it leads into one of the ranges, is of no letters and digits, or leads to
such characters point by point.
-/
def leadsTo (ranges : List (Nat × Nat)) (inClass : Char → Bool) : Nat × Nat × Nat × Int → Bool
  | (first, last, step, shift) =>
      spans ranges (first + shift).toNat (last + shift).toNat ||
      ((Table.letters ++ Table.digits).all fun range => Nat.blt last range.1 || Nat.blt range.2 first) ||
      (List.range (last - first + 1)).all fun i =>
        i % step != 0 || inClass (Char.ofNat ((first + i : Nat) + shift).toNat)

theorem of_leadsTo {ranges : List (Nat × Nat)} {inClass : Char → Bool} {first last step : Nat} {shift : Int}
    (within : ∀ point, inRanges point ranges = true → inClass (Char.ofNat point) = true)
    (leads : leadsTo ranges inClass (first, last, step, shift) = true) (other : isAscii c = false)
    (isWord : isWordChar c = true) (covered : first ≤ c.toNat ∧ c.toNat ≤ last ∧ (c.toNat - first) % step = 0) :
    inClass (Char.ofNat (c.toNat + shift).toNat) = true := by
  simp only [leadsTo, Bool.or_eq_true, List.all_eq_true, Nat.blt_eq] at leads
  rcases leads with (inside | outside) | pointwise
  · exact within _ (inRanges_of_spans inside (by omega) (by omega))
  · rw [isWordChar, isLetter, isDigit, other, if_neg (by decide), if_neg (by decide), Bool.or_eq_true,
      inRanges_iff, inRanges_iff] at isWord
    have ⟨range, listed, low, high⟩ : ∃ range ∈ Table.letters ++ Table.digits,
        range.1 ≤ c.toNat ∧ c.toNat ≤ range.2 := by
      simpa only [List.mem_append, or_and_right, exists_or] using isWord
    have apart := outside range listed
    omega
  · have here := pointwise (c.toNat - first) (List.mem_range.2 (by omega))
    rw [Nat.add_sub_cancel' covered.1, covered.2.2] at here
    simpa using here

theorem exists_upperOf (isWord : isWordChar c = true) :
    ∃ first more, upperOf c = first :: more ∧ isWordChar first = true := by
  cases ascii : isAscii c with
  | true =>
      have single : (upperOf c).head?.any isWordChar = true := by
        revert isWord
        exact forall_ascii (P := fun c => isWordChar c = true → (upperOf c).head?.any isWordChar = true)
          (by decide) ascii
      cases whole : upperOf c with
      | nil =>
          rw [whole] at single
          cases single
      | cons first more =>
          rw [whole] at single
          exact ⟨first, more, rfl, single⟩
  | false =>
      have whole := mapped_upperOf ascii
      generalize upperOf c = chars at whole
      cases whole with
      -- A run of the table is checked once for all characters in it; an expansion is checked by its first image.
      | moved listed covered =>
          have checked : Table.toUpperRuns.all (leadsTo Table.letters isWordChar) = true := by decide +kernel
          have leads := List.all_eq_true.1 checked _ listed
          exact ⟨_, [], rfl, of_leadsTo (fun _ => isWordChar_ofNat) leads ascii isWord covered⟩
      | @expanded images listed =>
          have checked : ∀ e ∈ Table.toUpperExpansions,
              e.2.head?.any (fun image => isWordChar (Char.ofNat image)) = true := by decide +kernel
          have starts := checked _ listed
          cases images with
          | nil => cases starts
          | cons image others => exact ⟨Char.ofNat image, others.map Char.ofNat, rfl, starts⟩
      | kept => exact ⟨c, [], rfl, isWord⟩

/-- A lower case that starts with the character itself has nothing else. -/
theorem exists_lowerOf (c : Char) : ∃ first more, lowerOf c = first :: more ∧
    (isWordChar c = true → isWordChar first = true) ∧ (first = c → more = []) := by
  cases ascii : isAscii c with
  | true =>
      have single : (lowerOf c).length = 1 ∧ (isWordChar c = true → (lowerOf c).all isWordChar = true) :=
        forall_ascii (P := fun c => (lowerOf c).length = 1 ∧
          (isWordChar c = true → (lowerOf c).all isWordChar = true)) (by decide) ascii
      obtain ⟨d, only⟩ := List.length_eq_one_iff.1 single.1
      refine ⟨d, [], only, fun isWord => ?_, fun _ => rfl⟩
      simpa [only] using single.2 isWord
  | false =>
      have whole := mapped_lowerOf ascii
      generalize lowerOf c = chars at whole
      cases whole with
      | moved listed covered =>
          have checked : Table.toLowerRuns.all (leadsTo Table.letters isWordChar) = true := by decide +kernel
          have leads := List.all_eq_true.1 checked _ listed
          have keeps (isWord : isWordChar c = true) := of_leadsTo (fun _ => isWordChar_ofNat) leads ascii isWord covered
          exact ⟨_, [], rfl, keeps, fun _ => rfl⟩
      | @expanded images listed =>
          have checked : ∀ e ∈ Table.toLowerExpansions, e.2.head?.any (fun image =>
              isWordChar (Char.ofNat image) && (Char.ofNat image).toNat != e.1) = true := by decide +kernel
          have starts := checked _ listed
          cases images with
          | nil => cases starts
          | cons image others =>
              rw [List.head?_cons, Option.any_some, Bool.and_eq_true, bne_iff_ne] at starts
              exact ⟨Char.ofNat image, others.map Char.ofNat, rfl, fun _ => starts.1,
                fun same => absurd (congrArg Char.toNat same) starts.2⟩
      | kept => exact ⟨c, [], rfl, id, fun _ => rfl⟩

/-- In a text as well, only what is its own lower case comes first in its lower case. -/
theorem exists_lowerAfter (before : List Char) (c : Char) (rest : List Char) : ∃ first more,
    lowerAfter before (c :: rest) = first :: (more ++ lowerAfter (c :: before) rest) ∧
      (isWordChar c = true → isWordChar first = true) ∧ (lowerOf c = [c] → first = c) ∧
      (first = c → lowerOf c = [c] ∧ more = []) := by
  rw [lowerAfter]
  cases sigma : c == 'Σ' with
  | true =>
      obtain rfl := beq_iff_eq.1 sigma
      refine ⟨if endsWord before rest then 'ς' else 'σ', [], by simp, fun _ => ?_, ?_, fun same => ?_⟩
      · split <;> decide +kernel
      · exact fun fixed => absurd fixed (by decide +kernel)
      · split at same <;> exact absurd same (by decide)
  | false =>
      obtain ⟨first, more, whole, staysSo, single⟩ := exists_lowerOf c
      refine ⟨first, more, by simp [whole], staysSo, fun fixed => ?_, fun same => ?_⟩
      · rw [whole] at fixed
        exact (List.cons.inj fixed).1
      · rw [whole, single same, same]
        exact ⟨rfl, rfl⟩

/-! ## Blanks -/

/-- A blank is no part of a word, and starts none. -/
theorem not_word_of_isBlank (blank : isBlank c = true) :
    isWordChar c = false ∧ isUpper c = false ∧ isLower c = false := by
  obtain ⟨range, listed, low, high⟩ := inRanges_iff.1 blank
  have checked : ∀ range ∈ [(9, 13), (28, 32), (133, 133), (160, 160), (5760, 5760), (8192, 8202),
      (8232, 8233), (8239, 8239), (8287, 8287), (12288, 12288)],
      ∀ i ∈ List.range (range.2 - range.1 + 1), isWordChar (Char.ofNat (range.1 + i)) = false ∧
        isUpper (Char.ofNat (range.1 + i)) = false ∧ isLower (Char.ofNat (range.1 + i)) = false := by
    decide +kernel
  have here := checked range listed (c.toNat - range.1) (List.mem_range.2 (by omega))
  rwa [Nat.add_sub_cancel' low, Char.ofNat_toNat] at here

end QueryHooks.Naming
