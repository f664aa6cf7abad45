import QueryHooks.Text.Class
import QueryHooks.Text.Table.Mapping

/-! Upper and lower case of whole texts. Some letters become several, and a capital sigma at the end of a word becomes `ς`. -/

namespace QueryHooks.Text

private def shifted (point : Nat) : List (Nat × Nat × Nat × Int) → Option Nat
  | [] => none
  | (first, last, step, shift) :: rest =>
      if first ≤ point && point ≤ last && (point - first) % step == 0 then
        some (Int.ofNat point + shift).toNat
      else shifted point rest

private def mapped (point : Nat) (runs : List (Nat × Nat × Nat × Int)) (expansions : List (Nat × List Nat)) :
    List Char :=
  match shifted point runs with
  | some image => [Char.ofNat image]
  | none =>
      match expansions.lookup point with
      | some images => images.map Char.ofNat
      | none => [Char.ofNat point]

def upperOf (c : Char) : List Char :=
  if isAscii c then if isAsciiLower c then [Char.ofNat (c.toNat - 32)] else [c]
  else mapped c.toNat Table.toUpperRuns Table.toUpperExpansions

/-- Lower case of one character, outside its context. -/
def lowerOf (c : Char) : List Char :=
  if isAscii c then if isAsciiUpper c then [Char.ofNat (c.toNat + 32)] else [c]
  else mapped c.toNat Table.toLowerRuns Table.toLowerExpansions

/-- Characters above ASCII and its letters: all that the other case of a character can hold. -/
def isLetterOrAbove (c : Char) : Bool := !isAscii c || isAsciiUpper c || isAsciiLower c

private def keepsAbove : Nat × Nat × Nat × Int → Bool
  | (first, last, _, shift) =>
      let low := Int.ofNat first + shift
      let high := Int.ofNat last + shift
      (128 ≤ low && high < 0xD800) || (0xE000 ≤ low && high < 0x110000) ||
        (first == last && isLetterOrAbove (Char.ofNat low.toNat))

private theorem isLetterOrAbove_ofNat {point : Nat} (above : 128 ≤ point)
    (valid : point < 0xD800 ∨ 0xE000 ≤ point ∧ point < 0x110000) :
    isLetterOrAbove (Char.ofNat point) = true := by
  have isChar : point.isValidChar := by
    rw [Nat.isValidChar]
    omega
  have same : (Char.ofNat point).toNat = point := by
    rw [Char.ofNat, dif_pos isChar]
    rfl
  have notAscii : isAscii (Char.ofNat point) = false := by
    rw [isAscii, same]
    exact decide_eq_false (by omega)
  rw [isLetterOrAbove, notAscii]
  rfl

/-- What a table makes of a character: a run moves it, an entry spells it out, or it stays. -/
inductive Mapped (runs : List (Nat × Nat × Nat × Int)) (expansions : List (Nat × List Nat)) (c : Char) :
    List Char → Prop
  | moved {first last step : Nat} {shift : Int} (listed : (first, last, step, shift) ∈ runs)
      (covered : first ≤ c.toNat ∧ c.toNat ≤ last ∧ (c.toNat - first) % step = 0) :
      Mapped runs expansions c [Char.ofNat (c.toNat + shift).toNat]
  | expanded {images : List Nat} (listed : (c.toNat, images) ∈ expansions) :
      Mapped runs expansions c (images.map Char.ofNat)
  | kept : Mapped runs expansions c [c]

private theorem exists_run_of_shifted {point image : Nat} {runs : List (Nat × Nat × Nat × Int)}
    (found : shifted point runs = some image) : ∃ first last step shift, (first, last, step, shift) ∈ runs ∧
      (first ≤ point ∧ point ≤ last ∧ (point - first) % step = 0) ∧ image = (point + shift).toNat := by
  induction runs with
  | nil => cases found
  | cons run rest ih =>
      obtain ⟨first, last, step, shift⟩ := run
      rw [shifted] at found
      split at found
      · next inside =>
          simp only [Bool.and_eq_true, decide_eq_true_eq, beq_iff_eq] at inside
          exact ⟨first, last, step, shift, List.mem_cons_self, and_assoc.1 inside,
            (Option.some.inj found).symm⟩
      · obtain ⟨first, last, step, shift, listed, covered⟩ := ih found
        exact ⟨first, last, step, shift, List.mem_cons_of_mem _ listed, covered⟩

private theorem mapped_spec (c : Char) (runs : List (Nat × Nat × Nat × Int))
    (expansions : List (Nat × List Nat)) : Mapped runs expansions c (mapped c.toNat runs expansions) := by
  unfold mapped
  split
  · next image found =>
      obtain ⟨first, last, step, shift, listed, covered, rfl⟩ := exists_run_of_shifted found
      exact .moved listed covered
  · split
    · next images found =>
        obtain ⟨before, after, whole, _⟩ := List.lookup_eq_some_iff.1 found
        exact .expanded (by simp [whole])
    · rw [Char.ofNat_toNat]
      exact .kept

theorem mapped_upperOf {c : Char} (other : isAscii c = false) :
    Mapped Table.toUpperRuns Table.toUpperExpansions c (upperOf c) := by
  rw [upperOf, other, if_neg (by decide)]
  exact mapped_spec _ _ _

theorem mapped_lowerOf {c : Char} (other : isAscii c = false) :
    Mapped Table.toLowerRuns Table.toLowerExpansions c (lowerOf c) := by
  rw [lowerOf, other, if_neg (by decide)]
  exact mapped_spec _ _ _

private theorem isLetterOrAbove_of_mapped {c d : Char} {runs : List (Nat × Nat × Nat × Int)}
    {expansions : List (Nat × List Nat)} {chars : List Char} (other : isAscii c = false)
    (kept : ∀ run ∈ runs, keepsAbove run = true)
    (expanded : ∀ e ∈ expansions, ∀ image ∈ e.2, isLetterOrAbove (Char.ofNat image) = true)
    (whole : Mapped runs expansions c chars) (inside : d ∈ chars) : isLetterOrAbove d = true := by
  cases whole with
  | moved listed covered =>
      have bounds := kept _ listed
      simp only [keepsAbove, Int.ofNat_eq_natCast, Bool.or_eq_true, Bool.and_eq_true,
        decide_eq_true_eq, beq_iff_eq] at bounds
      rw [List.mem_singleton.1 inside]
      obtain (⟨low, high⟩ | ⟨low, high⟩) | ⟨alone, single⟩ := bounds
      · exact isLetterOrAbove_ofNat (by omega) (.inl (by omega))
      · exact isLetterOrAbove_ofNat (by omega) (.inr (by omega))
      · rw [Nat.le_antisymm (alone ▸ covered.2.1) covered.1]
        exact single
  | expanded listed =>
      obtain ⟨image, within, rfl⟩ := List.mem_map.1 inside
      exact expanded _ listed image within
  | kept =>
      rw [List.mem_singleton.1 inside, isLetterOrAbove, other]
      rfl

theorem isLetterOrAbove_of_mem_upperOf {c d : Char} (other : isAscii c = false) (image : d ∈ upperOf c) :
    isLetterOrAbove d = true :=
  isLetterOrAbove_of_mapped other (by decide +kernel) (by decide +kernel) (mapped_upperOf other) image

theorem isLetterOrAbove_of_mem_lowerOf {c d : Char} (other : isAscii c = false) (image : d ∈ lowerOf c) :
    isLetterOrAbove d = true :=
  isLetterOrAbove_of_mapped other (by decide +kernel) (by decide +kernel) (mapped_lowerOf other) image

/-- A capital sigma ends a word when a cased letter precedes it and none follows, ignorable characters aside. -/
def endsWord (before after : List Char) : Bool :=
  (match before.dropWhile isCaseIgnorable with
    | [] => false
    | c :: _ => isCased c) &&
  (match after.dropWhile isCaseIgnorable with
    | [] => true
    | c :: _ => !isCased c)

/-- Lower case of a text, given the characters before it, nearest first. -/
def lowerAfter (before : List Char) : List Char → List Char
  | [] => []
  | c :: rest =>
      (if c == 'Σ' then [if endsWord before rest then 'ς' else 'σ'] else lowerOf c) ++
        lowerAfter (c :: before) rest

def lower (chars : List Char) : List Char := lowerAfter [] chars

def upper (chars : List Char) : List Char := chars.flatMap upperOf

def lowerText (text : String) : String := String.ofList (lower text.toList)

end QueryHooks.Text
