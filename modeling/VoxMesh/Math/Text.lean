import Mathlib.Data.List.Induction
import Mathlib.Tactic.Common

/-! # Strings as lists of characters

`find` and `rfind` give the first and the last position of a character, and `substr` cuts a piece out. A text is cut
at its first occurrence of a character exactly if the character is not in what comes before it, and likewise for the
last one.

A decimal numeral has digits and no zero in front of others. Numerals and numbers determine each other: printing a
number gives the one numeral that it is the value of (`toDigits_ofDigitChars`).

A place marker is a percent sign with a number of one or two digits. `arg` puts a value in the place of all markers with
the lowest number, wherever they came from: a value put in before may have brought markers of its own.
-/

namespace Text

section Search

variable {α : Type*} {c : α} {text before after : List α} {position : ℕ}

/-- The piece of the given length that starts at the position, or what there is of it. -/
def substr (text : List α) (position count : ℕ) : List α := (text.drop position).take count

theorem substr_before : substr (before ++ after) 0 before.length = before := by
  rw [substr, List.drop_zero, List.take_left]

theorem drop_after : (before ++ c :: after).drop (before.length + 1) = after := by
  rw [← List.drop_drop, List.drop_left, List.drop_one, List.tail_cons]

theorem substr_between {between : List α} :
    substr (before ++ c :: (between ++ after)) (before.length + 1) between.length = between := by
  rw [substr, drop_after, List.take_left]

theorem drop_between {between : List α} {d : α} :
    (before ++ c :: (between ++ d :: after)).drop (before.length + 1 + between.length + 1) = after := by
  rw [Nat.add_assoc, ← List.drop_drop, drop_after, drop_after]

variable [DecidableEq α]

/-- The position of the first occurrence. -/
def find (c : α) (text : List α) : Option ℕ := text.idxOf? c

/-- The position of the last occurrence. -/
def rfind (c : α) (text : List α) : Option ℕ := (find c text.reverse).map (text.length - 1 - ·)

theorem find_eq_none_iff : find c text = none ↔ c ∉ text := List.idxOf?_eq_none_iff

/-- The first occurrence cuts the text where the character does not occur before. -/
theorem find_eq_some_iff : find c text = some position ↔
    ∃ before after, text = before ++ c :: after ∧ before.length = position ∧ c ∉ before := by
  rw [find, List.idxOf?_eq_some_iff]
  constructor
  · rintro ⟨bound, here, earlier⟩
    refine ⟨text.take position, text.drop (position + 1), ?_, List.length_take_of_le (Nat.le_of_lt bound), ?_⟩
    · rw [← here, ← List.drop_eq_getElem_cons bound, List.take_append_drop]
    · intro member
      obtain ⟨j, inside, same⟩ := List.mem_take_iff_getElem.mp member
      exact earlier j (by omega) same
  · rintro ⟨before, after, rfl, rfl, absent⟩
    refine ⟨by simp, by simp, fun j inside same => absent ?_⟩
    rw [List.getElem_append_left inside] at same
    exact same ▸ List.getElem_mem inside

theorem find_append (absent : c ∉ before) : find c (before ++ c :: after) = some before.length :=
  find_eq_some_iff.mpr ⟨before, after, rfl, rfl, absent⟩

/-- The last occurrence cuts the text where the character does not occur behind. -/
theorem rfind_eq_some_iff : rfind c text = some position ↔
    ∃ before after, text = before ++ c :: after ∧ before.length = position ∧ c ∉ after := by
  rw [rfind, Option.map_eq_some_iff]
  constructor
  · rintro ⟨back, found, rfl⟩
    obtain ⟨after, before, same, rfl, absent⟩ := find_eq_some_iff.mp found
    refine ⟨before.reverse, after.reverse, ?_, ?_, fun member => absent (List.mem_reverse.mp member)⟩
    · rw [← List.reverse_reverse text, same]
      simp
    · have length := congrArg List.length same
      simp only [List.length_reverse, List.length_append, List.length_cons] at length ⊢
      omega
  · rintro ⟨before, after, rfl, rfl, absent⟩
    refine ⟨after.length, ?_, ?_⟩
    · have reversed : (before ++ c :: after).reverse = after.reverse ++ c :: before.reverse := by simp
      rw [reversed, find_append fun member => absent (List.mem_reverse.mp member), List.length_reverse]
    · rw [List.length_append, List.length_cons]
      omega

theorem rfind_append (absent : c ∉ after) : rfind c (before ++ c :: after) = some before.length :=
  rfind_eq_some_iff.mpr ⟨before, after, rfl, rfl, absent⟩

/-- Two different occurrences, the first and the last one, cut the text in three. -/
theorem find_rfind_iff {first last : ℕ} :
    find c text = some first ∧ rfind c text = some last ∧ first ≠ last ↔
      ∃ before between after, text = before ++ c :: (between ++ c :: after) ∧ c ∉ before ∧ c ∉ after ∧
        first = before.length ∧ last = before.length + 1 + between.length := by
  constructor
  · rintro ⟨found, foundLast, different⟩
    obtain ⟨before, rest, rfl, rfl, absent⟩ := find_eq_some_iff.mp found
    obtain ⟨front, after, same, rfl, absentAfter⟩ := rfind_eq_some_iff.mp foundLast
    rcases List.append_eq_append_iff.mp same with ⟨piece, rfl, tail⟩ | ⟨piece, rfl, tail⟩
    · cases piece with
      | nil => exact absurd (by rw [List.append_nil]) different
      | cons head between =>
        obtain ⟨rfl, rfl⟩ := List.cons.inj tail
        refine ⟨before, between, after, rfl, absent, absentAfter, rfl, ?_⟩
        rw [List.length_append, List.length_cons]
        omega
    · cases piece with
      | nil => exact absurd (by rw [List.append_nil]) different
      | cons head between =>
        obtain ⟨rfl, -⟩ := List.cons.inj tail
        exact absurd (List.mem_append_right front List.mem_cons_self) absent
  · rintro ⟨before, between, after, rfl, absent, absentAfter, rfl, rfl⟩
    refine ⟨find_append absent, ?_, by omega⟩
    have last : rfind c ((before ++ c :: between) ++ c :: after) = some (before ++ c :: between).length :=
      rfind_append absentAfter
    rw [List.append_assoc, List.cons_append] at last
    rw [last, List.length_append, List.length_cons]
    exact congrArg some (by omega)

end Search

section Decimal

/-- Digits without a zero in front of others. -/
structure IsNumeral (text : List Char) : Prop where
  nonempty : text ≠ []
  digits : ∀ c ∈ text, c.isDigit = true
  leading : text.head? = some '0' → text = ['0']

theorem exists_digitChar {c : Char} (isDigit : c.isDigit = true) : ∃ digit < 10, c = Nat.digitChar digit := by
  obtain ⟨low, high⟩ := Char.isDigit_iff_toNat.mp isDigit
  change 48 ≤ c.toNat at low
  change c.toNat ≤ 57 at high
  refine ⟨c.toNat - 48, by omega, Char.toNat_inj.mp ?_⟩
  rw [Nat.toNat_digitChar_of_lt_ten (by omega)]
  omega

/-- The printed number is a numeral. -/
theorem isNumeral_toDigits (n : ℕ) : IsNumeral (Nat.toDigits 10 n) where
  nonempty := Nat.toDigits_ne_nil
  digits _ member := Nat.isDigit_of_mem_toDigits (by decide) (by decide) member
  leading := by
    induction n using Nat.strongRecOn with
    | ind n ih =>
      rcases Nat.lt_or_ge n 10 with small | large
      · rw [Nat.toDigits_of_lt_base small]
        intro zero
        rw [Option.some.inj zero]
      · rw [Nat.toDigits_of_base_le (by decide) large, List.head?_append,
          List.head?_eq_some_head Nat.toDigits_ne_nil, Option.some_or, ← List.head?_eq_some_head]
        intro zero
        have only := ih (n / 10) (by omega) zero
        have none : n / 10 = 0 := by rw [← Nat.ofDigitChars_ten_toDigits (n := n / 10), only]; rfl
        omega

/-- A numeral is what its value is printed as. -/
theorem toDigits_ofDigitChars {text : List Char} (numeral : IsNumeral text) :
    Nat.toDigits 10 (Nat.ofDigitChars 10 text 0) = text := by
  induction text using List.reverseRecOn with
  | nil => exact absurd rfl numeral.nonempty
  | append_singleton front c ih =>
    obtain ⟨digit, small, rfl⟩ := exists_digitChar (numeral.digits c (by simp))
    rw [Nat.ofDigitChars_append, Nat.ofDigitChars_cons_digitChar_of_lt_ten small, Nat.ofDigitChars_nil]
    cases front with
    | nil => rw [Nat.ofDigitChars_nil, Nat.mul_zero, Nat.zero_add, Nat.toDigits_of_lt_base small, List.nil_append]
    | cons first rest =>
      have inner : IsNumeral (first :: rest) := by
        refine ⟨List.cons_ne_nil _ _, fun c member => numeral.digits c (List.mem_append_left _ member), fun zero => ?_⟩
        have alone := numeral.leading zero
        simp at alone
      have positive : 0 < Nat.ofDigitChars 10 (first :: rest) 0 := by
        rw [Nat.pos_iff_ne_zero]
        intro none
        have printed := ih inner
        rw [none] at printed
        have alone := numeral.leading (by rw [← printed]; rfl)
        simp at alone
      rw [← Nat.toDigits_append_toDigits (by decide) positive small, ih inner, Nat.toDigits_of_lt_base small]

end Decimal

section Markers

/-- The number that the text begins with, of two digits at most, and its length. -/
def markerNumber : List Char → Option (ℕ × ℕ)
  | [] => none
  | [c] => if c.isDigit then some (c.toNat - '0'.toNat, 1) else none
  | c :: d :: _ =>
      if !c.isDigit then none
      else if d.isDigit then some (10 * (c.toNat - '0'.toNat) + (d.toNat - '0'.toNat), 2)
      else some (c.toNat - '0'.toNat, 1)

/-- The number of the marker that the text begins with, and the length of the marker. An `L` asks for the numerals of
the locale, which are taken to be the digits. -/
def marker? : List Char → Option (ℕ × ℕ)
  | '%' :: 'L' :: rest => (markerNumber rest).map fun (number, length) => (number, length + 2)
  | '%' :: rest => (markerNumber rest).map fun (number, length) => (number, length + 1)
  | _ => none

/-- The numbers of the markers. A marker has one percent sign, at its beginning. -/
def markers : List Char → List ℕ
  | [] => []
  | c :: rest => ((marker? (c :: rest)).map Prod.fst).toList ++ markers rest

/-- The text with the value in the place of each marker of the given number, behind the characters to be skipped. -/
def replaceMarkers (number : ℕ) (value : List Char) : ℕ → List Char → List Char
  | _, [] => []
  | skipped + 1, _ :: rest => replaceMarkers number value skipped rest
  | 0, c :: rest =>
      match marker? (c :: rest) with
      | some (found, length) =>
          if found = number then value ++ replaceMarkers number value (length - 1) rest
          else c :: replaceMarkers number value 0 rest
      | none => c :: replaceMarkers number value 0 rest

/-- The text with the value in the place of the markers with the lowest number. -/
def arg (text value : List Char) : List Char :=
  match (markers text).min? with
  | some number => replaceMarkers number value 0 text
  | none => text

variable {before marker after value : List Char} {number : ℕ}

theorem marker?_eq_none {c : Char} (other : c ≠ '%') (rest : List Char) : marker? (c :: rest) = none := by
  unfold marker?
  split <;> simp_all

theorem markers_append (absent : '%' ∉ before) : markers (before ++ after) = markers after := by
  induction before with
  | nil => rfl
  | cons c rest ih =>
    obtain ⟨other, absent⟩ := not_or.mp (mt List.mem_cons.mpr absent)
    rw [List.cons_append, markers, marker?_eq_none (Ne.symm other), ih absent]
    rfl

theorem replaceMarkers_append (absent : '%' ∉ before) :
    replaceMarkers number value 0 (before ++ after) = before ++ replaceMarkers number value 0 after := by
  induction before with
  | nil => rfl
  | cons c rest ih =>
    obtain ⟨other, absent⟩ := not_or.mp (mt List.mem_cons.mpr absent)
    simp only [List.cons_append, replaceMarkers, marker?_eq_none (Ne.symm other), ih absent]

/-- A text without such a marker stays. -/
theorem replaceMarkers_eq_self (absent : number ∉ markers after) : replaceMarkers number value 0 after = after := by
  induction after with
  | nil => rfl
  | cons c rest ih =>
    rw [markers, List.mem_append, not_or] at absent
    have tail := ih absent.2
    rw [replaceMarkers]
    split
    next found length here =>
      have other : found ≠ number := by
        rintro rfl
        simp [here] at absent
      rw [if_neg other, tail]
    next => rw [tail]

theorem replaceMarkers_skip (text : List Char) (skipped : ℕ) :
    replaceMarkers number value skipped text = replaceMarkers number value 0 (text.drop skipped) := by
  induction skipped generalizing text with
  | zero => rfl
  | succ skipped ih =>
    cases text with
    | nil => rfl
    | cons c rest => exact ih rest

/-- The value takes the place of the first marker when all others have higher numbers. -/
theorem arg_marker (absent : '%' ∉ before)
    (here : marker? ('%' :: (marker ++ after)) = some (number, marker.length + 1))
    (plain : '%' ∉ marker) (higher : ∀ other ∈ markers after, number < other) :
    arg (before ++ '%' :: (marker ++ after)) value = before ++ (value ++ after) := by
  have lowest : (markers (before ++ '%' :: (marker ++ after))).min? = some number := by
    rw [markers_append absent, markers, here, markers_append plain]
    refine List.min?_eq_some_iff.mpr ⟨List.mem_cons_self, fun other member => ?_⟩
    rcases List.mem_cons.mp member with rfl | later
    · exact Nat.le_refl _
    · exact Nat.le_of_lt (higher other later)
  rw [arg, lowest]
  change replaceMarkers number value 0 (before ++ '%' :: (marker ++ after)) = _
  rw [replaceMarkers_append absent]
  simp only [replaceMarkers, here, if_true, Nat.add_sub_cancel]
  rw [replaceMarkers_skip, List.drop_left, replaceMarkers_eq_self fun member => Nat.lt_irrefl _ (higher _ member)]

end Markers

end Text
