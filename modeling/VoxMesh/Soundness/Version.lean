import Mathlib.Data.List.TakeWhile
import Mathlib.Order.Basic
import VoxMesh.Model.Version

/-! # Parsing and printing a version

`IsVersion` is the grammar: three numbers between dots, and after a dash a prerelease of identifiers between dots. A
component is parsed exactly if it is what its number is printed as (`parseNumeric_eq_some_iff`), and the text is cut
where the grammar joins its parts, since neither a dot nor a dash is a digit. So a version is parsed from the one text
that it is printed as.
-/

namespace VoxMesh.Core

open Text

/-- A number of 32 bits in decimal. -/
def IsNumber (text : List Char) : Prop := IsNumeral text ∧ Nat.ofDigitChars 10 text 0 < UInt32.size

/-- One or more of `[0-9A-Za-z-]`. -/
def IsIdentifier (text : List Char) : Prop :=
  text ≠ [] ∧ ∀ c ∈ text, ('0' ≤ c ∧ c ≤ '9') ∨ ('A' ≤ c ∧ c ≤ 'Z') ∨ ('a' ≤ c ∧ c ≤ 'z') ∨ c = '-'

/-- One or more identifiers between dots. -/
def IsPrerelease (text : List Char) : Prop :=
  ∃ identifiers, identifiers ≠ [] ∧ (∀ identifier ∈ identifiers, IsIdentifier identifier) ∧
    text = ['.'].intercalate identifiers

/-- The grammar of a version. -/
inductive IsVersion : List Char → Prop where
  | release {major minor patch : List Char} : IsNumber major → IsNumber minor → IsNumber patch →
      IsVersion (major ++ '.' :: (minor ++ '.' :: patch))
  | prerelease {major minor patch identifiers : List Char} : IsNumber major → IsNumber minor → IsNumber patch →
      IsPrerelease identifiers → IsVersion (major ++ '.' :: (minor ++ '.' :: patch) ++ '-' :: identifiers)

section Numbers

theorem isNumber_iff {text : List Char} : IsNumber text ↔ ∃ value : UInt32, text = Nat.toDigits 10 value.toNat := by
  constructor
  · rintro ⟨numeral, bounded⟩
    refine ⟨UInt32.ofNat (Nat.ofDigitChars 10 text 0), ?_⟩
    rw [UInt32.toNat_ofNat_of_lt' bounded, toDigits_ofDigitChars numeral]
  · rintro ⟨value, rfl⟩
    refine ⟨isNumeral_toDigits _, ?_⟩
    rw [Nat.ofDigitChars_ten_toDigits]
    exact value.toNat_lt

theorem isNumber_toDigits (value : UInt32) : IsNumber (Nat.toDigits 10 value.toNat) := isNumber_iff.mpr ⟨value, rfl⟩

/-- `fromChars` reads the whole text exactly if it is a number of digits only that fits. -/
theorem fromChars_eq_some_nil_iff {text : List Char} {value : UInt32} :
    fromChars text = some (value, []) ↔
      text ≠ [] ∧ (∀ c ∈ text, c.isDigit = true) ∧ Nat.ofDigitChars 10 text 0 = value.toNat := by
  unfold fromChars
  constructor
  · intro read
    simp only at read
    split at read
    · cases read
    · rename_i guard
      obtain ⟨rfl, rest⟩ := Prod.mk.inj (Option.some.inj read)
      have digits : ∀ c ∈ text, c.isDigit = true := List.dropWhile_eq_nil_iff.mp rest
      have whole : text.takeWhile Char.isDigit = text := List.takeWhile_eq_self_iff.mpr digits
      simp only [whole, Bool.or_eq_true, List.isEmpty_iff, decide_eq_true_eq, not_or, not_le] at guard
      rw [whole, UInt32.toNat_ofNat_of_lt' guard.2]
      exact ⟨guard.1, digits, rfl⟩
  · rintro ⟨nonempty, digits, same⟩
    have whole : text.takeWhile Char.isDigit = text := List.takeWhile_eq_self_iff.mpr digits
    have bounded := value.toNat_lt
    simp only [whole, same, List.dropWhile_eq_nil_iff.mpr digits, UInt32.ofNat_toNat]
    rw [if_neg]
    simp only [Bool.or_eq_true, List.isEmpty_iff, decide_eq_true_eq, not_or, not_le]
    exact ⟨nonempty, bounded⟩

/-- A component is parsed from what it is printed as, and from nothing else. -/
theorem parseNumeric_eq_some_iff {text : List Char} {value : UInt32} :
    parseNumeric text = some value ↔ text = Nat.toDigits 10 value.toNat := by
  unfold parseNumeric
  constructor
  · intro parsed
    split at parsed
    · cases parsed
    · rename_i guard
      obtain ⟨result, read, whole⟩ := Option.bind_eq_some_iff.mp parsed
      split at whole
      · rename_i nothing
        cases whole
        rw [← Prod.eta result, List.isEmpty_iff.mp nothing] at read
        obtain ⟨nonempty, digits, same⟩ := fromChars_eq_some_nil_iff.mp read
        rw [← same, toDigits_ofDigitChars ⟨nonempty, digits, fun zero => ?_⟩]
        simp only [Bool.or_eq_true, Bool.and_eq_true, decide_eq_true_eq, beq_iff_eq, zero, and_true, not_or,
          not_lt] at guard
        obtain ⟨first, rfl⟩ := List.length_eq_one_iff.mp
          (Nat.le_antisymm guard.2 (List.length_pos_iff.mpr nonempty))
        rw [Option.some.inj zero]
      · cases whole
  · rintro rfl
    have numeral := isNumeral_toDigits value.toNat
    have read := fromChars_eq_some_nil_iff.mpr ⟨numeral.nonempty, numeral.digits, Nat.ofDigitChars_ten_toDigits⟩
    rw [if_neg, read]
    · rfl
    · simp only [Bool.or_eq_true, List.isEmpty_iff, Bool.and_eq_true, decide_eq_true_eq, beq_iff_eq, not_or, not_and]
      refine ⟨numeral.nonempty, fun long zero => ?_⟩
      rw [numeral.leading zero] at long
      simp at long

end Numbers

section Prerelease

theorem isIdentifierChar_iff {c : Char} : isIdentifierChar c = true ↔
    ('0' ≤ c ∧ c ≤ '9') ∨ ('A' ≤ c ∧ c ≤ 'Z') ∨ ('a' ≤ c ∧ c ≤ 'z') ∨ c = '-' := by
  simp only [isIdentifierChar, Bool.or_eq_true, Bool.and_eq_true, decide_eq_true_eq, beq_iff_eq]
  tauto

theorem not_isIdentifierChar_dot : ¬ isIdentifierChar '.' = true := by decide

theorem isIdentifier_iff {text : List Char} :
    IsIdentifier text ↔ text ≠ [] ∧ ∀ c ∈ text, isIdentifierChar c = true := by
  simp only [IsIdentifier, isIdentifierChar_iff]

/-- What the scanner asks of the parts between dots, where the first part has begun before the text unless a dot was
last. -/
private def Scanned (previousWasDot : Bool) : List (List Char) → Prop
  | [] => False
  | first :: rest =>
      (previousWasDot = true → first ≠ []) ∧ (∀ c ∈ first, isIdentifierChar c = true) ∧
        ∀ part ∈ rest, IsIdentifier part

private theorem scanned_dot {parts : List (List Char)} :
    Scanned true parts ↔ parts ≠ [] ∧ ∀ part ∈ parts, IsIdentifier part := by
  cases parts with
  | nil => simp [Scanned]
  | cons first rest => simp [Scanned, isIdentifier_iff, and_assoc]

private theorem scanned_cons {c : Char} {parts : List (List Char)} {previousWasDot : Bool} :
    Scanned previousWasDot (parts.modifyHead (List.cons c)) ↔ isIdentifierChar c = true ∧ Scanned false parts := by
  cases parts with
  | nil => simp [Scanned]
  | cons first rest => simp [Scanned, and_assoc]

private theorem getLast?_cons_dot {text : List Char} :
    ('.' :: text).getLast? ≠ some '.' ↔ text.getLast? ≠ some '.' ∧ text ≠ [] := by
  cases text with
  | nil => simp
  | cons c rest => simp

private theorem getLast?_cons_other {c : Char} {text : List Char} (other : c ≠ '.') :
    (c :: text).getLast? ≠ some '.' ↔ text.getLast? ≠ some '.' := by
  cases text with
  | nil => simpa using other
  | cons c rest => simp

/-- The scan of a text that does not end with a dot, character by character. -/
private theorem scanPrerelease_iff {text : List Char} {previousWasDot : Bool} :
    scanPrerelease previousWasDot text = true ∧ text.getLast? ≠ some '.' ∧ (previousWasDot = true → text ≠ []) ↔
      Scanned previousWasDot (text.splitOn '.') := by
  induction text generalizing previousWasDot with
  | nil => simp [scanPrerelease, Scanned]
  | cons c text ih =>
    rw [List.splitOn_cons_eq_if_modifyHead]
    by_cases dot : c = '.'
    · subst dot
      cases previousWasDot with
      | true => simp [scanPrerelease, Scanned]
      | false =>
        have later := @ih true
        rw [scanned_dot] at later
        simp only [scanPrerelease, beq_self_eq_true, if_true, getLast?_cons_dot]
        simpa [Scanned, List.splitOn_ne_nil] using later
    · rw [if_neg (by simpa using dot), scanned_cons, ← ih, getLast?_cons_other dot]
      simp only [scanPrerelease, beq_iff_eq, dot, if_false]
      cases isIdentifierChar c <;> simp

/-- The scanner accepts the prereleases of the grammar. -/
theorem isValidPrerelease_iff {text : List Char} : isValidPrerelease text = true ↔ IsPrerelease text := by
  have scanned : isValidPrerelease text = true ↔ Scanned true (text.splitOn '.') := by
    rw [← scanPrerelease_iff]
    cases text with
    | nil => simp [isValidPrerelease]
    | cons c rest =>
      by_cases dot : c = '.'
      · simp [isValidPrerelease, scanPrerelease, dot]
      · simp [isValidPrerelease, scanPrerelease, dot, and_comm]
  rw [scanned, scanned_dot]
  constructor
  · rintro ⟨nonempty, identifiers⟩
    exact ⟨_, nonempty, identifiers, (List.intercalate_splitOn '.').symm⟩
  · rintro ⟨identifiers, nonempty, each, rfl⟩
    have dotless : ∀ identifier ∈ identifiers, '.' ∉ identifier := by
      intro identifier member dot
      exact not_isIdentifierChar_dot ((isIdentifier_iff.mp (each identifier member)).2 '.' dot)
    rw [List.splitOn_intercalate '.' dotless nonempty]
    exact ⟨nonempty, each⟩

end Prerelease

namespace SemanticVersion

/-- The three numbers of a version as they are printed. -/
def numbers (version : SemanticVersion) : List Char :=
  Nat.toDigits 10 version.major.toNat ++ '.' ::
    (Nat.toDigits 10 version.minor.toNat ++ '.' :: Nat.toDigits 10 version.patch.toNat)

private theorem not_mem_toDigits {c : Char} (other : ¬ c.isDigit = true) (value : ℕ) : c ∉ Nat.toDigits 10 value :=
  fun member => other ((isNumeral_toDigits value).digits c member)

private theorem not_mem_numbers (version : SemanticVersion) : '-' ∉ version.numbers := by
  simp [numbers, not_mem_toDigits (c := '-') (by decide)]

private theorem ne_nil_of_isPrerelease {text : List Char} (valid : IsPrerelease text) : text ≠ [] := by
  rintro rfl
  have accepted := isValidPrerelease_iff.mpr valid
  simp [isValidPrerelease] at accepted

/-- What a version is printed as. -/
theorem toList_toString (version : SemanticVersion) : version.toString.toList =
    if version.prerelease = "" then version.numbers else version.numbers ++ '-' :: version.prerelease.toList := by
  unfold toString
  by_cases release : version.prerelease = ""
  · simp [release, numbers]
  · simp [release, numbers]

/-- The components are what the first and the last dot cut off. -/
private theorem parseParts_join {before between after prereleasePart : List Char} (absent : '.' ∉ before)
    (absentAfter : '.' ∉ after) :
    parseParts (before ++ '.' :: (between ++ '.' :: after)) prereleasePart = (do
      let major ← parseNumeric before
      let minor ← parseNumeric between
      let patch ← parseNumeric after
      some { major, minor, patch, prerelease := String.ofList prereleasePart }) := by
  obtain ⟨found, foundLast, different⟩ :=
    find_rfind_iff.mpr ⟨before, between, after, rfl, absent, absentAfter, rfl, rfl⟩
  have width : before.length + 1 + between.length - before.length - 1 = between.length := by omega
  unfold parseParts
  simp only [found, foundLast, Option.bind_eq_bind, Option.bind_some, if_neg different, width]
  rw [substr_before, substr_between, drop_between]

/-- The cut at the first and the last dot is the one between the numbers. -/
theorem parseParts_eq_some_iff {numericPart prereleasePart : List Char} {version : SemanticVersion} :
    parseParts numericPart prereleasePart = some version ↔
      numericPart = version.numbers ∧ version.prerelease = String.ofList prereleasePart := by
  constructor
  · intro parsed
    obtain ⟨firstDot, found, afterFirst⟩ := Option.bind_eq_some_iff.mp parsed
    obtain ⟨lastDot, foundLast, afterLast⟩ := Option.bind_eq_some_iff.mp afterFirst
    have different : firstDot ≠ lastDot := by
      rintro same
      rw [if_pos same] at afterLast
      cases afterLast
    obtain ⟨before, between, after, rfl, absent, absentAfter, -, -⟩ :=
      find_rfind_iff.mp ⟨found, foundLast, different⟩
    rw [parseParts_join absent absentAfter] at parsed
    obtain ⟨major, majorRead, parsed⟩ := Option.bind_eq_some_iff.mp parsed
    obtain ⟨minor, minorRead, parsed⟩ := Option.bind_eq_some_iff.mp parsed
    obtain ⟨patch, patchRead, parsed⟩ := Option.bind_eq_some_iff.mp parsed
    cases parsed
    rw [parseNumeric_eq_some_iff.mp majorRead, parseNumeric_eq_some_iff.mp minorRead,
      parseNumeric_eq_some_iff.mp patchRead]
    exact ⟨rfl, rfl⟩
  · rintro ⟨rfl, prerelease⟩
    have dotless : ∀ value : ℕ, '.' ∉ Nat.toDigits 10 value := not_mem_toDigits (by decide)
    rw [numbers, parseParts_join (dotless _) (dotless _), parseNumeric_eq_some_iff.mpr rfl,
      parseNumeric_eq_some_iff.mpr rfl, parseNumeric_eq_some_iff.mpr rfl, ← prerelease]
    rfl

/-- A version is parsed from what it is printed as, if its prerelease is one, and from nothing else. -/
theorem parse_eq_some_iff {string : String} {version : SemanticVersion} :
    parse string = some version ↔
      version.toString = string ∧ (version.prerelease = "" ∨ IsPrerelease version.prerelease.toList) := by
  unfold parse
  constructor
  · intro parsed
    cases dash : find '-' string.toList with
    | none =>
      simp only [dash] at parsed
      obtain ⟨numeric, release⟩ := parseParts_eq_some_iff.mp parsed
      refine ⟨String.toList_inj.mp ?_, Or.inl release⟩
      rw [toList_toString, if_pos release, numeric]
    | some position =>
      simp only [dash] at parsed
      split at parsed
      · rename_i valid
        obtain ⟨before, after, same, rfl, -⟩ := find_eq_some_iff.mp dash
        rw [same, substr_before, drop_after] at parsed
        rw [same, drop_after, isValidPrerelease_iff] at valid
        obtain ⟨rfl, prerelease⟩ := parseParts_eq_some_iff.mp parsed
        have written : version.prerelease.toList = after := by rw [prerelease, String.toList_ofList]
        have present : version.prerelease ≠ "" := by
          intro none
          rw [none] at written
          exact ne_nil_of_isPrerelease valid written.symm
        refine ⟨String.toList_inj.mp ?_, Or.inr (written ▸ valid)⟩
        rw [toList_toString, if_neg present, written, same]
      · cases parsed
  · rintro ⟨rfl, valid⟩
    rw [toList_toString]
    by_cases release : version.prerelease = ""
    · simp only [if_pos release, find_eq_none_iff.mpr (not_mem_numbers version)]
      exact parseParts_eq_some_iff.mpr ⟨rfl, release⟩
    · have identifiers := valid.resolve_left release
      simp only [if_neg release, find_append (not_mem_numbers version)]
      rw [drop_after, substr_before, if_pos (isValidPrerelease_iff.mpr identifiers)]
      exact parseParts_eq_some_iff.mpr ⟨rfl, String.ofList_toList.symm⟩

/-- The grammar has the texts of the versions that can be parsed. -/
private theorem isVersion_iff {string : String} : IsVersion string.toList ↔ ∃ version, parse string = some version := by
  simp only [parse_eq_some_iff]
  constructor
  · intro accepted
    generalize written : string.toList = text at accepted
    cases accepted with
    | release majorNumber minorNumber patchNumber =>
      obtain ⟨major, rfl⟩ := isNumber_iff.mp majorNumber
      obtain ⟨minor, rfl⟩ := isNumber_iff.mp minorNumber
      obtain ⟨patch, rfl⟩ := isNumber_iff.mp patchNumber
      refine ⟨{ major, minor, patch }, String.toList_inj.mp ?_, Or.inl rfl⟩
      rw [toList_toString, written, if_pos rfl]
      rfl
    | prerelease majorNumber minorNumber patchNumber valid =>
      rename_i identifiers
      obtain ⟨major, rfl⟩ := isNumber_iff.mp majorNumber
      obtain ⟨minor, rfl⟩ := isNumber_iff.mp minorNumber
      obtain ⟨patch, rfl⟩ := isNumber_iff.mp patchNumber
      refine ⟨{ major, minor, patch, prerelease := String.ofList identifiers }, String.toList_inj.mp ?_,
        Or.inr (by rwa [String.toList_ofList])⟩
      rw [toList_toString, written, if_neg (by simpa using ne_nil_of_isPrerelease valid), String.toList_ofList]
      rfl
  · rintro ⟨version, rfl, valid⟩
    rw [toList_toString]
    split
    · exact .release (isNumber_toDigits _) (isNumber_toDigits _) (isNumber_toDigits _)
    · rename_i prerelease
      exact .prerelease (isNumber_toDigits _) (isNumber_toDigits _) (isNumber_toDigits _)
        (valid.resolve_left prerelease)

/-- The parser accepts its grammar, and parsing and printing are inverse. -/
theorem parse_inverse_toString :
    (∀ string, (parse string).isSome = true ↔ IsVersion string.toList) ∧
      (∀ string version, parse string = some version → version.toString = string) ∧
      ∀ version, version.prerelease = "" ∨ IsPrerelease version.prerelease.toList →
        parse version.toString = some version := by
  refine ⟨fun string => ?_, fun string version parsed => ?_, fun version valid => ?_⟩
  · rw [isVersion_iff, Option.isSome_iff_exists]
  · exact (parse_eq_some_iff.mp parsed).1
  · exact parse_eq_some_iff.mpr ⟨rfl, valid⟩

/-- The version with a prerelease of two identifiers that the tests of the source print. -/
theorem parse_inverse_toString_prerelease :
    let version : SemanticVersion := { major := 10, minor := 20, patch := 30, prerelease := "alpha-2.beta" }
    IsVersion "10.20.30-alpha-2.beta".toList ∧ parse "10.20.30-alpha-2.beta" = some version ∧
      version.toString = "10.20.30-alpha-2.beta" := by
  intro version
  obtain ⟨accepts, prints, parses⟩ := parse_inverse_toString
  have parsed : parse "10.20.30-alpha-2.beta" = some version := by decide +kernel
  have printed : version.toString = "10.20.30-alpha-2.beta" := prints _ version parsed
  refine ⟨(accepts _).mp (by rw [parsed]; rfl), ?_, printed⟩
  rw [← printed]
  exact parses version (Or.inr (isValidPrerelease_iff.mp (by decide +kernel)))

end SemanticVersion

end VoxMesh.Core
