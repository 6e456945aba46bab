import VoxMesh.Math.Text

/-! # Semantic versions

A version is printed as its three numbers and, after a dash, its prerelease, if there is one. Parsing cuts the text at
its first dash and what is before it at its first and last dot. A string is its list of characters, where a byte is
the character of its number.
-/

namespace VoxMesh.Core

open Text

/-- The number at the front of the text and what follows it, or none if there is no digit or the number does not
fit. -/
def fromChars (text : List Char) : Option (UInt32 × List Char) :=
  let digits := text.takeWhile Char.isDigit
  let value := Nat.ofDigitChars 10 digits 0
  if digits.isEmpty || UInt32.size ≤ value then none
  else some (UInt32.ofNat value, text.dropWhile Char.isDigit)

/-- One numeric component, without leading zeros. -/
def parseNumeric (text : List Char) : Option UInt32 := do
  if text.isEmpty || (1 < text.length && text.head? == some '0') then none
  else
    let parsed ← fromChars text
    if parsed.2.isEmpty then some parsed.1 else none

def isIdentifierChar (c : Char) : Bool :=
  ('0' ≤ c && c ≤ '9') || ('a' ≤ c && c ≤ 'z') || ('A' ≤ c && c ≤ 'Z') || c == '-'

/-- The loop of `isValidPrerelease` over what is left of the text. -/
def scanPrerelease (previousWasDot : Bool) : List Char → Bool
  | [] => true
  | c :: rest =>
      if c == '.' then
        if previousWasDot then false else scanPrerelease true rest
      else if isIdentifierChar c then scanPrerelease false rest
      else false

def isValidPrerelease (text : List Char) : Bool :=
  if text.isEmpty || text.head? == some '.' || text.getLast? == some '.' then false
  else scanPrerelease false text

structure SemanticVersion where
  major : UInt32 := 0
  minor : UInt32 := 0
  patch : UInt32 := 0
  prerelease : String := ""
deriving DecidableEq

namespace SemanticVersion

/-- What `parse` does once it has cut the text at its dash. -/
def parseParts (numericPart prereleasePart : List Char) : Option SemanticVersion := do
  let firstDot ← find '.' numericPart
  let lastDot ← rfind '.' numericPart
  if firstDot = lastDot then none
  else
    let major ← parseNumeric (substr numericPart 0 firstDot)
    let minor ← parseNumeric (substr numericPart (firstDot + 1) (lastDot - firstDot - 1))
    let patch ← parseNumeric (numericPart.drop (lastDot + 1))
    some { major, minor, patch, prerelease := String.ofList prereleasePart }

def parse (string : String) : Option SemanticVersion :=
  let text := string.toList
  match find '-' text with
  | none => parseParts text []
  | some dash =>
      let numericPart := substr text 0 dash
      let prereleasePart := text.drop (dash + 1)
      if isValidPrerelease prereleasePart then parseParts numericPart prereleasePart else none

def toString (version : SemanticVersion) : String :=
  let result := version.major.toNat.repr ++ "." ++ version.minor.toNat.repr ++ "." ++ version.patch.toNat.repr
  if version.prerelease.isEmpty then result else result ++ "-" ++ version.prerelease

end SemanticVersion

end VoxMesh.Core
