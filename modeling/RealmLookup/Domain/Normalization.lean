import RealmLookup.Domain.NormalizationTable

/-!
# Composed characters

A text can spell a letter with its marks in several ways.  Its composed form is found by taking
all characters apart, ordering the marks, and composing what belongs together.  Syllables of
Hangul are composed by arithmetic.

Only characters that domains may hold are looked at.

## Main definitions

* `Domain.decompose` : the parts of a character.
* `Domain.sortMarks` : marks in the order of their classes.
* `Domain.composePair?`, `Domain.composeFrom` : composition.
* `Domain.composed` : the composed form of a text.
-/

namespace RealmLookup.Domain

/-! ### Hangul -/

/-- The first syllable. -/
def syllableBase : Nat := 0xAC00

/-- The first leading consonant. -/
def leadBase : Nat := 0x1100

/-- The first vowel. -/
def vowelBase : Nat := 0x1161

/-- The character in front of the first trailing consonant. -/
def trailBase : Nat := 0x11A7

/-- The number of leading consonants. -/
def leadCount : Nat := 19

/-- The number of vowels. -/
def vowelCount : Nat := 21

/-- The number of trailing consonants, with none as one of them. -/
def trailCount : Nat := 28

/-- The letters of a syllable. -/
def syllableParts? (code : Nat) : Option (List Nat) :=
  if syllableBase ≤ code ∧ code < syllableBase + leadCount * vowelCount * trailCount then
    let index := code - syllableBase
    let letters := [leadBase + index / (vowelCount * trailCount),
      vowelBase + index % (vowelCount * trailCount) / trailCount]
    some (if index % trailCount = 0 then letters else letters ++ [trailBase + index % trailCount])
  else none

/-- The syllable of two letters, or of a syllable and a trailing consonant. -/
def syllable? (first second : Nat) : Option Nat :=
  if leadBase ≤ first ∧ first < leadBase + leadCount ∧
      vowelBase ≤ second ∧ second < vowelBase + vowelCount then
    some (syllableBase +
      ((first - leadBase) * vowelCount + (second - vowelBase)) * trailCount)
  else if syllableBase ≤ first ∧ first < syllableBase + leadCount * vowelCount * trailCount ∧
      (first - syllableBase) % trailCount = 0 ∧
      trailBase < second ∧ second < trailBase + trailCount then
    some (first + (second - trailBase))
  else none

/-! ### Decomposition -/

/-- The number of steps in which characters are taken apart at most. -/
def maxParts : Nat := 4

/-- The parts of a character. -/
def decompose : Nat → Nat → List Nat
  | 0, code => [code]
  | steps + 1, code =>
      match syllableParts? code with
      | some parts => parts
      | none =>
          match compositions.find? (fun (_, _, whole) => whole = code) with
          | some (first, second, _) => decompose steps first ++ [second]
          | none => [code]

/-! ### Order -/

/-- The class of a mark; zero for all other characters. -/
def combiningClass (code : Nat) : Nat :=
  match combiningClasses.find? (fun (first, last, _) => first ≤ code && code ≤ last) with
  | some (_, _, found) => found
  | none => 0

/-- Puts a character in front of ordered ones, behind the marks of lower classes. -/
def insertMark (code : Nat) : List Nat → List Nat
  | [] => [code]
  | next :: rest =>
      if combiningClass next ≠ 0 ∧ combiningClass next < combiningClass code then
        next :: insertMark code rest
      else code :: next :: rest

/-- A text with each sequence of marks in the order of their classes. -/
def sortMarks (codes : List Nat) : List Nat :=
  codes.foldr insertMark []

/-! ### Composition -/

/-- The character that two characters compose. -/
def composePair? (first second : Nat) : Option Nat :=
  match syllable? first second with
  | some code => some code
  | none =>
      (compositions.find? fun (a, b, _) => a = first && b = second).map fun (_, _, whole) => whole

/-- Composes the rest of a text behind a character; `marks` are those that did not compose with
it, latest first.  A mark composes unless a mark of its class or a higher one is in between. -/
def composeFrom (starter : Nat) (marks : List Nat) : List Nat → List Nat
  | [] => starter :: marks.reverse
  | code :: rest =>
      let isNext := marks.head?.all fun last => combiningClass last < combiningClass code
      match if isNext then composePair? starter code else none with
      | some whole => composeFrom whole marks rest
      | none =>
          if combiningClass code = 0 then starter :: (marks.reverse ++ composeFrom code [] rest)
          else composeFrom starter (code :: marks) rest

/-- Composes a text; marks at its start stay as they are. -/
def composeAll : List Nat → List Nat
  | [] => []
  | code :: rest =>
      if combiningClass code = 0 then composeFrom code [] rest else code :: composeAll rest

/-- The composed form of a text. -/
def composed (text : List Char) : List Char :=
  (composeAll (sortMarks (text.flatMap fun c => decompose maxParts c.toNat))).map Char.ofNat

end RealmLookup.Domain
