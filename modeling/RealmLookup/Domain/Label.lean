import RealmLookup.Domain.Classes

/-!
# Valid labels

The conditions that the labels of a domain fulfil beyond their single characters: they do not
start with a mark, invisible joiners occur only where they have an effect, and in a domain with
characters that are written from right to left no label mixes the directions.

## Main definitions

* `Domain.startsWithMark`, `Domain.joinersFit` : the first two conditions.
* `Domain.hasRightToLeft`, `Domain.directionsFit` : the third one.
-/

namespace RealmLookup.Domain

/-- The value of the run that a character is in. -/
def runOf {α : Type} (runs : List (Nat × Nat × α)) (outside : α) (c : Char) : α :=
  match runs.find? (fun (first, last, _) => first ≤ c.toNat && c.toNat ≤ last) with
  | some (_, _, value) => value
  | none => outside

/-! ### Marks -/

/-- Whether a label starts with a combining mark. -/
def startsWithMark (label : List Char) : Bool :=
  label.head?.any fun c => marks.any fun (first, last) => first ≤ c.toNat && c.toNat ≤ last

/-! ### Joiners -/

/-- How a character joins its neighbours. -/
def joiningOf (c : Char) : Joining := runOf joinings .none c

/-- The sign that keeps letters apart. -/
def nonJoiner : Char := Char.ofNat 0x200C

/-- The sign that joins letters. -/
def joiner : Char := Char.ofNat 0x200D

/-- The class of the signs that take the vowel from a consonant. -/
def viramaClass : Nat := 9

/-- Whether the nearest character that is not transparent joins in one of some ways. -/
def joinsBy (ways : List Joining) (text : List Char) : Bool :=
  match text.dropWhile (joiningOf · = .transparent) with
  | [] => false
  | c :: _ => ways.contains (joiningOf c)

/-- Whether a joiner has an effect between two parts of a label, the first one latest first:
behind a virama, or, if it keeps letters apart, between letters that would join. -/
def joinerFits (classOf : Char → Nat) (c : Char) (before after : List Char) : Bool :=
  if before.head?.any (classOf · = viramaClass) then true
  else c = nonJoiner && joinsBy [.left, .dual] before && joinsBy [.right, .dual] after

/-- Whether all joiners of the rest of a label have an effect; `before` is the part in front of
it, latest first. -/
def joinersFit (classOf : Char → Nat) (before : List Char) : List Char → Bool
  | [] => true
  | c :: after =>
      (if c = joiner || c = nonJoiner then joinerFits classOf c before after else true) &&
        joinersFit classOf (c :: before) after

/-! ### Directions -/

/-- The direction of a character. -/
def directionOf (c : Char) : Direction := runOf directions .left c

/-- The directions from right to left. -/
def rightToLeft : List Direction := [.right, .arabicLetter, .arabicNumber]

/-- Whether a text has characters that are written from right to left. -/
def hasRightToLeft (text : List Char) : Bool :=
  text.any fun c => rightToLeft.contains (directionOf c)

/-- The directions that any label may hold. -/
def sharedDirections : List Direction :=
  [.number, .separator, .terminator, .commonSeparator, .mark, .boundary, .neutral]

/-- Whether a label that is written from right to left does not mix directions. -/
def fitsRightToLeft (directions : List Direction) : Bool :=
  directions.all (rightToLeft ++ sharedDirections).contains &&
    (directions.reverse.dropWhile (· = .mark)).head?.any
      [.right, .arabicLetter, .number, .arabicNumber].contains &&
    !(directions.contains .number && directions.contains .arabicNumber)

/-- Whether a label that is written from left to right does not mix directions. -/
def fitsLeftToRight (directions : List Direction) : Bool :=
  directions.all (Direction.left :: sharedDirections).contains &&
    (directions.reverse.dropWhile (· = .mark)).head?.any [.left, .number].contains

/-- Whether a label does not mix directions; its first character tells which one it has. -/
def directionsFit (label : List Char) : Bool :=
  let directions := label.map directionOf
  match directions with
  | [] => true
  | .right :: _ => fitsRightToLeft directions
  | .arabicLetter :: _ => fitsRightToLeft directions
  | .left :: _ => fitsLeftToRight directions
  | _ => false

end RealmLookup.Domain
