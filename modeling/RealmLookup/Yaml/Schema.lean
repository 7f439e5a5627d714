import RealmLookup.Json.Value
import RealmLookup.Text.Utf8
import RealmLookup.Yaml.Token

/-!
# Meaning of scalars

Plain scalars are null, booleans, integers and numbers if they look like it, by the core schema
with binary integers added, and texts otherwise.  Digits behind a leading zero are a text.

Integers have 64 bits.  An integer that needs more, but at most 128, is refused; a longer one in
decimal notation is read as a number in base two.

## Main definitions

* `Yaml.isNull`, `Yaml.bool?`, `Yaml.integer?`, `Yaml.real?` : the forms of plain scalars.
* `Yaml.plainValue?` : the value of a plain scalar.
* `Yaml.scalarValue?` : the value of a scalar with its tag.
-/

namespace RealmLookup.Yaml

open RealmLookup.Decimal RealmLookup.Text

/-! ### Words -/

/-- The words for null. -/
def isNull (text : List Char) : Bool :=
  ["null", "Null", "NULL", "~"].contains (String.ofList text)

/-- The boolean of a word. -/
def bool? (text : List Char) : Option Bool :=
  let word := String.ofList text
  if word = "true" || word = "True" || word = "TRUE" then some true
  else if word = "false" || word = "False" || word = "FALSE" then some false
  else none

/-! ### Integers -/

/-- The number that digits of a base spell. -/
def digits? (base : Nat) (text : List Char) : Option Nat :=
  match text.mapM Json.hexDigit? with
  | some (digit :: rest) =>
      if (digit :: rest).all (decide <| · < base) then
        some ((digit :: rest).foldl (fun found digit => found * base + digit) 0)
      else none
  | _ => none

/-- A scalar without its sign. -/
def withoutSign : List Char → List Char
  | '+' :: rest => rest
  | '-' :: rest => rest
  | text => text

/-- Whether a scalar consists of several digits of which the first one is zero. -/
def hasLeadingZero (text : List Char) : Bool :=
  match withoutSign text with
  | '0' :: next :: rest => (next :: rest).all Char.isDigit
  | _ => false

/-- The number that a text without sign spells, in one of four bases; in base ten, more than
the digits may not begin with a zero. -/
def magnitude? (text : List Char) : Option Nat :=
  match text with
  | '0' :: 'x' :: rest => digits? 16 rest
  | '0' :: 'o' :: rest => digits? 8 rest
  | '0' :: 'b' :: rest => digits? 2 rest
  | _ => if hasLeadingZero text then none else digits? 10 text

/-- What an integer is read as. -/
inductive Reading
  | integer (value : Int)
  /-- It needs more than 64 bits. -/
  | tooLarge
  /-- It is no integer, or one that needs more than 128 bits. -/
  | other
deriving DecidableEq

/-- The reading of an integer without a minus sign. -/
def readPositive (size : Nat) : Reading :=
  if size < twoTo 64 then .integer size else if size < twoTo 128 then .tooLarge else .other

/-- The reading of an integer with a minus sign. -/
def readNegative (size : Nat) : Reading :=
  if size ≤ twoTo 63 then .integer (-size) else if size ≤ twoTo 127 then .tooLarge else .other

/-- The reading of a scalar as an integer, with an optional sign. -/
def integer? (text : List Char) : Reading :=
  let read (found : Option Nat) (reading : Nat → Reading) : Reading :=
    match found with
    | some size => reading size
    | none => .other
  match text with
  | '+' :: rest => read (magnitude? rest) readPositive
  | '-' :: rest => read (magnitude? rest) readNegative
  | _ => read (magnitude? text) readPositive

/-! ### Numbers -/

/-- The exponent that a text spells: nothing, or its mark, an optional sign and digits. -/
def exponent? : List Char → Option Int
  | [] => some 0
  | mark :: rest =>
      if mark = 'e' ∨ mark = 'E' then
        match rest with
        | '-' :: digits => (digits? 10 digits).map fun size => -(size : Int)
        | '+' :: digits => (digits? 10 digits).map fun size => (size : Int)
        | digits => (digits? 10 digits).map fun size => (size : Int)
      else none

/-- The digits in front of the point, those behind it, and the rest of a number. -/
def splitDecimal (text : List Char) : List Char × List Char × List Char :=
  let whole := text.takeWhile Char.isDigit
  match text.dropWhile Char.isDigit with
  | '.' :: rest => (whole, rest.takeWhile Char.isDigit, rest.dropWhile Char.isDigit)
  | rest => (whole, [], rest)

/-- The number nearest to a decimal without sign; none above the greatest number. -/
def decimal? (text : List Char) : Option Magnitude := do
  let (whole, fraction, rest) := splitDecimal text
  if whole.isEmpty && fraction.isEmpty then none
  else
    let exponent ← exponent? rest
    Magnitude.ofDecimal? (Nat.ofDigitChars 10 (whole ++ fraction) 0)
      (exponent - fraction.length)

/-- The finite number of a decimal with an optional sign. -/
def finite? (text : List Char) : Option Binary64 :=
  match text with
  | '-' :: rest => (decimal? rest).map fun magnitude => ⟨true, magnitude⟩
  | '+' :: rest => (decimal? rest).map fun magnitude => ⟨false, magnitude⟩
  | _ => (decimal? text).map fun magnitude => ⟨false, magnitude⟩

/-- The words for numbers that are not finite. -/
def infinities : List String :=
  [".inf", ".Inf", ".INF", "+.inf", "+.Inf", "+.INF", "-.inf", "-.Inf", "-.INF", ".nan", ".NaN",
    ".NAN"]

/-- The value of a scalar that is a number; there is none for a number that is not finite. -/
def real? (text : List Char) : Option Json.Value :=
  if infinities.contains (String.ofList text) then some .null
  else (finite? text).map fun number => .number (.real number)

/-! ### Scalars -/

/-- The value of a text. -/
def textValue (text : List Char) : Json.Value := .string (String.ofList text)

/-- The value of a plain scalar; none for an integer that is too large. -/
def plainValue? (text : List Char) : Option Json.Value :=
  if text.isEmpty || isNull text then some .null
  else
    match bool? text with
    | some value => some (.bool value)
    | none =>
        match integer? text with
        | .integer value => some (.number (.integer value))
        | .tooLarge => none
        | .other =>
            if hasLeadingZero text then some (textValue text)
            else some ((real? text).getD (textValue text))

/-- The bytes of one of the common tags. -/
def commonTag (name : String) : Tag :=
  Utf8.encode ("tag:yaml.org,2002:" ++ name).toList

/-- Whether a tag starts with an exclamation mark. -/
def startsLocal (tag : Tag) : Bool := tag.head? == some 0x21

/-- Whether a tag names a type of its own, which no value has. -/
def isLocal (tag : Option Tag) : Bool :=
  tag.any fun tag => startsLocal tag && (Utf8.decodeStrict? tag).isSome

/-- The value of a scalar with its tag; none if it does not have the type of the tag. -/
def scalarValue? (tag : Option Tag) (style : Style) (text : List Char) : Option Json.Value :=
  if isLocal tag then none
  else
    match tag with
    | none => if style = .plain then plainValue? text else some (textValue text)
    | some tag =>
        if tag = commonTag "bool" then (bool? text).map .bool
        else if tag = commonTag "int" then
          match integer? text with
          | .integer value => some (.number (.integer value))
          | _ => none
        else if tag = commonTag "float" then real? text
        else if tag = commonTag "null" then if isNull text then some .null else none
        else if startsLocal tag && style = .plain then plainValue? text
        else some (textValue text)

end RealmLookup.Yaml
