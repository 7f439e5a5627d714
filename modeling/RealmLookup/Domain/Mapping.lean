import RealmLookup.Domain.MappingTable
import RealmLookup.Json.Token

/-!
# The mapping of domain characters

## Main definitions

* `Domain.mapChar?` : what a character is replaced by in a domain.
* `Domain.isValid` : the characters that stay as they are.
-/

namespace RealmLookup.Domain

/-- One more hexadecimal digit at the end of the last code point of the last replacement. -/
def pushDigit (digit : Nat) : List (List Nat) → List (List Nat)
  | (code :: codes) :: rest => ((code * 16 + digit) :: codes) :: rest
  | codes => codes

/-- One more character of the text of replacements, which are kept latest first. -/
def readReplacement (found : List (List Nat)) (c : Char) : List (List Nat) :=
  if c = ',' then [0] :: found
  else if c = ' ' then
    match found with
    | codes :: rest => (0 :: codes) :: rest
    | [] => []
  else pushDigit ((Json.hexDigit? c).getD 0) found

/-- The replacements that a text lists. -/
def replacementsOf (text : String) : List (List Char) :=
  ((text.toList.foldl readReplacement [[0]]).map fun codes =>
    (codes.map Char.ofNat).reverse).reverse

/-- What a rule makes of the character at an offset in its run. -/
def Rule.apply? (rule : Rule) (offset : Nat) (c : Char) : Option (List Char) :=
  match rule with
  | .valid => some [c]
  | .ignored => some []
  | .shift distance => some [Char.ofNat (c.toNat + distance).toNat]
  | .alternate => some [if offset % 2 = 0 then Char.ofNat (c.toNat + 1) else c]
  | .each replacements => (replacementsOf replacements)[offset]?

/-- What a character is replaced by; none if domains may not hold it. -/
def mapChar? (c : Char) : Option (List Char) :=
  (mappings.find? fun (first, last, _) => first ≤ c.toNat && c.toNat ≤ last).bind
    fun (first, _, rule) => rule.apply? (c.toNat - first) c

/-- A text with all characters replaced. -/
def mapText? (text : List Char) : Option (List Char) :=
  (text.mapM mapChar?).map List.flatten

/-- Whether a character stays as it is. -/
def isValid (c : Char) : Bool := mapChar? c == some [c]

end RealmLookup.Domain
