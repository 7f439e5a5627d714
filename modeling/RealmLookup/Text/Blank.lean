/-!
# Blank characters

The characters with the Unicode property White_Space, and texts without such characters at
their ends.

## Main definitions

* `isBlank` : the characters that count as white space.
* `trimBlanks` : a text without leading and trailing white space.
* `trimStart`, `trimEnd` : dropping the characters of any class at one end.
-/

namespace RealmLookup.Text

/-- The code points with the property White_Space. -/
def isBlank (c : Char) : Bool :=
  let n := c.toNat
  (9 ≤ n && n ≤ 13) || n == 0x20 || n == 0x85 || n == 0xA0 || n == 0x1680 ||
  (0x2000 ≤ n && n ≤ 0x200A) || n == 0x2028 || n == 0x2029 || n == 0x202F || n == 0x205F ||
  n == 0x3000

/-- Drops the leading characters of a class. -/
def trimStart (drop : Char → Bool) (text : List Char) : List Char :=
  text.dropWhile drop

/-- Drops the trailing characters of a class. -/
def trimEnd (drop : Char → Bool) (text : List Char) : List Char :=
  (text.reverse.dropWhile drop).reverse

/-- Drops the characters of a class at both ends. -/
def trim (drop : Char → Bool) (text : List Char) : List Char :=
  trimEnd drop (trimStart drop text)

/-- The text without white space at its ends. -/
def trimBlanks (text : List Char) : List Char :=
  trim isBlank text

/-- Text of white space only. -/
def allBlank (text : List Char) : Bool :=
  text.all isBlank

end RealmLookup.Text
