/-!
# Powers of two and of ten

## Main definitions

* `twoTo`, `tenTo` : the powers of two, which bound the integers of a given width, and the
  powers of ten.
-/

namespace RealmLookup

/-- The power of two with a given exponent. -/
def twoTo (exponent : Nat) : Nat := Nat.pow 2 exponent

/-- The power of ten with a given exponent. -/
def tenTo (exponent : Nat) : Nat := Nat.pow 10 exponent

end RealmLookup
