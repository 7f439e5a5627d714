/-!
# Punycode

Labels with other characters than those of ASCII are written in ASCII: first come the ASCII
characters, then, behind a hyphen, digits that tell step by step where each other character is
inserted.  The steps are numbers of variable length in base 36, whose digits have thresholds
that adapt to the size of the earlier steps.

## Main definitions

* `Punycode.encode` : the ASCII form of a label.
* `Punycode.decode?` : the label of an ASCII form.
-/

namespace RealmLookup.Domain.Punycode

/-! ### Digits -/

/-- The base of the numbers. -/
def base : Nat := 36

/-- The character of a digit. -/
def digitChar (digit : Nat) : Char :=
  Char.ofNat (if digit < 26 then digit + 0x61 else digit - 26 + 0x30)

/-- The digit of a character. -/
def digitOf? (c : Char) : Option Nat :=
  if 'a' ≤ c ∧ c ≤ 'z' then some (c.toNat - 0x61)
  else if 'A' ≤ c ∧ c ≤ 'Z' then some (c.toNat - 0x41)
  else if '0' ≤ c ∧ c ≤ '9' then some (c.toNat - 0x30 + 26)
  else none

/-- The threshold of the digit at a position, which counts in steps of the base. -/
def threshold (position bias : Nat) : Nat :=
  if position ≤ bias then 1 else if bias + 26 ≤ position then 26 else position - bias

/-! ### Adaptation -/

/-- Divides a number until it is small; the result holds what counts for each division. -/
def damp (delta position : Nat) : Nat × Nat :=
  if 455 < delta then damp (delta / 35) (position + base) else (delta, position)
termination_by delta
decreasing_by exact Nat.div_lt_self (by omega) (by omega)

/-- The bias behind a step, after which there are `count` characters. -/
def adapt (delta count : Nat) (isFirst : Bool) : Nat :=
  let scaled := if isFirst then delta / 700 else delta / 2
  let (rest, position) := damp (scaled + scaled / count) 0
  position + base * rest / (rest + 38)

/-- The bias at the start. -/
def initialBias : Nat := 72

/-- The first code point outside of ASCII. -/
def initialCode : Nat := 0x80

/-! ### Encoding -/

/-- The digits of a number, from a position on. -/
def encodeNumber (bias position number : Nat) : List Char :=
  let t := threshold position bias
  if number < t then [digitChar number]
  else
    digitChar (t + (number - t) % (base - t)) ::
      encodeNumber bias (position + base) ((number - t) / (base - t))
termination_by number
decreasing_by
  have positive : 1 ≤ threshold position bias := by
    unfold threshold
    split
    · omega
    · split <;> omega
  exact Nat.lt_of_le_of_lt (Nat.div_le_self _ _) (by omega)

/-- The state of encoding: the digits so far, the step that is due, the bias, and the number of
characters that are done. -/
structure Encoder where
  digits : List Char
  delta : Nat
  bias : Nat
  done : Nat

/-- Goes past one character of the label while those of a code point are inserted. -/
def passChar (basic code : Nat) (state : Encoder) (c : Char) : Encoder :=
  if c.toNat < code then { state with delta := state.delta + 1 }
  else if c.toNat = code then
    { digits := state.digits ++ encodeNumber state.bias base state.delta
      delta := 0
      bias := adapt state.delta (state.done + 1) (state.done = basic)
      done := state.done + 1 }
  else state

/-- Inserts the characters of some code points, in ascending order; all below `next` are
done. -/
def insertCodes (label : List Char) (basic : Nat) : Nat → Encoder → List Nat → Encoder
  | _, state, [] => state
  | next, state, code :: rest =>
      let moved := { state with delta := state.delta + (code - next) * (state.done + 1) }
      let passed := label.foldl (passChar basic code) moved
      insertCodes label basic (code + 1) { passed with delta := passed.delta + 1 } rest

/-- Puts a number into an ascending list, unless it is there. -/
def insertNew (code : Nat) : List Nat → List Nat
  | [] => [code]
  | next :: rest =>
      if code < next then code :: next :: rest
      else if code = next then next :: rest
      else next :: insertNew code rest

/-- The ASCII form of a label. -/
def encode (label : List Char) : List Char :=
  let basic := label.filter fun c => c.toNat < initialCode
  let codes := (label.map Char.toNat).filter fun code => initialCode ≤ code
  let encoder := insertCodes label basic.length initialCode ⟨[], 0, initialBias, basic.length⟩
    (codes.foldr insertNew [])
  (if basic.isEmpty then [] else basic ++ ['-']) ++ encoder.digits

/-! ### Decoding -/

/-- The state of decoding: the characters so far, the last code point, the place behind the
last insertion, and the bias; of the number that is being read its value so far, the weight and
the position of the next digit. -/
structure Decoder where
  label : List Char
  code : Nat
  place : Nat
  bias : Nat
  number : Nat
  weight : Nat
  position : Nat

/-- The state before the digits behind some ASCII characters. -/
def Decoder.start (basic : List Char) : Decoder :=
  ⟨basic, initialCode, 0, initialBias, 0, 1, base⟩

/-- Inserts the character that a complete number tells. -/
def Decoder.insert? (state : Decoder) (number : Nat) : Option Decoder :=
  let count := state.label.length + 1
  let code := state.code + (state.place + number) / count
  let place := (state.place + number) % count
  if code.isValidChar then
    some {
      label := state.label.insertIdx place (Char.ofNat code)
      code
      place := place + 1
      bias := adapt number count (state.place = 0)
      number := 0
      weight := 1
      position := base }
  else none

/-- Reads digits; at the end no number may be incomplete. -/
def decodeFrom? (state : Decoder) : List Char → Option (List Char)
  | [] => if state.position = base then some state.label else none
  | c :: rest =>
      match digitOf? c with
      | none => none
      | some digit =>
          let number := state.number + digit * state.weight
          let t := threshold state.position state.bias
          if digit < t then
            match state.insert? number with
            | some state => decodeFrom? state rest
            | none => none
          else
            decodeFrom?
              { state with
                number
                weight := state.weight * (base - t)
                position := state.position + base } rest

/-- The label of an ASCII form. -/
def decode? (text : List Char) : Option (List Char) :=
  let digits := (text.reverse.takeWhile (· ≠ '-')).reverse
  let basic := text.take (text.length - digits.length - 1)
  if basic.isEmpty then decodeFrom? (.start []) text else decodeFrom? (.start basic) digits

end RealmLookup.Domain.Punycode
