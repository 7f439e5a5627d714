/-!
# Tokens of JSON text

JSON text is first cut into tokens.  A token keeps what was written, not yet what it means:
escaped code units are paired, malformed UTF-8 is refused, and the size of numbers is looked at,
only where a value is asked for, so that a value nobody asks for need only be well formed.

The text is scanned as it is decoded from bytes, with `none` for each malformed part, which may
stand in a string and nowhere else.

## Main definitions

* `Json.Piece` : a part of a string, a character, an escaped code unit or malformed UTF-8.
* `Json.Literal` : a number as written.
* `Json.Token`, `Json.lex` : the tokens, and the tokens of a text.
* `Json.text?` : the characters of a string, whose escaped surrogates must come in pairs and which
  must not be malformed.

## Main results

* `Json.length_scanToken` : a token leaves less text than it was scanned from, so scanning
  ends.
-/

namespace RealmLookup.Json

/-- A part of a string: a character, a code unit written as four hexadecimal digits, or malformed
UTF-8. -/
inductive Piece
  | scalar (c : Char)
  | unit (code : Nat)
  | malformed
deriving DecidableEq

/-- A number as written: sign, digits before and behind the point, and the exponent with its
sign (`true` for a minus).  An absent part is empty. -/
structure Literal where
  negative : Bool
  whole : List Char
  fraction : List Char
  exponent : Option (Bool × List Char)
deriving DecidableEq

/-- A token of JSON text. -/
inductive Token
  | openArray
  | closeArray
  | openObject
  | closeObject
  | colon
  | comma
  | null
  | bool (value : Bool)
  | number (literal : Literal)
  | string (text : List Piece)
deriving DecidableEq

/-! ### Strings -/

/-- The value of a hexadecimal digit. -/
def hexDigit? (c : Char) : Option Nat :=
  if '0' ≤ c ∧ c ≤ '9' then some (c.toNat - '0'.toNat)
  else if 'a' ≤ c ∧ c ≤ 'f' then some (c.toNat - 'a'.toNat + 10)
  else if 'A' ≤ c ∧ c ≤ 'F' then some (c.toNat - 'A'.toNat + 10)
  else none

/-- The value of four hexadecimal digits. -/
def hexUnit? (a b c d : Char) : Option Nat := do
  return (← hexDigit? a) * 4096 + (← hexDigit? b) * 256 + (← hexDigit? c) * 16 + (← hexDigit? d)

/-- The character that a backslash and this character stand for. -/
def escaped? (c : Char) : Option Char :=
  match c with
  | '"' => some '"'
  | '\\' => some '\\'
  | '/' => some '/'
  | 'b' => some (Char.ofNat 8)
  | 'f' => some (Char.ofNat 12)
  | 'n' => some '\n'
  | 'r' => some '\r'
  | 't' => some '\t'
  | _ => none

/-- The pieces of a string up to its closing quote, and the text behind it. -/
def scanString : List (Option Char) → Option (List Piece × List (Option Char))
  | [] => none
  | some '"' :: rest => some ([], rest)
  | some '\\' :: some 'u' :: some a :: some b :: some c :: some d :: rest =>
      match hexUnit? a b c d, scanString rest with
      | some code, some (pieces, after) => some (.unit code :: pieces, after)
      | _, _ => none
  | some '\\' :: some e :: rest =>
      match escaped? e, scanString rest with
      | some c, some (pieces, after) => some (.scalar c :: pieces, after)
      | _, _ => none
  | some c :: rest =>
      if c = '\\' ∨ c.toNat < 0x20 then none
      else
        match scanString rest with
        | some (pieces, after) => some (.scalar c :: pieces, after)
        | none => none
  | none :: rest =>
      match scanString rest with
      | some (pieces, after) => some (.malformed :: pieces, after)
      | none => none

/-- Whether a code unit is the first half of a surrogate pair. -/
def isHighSurrogate (code : Nat) : Bool := 0xD800 ≤ code && code ≤ 0xDBFF

/-- Whether a code unit is the second half of a surrogate pair. -/
def isLowSurrogate (code : Nat) : Bool := 0xDC00 ≤ code && code ≤ 0xDFFF

/-- The characters of a string; none if an escaped surrogate stands alone, or a part is
malformed. -/
def text? : List Piece → Option (List Char)
  | [] => some []
  | .malformed :: _ => none
  | .scalar c :: rest => (text? rest).map (c :: ·)
  | .unit high :: .unit low :: rest =>
      if isHighSurrogate high then
        if isLowSurrogate low then
          (text? rest).map
            (Char.ofNat (0x10000 + (high - 0xD800) * 0x400 + (low - 0xDC00)) :: ·)
        else none
      else if isLowSurrogate high then none
      else (text? (.unit low :: rest)).map (Char.ofNat high :: ·)
  | .unit code :: rest =>
      if isHighSurrogate code || isLowSurrogate code then none
      else (text? rest).map (Char.ofNat code :: ·)

/-! ### Numbers -/

/-- The leading digits of a text, and the text behind them. -/
def scanDigits : List (Option Char) → List Char × List (Option Char)
  | some c :: rest =>
      if c.isDigit then (c :: (scanDigits rest).1, (scanDigits rest).2)
      else ([], some c :: rest)
  | rest => ([], rest)

/-- The digits of a fraction, if the text starts with a point. -/
def scanFraction (text : List (Option Char)) : Option (List Char × List (Option Char)) :=
  match text with
  | some '.' :: rest =>
      match scanDigits rest with
      | ([], _) => none
      | digits => some digits
  | _ => some ([], text)

/-- An exponent, if the text starts with its mark. -/
def scanExponent (text : List (Option Char)) :
    Option (Option (Bool × List Char) × List (Option Char)) :=
  let signed (negative : Bool) (rest : List (Option Char)) :=
    match scanDigits rest with
    | ([], _) => none
    | (digits, after) => some (some (negative, digits), after)
  let marked (rest : List (Option Char)) :=
    match rest with
    | some '-' :: rest => signed true rest
    | some '+' :: rest => signed false rest
    | _ => signed false rest
  match text with
  | some 'e' :: rest => marked rest
  | some 'E' :: rest => marked rest
  | _ => some (none, text)

/-- The number behind its sign, and the text behind it; a number of several digits does not
start with a zero. -/
def scanUnsigned (negative : Bool) (text : List (Option Char)) :
    Option (Literal × List (Option Char)) :=
  match scanDigits text with
  | ([], _) => none
  | ('0' :: _ :: _, _) => none
  | (whole, rest) => do
      let (fraction, rest) ← scanFraction rest
      let (exponent, rest) ← scanExponent rest
      return (⟨negative, whole, fraction, exponent⟩, rest)

/-- The number at the start of a text, and the text behind it. -/
def scanNumber (text : List (Option Char)) : Option (Literal × List (Option Char)) :=
  match text with
  | some '-' :: rest => scanUnsigned true rest
  | _ => scanUnsigned false text

/-! ### Tokens -/

/-- White space between tokens. -/
def isSpace (c : Char) : Bool :=
  c == ' ' || c == '\t' || c == '\n' || c == '\r'

/-- The token at the start of a text, and the text behind it. -/
def scanToken (text : List (Option Char)) : Option (Token × List (Option Char)) :=
  match text with
  | some '[' :: rest => some (.openArray, rest)
  | some ']' :: rest => some (.closeArray, rest)
  | some '{' :: rest => some (.openObject, rest)
  | some '}' :: rest => some (.closeObject, rest)
  | some ':' :: rest => some (.colon, rest)
  | some ',' :: rest => some (.comma, rest)
  | some '"' :: rest => (scanString rest).map fun found => (.string found.1, found.2)
  | some 'n' :: some 'u' :: some 'l' :: some 'l' :: rest => some (.null, rest)
  | some 't' :: some 'r' :: some 'u' :: some 'e' :: rest => some (.bool true, rest)
  | some 'f' :: some 'a' :: some 'l' :: some 's' :: some 'e' :: rest => some (.bool false, rest)
  | _ => (scanNumber text).map fun found => (.number found.1, found.2)

variable {text rest : List (Option Char)}

theorem length_scanString {pieces : List Piece} (h : scanString text = some (pieces, rest)) :
    rest.length < text.length := by
  fun_induction scanString text generalizing pieces rest with
  | case1 | case4 | case6 | case7 | case9 | case11 => simp at h
  | case2 => simp_all
  | case3 | case5 | case8 | case10 =>
    rename_i ih
    have behind := ih ‹_›
    simp only [Option.some.injEq, Prod.mk.injEq] at h
    simp only [List.length_cons, ← h.2]
    omega

theorem length_scanDigits (text : List (Option Char)) :
    (scanDigits text).2.length + (scanDigits text).1.length = text.length := by
  fun_induction scanDigits text with
  | case1 c rest digit ih =>
    simp only [List.length_cons]
    omega
  | case2 | case3 => rfl

theorem length_scanFraction {digits : List Char} (h : scanFraction text = some (digits, rest)) :
    rest.length ≤ text.length := by
  have digits := length_scanDigits
  unfold scanFraction at h
  grind

theorem length_scanExponent {exponent : Option (Bool × List Char)}
    (h : scanExponent text = some (exponent, rest)) : rest.length ≤ text.length := by
  have digits := length_scanDigits
  unfold scanExponent at h
  grind

theorem length_scanUnsigned {negative : Bool} {literal : Literal}
    (h : scanUnsigned negative text = some (literal, rest)) : rest.length < text.length := by
  unfold scanUnsigned at h
  split at h
  · simp at h
  · simp at h
  · rename_i whole after hnil _ hscan
    cases whole with
    | nil => exact (hnil rfl).elim
    | cons c whole =>
      have hlt := length_scanDigits text
      simp only [hscan, List.length_cons] at hlt
      cases hf : scanFraction after with
      | none => simp [hf] at h
      | some found =>
        cases he : scanExponent found.2 with
        | none => simp [hf, he] at h
        | some marked =>
          have := length_scanFraction hf
          have := length_scanExponent he
          simp only [hf, he, Option.bind_eq_bind, Option.bind_some, Option.pure_def,
            Option.some.injEq, Prod.mk.injEq] at h
          rw [← h.2]
          omega

theorem length_scanNumber {literal : Literal} (h : scanNumber text = some (literal, rest)) :
    rest.length < text.length := by
  unfold scanNumber at h
  split at h
  · exact Nat.lt_succ_of_lt (length_scanUnsigned h)
  · exact length_scanUnsigned h

/-- A token leaves less text than it was scanned from. -/
theorem length_scanToken {token : Token} (h : scanToken text = some (token, rest)) :
    rest.length < text.length := by
  have strings : ∀ t, (scanString t).map (fun found => (Token.string found.1, found.2)) =
      some (token, rest) → rest.length < t.length := by
    intro t ht
    obtain ⟨found, hfound, hpair⟩ := Option.map_eq_some_iff.1 ht
    rw [← (Prod.mk.inj hpair).2]
    exact length_scanString hfound
  have numbers : ∀ t, (scanNumber t).map (fun found => (Token.number found.1, found.2)) =
      some (token, rest) → rest.length < t.length := by
    intro t ht
    obtain ⟨found, hfound, hpair⟩ := Option.map_eq_some_iff.1 ht
    rw [← (Prod.mk.inj hpair).2]
    exact length_scanNumber hfound
  unfold scanToken at h
  split at h
  case h_7 => exact Nat.lt_succ_of_lt (strings _ h)
  case h_11 => exact numbers _ h
  all_goals
    simp only [Option.some.injEq, Prod.mk.injEq] at h
    simp only [← h.2, List.length_cons]
    omega

/-- The tokens of a text. -/
def lex (text : List (Option Char)) : Option (List Token) :=
  match text with
  | [] => some []
  | c :: rest =>
      if c.any isSpace then lex rest
      else
        match _found : scanToken (c :: rest) with
        | none => none
        | some (token, after) =>
            (lex after).map (token :: ·)
termination_by text.length
decreasing_by
  · exact Nat.lt_succ_self rest.length
  · exact length_scanToken _found

end RealmLookup.Json
